import Wasix.Common.Abi
/-!
# Wasix — the stack capture/rewind engine, and the deep sleep on top of it

Modelled from the spec: `unwind`, `rewind`, `handle_rewind` and
`__asyncify_with_deep_sleep_ext` live in `syscalls/mod.rs`, which the
sources here do not include; the syscalls that are included call them.

A suspension captures the live part of the shadow stack (`getMemoryStack`)
into a `RewindState`. Resuming is two steps: `rewind` restores the
snapshot and leaves the captured stack for `handle_rewind`, which the
re-entered syscall calls and which puts the stack back (`setMemoryStack`).
`handleRewind_rewind_restores` is the round trip: whatever happened to the
memory in between, the resumed guest finds its stack as it left it.
-/

namespace Wasix

/-- The host-side store state a snapshot carries; of the globals, the model
tracks the shadow stack pointer. -/
structure Snapshot where
  stackPointer : Nat
  deriving DecidableEq, Repr

/-- A suspended computation (`RewindState`). -/
structure RewindState where
  memoryStack : List UInt8
  rewindStack : List UInt8
  storeData : Snapshot
  is64bit : Bool
  deriving DecidableEq, Repr

/-- What ends a guest call other than a return (`WasiError`). -/
inductive WasiError
  | exit (code : ExitCode)
  | deepSleep (rewind : RewindState)
  | unknownWasiVersion
  deriving DecidableEq, Repr

/-- The parts of a thread's `WasiEnv` and store the modelled syscalls read
and write. `rewinding` is the stack a `rewind` left for `handle_rewind`
(the thread's `REWIND` cell). -/
structure Env where
  memory : Memory
  layout : StackLayout
  stackPointer : Nat
  rewinding : Option (List UInt8)
  pollSeed : Nat

namespace Env

variable (env : Env)

/-- Modelled from the spec: `get_memory_stack`, the shadow stack from the stack pointer up to
`stack_upper`. -/
def getMemoryStack : List UInt8 :=
  env.memory.load env.stackPointer (env.layout.stackUpper - env.stackPointer)

/-- Modelled from the spec: `set_memory_stack`, a stack written back just below `stack_upper`, with the
stack pointer at its bottom. -/
def setMemoryStack (stack : List UInt8) : Env :=
  { env with
    memory := env.memory.store (env.layout.stackUpper - stack.length) stack
    stackPointer := env.layout.stackUpper - stack.length }

/-- Modelled from the spec: `unwind` at width `w`, up to its continuation.
The stack is captured as it stands, with the continuation the
instrumentation recorded. The spec's failure of a capture that overflows
the asyncify area is left out: the capture always succeeds here. -/
def unwind (w : MemoryWidth) (rewindStack : List UInt8) : RewindState where
  memoryStack := env.getMemoryStack
  rewindStack := rewindStack
  storeData := ⟨env.stackPointer⟩
  is64bit := w.is64bit

/-- Modelled from the spec: `rewind`. The snapshot is restored, the continuation is written into the
asyncify area at the bottom of the stack, and the captured stack waits for
`handle_rewind`. A continuation that does not fit below `stack_upper` is
refused with `Overflow`. -/
def rewind (memoryStack rewindStack : List UInt8) (storeData : Snapshot) : Errno × Env :=
  if env.layout.stackUpper < env.layout.stackLower + rewindStack.length then (.overflow, env)
  else
    (.success,
      { env with
        memory := env.memory.store env.layout.stackLower rewindStack
        stackPointer := storeData.stackPointer
        rewinding := some memoryStack })

/-- Modelled from the spec: `handle_rewind`, `true`, with the stack put back, when a rewind is in
progress. -/
def handleRewind : Bool × Env :=
  match env.rewinding with
  | some stack => (true, { env with rewinding := none }.setMemoryStack stack)
  | none => (false, env)

/-- Advancing the poll seed (`poll_seed += 1` on a `u64`). -/
def bumpPollSeed : Env := { env with pollSeed := (env.pollSeed + 1) % 2 ^ 64 }

variable {env}

@[simp] theorem setMemoryStack_layout (s : List UInt8) :
    (env.setMemoryStack s).layout = env.layout := rfl

@[simp] theorem setMemoryStack_rewinding (s : List UInt8) :
    (env.setMemoryStack s).rewinding = env.rewinding := rfl

@[simp] theorem length_getMemoryStack :
    env.getMemoryStack.length = env.layout.stackUpper - env.stackPointer := by
  simp [getMemoryStack]

@[simp] theorem handleRewind_of_none (h : env.rewinding = none) : env.handleRewind = (false, env) := by
  simp [handleRewind, h]

theorem handleRewind_of_some {s : List UInt8} (h : env.rewinding = some s) :
    env.handleRewind = (true, { env with rewinding := none }.setMemoryStack s) := by
  simp [handleRewind, h]

theorem rewind_eq_success {ms rws : List UInt8} {snap : Snapshot} {env' : Env}
    (h : env.rewind ms rws snap = (.success, env')) :
    env' = { env with
      memory := env.memory.store env.layout.stackLower rws
      stackPointer := snap.stackPointer
      rewinding := some ms } := by
  unfold rewind at h
  split_ifs at h <;> simp_all

/-- A rewind whose continuation fits puts the captured stack in the
`REWIND` cell and the snapshot's stack pointer back. -/
theorem rewind_of_fits (env : Env) {ms rws : List UInt8} {snap : Snapshot}
    (h : env.layout.stackLower + rws.length ≤ env.layout.stackUpper) :
    env.rewind ms rws snap = (.success, { env with
      memory := env.memory.store env.layout.stackLower rws
      stackPointer := snap.stackPointer
      rewinding := some ms }) :=
  if_neg (by omega)

/-- **The round trip.** A stack captured by `unwind` and resumed through
`rewind` and `handle_rewind` is back in place, byte for byte, with the stack
pointer where it was — whatever was written to the memory in between. -/
theorem handleRewind_rewind_restores (w : MemoryWidth) (rws : List UInt8) {env₁ env₂ : Env}
    (hsp : env.stackPointer ≤ env.layout.stackUpper) (hlayout : env₁.layout = env.layout)
    (hrw : env₁.rewind (env.unwind w rws).memoryStack (env.unwind w rws).rewindStack
      (env.unwind w rws).storeData = (.success, env₂)) :
    env₂.handleRewind.1 = true ∧
      env₂.handleRewind.2.memory.load env.stackPointer (env.layout.stackUpper - env.stackPointer) =
        env.getMemoryStack ∧
      env₂.handleRewind.2.stackPointer = env.stackPointer := by
  rw [rewind_eq_success hrw, handleRewind_of_some rfl]
  have hlen : env.getMemoryStack.length = _ := length_getMemoryStack
  have hsp' : env.layout.stackUpper - (env.layout.stackUpper - env.stackPointer) =
    env.stackPointer := by omega
  simp only [setMemoryStack, unwind, hlayout, hlen, hsp', true_and, and_true]
  rw [← hlen, Memory.load_store_self]

end Env

/-- What `__asyncify_with_deep_sleep_ext` leaves a syscall with: the work
resolved at once and the completion callback already ran (or panicked), or
the thread unwound into a deep sleep and the callback waits for the work. -/
inductive Asyncify
  | finished (env : Env)
  | panicked
  | deepSleep (env : Env) (rewind : RewindState)

/-- `__asyncify_with_deep_sleep_ext`, modelled from the spec. A zero timeout
polls the work once and resumes at once with what that poll gave (`Again`
when it was still pending); any other timeout unwinds, and `after` runs only
when the work resolves, before the task resumes. `after` returns `none` when
it panics. -/
def asyncifyWithDeepSleepExt {α : Type} (env : Env) (w : MemoryWidth) (timeout : Option Nat)
    (pollOnce : Option (Except Errno α)) (after : Except Errno α → Memory → Option Memory)
    (rewindStack : List UInt8) : Asyncify :=
  if timeout = some 0 then
    match after (pollOnce.getD (.error .again)) env.memory with
    | some mem => .finished { env with memory := mem }
    | none => .panicked
  else .deepSleep env (env.unwind w rewindStack)

theorem asyncifyWithDeepSleepExt_eq_deepSleep {α : Type} {env env' : Env} {w : MemoryWidth}
    {timeout : Option Nat} {pollOnce : Option (Except Errno α)}
    {after : Except Errno α → Memory → Option Memory} {rws : List UInt8} {rs : RewindState}
    (h : asyncifyWithDeepSleepExt env w timeout pollOnce after rws = .deepSleep env' rs) :
    timeout ≠ some 0 ∧ env' = env ∧ rs = env.unwind w rws := by
  unfold asyncifyWithDeepSleepExt at h
  split_ifs at h with h0
  · split at h <;> cases h
  · cases h; exact ⟨h0, rfl, rfl⟩

end Wasix
