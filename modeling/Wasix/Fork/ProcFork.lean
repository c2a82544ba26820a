import Wasix.Asyncify.Engine
/-!
# Wasix — `proc_fork`

The fork syscall: the environment is forked and the child recorded in the
parent's process, a zero is written through `pid_ptr` for the child to
find, and the thread unwinds. Its continuation either swaps the running
environment for the child's (the lazy, `vfork`-like mode) or, in copy
mode, hands the child a task with the captured stack, writes the child's
pid into the parent's copy of that stack (`placePid`) and rewinds the
parent with it.

`placePid_eq` is the arithmetic of the pid slot: on `u64`s, with no
overflow, underflow or slice out of bounds, the pid lands on the four
bytes of the captured stack that hold `pid_ptr`, or the continuation traps
when those bytes are not on the active stack. `procFork_copy_pid_slot` says
where a copy-mode fork leaves the parent and what it hands the child, for
every placement of the slot.
-/

namespace Wasix

namespace Fork

/-- The value a continuation hands back to the call loop (`OnCalledAction`). -/
inductive OnCalledAction
  | invokeAgain
  | finish
  | trap (err : WasiError)
  deriving DecidableEq, Repr

/-- The parent's environment, parked by a lazy fork until the child execs
(`WasiVFork`); a nested vfork is not modelled. -/
structure VFork where
  memoryStack : List UInt8
  rewindStack : List UInt8
  storeData : Snapshot
  parentPid : Nat
  parentChildren : List Nat
  pidOffset : Nat
  deriving DecidableEq, Repr

/-- The thread `proc_fork` runs on: its env, the process it belongs to (its pid
and the children it records), and its `vfork` slot. -/
structure ForkState where
  env : Env
  pid : Nat
  children : List Nat
  vfork : Option VFork

/-- The child task `proc_fork` hands to `task_wasm`: the child's pid, the
parent's memory to copy, and what the child rewinds to. -/
structure ChildTask where
  pid : Nat
  memory : Memory
  memoryStack : List UInt8
  rewindStack : List UInt8
  storeData : Snapshot

/-- What the modelled code does not decide: whether `WasiEnv::fork` succeeds
(and the child's pid), whether `task_wasm` takes the child task, and the
continuation the instrumentation records when the thread unwinds. -/
structure ForkWorld where
  fork : Option Nat
  taskWasm : Bool
  rewindStack : List UInt8

/-- Where `proc_fork` leaves the parent. -/
inductive ProcForkOutcome
  /-- The syscall returned to the guest. -/
  | returned (st : ForkState) (r : Except WasiError Errno)
  /-- Lazy mode: the thread unwound, took on the child's identity, and was rewound. -/
  | vforked (st : ForkState) (action : OnCalledAction)
  /-- Copy mode: the thread unwound; `child` was handed to `task_wasm`, which
  took it when `spawned`; the parent was rewound with `parentStack`, if it got
  that far; `action` is what the continuation returned, `none` for a panic. -/
  | copied (st : ForkState) (child : ChildTask) (spawned : Bool)
      (parentStack : Option (List UInt8)) (action : Option OnCalledAction)

/-! ## The pid slot -/

/-- A `u64` addition; `none` is the overflow, a panic. -/
def u64Add (a b : Nat) : Option Nat := if a + b < 2 ^ 64 then some (a + b) else none

/-- A `u64` subtraction; `none` is the underflow, a panic. -/
def u64Sub (a b : Nat) : Option Nat := if b ≤ a then some (a - b) else none

/-- `stack[pstart..pstart + bytes.len()].clone_from_slice(bytes)`. -/
def patchStack (stack : List UInt8) (pstart : Nat) (bytes : List UInt8) : List UInt8 :=
  stack.take pstart ++ bytes ++ stack.drop (pstart + bytes.length)

/-- What the pid placement comes to. -/
inductive Placement
  /-- The captured stack with the pid written into its slot. -/
  | patched (stack : List UInt8)
  /-- The slot is not on the active stack: the continuation traps with `Memviolation`. -/
  | outside
  /-- An overflow, an underflow or a slice out of bounds: a panic. -/
  | panic
  deriving DecidableEq, Repr

/-- The pid placement of the copy-mode continuation, on `u64`s (and `usize`s,
64-bit on the hosts the runtime runs on). -/
def placePid (layout : StackLayout) (pidOffset : Nat) (valBytes memoryStack : List UInt8) :
    Placement :=
  if layout.stackLower ≤ pidOffset then
    match u64Add pidOffset valBytes.length with
    | none => .panic
    | some pidEnd =>
      if pidEnd ≤ layout.stackUpper then
        match u64Sub layout.stackUpper pidOffset with
        | none => .panic
        | some offset =>
          if memoryStack.length < offset then .outside
          else
            let pstart := memoryStack.length - offset
            match u64Add pstart valBytes.length with
            | none => .panic
            | some pend =>
              if memoryStack.length < pend then .panic
              else .patched (patchStack memoryStack pstart valBytes)
      else .outside
  else .outside

/-- The four bytes of the pid slot are on the captured stack: at or above
`stack_lower`, at or above the stack's bottom `stack_upper - L`, and below
`stack_upper`. -/
def SlotOnStack (layout : StackLayout) (pidOffset L : Nat) : Prop :=
  max layout.stackLower (layout.stackUpper - L) ≤ pidOffset ∧ pidOffset + 4 ≤ layout.stackUpper

instance (layout : StackLayout) (pidOffset L : Nat) : Decidable (SlotOnStack layout pidOffset L) :=
  inferInstanceAs (Decidable (_ ∧ _))

/-- The index of the pid slot in a captured stack of length `L`. -/
def slotIndex (layout : StackLayout) (pidOffset L : Nat) : Nat := L - (layout.stackUpper - pidOffset)

/-- **The placement's arithmetic.** For a pid slot inside guest memory and a
captured stack (both below `2^64`), no step of the placement overflows,
underflows or slices out of bounds: the pid is written at `slotIndex` when
the slot is on the stack, and the placement traps otherwise. -/
theorem placePid_eq (layout : StackLayout) {pidOffset : Nat} {valBytes stack : List UInt8}
    (hb : valBytes.length = 4) (hpid : pidOffset + 4 < 2 ^ 64) (hL : stack.length < 2 ^ 64) :
    placePid layout pidOffset valBytes stack =
      if SlotOnStack layout pidOffset stack.length then
        .patched (patchStack stack (slotIndex layout pidOffset stack.length) valBytes)
      else .outside := by
  unfold placePid SlotOnStack slotIndex
  rw [hb]
  by_cases hlo : layout.stackLower ≤ pidOffset
  · simp only [if_pos hlo, u64Add, if_pos hpid]
    by_cases hup : pidOffset + 4 ≤ layout.stackUpper
    · simp only [if_pos hup, u64Sub, if_pos (by omega : pidOffset ≤ layout.stackUpper)]
      by_cases hout : stack.length < layout.stackUpper - pidOffset
      · rw [if_pos hout, if_neg (by omega)]
      · have hend : stack.length - (layout.stackUpper - pidOffset) + 4 < 2 ^ 64 := by omega
        simp only [if_neg hout, if_pos hend, if_pos (show max layout.stackLower
          (layout.stackUpper - stack.length) ≤ pidOffset ∧ pidOffset + 4 ≤ layout.stackUpper by omega),
          if_neg (show ¬stack.length < stack.length - (layout.stackUpper - pidOffset) + 4 by omega)]
    · rw [if_neg hup, if_neg (by omega)]
  · rw [if_neg hlo, if_neg (by omega)]

/-- A patch changes the bytes it covers and no other. -/
theorem getElem?_patchStack {stack bytes : List UInt8} {pstart : Nat}
    (hp : pstart + bytes.length ≤ stack.length) (i : Nat) :
    (patchStack stack pstart bytes)[i]? =
      if pstart ≤ i ∧ i < pstart + bytes.length then bytes[i - pstart]? else stack[i]? := by
  unfold patchStack
  have htake : (stack.take pstart).length = pstart := by simp; omega
  rw [List.append_assoc]
  by_cases h1 : i < pstart
  · rw [List.getElem?_append_left (by omega), List.getElem?_take_of_lt h1, if_neg (by omega)]
  · rw [List.getElem?_append_right (by omega), htake]
    by_cases h2 : i - pstart < bytes.length
    · rw [List.getElem?_append_left h2, if_pos (by omega)]
    · rw [List.getElem?_append_right (by omega), List.getElem?_drop, if_neg (by omega)]
      congr 1; omega

@[simp] theorem length_patchStack {stack bytes : List UInt8} {pstart : Nat}
    (hp : pstart + bytes.length ≤ stack.length) : (patchStack stack pstart bytes).length = stack.length := by
  simp [patchStack]; omega

/-- The patched bytes read back from where they were written. -/
theorem take_drop_patchStack {stack bytes : List UInt8} {pstart k : Nat} (hp : pstart ≤ stack.length)
    (hk : bytes.length = k) : ((patchStack stack pstart bytes).drop pstart).take k = bytes := by
  rw [patchStack, List.append_assoc, List.drop_left' (by simp; omega), List.take_left' hk]

/-- On a slot that is on a stack captured from `sp`, the slot's index holds
guest address `pidOffset`, and the slot's four bytes fit in the stack. -/
theorem slotIndex_spec {layout : StackLayout} {sp pidOffset : Nat}
    (hs : SlotOnStack layout pidOffset (layout.stackUpper - sp)) :
    sp + slotIndex layout pidOffset (layout.stackUpper - sp) = pidOffset ∧
      slotIndex layout pidOffset (layout.stackUpper - sp) + 4 ≤ layout.stackUpper - sp := by
  unfold SlotOnStack at hs
  unfold slotIndex
  omega

/-! ## `proc_fork` -/

/-- The lazy-mode continuation: the running env becomes the child's, the
parent is parked in `vfork`, and the thread is rewound. -/
def vforkUnwind (w : MemoryWidth) (st : ForkState) (childPid pidOffset : Nat)
    (rewindStack : List UInt8) : ProcForkOutcome :=
  let rs := st.env.unwind w rewindStack
  let child : ForkState :=
    { env := st.env, pid := childPid, children := [],
      vfork := some ⟨rs.memoryStack, rs.rewindStack, rs.storeData, st.pid, st.children, pidOffset⟩ }
  match child.env.rewind rs.memoryStack rs.rewindStack rs.storeData with
  | (.success, env') => .vforked { child with env := env' } .invokeAgain
  | (e, _) => .vforked child (.trap (.exit (.errno e)))

/-- The copy-mode continuation: the child task is handed to `task_wasm` (its
refusal is dropped), the child's pid is placed into the captured stack, and
the parent is rewound with it. -/
def copyUnwind (w : MemoryWidth) (st : ForkState) (childPid pidOffset : Nat) (world : ForkWorld) :
    ProcForkOutcome :=
  let rs := st.env.unwind w world.rewindStack
  let child : ChildTask := ⟨childPid, st.env.memory, rs.memoryStack, rs.rewindStack, rs.storeData⟩
  match placePid st.env.layout pidOffset (leBytes childPid 4) rs.memoryStack with
  | .outside => .copied st child world.taskWasm none (some (.trap (.exit (.errno .memviolation))))
  | .panic => .copied st child world.taskWasm none none
  | .patched stack =>
    match st.env.rewind stack rs.rewindStack rs.storeData with
    | (.success, env') => .copied { st with env := env' } child world.taskWasm (some stack) (some .invokeAgain)
    | (e, _) => .copied st child world.taskWasm (some stack) (some (.trap (.exit (.errno e))))

/-- `proc_fork`; signals are not modelled. The re-entry after a rewind returns
`Success` through `handle_rewind`. -/
def procFork (w : MemoryWidth) (st : ForkState) (copyMemory : Bool) (pidPtr : Nat)
    (world : ForkWorld) : ProcForkOutcome :=
  match st.env.handleRewind with
  | (true, env') => .returned { st with env := env' } (.ok .success)
  | (false, _) =>
    match world.fork with
    | none => .returned st (.ok .perm)
    | some childPid =>
      let st := { st with children := st.children ++ [childPid] }
      match st.env.memory.write pidPtr (leBytes 0 4) with
      | .error e => .returned st (.ok e)
      | .ok mem =>
        let st := { st with env := { st.env with memory := mem } }
        if copyMemory then copyUnwind w st childPid pidPtr world
        else vforkUnwind w st childPid pidPtr world.rewindStack

/-! ## What `proc_fork` does, path by path -/

section

variable {w : MemoryWidth} {st : ForkState} {copyMemory : Bool} {pidPtr c : Nat} {world : ForkWorld}

/-- The re-entry of `proc_fork` after a rewind returns `Success`, its stack
put back. -/
theorem procFork_of_rewinding {s : List UInt8} (h : st.env.rewinding = some s) :
    procFork w st copyMemory pidPtr world =
      .returned { st with env := { st.env with rewinding := none }.setMemoryStack s } (.ok .success) := by
  simp only [procFork, Env.handleRewind_of_some h]

theorem procFork_of_write_error {e : Errno} (hr : st.env.rewinding = none)
    (hf : world.fork = some c) (hw : st.env.memory.write pidPtr (leBytes 0 4) = .error e) :
    procFork w st copyMemory pidPtr world =
      .returned { st with children := st.children ++ [c] } (.ok e) := by
  simp only [procFork, Env.handleRewind_of_none hr, hf, hw]

theorem procFork_copy_of_write_ok (hr : st.env.rewinding = none) (hf : world.fork = some c)
    (hw : pidPtr + 4 ≤ st.env.memory.size) :
    procFork w st true pidPtr world =
      copyUnwind w
        { st with
          children := st.children ++ [c]
          env := { st.env with memory := st.env.memory.store pidPtr (leBytes 0 4) } } c pidPtr world := by
  have hw' : st.env.memory.write pidPtr (leBytes 0 4) = .ok (st.env.memory.store pidPtr (leBytes 0 4)) :=
    Memory.write_eq_ok.2 ⟨by simpa using hw, rfl⟩
  simp only [procFork, Env.handleRewind_of_none hr, hf, hw', if_true]

/-- **The copy path of `proc_fork`.** Once the fork succeeded and the zero is
written, the child is handed the stack as captured, and the parent is
rewound with the child's pid in its slot, or traps when the slot is off the
stack. -/
theorem procFork_copy_eq (hr : st.env.rewinding = none) (hf : world.fork = some c)
    (hw : pidPtr + 4 ≤ st.env.memory.size) :
    procFork w st true pidPtr world =
      let mem := st.env.memory.store pidPtr (leBytes 0 4)
      let st₁ : ForkState :=
        { st with children := st.children ++ [c], env := { st.env with memory := mem } }
      let L := mem.load st.env.stackPointer (st.env.layout.stackUpper - st.env.stackPointer)
      let child : ChildTask := ⟨c, mem, L, world.rewindStack, ⟨st.env.stackPointer⟩⟩
      if SlotOnStack st.env.layout pidPtr L.length then
        let s := patchStack L (slotIndex st.env.layout pidPtr L.length) (leBytes c 4)
        match st₁.env.rewind s world.rewindStack ⟨st.env.stackPointer⟩ with
        | (.success, env') =>
          .copied { st₁ with env := env' } child world.taskWasm (some s) (some .invokeAgain)
        | (e, _) => .copied st₁ child world.taskWasm (some s) (some (.trap (.exit (.errno e))))
      else .copied st₁ child world.taskWasm none (some (.trap (.exit (.errno .memviolation)))) := by
  have hup := st.env.layout.upper_lt
  have hsize := st.env.memory.size_lt
  rw [procFork_copy_of_write_ok hr hf hw]
  unfold copyUnwind
  simp only [Env.unwind, Env.getMemoryStack]
  rw [placePid_eq _ (length_leBytes _ _) (by omega) (by rw [Memory.length_load]; omega)]
  split_ifs <;> rfl

end

/-- **A fault on the pid write leaves the child behind.** When the fork
succeeds but `pid_ptr` cannot be written, `proc_fork` returns the memory
errno, with the child already pushed onto the parent's `children`. -/
theorem procFork_pid_fault_keeps_child (w : MemoryWidth) (st : ForkState) (copyMemory : Bool)
    (pidPtr c : Nat) (world : ForkWorld) (hr : st.env.rewinding = none) (hf : world.fork = some c)
    (hfault : st.env.memory.size < pidPtr + 4) :
    ∃ e, (e = .overflow ∨ e = .memviolation) ∧
      procFork w st copyMemory pidPtr world =
        .returned { st with children := st.children ++ [c] } (.ok e) := by
  obtain ⟨e, he⟩ : ∃ e, st.env.memory.write pidPtr (leBytes 0 4) = .error e :=
    Memory.write_eq_error (by simpa using hfault)
  exact ⟨e, Memory.write_eq_error_of he, procFork_of_write_error hr hf he⟩

/-- A 64 KiB memory and a pid pointer two bytes before its end: the call
returns `Memviolation`, and the parent records child 2 all the same. -/
theorem pid_fault_past_memory_end :
    ∃ e, (e = .overflow ∨ e = .memviolation) ∧
      procFork .memory32 ⟨⟨⟨65536, fun _ => 0, by decide⟩, ⟨32768, 65536, by decide, by decide⟩,
        65504, none, 0⟩, 1, [], none⟩ true 65534 ⟨some 2, true, []⟩ =
      .returned ⟨⟨⟨65536, fun _ => 0, by decide⟩, ⟨32768, 65536, by decide, by decide⟩, 65504, none, 0⟩,
        1, [2], none⟩ (.ok e) :=
  procFork_pid_fault_keeps_child _ _ _ _ _ _ rfl rfl (by decide)

/-- **The pid slot of a copy-mode fork.** Once the zero is written through
`pid_ptr`, the child is handed the memory and the stack as captured (guest
addresses `sp ..< stack_upper`), and the continuation never panics. When the
slot is not on the captured stack, it traps with `Memviolation`, the parent
left as the zero write left it. Otherwise the slot's index holds guest
address `pid_ptr`, the child's stack has the zero there, and the parent is
rewound with the captured stack changed at the slot's four bytes only, which
now hold the child's pid: the rewind succeeds, and the continuation asks to
be invoked again, exactly when the continuation fits above `stack_lower`;
otherwise it traps with `Overflow`. -/
theorem procFork_copy_pid_slot (w : MemoryWidth) (st : ForkState) (pidPtr c : Nat)
    (world : ForkWorld) (hr : st.env.rewinding = none) (hf : world.fork = some c)
    (hw : pidPtr + 4 ≤ st.env.memory.size) :
    let mem := st.env.memory.store pidPtr (leBytes 0 4)
    let st₁ : ForkState :=
      { st with children := st.children ++ [c], env := { st.env with memory := mem } }
    let L := mem.load st.env.stackPointer (st.env.layout.stackUpper - st.env.stackPointer)
    let child : ChildTask := ⟨c, mem, L, world.rewindStack, ⟨st.env.stackPointer⟩⟩
    let i₀ := slotIndex st.env.layout pidPtr L.length
    let s := patchStack L i₀ (leBytes c 4)
    (¬ SlotOnStack st.env.layout pidPtr L.length →
      procFork w st true pidPtr world =
        .copied st₁ child world.taskWasm none (some (.trap (.exit (.errno .memviolation))))) ∧
    (SlotOnStack st.env.layout pidPtr L.length →
      st.env.stackPointer + i₀ = pidPtr ∧ (∀ j < 4, L[i₀ + j]? = some 0) ∧
      (∀ i, s[i]? = if i₀ ≤ i ∧ i < i₀ + 4 then (leBytes c 4)[i - i₀]? else L[i]?) ∧
      procFork w st true pidPtr world =
        if st.env.layout.stackLower + world.rewindStack.length ≤ st.env.layout.stackUpper then
          .copied
            { st₁ with
              env := { st₁.env with
                memory := mem.store st.env.layout.stackLower world.rewindStack
                stackPointer := st.env.stackPointer
                rewinding := some s } }
            child world.taskWasm (some s) (some .invokeAgain)
        else .copied st₁ child world.taskWasm (some s) (some (.trap (.exit (.errno .overflow))))) := by
  intro mem st₁ L child i₀ s
  have hL : L.length = st.env.layout.stackUpper - st.env.stackPointer := Memory.length_load _ _
  rw [procFork_copy_eq hr hf hw]
  refine ⟨fun hs => by simp only [if_neg hs], fun hs => ?_⟩
  obtain ⟨hidx, hend⟩ := slotIndex_spec (hL ▸ hs)
  rw [← hL] at hidx hend
  have hzero : ∀ j < 4, L[i₀ + j]? = some 0 := fun j hj => by
    rw [Memory.getElem?_load (by omega), ← Nat.add_assoc, hidx,
      Memory.store_data_add (by simpa using hj)]
    simp only [leBytes_zero, List.getElem_replicate]
  have hpatch : ∀ i, s[i]? = if i₀ ≤ i ∧ i < i₀ + 4 then (leBytes c 4)[i - i₀]? else L[i]? := by
    simpa only [length_leBytes] using getElem?_patchStack (by simpa using hend)
  refine ⟨hidx, hzero, hpatch, ?_⟩
  simp only [if_pos hs, Env.rewind]
  split_ifs <;> first | rfl | omega

/-- A 64 KiB memory whose upper half is the stack, holding the low byte of each
address, the stack pointer 32 bytes below its top, `pid_ptr` 8 bytes below
it, and a continuation of two bytes: the slot is on the captured stack, and
the parent is rewound with child 2's pid in it. -/
theorem pid_slot_on_stack :
    let st : ForkState := ⟨⟨⟨65536, fun a => .ofNat a, by decide⟩,
      ⟨32768, 65536, by decide, by decide⟩, 65504, none, 0⟩, 1, [], none⟩
    let world : ForkWorld := ⟨some 2, true, [5, 6]⟩
    st.env.rewinding = none ∧ world.fork = some 2 ∧ 65528 + 4 ≤ st.env.memory.size ∧
    let mem := st.env.memory.store 65528 (leBytes 0 4)
    let st₁ : ForkState :=
      { st with children := st.children ++ [2], env := { st.env with memory := mem } }
    let L := mem.load st.env.stackPointer (st.env.layout.stackUpper - st.env.stackPointer)
    let child : ChildTask := ⟨2, mem, L, world.rewindStack, ⟨st.env.stackPointer⟩⟩
    let i₀ := slotIndex st.env.layout 65528 L.length
    let s := patchStack L i₀ (leBytes 2 4)
    (¬ SlotOnStack st.env.layout 65528 L.length →
      procFork .memory32 st true 65528 world =
        .copied st₁ child world.taskWasm none (some (.trap (.exit (.errno .memviolation))))) ∧
    (SlotOnStack st.env.layout 65528 L.length →
      st.env.stackPointer + i₀ = 65528 ∧ (∀ j < 4, L[i₀ + j]? = some 0) ∧
      (∀ i, s[i]? = if i₀ ≤ i ∧ i < i₀ + 4 then (leBytes 2 4)[i - i₀]? else L[i]?) ∧
      procFork .memory32 st true 65528 world =
        if st.env.layout.stackLower + world.rewindStack.length ≤ st.env.layout.stackUpper then
          .copied
            { st₁ with
              env := { st₁.env with
                memory := mem.store st.env.layout.stackLower world.rewindStack
                stackPointer := st.env.stackPointer
                rewinding := some s } }
            child world.taskWasm (some s) (some .invokeAgain)
        else .copied st₁ child world.taskWasm (some s) (some (.trap (.exit (.errno .overflow))))) :=
  ⟨rfl, rfl, by decide, procFork_copy_pid_slot _ _ _ _ _ rfl rfl (by decide)⟩

end Fork

end Wasix
