import Wasix.Fork.ProcFork
/-!
# Wasix — the entries of a guest task

A guest task is entered once by its launcher, and once more for every deep
sleep whose respawn the task manager took. The tasks of
`spawn_exec_module` are entered through `call_module` (`exec.rs`). The
child of a copy-mode `proc_fork` first rewinds to the stack its parent
captured and is then entered through `run::<M>` (`proc_fork.rs`).

An entry is modelled by what it does to its task, in order: the thread
status it sets, the rewinds and the widths they are instantiated at, the
call into the guest, and the cleanup of the task's `WasiEnv`; and by the
respawn it leaves registered. What the guest and the task manager do is
the `Segment` an entry meets. `rewinding_finish` is modelled from the spec.

Both entry functions resume through one prologue, `prologue`, which takes
the width as a parameter: `call_module` reads it off the recorded state,
`run::<M>` uses its own `M`. `resumeAt_of_width_ne` is what the
difference comes to.
-/

namespace Wasix

namespace Task

open Fork

/-- How the guest entry call (`_start`, or `thread_spawn` in a forked
thread) ended. -/
inductive CallOutcome
  /-- It returned. -/
  | returned
  /-- `WasiError::Exit`. -/
  | exit (code : ExitCode)
  /-- `WasiError::DeepSleep`: a syscall at width `w` unwound the thread,
  whose env stood as `env`. -/
  | deepSleep (w : MemoryWidth) (env : Env) (rewindStack : List UInt8)
  /-- `WasiError::UnknownWasiVersion`. -/
  | unknownWasiVersion
  /-- A runtime error that is not a `WasiError`: a trap. -/
  | trap

/-- A thread's status: running, finished with an exit code
(`set_status_finished(Ok(code))`), or finished with a runtime error. -/
inductive ThreadStatus
  | running
  | finished (code : ExitCode)
  | failed
  deriving DecidableEq, Repr

/-- What an entry does to its task, in order: the thread status it sets, the
rewinds it finishes and makes and the widths they are instantiated at, the
call into the guest, the cleanup of its `WasiEnv`, and a panic of the host
thread. -/
inductive Effect
  | setStatus (s : ThreadStatus)
  /-- `rewinding_finish::<w>` on `r`. -/
  | rewindingFinish (w : MemoryWidth) (r : RewindState)
  /-- `rewind::<w>` with the stacks of `r`. -/
  | rewind (w : MemoryWidth) (r : RewindState)
  /-- The guest's entry function is called. -/
  | callStart
  /-- `cleanup` or `blocking_cleanup` of the task's `WasiEnv`. -/
  | cleanup (code : ExitCode)
  /-- The host thread panics. -/
  | panic
  deriving DecidableEq, Repr

/-- A respawn registered with the task manager: the env saved with it and
the state it rewinds. -/
structure Respawn where
  env : Env
  rewind : RewindState

/-- What one entry meets that the modelled code does not decide. -/
structure Segment where
  /-- What finishing a rewind at the recorded width gives (the trigger's
  result delivered, or the exit a signal forces). -/
  finish : Except ExitCode Unit
  /-- How the guest entry call ends. -/
  call : CallOutcome
  /-- Whether `resume_wasm_after_poller` takes the respawn. -/
  registered : Bool

/-- One entry: its effects in order, what it returns (`run`'s exit code;
`call_module` returns nothing), and the respawn it leaves registered. -/
structure Entry where
  log : List Effect
  ret : Option ExitCode
  respawn : Option Respawn

/-- The code of a cleanup. -/
def Effect.cleanupCode : Effect → Option ExitCode
  | .cleanup c => some c
  | _ => none

/-- An effect that finishes a rewind or rewinds does so at the width its state
recorded. -/
def Effect.AtRecordedWidth : Effect → Prop
  | .rewindingFinish w r => w = .ofIs64bit r.is64bit
  | .rewind w r => w = .ofIs64bit r.is64bit
  | _ => True

/-- The codes an entry cleans up with, in order. -/
def Entry.cleanups (e : Entry) : List ExitCode := e.log.filterMap Effect.cleanupCode

/-- An entry cleans up at most once, and not at all when it leaves a respawn
registered. -/
def Entry.CleanupSound (e : Entry) : Prop :=
  e.cleanups.length ≤ 1 ∧ (e.respawn ≠ none → e.cleanups = [])

/-- No state is rewound at the other width: every `rewind` of the entry is at
the width its state recorded, and so is every `rewinding_finish`, except one
the entry is refused at, which is then its only effect, the entry ending
with an error exit and no respawn. -/
structure Entry.WidthSafe (e : Entry) : Prop where
  rewind : ∀ w r, Effect.rewind w r ∈ e.log → w = .ofIs64bit r.is64bit
  rewindingFinish : ∀ w r, Effect.rewindingFinish w r ∈ e.log →
    w = .ofIs64bit r.is64bit ∨
      (e.log = [.rewindingFinish w r] ∧ e.ret = some (.errno .inval) ∧ e.respawn = none)

theorem Entry.widthSafe_of_forall {e : Entry} (h : ∀ x ∈ e.log, x.AtRecordedWidth) :
    e.WidthSafe :=
  ⟨fun _ _ hx => h _ hx, fun _ _ hx => .inl (h _ hx)⟩

/-- How an entry that resumes the recorded state `r` went, `finish` being what
finishing it at the recorded width gives. Either it finished the rewind at
the width `r` recorded, rewound `r` at that width when finishing succeeded,
and did nothing at the other width; or it was refused, its one effect the
attempt at the other width, ending with the invalid-state error and no
respawn. -/
inductive Entry.ResumeSafe (e : Entry) (r : RewindState) (finish : Except ExitCode Unit) : Prop
  | atRecordedWidth (hall : ∀ x ∈ e.log, x.AtRecordedWidth)
      (hfinish : Effect.rewindingFinish (.ofIs64bit r.is64bit) r ∈ e.log)
      (hrewind : finish = .ok () → Effect.rewind (.ofIs64bit r.is64bit) r ∈ e.log)
  | refused (w : MemoryWidth) (hw : w ≠ .ofIs64bit r.is64bit)
      (hlog : e.log = [.rewindingFinish w r]) (hret : e.ret = some (.errno .inval))
      (hrespawn : e.respawn = none)

/-- A respawn holds the state a deep sleep recorded: its env unwound at some
width, with some continuation. -/
def Respawn.Recorded (rs : Respawn) : Prop := ∃ w rws, rs.rewind = rs.env.unwind w rws

/-! ## Resuming a recorded state -/

/-- Modelled from the spec: `RewindState::rewinding_finish::<M>`. At a width
other than the one the unwind recorded it fails with an invalid-state error
(`Inval` stands for it); at the recorded width it gives what finishing gives. -/
def rewindingFinish (w : MemoryWidth) (r : RewindState) (finish : Except ExitCode Unit) :
    Except ExitCode Unit :=
  if w.is64bit = r.is64bit then finish else .error (.errno .inval)

/-- `rewinding_finish` then `rewind`, both at width `w`, with the exit code a
failure gives (`none` once the guest is rewound). -/
def resumeAt (w : MemoryWidth) (rs : Respawn) (finish : Except ExitCode Unit) :
    List Effect × Option ExitCode :=
  match rewindingFinish w rs.rewind finish with
  | .error code => ([.rewindingFinish w rs.rewind], some code)
  | .ok () =>
    let res := (rs.env.rewind rs.rewind.memoryStack rs.rewind.rewindStack rs.rewind.storeData).1
    ([.rewindingFinish w rs.rewind, .rewind w rs.rewind],
      if res = .success then none else some (.errno res))

/-- The resume prologue of an entry: nothing on a first entry; for
`Some(rewind_state)`, `resumeAt` the width `widthOf` picks for the state. -/
def prologue (widthOf : RewindState → MemoryWidth) :
    Option Respawn → Except ExitCode Unit → List Effect × Option ExitCode
  | none, _ => ([], none)
  | some rs, finish => resumeAt (widthOf rs.rewind) rs finish

/-! ## `call_module` and `run` -/

/-- `ret` of `call_module` for a call that did not sleep: `Ok(errno)`, or a
runtime error. An exit with a failing code becomes `Ok(Noexec)`. -/
def callRet : CallOutcome → Except Unit Errno
  | .exit code => if code.isSuccess then .ok .success else .ok .noexec
  | .unknownWasiVersion => .ok .noexec
  | .trap => .error ()
  | _ => .ok .success

/-- The code `call_module` cleans up with: `Success` for an `Ok`, and for a
runtime error its `as_exit_code`, which a trap has none of (`Noexec`). -/
def callModuleCode : Except Unit Errno → ExitCode
  | .error () => .errno .noexec
  | .ok _ => .errno .success

/-- The status `set_status_finished(ret.map(Into::into))` records. -/
def finishedStatus : Except Unit Errno → ThreadStatus
  | .error () => .failed
  | .ok e => .finished (.errno e)

/-- `call_module`: the thread is set running, a recorded state is resumed at
the width it recorded, and `_start` is called; a deep sleep registers a
respawn into `call_module`, anything else cleans up and finishes the thread. -/
def callModule (hasStart : Bool) (rewindState : Option Respawn) (seg : Segment) : Entry :=
  match prologue (fun r => .ofIs64bit r.is64bit) rewindState seg.finish with
  | (pre, some code) => ⟨.setStatus .running :: pre ++ [.cleanup code], none, none⟩
  | (pre, none) =>
    if hasStart then
      match seg.call with
      | .deepSleep w env rws =>
        ⟨.setStatus .running :: pre ++ [.callStart], none,
          if seg.registered then some ⟨env, env.unwind w rws⟩ else none⟩
      | call =>
        ⟨.setStatus .running :: pre ++ [.callStart, .cleanup (callModuleCode (callRet call)),
          .setStatus (finishedStatus (callRet call))], none, none⟩
    else ⟨.setStatus .running :: pre ++ [.cleanup (.errno .noexec)], none, none⟩

/-- The exit code `run` ends with for a call that did not sleep: an exit's own
code, `Success` for anything else. -/
def runRet : CallOutcome → ExitCode
  | .exit code => code
  | _ => .errno .success

/-- `run::<M>` of `proc_fork.rs`, at `w = M`: a recorded state is resumed at
`w`, and the entry function is called (`start.unwrap()` panics when there is
none); a deep sleep asks the task manager for a respawn into `run::<M>` and
returns `Success` whatever it answers, anything else cleans up. -/
def run (w : MemoryWidth) (hasStart : Bool) (rewindState : Option Respawn) (seg : Segment) :
    Entry :=
  match prologue (fun _ => w) rewindState seg.finish with
  | (pre, some code) => ⟨pre, some code, none⟩
  | (pre, none) =>
    if hasStart then
      match seg.call with
      | .deepSleep w' env rws =>
        ⟨pre ++ [.callStart], some (.errno .success),
          if seg.registered then some ⟨env, env.unwind w' rws⟩ else none⟩
      | call => ⟨pre ++ [.callStart, .cleanup (runRet call)], some (runRet call), none⟩
    else ⟨pre ++ [.panic], none, none⟩

/-! ## The first entries -/

/-- The closure `spawn_exec_module` hands to `task_wasm`: `_initialize`, when
exported, then `call_module`. A failing `_initialize` finishes the thread with
its error and cleans up with `Noexec`. -/
def execStart (init : Option (Except Unit Unit)) (hasStart : Bool) (seg : Segment) : Entry :=
  match init with
  | some (.error ()) => ⟨[.setStatus .failed, .cleanup (.errno .noexec)], none, none⟩
  | _ => callModule hasStart none seg

/-- The closure a copy-mode `proc_fork` at width `w` hands to `task_wasm`: the
child rewinds to the captured stack, then enters `run::<M>`; a failed rewind
returns at once. -/
def forkStart (w : MemoryWidth) (child : ChildTask) (env : Env) (hasStart : Bool)
    (seg : Segment) : Entry :=
  let r : RewindState := ⟨child.memoryStack, child.rewindStack, child.storeData, w.is64bit⟩
  if (env.rewind r.memoryStack r.rewindStack r.storeData).1 = .success then
    let e := run w hasStart none seg
    { e with log := .rewind w r :: e.log }
  else ⟨[.rewind w r], none, none⟩

/-- A guest task, by the closure that launches it and the function its
respawns re-enter. -/
inductive GuestTask
  /-- Launched by `spawn_exec_module` and resumed by `call_module`; `init`
  is what `_initialize` gives, `none` when the module does not export it. -/
  | exec (init : Option (Except Unit Unit)) (hasStart : Bool)
  /-- The child of a copy-mode `proc_fork` at width `w` on `env`, resumed by
  `run::<M>`. -/
  | forkChild (w : MemoryWidth) (child : ChildTask) (env : Env) (hasStart : Bool)

namespace GuestTask

/-- The task's first entry. -/
def launch : GuestTask → Segment → Entry
  | .exec init s, seg => execStart init s seg
  | .forkChild w child env s, seg => forkStart w child env s seg

/-- The entry a registered respawn makes. -/
def resume : GuestTask → Respawn → Segment → Entry
  | .exec _ s, rs, seg => callModule s (some rs) seg
  | .forkChild w _ _ s, rs, seg => run w s (some rs) seg

/-- The entries after the launch: each respawn left registered re-enters with
the next segment. -/
def resumes (t : GuestTask) : Option Respawn → List Segment → List Entry
  | some rs, seg :: segs => t.resume rs seg :: resumes t (t.resume rs seg).respawn segs
  | _, _ => []

/-- The entries of a task over the segments it meets: none if `task_wasm`
refused it, otherwise its launch and the resumes that follow. -/
def entries (t : GuestTask) (accepted : Bool) : List Segment → List Entry
  | seg :: segs => if accepted then t.launch seg :: t.resumes (t.launch seg).respawn segs else []
  | [] => []

end GuestTask

/-! ## What a resume does -/

section

variable {w : MemoryWidth} {rs : Respawn} {finish : Except ExitCode Unit}

/-- **A state resumed at the other width is refused**: `rewinding_finish`
fails with the invalid-state error, and nothing is rewound. -/
theorem resumeAt_of_width_ne (h : w.is64bit ≠ rs.rewind.is64bit) :
    resumeAt w rs finish = ([.rewindingFinish w rs.rewind], some (.errno .inval)) := by
  simp [resumeAt, rewindingFinish, h]

theorem resumeAt_atRecordedWidth (h : w.is64bit = rs.rewind.is64bit) :
    ∀ x ∈ (resumeAt w rs finish).1, x.AtRecordedWidth := by
  have hw : w = .ofIs64bit rs.rewind.is64bit := MemoryWidth.eq_ofIs64bit_iff.2 h
  unfold resumeAt
  rw [rewindingFinish, if_pos h]
  cases finish <;> simp [Effect.AtRecordedWidth, hw]

/-- At the recorded width, a resume finishes the rewind, and rewinds once
finishing succeeds. -/
theorem mem_resumeAt (h : w.is64bit = rs.rewind.is64bit) :
    Effect.rewindingFinish (.ofIs64bit rs.rewind.is64bit) rs.rewind ∈ (resumeAt w rs finish).1 ∧
      (finish = .ok () →
        Effect.rewind (.ofIs64bit rs.rewind.is64bit) rs.rewind ∈ (resumeAt w rs finish).1) := by
  have hw : w = .ofIs64bit rs.rewind.is64bit := MemoryWidth.eq_ofIs64bit_iff.2 h
  simp only [resumeAt, rewindingFinish, if_pos h]
  cases finish <;> simp [hw]

theorem filterMap_resumeAt : (resumeAt w rs finish).1.filterMap Effect.cleanupCode = [] := by
  unfold resumeAt
  split <;> rfl

theorem prologue_atRecordedWidth {widthOf : RewindState → MemoryWidth}
    (h : ∀ r, (widthOf r).is64bit = r.is64bit) (rw : Option Respawn) :
    ∀ x ∈ (prologue widthOf rw finish).1, x.AtRecordedWidth := by
  cases rw with
  | none => simp [prologue]
  | some rs => exact resumeAt_atRecordedWidth (h rs.rewind)

theorem filterMap_prologue (widthOf : RewindState → MemoryWidth) (rw : Option Respawn) :
    (prologue widthOf rw finish).1.filterMap Effect.cleanupCode = [] := by
  cases rw with
  | none => rfl
  | some rs => exact filterMap_resumeAt

end

/-! ## What each entry does -/

theorem callModule_atRecordedWidth (s : Bool) (rw : Option Respawn) (seg : Segment) :
    ∀ x ∈ (callModule s rw seg).log, x.AtRecordedWidth := by
  have hpre : ∀ x ∈ (prologue (fun r => .ofIs64bit r.is64bit) rw seg.finish).1,
      x.AtRecordedWidth :=
    prologue_atRecordedWidth (fun r => MemoryWidth.is64bit_ofIs64bit r.is64bit) rw
  unfold callModule
  split <;> rename_i heq <;> rw [heq] at hpre <;> dsimp only at hpre
  all_goals (try split) <;> (try split) <;>
    refine List.forall_mem_cons.2 ⟨trivial, List.forall_mem_append.2 ⟨hpre, ?_⟩⟩ <;>
    simp [Effect.AtRecordedWidth]

/-- `call_module` does all its prologue does. -/
theorem prologue_subset_callModule (s : Bool) (rw : Option Respawn) (seg : Segment) :
    (prologue (fun r => .ofIs64bit r.is64bit) rw seg.finish).1 ⊆ (callModule s rw seg).log := by
  unfold callModule
  split <;> rename_i heq <;> rw [heq]
  all_goals (try split) <;> (try split) <;>
    exact List.subset_cons_of_subset _ (List.subset_append_left _ _)

theorem callModule_resumeSafe (s : Bool) (rs : Respawn) (seg : Segment) :
    (callModule s (some rs) seg).ResumeSafe rs.rewind seg.finish := by
  obtain ⟨hfinish, hrewind⟩ :=
    @mem_resumeAt _ rs seg.finish (MemoryWidth.is64bit_ofIs64bit _)
  exact .atRecordedWidth (callModule_atRecordedWidth s _ seg)
    (prologue_subset_callModule s _ seg hfinish)
    fun h => prologue_subset_callModule s _ seg (hrewind h)

/-- The respawn `call_module` registers holds the state its deep sleep recorded. -/
theorem callModule_respawn_recorded {s : Bool} {rw : Option Respawn} {seg : Segment} {rs : Respawn}
    (h : (callModule s rw seg).respawn = some rs) : rs.Recorded := by
  unfold callModule at h
  repeat' split at h
  all_goals cases h
  exact ⟨_, _, rfl⟩

theorem callModule_cleanupSound (s : Bool) (rw : Option Respawn) (seg : Segment) :
    (callModule s rw seg).CleanupSound := by
  have hpre : (prologue (fun r => .ofIs64bit r.is64bit) rw seg.finish).1.filterMap
      Effect.cleanupCode = [] := filterMap_prologue _ rw
  unfold Entry.CleanupSound Entry.cleanups callModule
  split <;> rename_i heq <;> rw [heq] at hpre <;> dsimp only at hpre
  all_goals (try split) <;> (try split) <;> (try split) <;>
    simp [List.filterMap_append, hpre, Effect.cleanupCode]

/-- **`run::<M>` refuses a state recorded at the other width**: it returns
the invalid-state error, having rewound nothing and cleaned up nothing. -/
theorem run_of_width_ne {w : MemoryWidth} {rs : Respawn} (s : Bool) (seg : Segment)
    (h : w.is64bit ≠ rs.rewind.is64bit) :
    run w s (some rs) seg = ⟨[.rewindingFinish w rs.rewind], some (.errno .inval), none⟩ := by
  simp only [run, prologue, resumeAt_of_width_ne h]

theorem run_atRecordedWidth {w : MemoryWidth} (s : Bool) (rw : Option Respawn) (seg : Segment)
    (h : ∀ rs, rw = some rs → w.is64bit = rs.rewind.is64bit) :
    ∀ x ∈ (run w s rw seg).log, x.AtRecordedWidth := by
  have hpre : ∀ x ∈ (prologue (fun _ => w) rw seg.finish).1, x.AtRecordedWidth := by
    cases rw with
    | none => simp [prologue]
    | some rs => exact resumeAt_atRecordedWidth (h rs rfl)
  unfold run
  split <;> rename_i heq <;> rw [heq] at hpre <;> dsimp only at hpre
  · exact hpre
  all_goals (try split) <;> (try split) <;>
    refine List.forall_mem_append.2 ⟨hpre, ?_⟩ <;> simp [Effect.AtRecordedWidth]

theorem run_cleanupSound (w : MemoryWidth) (s : Bool) (rw : Option Respawn) (seg : Segment) :
    (run w s rw seg).CleanupSound := by
  have hpre : (prologue (fun _ => w) rw seg.finish).1.filterMap Effect.cleanupCode = [] :=
    filterMap_prologue _ rw
  unfold Entry.CleanupSound Entry.cleanups run
  split <;> rename_i heq <;> rw [heq] at hpre <;> dsimp only at hpre
  all_goals (try split) <;> (try split) <;> (try split) <;>
    simp [List.filterMap_append, hpre, Effect.cleanupCode]

/-- `run::<M>` does all its prologue does. -/
theorem prologue_subset_run (w : MemoryWidth) (s : Bool) (rw : Option Respawn) (seg : Segment) :
    (prologue (fun _ => w) rw seg.finish).1 ⊆ (run w s rw seg).log := by
  unfold run
  split <;> rename_i heq <;> rw [heq]
  · exact List.Subset.refl _
  all_goals (try split) <;> (try split) <;> exact List.subset_append_left _ _

theorem run_resumeSafe (w : MemoryWidth) (s : Bool) (rs : Respawn) (seg : Segment) :
    (run w s (some rs) seg).ResumeSafe rs.rewind seg.finish := by
  by_cases h : w.is64bit = rs.rewind.is64bit
  · obtain ⟨hfinish, hrewind⟩ := @mem_resumeAt w rs seg.finish h
    exact .atRecordedWidth (run_atRecordedWidth s _ seg (by rintro _ ⟨⟩; exact h))
      (prologue_subset_run _ s _ seg hfinish) fun hf => prologue_subset_run _ s _ seg (hrewind hf)
  · rw [run_of_width_ne s seg h]
    exact .refused w (fun hw => h (MemoryWidth.eq_ofIs64bit_iff.1 hw)) rfl rfl rfl

/-- The respawn `run::<M>` registers holds the state its deep sleep recorded. -/
theorem run_respawn_recorded {w : MemoryWidth} {s : Bool} {rw : Option Respawn} {seg : Segment}
    {rs : Respawn} (h : (run w s rw seg).respawn = some rs) : rs.Recorded := by
  unfold run at h
  repeat' split at h
  all_goals cases h
  exact ⟨_, _, rfl⟩

theorem run_widthSafe (w : MemoryWidth) (s : Bool) (rw : Option Respawn) (seg : Segment) :
    (run w s rw seg).WidthSafe := by
  cases rw with
  | none => exact Entry.widthSafe_of_forall (run_atRecordedWidth s none seg (by simp))
  | some rs =>
    by_cases h : w.is64bit = rs.rewind.is64bit
    · exact Entry.widthSafe_of_forall (run_atRecordedWidth s _ seg (by rintro _ ⟨⟩; exact h))
    · rw [run_of_width_ne s seg h]
      refine ⟨by simp, fun w' r' hx => .inr ?_⟩
      obtain ⟨rfl, rfl⟩ : w' = w ∧ r' = rs.rewind := by simpa using hx
      exact ⟨rfl, rfl, rfl⟩

theorem forkStart_widthSafe (w : MemoryWidth) (child : ChildTask) (env : Env) (s : Bool)
    (seg : Segment) : (forkStart w child env s seg).WidthSafe := by
  apply Entry.widthSafe_of_forall
  unfold forkStart
  dsimp only
  split
  · exact List.forall_mem_cons.2
      ⟨(MemoryWidth.ofIs64bit_is64bit w).symm, run_atRecordedWidth s none seg (by simp)⟩
  · simp [Effect.AtRecordedWidth]

theorem forkStart_cleanupSound (w : MemoryWidth) (child : ChildTask) (env : Env) (s : Bool)
    (seg : Segment) : (forkStart w child env s seg).CleanupSound := by
  unfold forkStart
  dsimp only
  split
  · exact run_cleanupSound w s none seg
  · simp [Entry.CleanupSound, Entry.cleanups, Effect.cleanupCode]

theorem execStart_widthSafe (init : Option (Except Unit Unit)) (s : Bool) (seg : Segment) :
    (execStart init s seg).WidthSafe := by
  apply Entry.widthSafe_of_forall
  unfold execStart
  split
  · simp [Effect.AtRecordedWidth]
  · exact callModule_atRecordedWidth s none seg

theorem execStart_cleanupSound (init : Option (Except Unit Unit)) (s : Bool) (seg : Segment) :
    (execStart init s seg).CleanupSound := by
  unfold execStart
  split
  · simp [Entry.CleanupSound, Entry.cleanups, Effect.cleanupCode]
  · exact callModule_cleanupSound s none seg

/-! ## Exit codes and cleanups -/

/-- **The two entries clean up with different codes.** Whatever code the
guest exits with, `call_module` cleans up with `Success`, and finishes the
thread with `Noexec` when the code is a failing one, while `run` passes the
code on. A trap, which `call_module` cleans up with `Noexec`, leaves `run`
cleaning up with `Success`; and an unknown WASI version leaves both cleaning
up with `Success`. -/
theorem cleanup_code_of_outcome (w : MemoryWidth) (seg : Segment) (c : ExitCode) :
    (callModule true none { seg with call := .exit c }).log =
      [.setStatus .running, .callStart, .cleanup (.errno .success),
        .setStatus (.finished (.errno (if c.isSuccess then .success else .noexec)))] ∧
    (run w true none { seg with call := .exit c }).cleanups = [c] ∧
    (callModule true none { seg with call := .trap }).cleanups = [.errno .noexec] ∧
    (run w true none { seg with call := .trap }).cleanups = [.errno .success] ∧
    (callModule true none { seg with call := .unknownWasiVersion }).cleanups =
      [.errno .success] ∧
    (run w true none { seg with call := .unknownWasiVersion }).cleanups = [.errno .success] := by
  refine ⟨?_, rfl, rfl, rfl, rfl, rfl⟩
  simp only [callModule, prologue, callRet]
  cases c.isSuccess <;> rfl

/-- **`run` drops the cleanup `call_module` makes.** When finishing a resumed
rewind fails, both entry functions end the task, leaving no respawn:
`call_module` cleans up with the failure's code, while `run`, at the very
width the state recorded, returns the code and cleans up nothing. -/
theorem resume_failure_cleanup (s : Bool) (rs : Respawn) (seg : Segment) (code : ExitCode) :
    (callModule s (some rs) { seg with finish := .error code }).cleanups = [code] ∧
    (callModule s (some rs) { seg with finish := .error code }).respawn = none ∧
    run (.ofIs64bit rs.rewind.is64bit) s (some rs) { seg with finish := .error code } =
      ⟨[.rewindingFinish (.ofIs64bit rs.rewind.is64bit) rs.rewind], some code, none⟩ := by
  simp [callModule, run, prologue, resumeAt, rewindingFinish, Entry.cleanups, Effect.cleanupCode]

namespace GuestTask

variable (t : GuestTask) (seg : Segment)

theorem launch_widthSafe : (t.launch seg).WidthSafe := by
  cases t with
  | exec init s => exact execStart_widthSafe init s seg
  | forkChild w child env s => exact forkStart_widthSafe w child env s seg

theorem resume_widthSafe (rs : Respawn) : (t.resume rs seg).WidthSafe := by
  cases t with
  | exec init s => exact Entry.widthSafe_of_forall (callModule_atRecordedWidth s _ seg)
  | forkChild w child env s => exact run_widthSafe w s _ seg

theorem resume_resumeSafe (rs : Respawn) : (t.resume rs seg).ResumeSafe rs.rewind seg.finish := by
  cases t with
  | exec init s => exact callModule_resumeSafe s rs seg
  | forkChild w child env s => exact run_resumeSafe w s rs seg

theorem launch_respawn_recorded {rs : Respawn} (h : (t.launch seg).respawn = some rs) :
    rs.Recorded := by
  cases t with
  | exec init s =>
    change (execStart init s seg).respawn = some rs at h
    unfold execStart at h
    split at h
    · cases h
    · exact callModule_respawn_recorded h
  | forkChild w child env s =>
    change (forkStart w child env s seg).respawn = some rs at h
    unfold forkStart at h
    dsimp only at h
    split at h
    · exact run_respawn_recorded h
    · cases h

theorem resume_respawn_recorded {rs rs' : Respawn} (h : (t.resume rs seg).respawn = some rs') :
    rs'.Recorded := by
  cases t with
  | exec init s => exact callModule_respawn_recorded h
  | forkChild w child env s => exact run_respawn_recorded h

theorem launch_cleanupSound : (t.launch seg).CleanupSound := by
  cases t with
  | exec init s => exact execStart_cleanupSound init s seg
  | forkChild w child env s => exact forkStart_cleanupSound w child env s seg

theorem resume_cleanupSound (rs : Respawn) : (t.resume rs seg).CleanupSound := by
  cases t with
  | exec init s => exact callModule_cleanupSound s _ seg
  | forkChild w child env s => exact run_cleanupSound w s _ seg

end GuestTask

end Task

end Wasix
