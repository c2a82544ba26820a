import Wasix.Asyncify.Engine
/-!
# Wasix — `thread_sleep`

The simplest consumer of the deep sleep: a positive duration unwinds the
thread into a deep sleep whose work never resolves, so that only the
timeout wakes it, with a completion that writes nothing; the respawn's
rewind then re-enters the syscall, which `handle_rewind` ends with
`Success`. A zero duration returns at once.
-/

namespace Wasix

namespace Sleep

/-- Where `thread_sleep` leaves the thread. -/
inductive SleepOutcome
  /-- The syscall returned to the guest. -/
  | returned (env : Env) (r : Except WasiError Errno)
  /-- The thread unwound into a deep sleep. -/
  | sleeping (env : Env) (rewind : RewindState)
  /-- The host thread panicked in the completion. -/
  | panicked

/-- `thread_sleep_internal`; signals are not modelled. The work never
resolves (`InfiniteSleep`), and the completion writes nothing. -/
def threadSleepInternal (w : MemoryWidth) (env : Env) (duration : Nat)
    (rewindStack : List UInt8) : SleepOutcome :=
  match env.handleRewind with
  | (true, env') => .returned env' (.ok .success)
  | (false, _) =>
    if 0 < duration then
      match asyncifyWithDeepSleepExt env w (some duration) (none : Option (Except Errno Unit))
          (fun _ mem => some mem) rewindStack with
      | .finished env' => .returned env' (.ok .success)
      | .panicked => .panicked
      | .deepSleep env' rs => .sleeping env' rs
    else .returned env (.ok .success)

variable {w : MemoryWidth} {env : Env} {duration : Nat} {rws : List UInt8}

theorem threadSleepInternal_of_pos (hr : env.rewinding = none) (hd : 0 < duration) :
    threadSleepInternal w env duration rws = .sleeping env (env.unwind w rws) := by
  simp [threadSleepInternal, Env.handleRewind_of_none hr, hd, asyncifyWithDeepSleepExt,
    Nat.pos_iff_ne_zero.1 hd]

end Sleep

end Wasix
