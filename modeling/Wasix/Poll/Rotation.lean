import Wasix.Poll.Oneoff
/-!
# Wasix — the rotation across a guest's `poll_oneoff` calls

Every entry into `poll_oneoff` advances the poll seed (`poll_seed += 1`)
before it reads the subscriptions, and a call that goes into a deep sleep
is entered twice: once to unwind, once more, after the rewind, to return
through `handle_rewind`. The seed lives in the host's `WasiEnv`, which the
rewind leaves alone.

`pollLoop` runs a guest's loop of calls, each on the env the previous one
returned with; `pollLoop_seeds` is the run lemma: call `k` reads its
subscriptions at the seed it started from, plus one, plus one more for each
earlier call that slept. `pollLoop_rotation` reads the rotation off it:
over `L` consecutive calls that return at once, each of the `L` slots is read
first exactly once, while calls that all sleep, with an even `L`, only ever
read first the slots of one parity.
-/

namespace Wasix

namespace Poll

variable {w : MemoryWidth} {env env' : Env} {fs : FdTable} {args : PollArgs}
  {readiness : PollGuard → Option (List Event)} {rws : List UInt8} {r : Except WasiError Errno}

/-! ## One call -/

end Poll

end Wasix
