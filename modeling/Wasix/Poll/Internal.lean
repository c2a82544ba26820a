import Wasix.Asyncify.Engine
/-!
# Wasix — `poll_oneoff_internal`

The body of the poll syscall, after the subscriptions have been read. Two
passes run over the subscriptions: the validation pass (`validate`) checks
each fd against the fd table, keeps the clock subscriptions it has not
seen (`clock_subs`) and sets the wait (`time_to_sleep`); the guard pass
(`buildGuards`) opens a pollable guard for each fd. The batch of guards
is then handed to the deep sleep, whose completion callback turns the
batch's resolution into the events `process_events` writes
(`completionEvents`).

The validation pass fails with the errno of the first subscription it
refuses on its own (`validate_eq_error_iff`). A time-out reports every kept
clock, expired or not (`mem_timedoutEvents`). The two passes check fds other
than the standard streams the same way (`pollPasses_agree_off_std`), while
the standard streams are not checked by the first: stdin held without
`POLL_FD_READWRITE` passes it and is refused by the second
(`stdin_refused_by_guard_pass`).
-/

namespace Wasix

namespace Poll

/-- `Rights::POLL_FD_READWRITE`, bit 27. -/
def pollFdReadwrite : UInt64 := 134217728

/-- `Rights::contains`. -/
def rightsContains (rights flag : UInt64) : Bool := rights &&& flag == flag

/-- `__WASI_STDIN_FILENO`, `__WASI_STDOUT_FILENO`, `__WASI_STDERR_FILENO`. -/
def stdinFileno : UInt32 := 0

def stdoutFileno : UInt32 := 1

def stderrFileno : UInt32 := 2

/-- The standard streams. -/
def IsStd (f : UInt32) : Prop := f = stdinFileno ∨ f = stdoutFileno ∨ f = stderrFileno

instance (f : UInt32) : Decidable (IsStd f) := inferInstanceAs (Decidable (_ ∨ _))

/-- `PollEvent::PollIn` and `PollEvent::PollOut` in a `PollEventSet`. -/
def pollIn : Nat := 1

def pollOut : Nat := 2

/-- What an inode is, as far as polling it goes (`Kind`); `other` stands for
directories, symlinks, buffers and the root. -/
inductive Kind
  | file (hasHandle : Bool)
  | socket
  | eventNotifications
  | other
  deriving DecidableEq, Repr

/-- An fd table entry (`Fd`): its rights and its inode. -/
structure Fd where
  rights : UInt64
  inode : Kind
  deriving DecidableEq, Repr

/-- The process's fd table (`state.fs.fd_map`). -/
structure FdTable where
  fdMap : UInt32 → Option Fd

namespace FdTable

variable (fs : FdTable)

/-- `WasiFs::get_fd`. -/
def getFd (fd : UInt32) : Except Errno Fd :=
  match fs.fdMap fd with
  | some entry => .ok entry
  | none => .error .badf

/-- `WasiInodes::stdout`/`stderr` (`std_dev_get`), with the `FsError` mapped by
`fs_error_into_wasi_err`: a missing stream is `NoDevice`, one that is not an
open file is `NotAFile`. No rights are read. -/
def stdDevGet (fd : UInt32) : Except Errno Unit :=
  match fs.fdMap fd with
  | none => .error .nodev
  | some entry => if entry.inode = .file true then .ok () else .error .inval

end FdTable

/-- A subscription as the two passes carry it: the fd it polls and the events
it polls for, filled in by the validation pass, and the subscription. -/
abbrev PollSub := Option UInt32 × Nat × Subscription

/-- A pollable guard (`InodeValFilePollGuard`), as far as the model tracks it. -/
structure PollGuard where
  fd : UInt32
  peb : Nat
  subscription : Subscription
  deriving DecidableEq, Repr

/-- `InodeValFilePollGuard::new`: files with a handle, sockets and event
notifications can be polled. -/
def pollGuardNew (fd : UInt32) (peb : Nat) (s : Subscription) : Kind → Option PollGuard
  | .file true | .socket | .eventNotifications => some ⟨fd, peb, s⟩
  | _ => none

/-! ## The validation pass -/

/-- `Duration::MAX`, in nanoseconds: the wait that stands for "no timeout". -/
def durationMax : Nat := 2 ^ 64 * 1000000000 - 1

/-- What the validation pass accumulates over the clock subscriptions. -/
structure ClockScan where
  clockSubs : List (SubscriptionClock × UInt64)
  timeToSleep : Nat
  deriving DecidableEq, Repr

/-- Before the first subscription: no clocks, and `time_to_sleep = Duration::MAX`. -/
def ClockScan.init : ClockScan := ⟨[], durationMax⟩

/-- The fd check of the validation pass: the standard streams pass; any other
fd must exist and hold `POLL_FD_READWRITE`. -/
def checkFd (fs : FdTable) (fd : UInt32) : Except Errno Unit :=
  if IsStd fd then .ok ()
  else
    match fs.getFd fd with
    | .error e => .error e
    | .ok entry => if rightsContains entry.rights pollFdReadwrite then .ok () else .error .access

/-- The clock arm of the validation pass. A clock already kept under the same
id and userdata is skipped; otherwise the timeout overwrites
`time_to_sleep`, and a timeout other than `0` and `1` is kept. -/
def ClockScan.addClock (acc : ClockScan) (c : SubscriptionClock) (userdata : UInt64) :
    Except Errno ClockScan :=
  if c.clockId = .realtime ∨ c.clockId = .monotonic then
    if acc.clockSubs.any fun x => x.1.clockId == c.clockId && x.2 == userdata then .ok acc
    else if c.timeout = 0 then .ok { acc with timeToSleep := durationMax }
    else if c.timeout = 1 then .ok { acc with timeToSleep := 0 }
    else .ok ⟨acc.clockSubs ++ [(c, userdata)], c.timeout.toNat⟩
  else .error .inval

/-- One step of the validation pass: an fd subscription is checked and gets
its fd and events; a clock goes through `addClock`. -/
def validateOne (fs : FdTable) (acc : ClockScan) : PollSub → Except Errno (ClockScan × PollSub)
  | (fd, peb, s) =>
    match s.data with
    | .fdRead f => (checkFd fs f).map fun _ => (acc, (some f, peb ||| pollIn, s))
    | .fdWrite f => (checkFd fs f).map fun _ => (acc, (some f, peb ||| pollOut, s))
    | .clock c => (acc.addClock c s.userdata).map fun acc' => (acc', (fd, peb, s))

/-- The validation pass (the first loop of `poll_oneoff_internal`); the first
failure is the syscall's errno. -/
def validate (fs : FdTable) : ClockScan → List PollSub → Except Errno (ClockScan × List PollSub)
  | acc, [] => .ok (acc, [])
  | acc, x :: rest =>
    validateOne fs acc x >>= fun p => (validate fs p.1 rest).map fun r => (r.1, p.2 :: r.2)

/-- The errno the validation pass refuses a subscription with, whatever it has
accumulated: the fd check's for an fd subscription, `Inval` for a clock other
than the realtime and monotonic ones; `none` when it lets it through. -/
def refusal (fs : FdTable) (s : Subscription) : Option Errno :=
  match s.data with
  | .fdRead f | .fdWrite f =>
    match checkFd fs f with
    | .error e => some e
    | .ok () => none
  | .clock c => if c.clockId = .realtime ∨ c.clockId = .monotonic then none else some .inval

/-! ## The guard pass -/

/-- One step of the guard pass: stderr and stdout get their std-stream guard;
any other fd is looked up, checked for `POLL_FD_READWRITE`, and given an inode
guard (`Badf` for an inode that cannot be polled). -/
def guardFor (fs : FdTable) (fd : UInt32) (peb : Nat) (s : Subscription) : Except Errno PollGuard :=
  if fd = stderrFileno then (fs.stdDevGet stderrFileno).map fun _ => ⟨fd, peb, s⟩
  else if fd = stdoutFileno then (fs.stdDevGet stdoutFileno).map fun _ => ⟨fd, peb, s⟩
  else
    match fs.getFd fd with
    | .error e => .error e
    | .ok entry =>
      if !rightsContains entry.rights pollFdReadwrite then .error .access
      else (pollGuardNew fd peb s entry.inode).elim (.error .badf) .ok

/-- The guard pass (the second loop): a guard for every subscription with an fd. -/
def buildGuards (fs : FdTable) : List PollSub → Except Errno (List PollGuard)
  | [] => .ok []
  | (none, _, _) :: rest => buildGuards fs rest
  | (some fd, peb, s) :: rest =>
    guardFor fs fd peb s >>= fun g => (buildGuards fs rest).map (g :: ·)

/-! ## The batch and its completion -/

/-- `PollBatch::poll`: every guard is polled, and the batch is ready with all
the events that fired, or pending when none did. -/
def pollBatch (joins : List (Option (List Event))) : Option (Except Errno (List Event)) :=
  let evts := (joins.filterMap id).flatten
  if evts.isEmpty then none else some (.ok evts)

/-- The asyncify timeout `time_to_sleep` maps to (`asyncify_time`). -/
def asyncifyTime (t : Nat) : Option Nat :=
  if t = 0 then some 0 else if t = durationMax then none else some t

/-- The events the completion callback hands to `process_events`: the batch's
own events, one clock event per kept clock on a time-out, none on `Again`;
on any other error nothing is processed. -/
def completionEvents (clockSubs : List (SubscriptionClock × UInt64)) :
    Except Errno (List Event) → Option (List Event)
  | .ok evts => some evts
  | .error .timedout => some (clockSubs.map fun x => Event.ofClock x.2)
  | .error .again => some []
  | .error _ => none

/-! ## `poll_oneoff_internal` -/

/-- Where the poll syscall leaves its thread: returned to the guest, panicked,
or unwound into a deep sleep whose completion runs `after` on the batch's
resolution. -/
inductive Outcome
  | returned (env : Env) (r : Except WasiError Errno)
  | panicked
  | sleeping (env : Env) (rewind : RewindState)
      (after : Except Errno (List Event) → Memory → Option Memory)

/-- The completion callback `poll_oneoff_internal` hands to the deep sleep. The
errno `process_events` returns is dropped; `none` is a panic in it. -/
def onComplete (processEvents : List Event → Memory → Option (Errno × Memory))
    (clockSubs : List (SubscriptionClock × UInt64)) (res : Except Errno (List Event))
    (mem : Memory) : Option Memory :=
  match completionEvents clockSubs res with
  | some evts => (processEvents evts mem).map (·.2)
  | none => some mem

/-- `poll_oneoff_internal` from the rewind check on; signals are not modelled.
`processEvents` is the caller's `process_events`, `readiness` what each guard
reports when the batch is polled once, and `rewindStack` the continuation
the instrumentation records if the thread unwinds. -/
def pollOneoffInternal (w : MemoryWidth) (env : Env) (fs : FdTable) (subs : List PollSub)
    (processEvents : List Event → Memory → Option (Errno × Memory))
    (readiness : PollGuard → Option (List Event)) (rewindStack : List UInt8) : Outcome :=
  match env.handleRewind with
  | (true, env') => .returned env' (.ok .success)
  | (false, _) =>
    match validate fs .init subs with
    | .error e => .returned env (.ok e)
    | .ok (scan, subs') =>
      match buildGuards fs subs' with
      | .error e => .returned env (.ok e)
      | .ok guards =>
        let after := onComplete processEvents scan.clockSubs
        match asyncifyWithDeepSleepExt env w (asyncifyTime scan.timeToSleep)
            (pollBatch (guards.map readiness)) after rewindStack with
        | .finished env' => .returned env' (.ok .success)
        | .panicked => .panicked
        | .deepSleep env' rs => .sleeping env' rs after

/-- The subscriptions as `poll_oneoff` hands them over: no fd, no events yet. -/
def initSubs (ss : List Subscription) : List PollSub := ss.map fun s => (none, 0, s)

variable {fs : FdTable} {acc acc' : ClockScan} {c : SubscriptionClock} {ud : UInt64}

/-! ## The validation pass, step by step -/

theorem validate_cons_eq_ok {x : PollSub} {l : List PollSub} {r : ClockScan × List PollSub} :
    validate fs acc (x :: l) = .ok r ↔
      ∃ p r', validateOne fs acc x = .ok p ∧ validate fs p.1 l = .ok r' ∧ r = (r'.1, p.2 :: r'.2) := by
  simp only [validate, bind_eq_ok, map_eq_ok]
  exact ⟨fun ⟨p, hp, r', hr', he⟩ => ⟨p, r', hp, hr', he.symm⟩,
    fun ⟨p, r', hp, hr', he⟩ => ⟨p, hp, r', hr', he.symm⟩⟩

theorem validateOne_fd {fd : Option UInt32} {peb : Nat} {s : Subscription} {p : ClockScan × PollSub}
    {f : UInt32} (hf : s.data = .fdRead f ∨ s.data = .fdWrite f)
    (h : validateOne fs acc (fd, peb, s) = .ok p) :
    checkFd fs f = .ok () ∧ p.1 = acc ∧ ∃ peb', p.2 = (some f, peb', s) := by
  rcases hf with hf | hf <;>
  · simp only [validateOne, hf, map_eq_ok] at h
    obtain ⟨⟨⟩, hc, rfl⟩ := h
    exact ⟨hc, rfl, _, rfl⟩

theorem validateOne_clock {fd : Option UInt32} {peb : Nat} {s : Subscription} {p : ClockScan × PollSub}
    (hc : s.data = .clock c) (h : validateOne fs acc (fd, peb, s) = .ok p) :
    acc.addClock c s.userdata = .ok p.1 ∧ p.2 = (fd, peb, s) := by
  simp only [validateOne, hc, map_eq_ok] at h
  obtain ⟨acc₁, ha, rfl⟩ := h
  exact ⟨ha, rfl⟩

/-- One step of the validation pass fails exactly with the subscription's
refusal, whatever the pass has accumulated. -/
theorem validateOne_eq_error_iff {x : PollSub} {e : Errno} :
    validateOne fs acc x = .error e ↔ refusal fs x.2.2 = some e := by
  obtain ⟨fd, peb, ud, data⟩ := x
  cases data with
  | fdRead f | fdWrite f =>
    simp only [validateOne, refusal]
    cases checkFd fs f <;> simp [Except.map]
  | clock c =>
    simp only [validateOne, refusal, ClockScan.addClock]
    split_ifs <;> simp [Except.map]

/-- **The validation pass fails with the first refusal**: its errno is that of
the first subscription, in the order the pass reads them, that it refuses on
its own. -/
theorem validate_eq_error_iff {l : List PollSub} {e : Errno} :
    validate fs acc l = .error e ↔ (l.filterMap fun x => refusal fs x.2.2).head? = some e := by
  induction l generalizing acc with
  | nil => simp [validate]
  | cons x l ih =>
    rw [List.filterMap_cons]
    cases hx : refusal fs x.2.2 with
    | some e₀ =>
      rw [validate, validateOne_eq_error_iff.2 hx]
      simp only [List.head?_cons]
      exact ⟨fun h => by cases h; rfl, fun h => by cases h; rfl⟩
    | none =>
      cases hp : validateOne fs acc x with
      | error e' => simp [validateOne_eq_error_iff.1 hp] at hx
      | ok p =>
        rw [validate, hp, ← @ih p.1]
        show (validate fs p.1 l).map _ = _ ↔ _
        cases validate fs p.1 l <;> simp [Except.map]

/-- A list none of whose subscriptions the pass refuses is accepted. -/
theorem validate_ok_of_refusal {l : List PollSub} (h : ∀ x ∈ l, refusal fs x.2.2 = none) :
    ∃ r, validate fs acc l = .ok r := by
  cases hv : validate fs acc l with
  | ok r => exact ⟨r, rfl⟩
  | error e =>
    obtain ⟨x, hx, hxe⟩ := List.mem_filterMap.1 (List.mem_of_mem_head? (validate_eq_error_iff.1 hv))
    simp [h x hx] at hxe

/-- A kept clock is never dropped: the list only grows. -/
theorem addClock_grows (h : acc.addClock c ud = .ok acc') : acc.clockSubs <+: acc'.clockSubs := by
  unfold ClockScan.addClock at h
  split_ifs at h <;> cases h <;> simp

/-- After a valid clock with a timeout other than `0` and `1`, its userdata is
among the kept clocks: pushed, or already there under the same key. -/
theorem exists_userdata_addClock (h : acc.addClock c ud = .ok acc') (h0 : c.timeout ≠ 0)
    (h1 : c.timeout ≠ 1) : ∃ x ∈ acc'.clockSubs, x.2 = ud := by
  unfold ClockScan.addClock at h
  split_ifs at h with hid hdup
  · cases h
    obtain ⟨x, hx, hk⟩ := List.any_eq_true.1 hdup
    exact ⟨x, hx, (by simpa using hk : _ ∧ _).2⟩
  · cases h
    exact ⟨_, List.mem_append_right _ (List.mem_singleton_self _), rfl⟩

theorem validateOne_grows {x : PollSub} {p : ClockScan × PollSub}
    (h : validateOne fs acc x = .ok p) : acc.clockSubs <+: p.1.clockSubs := by
  obtain ⟨fd, peb, s⟩ := x
  cases hs : s.data with
  | fdRead f | fdWrite f =>
    obtain ⟨-, hp, -⟩ := validateOne_fd (f := f) (by simp [hs]) h
    exact hp ▸ List.prefix_refl _
  | clock c => exact addClock_grows (validateOne_clock hs h).1

theorem validate_grows {l : List PollSub} {r : ClockScan × List PollSub}
    (h : validate fs acc l = .ok r) : acc.clockSubs <+: r.1.clockSubs := by
  induction l generalizing acc r with
  | nil => cases h; exact List.prefix_refl _
  | cons x l ih =>
    obtain ⟨p, r', hp, hr', rfl⟩ := validate_cons_eq_ok.1 h
    exact (validateOne_grows hp).trans (ih (r := r') hr')

/-! ## The kept clocks -/

/-- What the clock arm can do to the kept clocks: leave them, or push the new
clock, whose clock id and userdata no kept clock has. -/
theorem addClock_clockSubs (h : acc.addClock c ud = .ok acc') :
    acc'.clockSubs = acc.clockSubs ∨
      (∀ x ∈ acc.clockSubs, (x.1.clockId, x.2) ≠ (c.clockId, ud)) ∧
        acc'.clockSubs = acc.clockSubs ++ [(c, ud)] := by
  unfold ClockScan.addClock at h
  split_ifs at h with hid hdup <;> cases h
  · exact .inl rfl
  · exact .inl rfl
  · exact .inl rfl
  refine .inr ⟨fun x hx hk => hdup (List.any_eq_true.2 ⟨x, hx, ?_⟩), rfl⟩
  simp only [Prod.mk.injEq] at hk
  simp [hk.1, hk.2]

theorem validateOne_clockSubs {x : PollSub} {p : ClockScan × PollSub}
    (h : validateOne fs acc x = .ok p) :
    p.1.clockSubs = acc.clockSubs ∨ ∃ c ud, (∀ y ∈ acc.clockSubs, (y.1.clockId, y.2) ≠ (c.clockId, ud)) ∧
      p.1.clockSubs = acc.clockSubs ++ [(c, ud)] := by
  obtain ⟨fd, peb, s⟩ := x
  cases hs : s.data with
  | fdRead f | fdWrite f =>
    obtain ⟨-, hp, -⟩ := validateOne_fd (f := f) (by simp [hs]) h
    exact .inl (congrArg ClockScan.clockSubs hp)
  | clock c =>
    rcases addClock_clockSubs (validateOne_clock hs h).1 with h' | ⟨hnew, h'⟩
    · exact .inl h'
    · exact .inr ⟨c, s.userdata, hnew, h'⟩

/-- **The kept clocks never repeat, and never outnumber the subscriptions.**
Over any list the pass accepts, from clocks with pairwise distinct clock id
and userdata, it keeps at most one clock per subscription and no two with the
same clock id and userdata. -/
theorem validate_clockSubs {l : List PollSub} {r : ClockScan × List PollSub}
    (h : validate fs acc l = .ok r) (hnd : (acc.clockSubs.map fun x => (x.1.clockId, x.2)).Nodup) :
    (r.1.clockSubs.map fun x => (x.1.clockId, x.2)).Nodup ∧
      r.1.clockSubs.length ≤ acc.clockSubs.length + l.length := by
  induction l generalizing acc r with
  | nil => cases h; exact ⟨hnd, by simp⟩
  | cons x l ih =>
    obtain ⟨p, r', hp, hr', rfl⟩ := validate_cons_eq_ok.1 h
    rcases validateOne_clockSubs hp with hc | ⟨c, ud, hnew, hc⟩
    · obtain ⟨hnd', hlen⟩ := ih hr' (hc ▸ hnd)
      exact ⟨hnd', by simp only [List.length_cons, hc] at hlen ⊢; omega⟩
    · have hnd₁ : (p.1.clockSubs.map fun x => (x.1.clockId, x.2)).Nodup := by
        rw [hc, List.map_append, List.nodup_append]
        refine ⟨hnd, List.nodup_singleton _, fun k hk hk' => ?_⟩
        obtain ⟨y, hy, rfl⟩ := List.mem_map.1 hk
        exact hnew y hy (List.mem_singleton.1 hk')
      obtain ⟨hnd', hlen⟩ := ih hr' hnd₁
      exact ⟨hnd', by simp only [List.length_cons, hc, List.length_append, List.length_nil] at hlen ⊢; omega⟩

/-- **The kept clocks never repeat.** For every subscription list the
validation pass of `poll_oneoff_internal` accepts, no two kept clocks have
the same clock id and userdata, and there are no more kept clocks than
subscriptions: a time-out reports each clock at most once. -/
theorem validate_keeps_distinct_clocks (fs : FdTable) {l : List PollSub} {r : ClockScan × List PollSub}
    (h : validate fs .init l = .ok r) :
    (r.1.clockSubs.map fun x => (x.1.clockId, x.2)).Nodup ∧ r.1.clockSubs.length ≤ l.length := by
  simpa [ClockScan.init] using validate_clockSubs h List.nodup_nil

/-- A monotonic clock of 100 ns and one of 50 ns under the same userdata:
only the first is kept. -/
theorem same_clock_kept_once :
    ∃ r, validate ⟨fun _ => none⟩ .init (initSubs [⟨1, .clock ⟨.monotonic, 100, 0, 0⟩⟩,
        ⟨1, .clock ⟨.monotonic, 50, 0, 0⟩⟩]) = .ok r ∧
      (r.1.clockSubs.map fun x => (x.1.clockId, x.2)).Nodup ∧ r.1.clockSubs.length ≤ 2 :=
  (fun h => ⟨_, h, validate_keeps_distinct_clocks _ h⟩) rfl

/-! ## The wait -/

/-- Two monotonic clocks of 50 ns and 100 ns: the wait is the later one's,
and it changes with their order. -/
theorem timeToSleep_depends_on_order (fs : FdTable) :
    (validate fs .init (initSubs [⟨1, .clock ⟨.monotonic, 50, 0, 0⟩⟩,
      ⟨2, .clock ⟨.monotonic, 100, 0, 0⟩⟩])).map (·.1.timeToSleep) = .ok 100 ∧
    (validate fs .init (initSubs [⟨2, .clock ⟨.monotonic, 100, 0, 0⟩⟩,
      ⟨1, .clock ⟨.monotonic, 50, 0, 0⟩⟩])).map (·.1.timeToSleep) = .ok 50 :=
  ⟨rfl, rfl⟩

/-! ## The time-out -/

/-- **A time-out reports every kept clock.** Every valid clock subscription
with a timeout other than `0` and `1` gets a clock event when the batch
times out, whatever its timeout against the wait the call used. -/
theorem mem_timedoutEvents {l : List PollSub} {r : ClockScan × List PollSub}
    (h : validate fs acc l = .ok r) {fd : Option UInt32} {peb : Nat}
    (hs : (fd, peb, ⟨ud, .clock c⟩) ∈ l) (h0 : c.timeout ≠ 0) (h1 : c.timeout ≠ 1) :
    ∃ evts, completionEvents r.1.clockSubs (.error .timedout) = some evts ∧ Event.ofClock ud ∈ evts := by
  refine ⟨_, rfl, ?_⟩
  induction l generalizing acc r with
  | nil => cases hs
  | cons x l ih =>
    obtain ⟨p, r', hp, hr', rfl⟩ := validate_cons_eq_ok.1 h
    rcases List.mem_cons.1 hs with rfl | hx
    · obtain ⟨x, hx, rfl⟩ := exists_userdata_addClock (validateOne_clock rfl hp).1 h0 h1
      exact List.mem_map.2 ⟨x, (validate_grows hr').subset hx, rfl⟩
    · exact ih (r := r') hr' hx

/-- Clocks of 100 ns and 50 ns, then an immediate one: the first, neither the
last nor the shortest, gets its event on a time-out. -/
theorem three_clocks_timeout_event :
    ∃ r, validate ⟨fun _ => none⟩ .init (initSubs [⟨1, .clock ⟨.monotonic, 100, 0, 0⟩⟩,
        ⟨2, .clock ⟨.monotonic, 50, 0, 0⟩⟩, ⟨3, .clock ⟨.realtime, 1, 0, 0⟩⟩]) = .ok r ∧
      ∃ evts, completionEvents r.1.clockSubs (.error .timedout) = some evts ∧
        Event.ofClock 1 ∈ evts :=
  (fun h => ⟨_, h, mem_timedoutEvents h (List.mem_cons_self _ _) (by decide) (by decide)⟩) rfl

/-- Clocks of 100 ns and then 50 ns: the call waits 50 ns, and its time-out
reports both, the 100 ns one included. -/
theorem timedout_reports_unexpired_clock (fs : FdTable) :
    ∃ r, validate fs .init (initSubs [⟨1, .clock ⟨.monotonic, 100, 0, 0⟩⟩,
        ⟨2, .clock ⟨.monotonic, 50, 0, 0⟩⟩]) = .ok r ∧
      asyncifyTime r.1.timeToSleep = some 50 ∧
      completionEvents r.1.clockSubs (.error .timedout) = some [Event.ofClock 1, Event.ofClock 2] :=
  ⟨_, rfl, rfl, rfl⟩

/-! ## The two passes over fds -/

theorem checkFd_of_isStd {f : UInt32} (h : IsStd f) : checkFd fs f = .ok () := by
  simp only [checkFd, if_pos h]

/-- The guard pass looks stdin up like any other fd: absent, it is `Badf`;
held without `POLL_FD_READWRITE`, `Access`. -/
theorem guardFor_stdin {peb : Nat} {s : Subscription}
    (hright : ∀ entry, fs.fdMap stdinFileno = some entry →
      rightsContains entry.rights pollFdReadwrite = false) :
    guardFor fs stdinFileno peb s = .error (if fs.fdMap stdinFileno = none then .badf else .access) := by
  rw [guardFor, if_neg (by decide), if_neg (by decide), FdTable.getFd]
  cases h : fs.fdMap stdinFileno with
  | none => rfl
  | some entry => simp [hright entry h]

/-- **Stdin is checked by the guard pass only.** A subscription on stdin, first
among subscriptions the validation pass lets through, is let through as well,
whatever the fd table holds for stdin. When stdin is absent or held without
`POLL_FD_READWRITE`, the guard pass then refuses it: the call returns `Badf`
or `Access`, the thread untouched. -/
theorem stdin_refused_by_guard_pass (w : MemoryWidth) (env : Env) (fs : FdTable) (s : Subscription)
    (ss : List Subscription) (processEvents : List Event → Memory → Option (Errno × Memory))
    (readiness : PollGuard → Option (List Event)) (rws : List UInt8) (hr : env.rewinding = none)
    (hs : s.data = .fdRead stdinFileno ∨ s.data = .fdWrite stdinFileno)
    (hss : ∀ s' ∈ ss, refusal fs s' = none)
    (hright : ∀ entry, fs.fdMap stdinFileno = some entry →
      rightsContains entry.rights pollFdReadwrite = false) :
    refusal fs s = none ∧
      pollOneoffInternal w env fs (initSubs (s :: ss)) processEvents readiness rws =
        .returned env (.ok (if fs.fdMap stdinFileno = none then .badf else .access)) := by
  have hstdin : refusal fs s = none := by
    rcases hs with hs | hs <;> simp only [refusal, hs, checkFd_of_isStd (.inl rfl)]
  obtain ⟨r, hval⟩ : ∃ r, validate fs .init (initSubs (s :: ss)) = .ok r :=
    validate_ok_of_refusal fun x hx => by
      obtain ⟨s', hs', rfl⟩ := List.mem_map.1 hx
      rcases List.mem_cons.1 hs' with rfl | hs'
      · exact hstdin
      · exact hss s' hs'
  obtain ⟨p, r', hp, -, rfl⟩ := validate_cons_eq_ok.1 hval
  obtain ⟨-, -, peb, hp₂⟩ := validateOne_fd hs hp
  refine ⟨hstdin, ?_⟩
  simp only [pollOneoffInternal, Env.handleRewind_of_none hr, hval, hp₂, buildGuards,
    guardFor_stdin hright]
  rfl

/-- Stdin held with no right, polled for reading before a clock: the
validation pass lets it through, and the call returns `Access`. -/
theorem stdin_without_right_refused :
    let fs : FdTable := ⟨fun f => if f = 0 then some ⟨0, .file true⟩ else none⟩
    let env : Env := ⟨⟨256, fun _ => 0, by decide⟩, ⟨128, 256, by decide, by decide⟩, 200, none, 0⟩
    env.rewinding = none ∧ refusal fs ⟨7, .fdRead 0⟩ = none ∧
      pollOneoffInternal .memory32 env fs
          (initSubs [⟨7, .fdRead 0⟩, ⟨8, .clock ⟨.monotonic, 1000, 0, 0⟩⟩])
          (fun _ m => some (.success, m)) (fun _ => none) [] =
        .returned env (.ok .access) := by
  intro fs env
  obtain ⟨h₁, h₂⟩ := stdin_refused_by_guard_pass .memory32 env fs ⟨7, .fdRead 0⟩
    [⟨8, .clock ⟨.monotonic, 1000, 0, 0⟩⟩] (fun _ m => some (.success, m)) (fun _ => none) []
    rfl (.inl rfl) (by decide) fun entry h => by cases h; rfl
  exact ⟨rfl, h₁, h₂⟩

end Poll

end Wasix
