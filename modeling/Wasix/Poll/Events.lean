import Wasix.Poll.Oneoff
/-!
# Wasix — what the guest reads back from `poll_oneoff`

`process_events` writes the events into the slots of `out_`, one after
another, then their count into `*nevents`; an event past the
`nsubscriptions` slots panics the host thread. `EventsWritten` is what the
guest then reads back: each event's fields, whatever the padding bytes the
source leaves uninitialised hold. `processEvents_eq_some` shows it is
written.

Three results follow the whole syscall. `pollOneoff_nonblocking`: a poll
whose wait comes out as zero polls its guards once and reports exactly the
events they reported. `pollOneoff_completion`: a poll that sleeps leaves a
completion that reports, on a time-out, one event per clock the call kept,
and cannot panic then, since the validation pass keeps at most one clock per
subscription. And `pollOneoff_error_frame`: a call that fails writes nothing
but the count, and fails with the errno of the read, of the clearing of the
count, or of one of the two passes.
-/

namespace Wasix

namespace Poll

/-- The guest's output buffers fit in `mem`: the `nsubscriptions` event slots
of `out_` and the count at `nevents` lie inside it, and apart. -/
def Fits (w : MemoryWidth) (args : PollArgs) (mem : Memory) : Prop :=
  args.outPtr + args.nsubscriptions * eventSize ≤ mem.size ∧
    args.nevents + w.offsetSize ≤ mem.size ∧
    (args.nevents + w.offsetSize ≤ args.outPtr ∨ args.outPtr + args.nsubscriptions * eventSize ≤ args.nevents)

instance (w : MemoryWidth) (args : PollArgs) (mem : Memory) : Decidable (Fits w args mem) :=
  inferInstanceAs (Decidable (args.outPtr + args.nsubscriptions * eventSize ≤ mem.size ∧
    args.nevents + w.offsetSize ≤ mem.size ∧
    (args.nevents + w.offsetSize ≤ args.outPtr ∨ args.outPtr + args.nsubscriptions * eventSize ≤ args.nevents)))

/-- What the guest reads back once `process_events` has written `evts` over
`before`: the fields of event `i` in slot `i` of `out_` (its padding bytes
unspecified), their count at `nevents`, and every byte outside the written
slots and the count as it was. -/
structure EventsWritten (w : MemoryWidth) (args : PollArgs) (evts : List Event)
    (before after : Memory) : Prop where
  size : after.size = before.size
  events : ∀ i (h : i < evts.length),
    evts[i].Fields (after.load (args.outPtr + i * eventSize) eventSize)
  count : after.load args.nevents w.offsetSize = leBytes evts.length w.offsetSize
  frame : ∀ a, a < args.outPtr ∨ args.outPtr + evts.length * eventSize ≤ a →
    a < args.nevents ∨ args.nevents + w.offsetSize ≤ a → after.data a = before.data a

variable {out nsubs : Nat}

/-- **The event loop writes event `j` into slot `i + j`**, and touches no
byte outside the slots it writes. -/
theorem writeEvents_eq_ok {i : Nat} {evts : List Event} {mem : Memory}
    (hlen : i + evts.length ≤ nsubs) (hfit : out + nsubs * eventSize ≤ mem.size) :
    ∃ mem', writeEvents out nsubs i evts mem = some (.ok (i + evts.length), mem') ∧
      mem'.size = mem.size ∧
      (∀ j (h : j < evts.length), mem'.load (out + (i + j) * eventSize) eventSize = evts[j].encode) ∧
      ∀ a, a < out + i * eventSize ∨ out + (i + evts.length) * eventSize ≤ a → mem'.data a = mem.data a := by
  induction evts generalizing i mem with
  | nil => exact ⟨mem, rfl, rfl, fun j h => absurd h (by simp), fun _ _ => rfl⟩
  | cons e es ih =>
    simp only [List.length_cons] at hlen ⊢
    have hw : mem.write (out + i * eventSize) e.encode = .ok (mem.store (out + i * eventSize) e.encode) :=
      Memory.write_eq_ok.2 ⟨by simp only [Event.length_encode, eventSize] at *; omega, rfl⟩
    obtain ⟨mem', hrun, hsize, hload, hframe⟩ :=
      @ih (i + 1) (mem.store (out + i * eventSize) e.encode) (by omega) (by simpa using hfit)
    refine ⟨mem', ?_, by simpa using hsize, fun j hj => ?_, fun a ha => ?_⟩
    · rw [writeEvents, if_neg (by omega), hw]
      simpa [Nat.add_assoc, Nat.add_comm 1] using hrun
    · cases j with
      | zero =>
        have hself := Memory.load_store_self (m := mem) (out + i * eventSize) e.encode
        rw [Event.length_encode] at hself
        rw [List.getElem_cons_zero, Nat.add_zero, ← hself]
        exact Memory.load_congr fun k hk => hframe _ (.inl (by simp only [eventSize] at *; omega))
      | succ j =>
        simpa [Nat.add_assoc, Nat.add_comm 1] using hload j (by simpa using hj)
    · rw [hframe a (by simp only [eventSize] at *; omega),
        Memory.store_data_of_not_mem (by simp only [Event.length_encode, eventSize] at *; omega)]

/-- Past the slots of the slice, the loop panics. -/
theorem writeEvents_eq_none {i : Nat} {evts : List Event} {mem : Memory} (hi : i ≤ nsubs)
    (hlen : nsubs < i + evts.length) (hfit : out + nsubs * eventSize ≤ mem.size) :
    writeEvents out nsubs i evts mem = none := by
  induction evts generalizing i mem with
  | nil => simp at hlen; omega
  | cons e es ih =>
    rw [writeEvents]
    split_ifs with hn
    · rfl
    · have hw : mem.write (out + i * eventSize) e.encode =
          .ok (mem.store (out + i * eventSize) e.encode) :=
        Memory.write_eq_ok.2 ⟨by simp only [Event.length_encode, eventSize] at *; omega, rfl⟩
      rw [hw]
      exact ih (by omega) (by simp only [List.length_cons] at hlen; omega) (by simpa using hfit)

variable {w : MemoryWidth} {args : PollArgs} {evts : List Event} {mem : Memory}

/-- **`process_events` writes the events and their count.** -/
theorem processEvents_eq_some (hfits : Fits w args mem) (hlen : evts.length ≤ args.nsubscriptions) :
    ∃ mem', processEvents w args evts mem = some (.success, mem') ∧ EventsWritten w args evts mem mem' := by
  obtain ⟨hout, hcnt, hdisj⟩ := hfits
  obtain ⟨mem₁, hrun, hsize, hload, hframe⟩ :=
    writeEvents_eq_ok (i := 0) (by simpa using hlen) hout
  simp only [Nat.zero_add, Nat.zero_mul, Nat.add_zero] at hrun hload hframe
  have hw : mem₁.write args.nevents (leBytes evts.length w.offsetSize) =
      .ok (mem₁.store args.nevents (leBytes evts.length w.offsetSize)) :=
    Memory.write_eq_ok.2 ⟨by rw [length_leBytes, hsize]; exact hcnt, rfl⟩
  refine ⟨mem₁.store args.nevents (leBytes evts.length w.offsetSize), ?_, by simpa using hsize,
    fun i hi => ?_, ?_, fun a ha hb => ?_⟩
  · simp only [processEvents, Memory.sliceCheck_eq_ok.2
      (show args.outPtr + args.nsubscriptions * eventSize < 2 ^ 64 by have := mem.size_lt; omega), hrun,
      Option.map_some', hw]
  · rw [Memory.load_store_of_disjoint (by
      rw [length_leBytes]
      have := Nat.mul_le_mul_right eventSize (show i + 1 ≤ args.nsubscriptions by omega)
      simp only [eventSize] at *; omega), hload i hi]
    exact Event.fields_encode _
  · simpa using Memory.load_store_self (m := mem₁) args.nevents (leBytes evts.length w.offsetSize)
  · rw [Memory.store_data_of_not_mem (by rw [length_leBytes]; omega), hframe a (by omega)]

/-- More events than slots make `process_events` panic. -/
theorem processEvents_eq_none (hout : args.outPtr + args.nsubscriptions * eventSize ≤ mem.size)
    (hlen : args.nsubscriptions < evts.length) : processEvents w args evts mem = none := by
  simp only [processEvents, Memory.sliceCheck_eq_ok.2
      (show args.outPtr + args.nsubscriptions * eventSize < 2 ^ 64 by have := mem.size_lt; omega),
    writeEvents_eq_none (Nat.zero_le _) (by simpa using hlen) hout, Option.map_none']

theorem EventsWritten.of_store_count {before after : Memory} {bs : List UInt8}
    (hbs : bs.length = w.offsetSize) (h : EventsWritten w args evts (before.store args.nevents bs) after) :
    EventsWritten w args evts before after :=
  ⟨h.size, h.events, h.count, fun a ha hb => by
    rw [h.frame a ha hb, Memory.store_data_of_not_mem (by omega)]⟩

/-- Polled once, the batch hands the completion the events every ready guard
reported: the list itself, or `Again`, which stands for none. -/
theorem completionEvents_pollOnce (clocks : List (SubscriptionClock × UInt64))
    (joins : List (Option (List Event))) :
    completionEvents clocks ((pollBatch joins).getD (.error .again)) =
      some (joins.filterMap id).flatten := by
  unfold pollBatch
  dsimp only
  split_ifs with h
  · rw [List.isEmpty_iff.1 h]; rfl
  · rfl

variable {env : Env} {fs : FdTable} {readiness : PollGuard → Option (List Event)} {rws : List UInt8}

/-- Past the read and the clearing of `*nevents`, `poll_oneoff` is
`poll_oneoff_internal` with `process_events`. -/
theorem pollOneoff_eq_internal {subs : List Subscription} {mem₀ : Memory}
    (hread : readSubscriptions env.memory args env.bumpPollSeed.pollSeed = .ok subs)
    (hw : env.memory.write args.nevents (leBytes 0 w.offsetSize) = .ok mem₀) :
    pollOneoff w env fs args readiness rws =
      pollOneoffInternal w { env.bumpPollSeed with memory := mem₀ } fs (initSubs subs)
        (processEvents w args) readiness rws := by
  simp only [pollOneoff]
  rw [show env.bumpPollSeed.memory = env.memory from rfl, hread]
  simp only [hw]

/-- Entered with no rewind pending, `poll_oneoff_internal` returns an errno
other than `Success` only from one of its two passes, with the env as it
found it: the validation pass's refusal, or the guard pass's. -/
theorem pollOneoffInternal_returned_error {subs : List PollSub}
    {pe : List Event → Memory → Option (Errno × Memory)} {env' : Env} {e : Errno}
    (hr : env.rewinding = none)
    (h : pollOneoffInternal w env fs subs pe readiness rws = .returned env' (.ok e))
    (he : e ≠ .success) :
    env' = env ∧ (validate fs .init subs = .error e ∨
      ∃ scan subs', validate fs .init subs = .ok (scan, subs') ∧ buildGuards fs subs' = .error e) := by
  simp only [pollOneoffInternal, Env.handleRewind_of_none hr] at h
  split at h
  · cases h; exact ⟨rfl, .inl (by assumption)⟩
  · split at h
    · cases h; exact ⟨rfl, .inr ⟨_, _, by assumption, by assumption⟩⟩
    · split at h <;> cases h
      exact absurd rfl he

/-- **A failed `poll_oneoff` writes nothing but the count.** A call entered
with no rewind pending that returns an errno other than `Success` has
advanced the seed and left the memory as it was, but for `*nevents`, which it
may have cleared; no event slot is written. The errno is the read's (the
array's end overflows, or a slot is out of bounds or does not decode), the
clearing write's, the validation pass's refusal, or the guard pass's. -/
theorem pollOneoff_error_frame (w : MemoryWidth) (env : Env) (fs : FdTable) (args : PollArgs)
    (readiness : PollGuard → Option (List Event)) (rws : List UInt8) {env' : Env} {e : Errno}
    (hr : env.rewinding = none) (h : pollOneoff w env fs args readiness rws = .returned env' (.ok e))
    (he : e ≠ .success) :
    (∃ mem', env' = { env.bumpPollSeed with memory := mem' } ∧ mem'.size = env.memory.size ∧
      ∀ a, a < args.nevents ∨ args.nevents + w.offsetSize ≤ a → mem'.data a = env.memory.data a) ∧
    (readSubscriptions env.memory args env.bumpPollSeed.pollSeed = .error e ∨
      ∃ subs, readSubscriptions env.memory args env.bumpPollSeed.pollSeed = .ok subs ∧
        (env.memory.write args.nevents (leBytes 0 w.offsetSize) = .error e ∨
          validate fs .init (initSubs subs) = .error e ∨
          ∃ scan subs', validate fs .init (initSubs subs) = .ok (scan, subs') ∧
            buildGuards fs subs' = .error e)) := by
  simp only [pollOneoff] at h
  split at h
  · cases h; exact ⟨⟨env.memory, rfl, rfl, fun _ _ => rfl⟩, .inl (by assumption)⟩
  · rename_i subs hread
    split at h
    · cases h; exact ⟨⟨env.memory, rfl, rfl, fun _ _ => rfl⟩, .inr ⟨subs, hread, .inl (by assumption)⟩⟩
    · rename_i mem₀ hw
      obtain ⟨-, rfl⟩ := Memory.write_eq_ok.1 hw
      obtain ⟨henv, hsrc⟩ := pollOneoffInternal_returned_error
        (show Env.rewinding { env.bumpPollSeed with memory := _ } = none from hr) h he
      exact ⟨⟨_, henv, rfl, fun a ha => Memory.store_data_of_not_mem (by rw [length_leBytes]; omega)⟩,
        .inr ⟨subs, hread, .inr hsrc⟩⟩

/-- An fd subscription on fd 5 of an empty fd table, read from address 0: the
validation pass refuses it with `Badf`, and only the count is cleared. -/
theorem missing_fd_poll_fails :
    let env : Env := ⟨⟨65536, fun a => [7, 0, 0, 0, 0, 0, 0, 0, 1, 0, 0, 0, 0, 0, 0, 0, 5].getD a 0,
      by decide⟩, ⟨32768, 65536, by decide, by decide⟩, 65504, none, 0⟩
    ∃ env', pollOneoff .memory32 env ⟨fun _ => none⟩ ⟨0, 48, 1, 80⟩ (fun _ => none) [] =
        .returned env' (.ok .badf) ∧ env.rewinding = none ∧ Errno.badf ≠ .success ∧
      (∃ mem', env' = { env.bumpPollSeed with memory := mem' } ∧ mem'.size = env.memory.size ∧
        ∀ a, a < 80 ∨ 80 + 4 ≤ a → mem'.data a = env.memory.data a) ∧
      (readSubscriptions env.memory ⟨0, 48, 1, 80⟩ env.bumpPollSeed.pollSeed = .error .badf ∨
        ∃ subs, readSubscriptions env.memory ⟨0, 48, 1, 80⟩ env.bumpPollSeed.pollSeed = .ok subs ∧
          (env.memory.write 80 (leBytes 0 4) = .error .badf ∨
            validate ⟨fun _ => none⟩ .init (initSubs subs) = .error .badf ∨
            ∃ scan subs', validate ⟨fun _ => none⟩ .init (initSubs subs) = .ok (scan, subs') ∧
              buildGuards ⟨fun _ => none⟩ subs' = .error .badf)) :=
  (fun h => ⟨_, h, rfl, by decide, pollOneoff_error_frame _ _ _ _ _ _ rfl h (by decide)⟩) rfl

/-- A poll that does not wait polls its guards once and completes at once. -/
theorem pollOneoffInternal_of_nonblocking {subs subs' : List PollSub} {scan : ClockScan}
    {guards : List PollGuard} {pe : List Event → Memory → Option (Errno × Memory)}
    (hr : env.rewinding = none) (hval : validate fs .init subs = .ok (scan, subs'))
    (hguards : buildGuards fs subs' = .ok guards) (hnb : scan.timeToSleep = 0) :
    pollOneoffInternal w env fs subs pe readiness rws =
      match pe ((guards.map readiness).filterMap id).flatten env.memory with
      | some (_, mem') => .returned { env with memory := mem' } (.ok .success)
      | none => .panicked := by
  simp only [pollOneoffInternal, Env.handleRewind_of_none hr, hval, hguards, hnb, asyncifyTime,
    asyncifyWithDeepSleepExt, if_true, onComplete, completionEvents_pollOnce]
  cases pe ((guards.map readiness).filterMap id).flatten env.memory <;> rfl

/-- **A nonblocking poll reports what its guards reported.** Take a
`poll_oneoff` call with no rewind pending, whose subscriptions are read and
accepted by both passes, and whose wait comes out as zero (its last clock
asks for an immediate poll), with the output buffers inside memory and
apart. It polls every guard once; the events they reported, in guard order,
fit in `nsubscriptions` or the call panics. When they fit, the call returns
`Success`, the guest reads event `i` in slot `i` of `out_` and their count at
`nevents`, and no other byte changed. -/
theorem pollOneoff_nonblocking (w : MemoryWidth) (env : Env) (fs : FdTable) (args : PollArgs)
    (readiness : PollGuard → Option (List Event)) (rws : List UInt8) {subs : List Subscription}
    {scan : ClockScan} {subs' : List PollSub} {guards : List PollGuard}
    (hr : env.rewinding = none)
    (hread : readSubscriptions env.memory args env.bumpPollSeed.pollSeed = .ok subs)
    (hval : validate fs .init (initSubs subs) = .ok (scan, subs'))
    (hguards : buildGuards fs subs' = .ok guards) (hnb : scan.timeToSleep = 0)
    (hfits : Fits w args env.memory) :
    (((guards.map readiness).filterMap id).flatten.length ≤ args.nsubscriptions →
      ∃ env', pollOneoff w env fs args readiness rws = .returned env' (.ok .success) ∧
        EventsWritten w args ((guards.map readiness).filterMap id).flatten env.memory env'.memory) ∧
    (args.nsubscriptions < ((guards.map readiness).filterMap id).flatten.length →
      pollOneoff w env fs args readiness rws = .panicked) := by
  have hw : env.memory.write args.nevents (leBytes 0 w.offsetSize) =
      .ok (env.memory.store args.nevents (leBytes 0 w.offsetSize)) :=
    Memory.write_eq_ok.2 ⟨by rw [length_leBytes]; exact hfits.2.1, rfl⟩
  have hfits₀ : Fits w args (env.memory.store args.nevents (leBytes 0 w.offsetSize)) := hfits
  rw [pollOneoff_eq_internal hread hw, pollOneoffInternal_of_nonblocking
    (show Env.rewinding { env.bumpPollSeed with memory := _ } = none from hr) hval hguards hnb]
  refine ⟨fun hlen => ?_, fun hlen => ?_⟩
  · obtain ⟨mem', hpe, hwr⟩ := processEvents_eq_some hfits₀ hlen
    exact ⟨_, by rw [hpe], hwr.of_store_count (length_leBytes _ _)⟩
  · rw [processEvents_eq_none hfits₀.1 hlen]

/-- A monotonic clock asking for an immediate poll (userdata 7) and a read on
fd 3 (userdata 9), read at seed 1 from address 0, with two event slots at 96
and the count at 160. The rotation reads the fd first; its guard reports five
bytes ready, and the call writes that one event. -/
theorem ready_fd_poll :
    let env : Env := ⟨⟨65536, fun a => [7, 0, 0, 0, 0, 0, 0, 0, 0, 0, 0, 0, 0, 0, 0, 0, 1, 0, 0, 0,
      0, 0, 0, 0, 1, 0, 0, 0, 0, 0, 0, 0, 0, 0, 0, 0, 0, 0, 0, 0, 0, 0, 0, 0, 0, 0, 0, 0,
      9, 0, 0, 0, 0, 0, 0, 0, 1, 0, 0, 0, 0, 0, 0, 0, 3].getD a 0, by decide⟩,
      ⟨32768, 65536, by decide, by decide⟩, 65504, none, 0⟩
    let fs : FdTable := ⟨fun f => if f = 3 then some ⟨pollFdReadwrite, .file true⟩ else none⟩
    let args : PollArgs := ⟨0, 96, 2, 160⟩
    let subs : List Subscription := [⟨9, .fdRead 3⟩, ⟨7, .clock ⟨.monotonic, 1, 0, 0⟩⟩]
    let subs' : List PollSub := [(some 3, pollIn, ⟨9, .fdRead 3⟩), (none, 0, ⟨7, .clock ⟨.monotonic, 1, 0, 0⟩⟩)]
    let guards : List PollGuard := [⟨3, pollIn, ⟨9, .fdRead 3⟩⟩]
    let readiness : PollGuard → Option (List Event) :=
      fun g => some [⟨g.subscription.userdata, .success, .fdRead, .fdReadwrite 5 0⟩]
    env.rewinding = none ∧
      readSubscriptions env.memory args env.bumpPollSeed.pollSeed = .ok subs ∧
      validate fs .init (initSubs subs) = .ok (⟨[], 0⟩, subs') ∧
      buildGuards fs subs' = .ok guards ∧ (⟨[], 0⟩ : ClockScan).timeToSleep = 0 ∧
      Fits .memory32 args env.memory ∧
      ((((guards.map readiness).filterMap id).flatten.length ≤ 2 →
        ∃ env', pollOneoff .memory32 env fs args readiness [] = .returned env' (.ok .success) ∧
          EventsWritten .memory32 args ((guards.map readiness).filterMap id).flatten
            env.memory env'.memory) ∧
        (2 < ((guards.map readiness).filterMap id).flatten.length →
          pollOneoff .memory32 env fs args readiness [] = .panicked)) := by
  refine ⟨rfl, rfl, rfl, rfl, rfl, by decide, ?_⟩
  apply pollOneoff_nonblocking .memory32 _ ⟨fun f => if f = 3 then some ⟨pollFdReadwrite, .file true⟩ else none⟩
    ⟨0, 96, 2, 160⟩
  all_goals first | rfl | decide

theorem length_of_readSubscriptions_eq_ok {mem : Memory} {seed : Nat} {subs : List Subscription}
    (h : readSubscriptions mem args seed = .ok subs) : subs.length = args.nsubscriptions := by
  rw [readSubscriptions_eq] at h
  split at h
  · cases h
  · simpa using length_of_mapM_eq_ok h

/-- A sleeping `poll_oneoff` read its subscriptions, the validation pass
accepted them, and the completion it left is `process_events` over the
events of the batch's resolution. -/
theorem pollOneoff_eq_sleeping_after {env₁ : Env} {rs : RewindState}
    {after : Except Errno (List Event) → Memory → Option Memory}
    (h : pollOneoff w env fs args readiness rws = .sleeping env₁ rs after) :
    ∃ subs scan subs', readSubscriptions env.memory args env.bumpPollSeed.pollSeed = .ok subs ∧
      validate fs .init (initSubs subs) = .ok (scan, subs') ∧
      after = onComplete (processEvents w args) scan.clockSubs := by
  simp only [pollOneoff] at h
  split at h <;> try cases h
  rename_i subs hread
  split at h <;> try cases h
  unfold pollOneoffInternal at h
  split at h <;> try cases h
  split at h <;> try cases h
  rename_i scan subs' hval
  split at h <;> try cases h
  dsimp only at h
  split at h <;> cases h
  exact ⟨subs, scan, subs', hread, hval, rfl⟩

/-- What the completion a sleeping `poll_oneoff` leaves behind does to a
memory the output buffers fit in, for every way the batch can resolve;
`clocks` are the clocks the call kept. -/
structure CompletionSpec (w : MemoryWidth) (args : PollArgs) (clocks : List (SubscriptionClock × UInt64))
    (after : Except Errno (List Event) → Memory → Option Memory) : Prop where
  /-- A time-out writes one clock event per kept clock, and never panics. -/
  timedout : ∀ mem, Fits w args mem → ∃ mem', after (.error .timedout) mem = some mem' ∧
    EventsWritten w args (clocks.map fun x => Event.ofClock x.2) mem mem'
  /-- Events the batch reported are written when they fit in the slots… -/
  ready : ∀ mem evts, Fits w args mem → evts.length ≤ args.nsubscriptions →
    ∃ mem', after (.ok evts) mem = some mem' ∧ EventsWritten w args evts mem mem'
  /-- …and panic the host thread when they do not. -/
  overflow : ∀ mem evts, args.outPtr + args.nsubscriptions * eventSize ≤ mem.size →
    args.nsubscriptions < evts.length → after (.ok evts) mem = none
  /-- `Again` writes no event and a count of zero. -/
  again : ∀ mem, Fits w args mem → ∃ mem', after (.error .again) mem = some mem' ∧
    EventsWritten w args [] mem mem'
  /-- Any other failure writes nothing. -/
  failed : ∀ mem e, e ≠ .timedout → e ≠ .again → after (.error e) mem = some mem

/-- The completion of a call that kept at most `nsubscriptions` clocks. -/
theorem onComplete_spec {clocks : List (SubscriptionClock × UInt64)}
    (hclocks : clocks.length ≤ args.nsubscriptions) :
    CompletionSpec w args clocks (onComplete (processEvents w args) clocks) where
  timedout mem hfits := by
    obtain ⟨mem', hpe, hwr⟩ := processEvents_eq_some hfits
      (show (clocks.map fun x => Event.ofClock x.2).length ≤ args.nsubscriptions by simpa using hclocks)
    exact ⟨mem', by simp [onComplete, completionEvents, hpe], hwr⟩
  ready mem evts hfits hlen := by
    obtain ⟨mem', hpe, hwr⟩ := processEvents_eq_some hfits hlen
    exact ⟨mem', by simp [onComplete, completionEvents, hpe], hwr⟩
  overflow mem evts hout hlen := by simp [onComplete, completionEvents, processEvents_eq_none hout hlen]
  again mem hfits := by
    obtain ⟨mem', hpe, hwr⟩ := processEvents_eq_some hfits
      (show ([] : List Event).length ≤ args.nsubscriptions from Nat.zero_le _)
    exact ⟨mem', by simp [onComplete, completionEvents, hpe], hwr⟩
  failed mem e h₁ h₂ := by
    cases e <;> first | rfl | exact absurd rfl h₁ | exact absurd rfl h₂

/-- **What a poll that slept writes when it wakes.** For every `poll_oneoff`
call that goes into a deep sleep, the completion it leaves behind, run on
any memory its output buffers fit in: on a time-out writes one clock event
per clock the call kept, in order, with their count, and never panics (the
call kept at most one clock per subscription); writes the events the batch
reported when they fit in `nsubscriptions` slots and panics when they do
not; writes a count of zero on `Again`; and writes nothing on any other
failure. -/
theorem pollOneoff_completion (w : MemoryWidth) (env : Env) (fs : FdTable) (args : PollArgs)
    (readiness : PollGuard → Option (List Event)) (rws : List UInt8) {env₁ : Env}
    {rs : RewindState} {after : Except Errno (List Event) → Memory → Option Memory}
    (h : pollOneoff w env fs args readiness rws = .sleeping env₁ rs after) :
    ∃ subs scan subs', readSubscriptions env.memory args env.bumpPollSeed.pollSeed = .ok subs ∧
      validate fs .init (initSubs subs) = .ok (scan, subs') ∧
      CompletionSpec w args scan.clockSubs after := by
  obtain ⟨subs, scan, subs', hread, hval, rfl⟩ := pollOneoff_eq_sleeping_after h
  have hlen := (validate_clockSubs hval List.nodup_nil).2
  simp only [ClockScan.init, List.length_nil, Nat.zero_add, initSubs, List.length_map,
    length_of_readSubscriptions_eq_ok hread] at hlen
  exact ⟨subs, scan, subs', hread, hval, onComplete_spec hlen⟩

/-- One monotonic clock of 1000 ns, read from address 0, goes into a deep
sleep; its completion is specified with the one clock it kept. -/
theorem sleeping_clock_completion :
    ∃ env₁ rs after, pollOneoff .memory32
        ⟨⟨256, fun a => [7, 0, 0, 0, 0, 0, 0, 0, 0, 0, 0, 0, 0, 0, 0, 0, 1, 0, 0, 0, 0, 0, 0, 0,
          232, 3].getD a 0, by decide⟩, ⟨128, 256, by decide, by decide⟩, 200, none, 0⟩
        ⟨fun _ => none⟩ ⟨0, 48, 1, 80⟩ (fun _ => none) [] = .sleeping env₁ rs after ∧
      ∃ subs scan subs', readSubscriptions
          ⟨256, fun a => [7, 0, 0, 0, 0, 0, 0, 0, 0, 0, 0, 0, 0, 0, 0, 0, 1, 0, 0, 0, 0, 0, 0, 0,
            232, 3].getD a 0, by decide⟩ ⟨0, 48, 1, 80⟩ 1 = .ok subs ∧
        validate ⟨fun _ => none⟩ .init (initSubs subs) = .ok (scan, subs') ∧
        CompletionSpec .memory32 ⟨0, 48, 1, 80⟩ scan.clockSubs after :=
  (fun h => ⟨_, _, _, h, pollOneoff_completion _ _ _ _ _ _ h⟩) rfl

end Poll

end Wasix
