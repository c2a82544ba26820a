import Wasix.Poll.Internal
/-!
# Wasix — `poll_oneoff`, and the call across a deep sleep

The syscall proper: the seed is advanced, the subscriptions are read from
guest memory starting at a rotated slot, `*nevents` is cleared, and
`poll_oneoff_internal` runs with `process_events` as its completion. A
blocking poll unwinds; `pollOneoffAcrossSleep` follows the call through
the completion, the respawn's `rewind` and the guest's re-entry into the
same syscall, which `handle_rewind` ends.

`nevents_zero_across_sleep` is what the guest then sees: the re-entry
clears `*nevents` again before `handle_rewind` is reached, so a call that
slept returns `Success` with a count of zero, whatever the completion wrote.

`readSubscriptions_rotated` is the read loop's law: while the seed and the
count stay below `2^64`, the loop reads the subscription array rotated left
by `poll_seed mod nsubscriptions`, so each slot is read once, and over
`nsubscriptions` consecutive seeds each slot is read first once.
-/

namespace Wasix

namespace Poll

/-- The guest's arguments to `poll_oneoff`: the subscriptions `in_`, the events
`out_`, `nsubscriptions`, and where the count goes (`nevents`). -/
structure PollArgs where
  inPtr : Nat
  outPtr : Nat
  nsubscriptions : Nat
  nevents : Nat
  deriving DecidableEq, Repr

/-- The slot the `n`-th read takes: `(n + poll_seed) % len` on `u64`s. -/
def rotatedIndex (seed len n : Nat) : Nat := (n + seed) % 2 ^ 64 % len

/-- `subscription_array.index(i).read()`: slot `i`'s bytes, read with the
access check, then decoded. -/
def readSlot (mem : Memory) (args : PollArgs) (i : Nat) : Except Errno Subscription :=
  match mem.read (args.inPtr + i * subscriptionSize) subscriptionSize with
  | .error e => .error e
  | .ok bs =>
    match Subscription.decode bs with
    | some s => .ok s
    | none => .error .memviolation

/-- The read loop of `poll_oneoff`: `in_.slice` only checks that the array's
end does not overflow; the slots are then read one at a time in rotated
order, each with its own access check. -/
def readSubscriptions (mem : Memory) (args : PollArgs) (seed : Nat) :
    Except Errno (List Subscription) :=
  match Memory.sliceCheck args.inPtr (args.nsubscriptions * subscriptionSize) with
  | .error e => .error e
  | .ok () =>
    (List.range args.nsubscriptions).mapM fun n =>
      readSlot mem args (rotatedIndex seed args.nsubscriptions n)

/-- The event loop of `process_events`: event `i` goes to `out_[i]`, each
write with its own access check. A failed write ends the loop with the events
before it written; an index past the `nsubscriptions` the slice holds panics
(`WasmSlice::index`), `none` here. -/
def writeEvents (out nsubs : Nat) : Nat → List Event → Memory → Option (Except Errno Nat × Memory)
  | i, [], mem => some (.ok i, mem)
  | i, e :: es, mem =>
    if nsubs ≤ i then none
    else
      match mem.write (out + i * eventSize) e.encode with
      | .error err => some (.error err, mem)
      | .ok mem' => writeEvents out nsubs (i + 1) es mem'

/-- `process_events`: `out_.slice` checks that the slots' end does not
overflow, the events are written into the slots, then their count into
`*nevents`. The errno is what the closure returns, with the memory as far as
it got; `none` is a panic. -/
def processEvents (w : MemoryWidth) (args : PollArgs) (events : List Event) (mem : Memory) :
    Option (Errno × Memory) :=
  match Memory.sliceCheck args.outPtr (args.nsubscriptions * eventSize) with
  | .error e => some (e, mem)
  | .ok () =>
    (writeEvents args.outPtr args.nsubscriptions 0 events mem).map fun
      | (.error e, mem') => (e, mem')
      | (.ok seen, mem') =>
        match mem'.write args.nevents (leBytes seen w.offsetSize) with
        | .error e => (e, mem')
        | .ok mem'' => (.success, mem'')

/-- `poll_oneoff`; signals are not modelled. -/
def pollOneoff (w : MemoryWidth) (env : Env) (fs : FdTable) (args : PollArgs)
    (readiness : PollGuard → Option (List Event)) (rewindStack : List UInt8) : Outcome :=
  let env := env.bumpPollSeed
  match readSubscriptions env.memory args env.pollSeed with
  | .error e => .returned env (.ok e)
  | .ok subs =>
    match env.memory.write args.nevents (leBytes 0 w.offsetSize) with
    | .error e => .returned env (.ok e)
    | .ok mem =>
      pollOneoffInternal w { env with memory := mem } fs (initSubs subs) (processEvents w args)
        readiness rewindStack

/-- A `poll_oneoff` call through one deep sleep, up to its return to the guest:
the first entry unwinds, the work resolves with `res` and the completion
runs, the respawn rewinds, and the guest re-enters `poll_oneoff` with the
same arguments. `none` when the call takes another path (no sleep, a panic,
a refused rewind, a second sleep). -/
def pollOneoffAcrossSleep (w : MemoryWidth) (env : Env) (fs : FdTable) (args : PollArgs)
    (readiness : PollGuard → Option (List Event)) (rewindStack : List UInt8)
    (res : Except Errno (List Event)) : Option (Env × Except WasiError Errno) :=
  match pollOneoff w env fs args readiness rewindStack with
  | .sleeping env₁ rs after =>
    match after res env₁.memory with
    | none => none
    | some mem =>
      match { env₁ with memory := mem }.rewind rs.memoryStack rs.rewindStack rs.storeData with
      | (.success, env₂) =>
        match pollOneoff w env₂ fs args readiness rewindStack with
        | .returned env₃ r => some (env₃, r)
        | _ => none
      | _ => none
  | _ => none

variable {w : MemoryWidth} {env env' : Env} {fs : FdTable} {args : PollArgs}
  {readiness : PollGuard → Option (List Event)} {rws : List UInt8}

/-- A slot read fails with a memory error. -/
theorem readSlot_eq_error {mem : Memory} {i : Nat} {e : Errno} (h : readSlot mem args i = .error e) :
    e = .overflow ∨ e = .memviolation := by
  unfold readSlot at h
  split at h
  · cases h; exact Memory.read_eq_error_of (by assumption)
  · split at h <;> cases h
    exact .inr rfl

/-- A failed read is a memory error, never `Success`. -/
theorem readSubscriptions_eq_error {mem : Memory} {seed : Nat} {e : Errno}
    (h : readSubscriptions mem args seed = .error e) : e = .overflow ∨ e = .memviolation := by
  unfold readSubscriptions at h
  split at h
  · cases h; exact .inl (Memory.sliceCheck_eq_error (by assumption))
  · obtain ⟨n, -, hn⟩ := mapM_eq_error h
    exact readSlot_eq_error hn

/-- A sleeping `poll_oneoff_internal` unwound the thread as it found it. -/
theorem pollOneoffInternal_eq_sleeping {subs : List PollSub}
    {pe : List Event → Memory → Option (Errno × Memory)} {env₁ : Env} {rs : RewindState}
    {after : Except Errno (List Event) → Memory → Option Memory}
    (h : pollOneoffInternal w env fs subs pe readiness rws = .sleeping env₁ rs after) :
    env.rewinding = none ∧ env₁ = env ∧ rs = env.unwind w rws := by
  unfold pollOneoffInternal at h
  cases hr : env.rewinding with
  | some s => simp [Env.handleRewind_of_some hr] at h
  | none =>
    simp only [Env.handleRewind_of_none hr] at h
    split at h <;> try cases h
    split at h <;> try cases h
    split at h <;> try cases h
    rename_i hslept
    obtain ⟨-, rfl, rfl⟩ := asyncifyWithDeepSleepExt_eq_deepSleep hslept
    exact ⟨rfl, rfl, rfl⟩

/-- A rewinding `poll_oneoff_internal` returns at once, through `handle_rewind`. -/
theorem pollOneoffInternal_of_rewinding {subs : List PollSub}
    {pe : List Event → Memory → Option (Errno × Memory)} {stack : List UInt8}
    (h : env.rewinding = some stack) :
    pollOneoffInternal w env fs subs pe readiness rws =
      .returned ({ env with rewinding := none }.setMemoryStack stack) (.ok .success) := by
  simp only [pollOneoffInternal, Env.handleRewind_of_some h]

/-- **The first entry, when it sleeps**: the seed was advanced, `*nevents`
cleared, and the stack captured after that. -/
theorem pollOneoff_eq_sleeping {env₁ : Env} {rs : RewindState}
    {after : Except Errno (List Event) → Memory → Option Memory}
    (h : pollOneoff w env fs args readiness rws = .sleeping env₁ rs after) :
    env.rewinding = none ∧ ∃ mem, env.memory.write args.nevents (leBytes 0 w.offsetSize) = .ok mem ∧
      env₁ = { env.bumpPollSeed with memory := mem } ∧ rs = env₁.unwind w rws := by
  simp only [pollOneoff] at h
  split at h <;> try cases h
  split at h <;> try cases h
  rename_i mem hmem
  obtain ⟨hr, rfl, rfl⟩ := pollOneoffInternal_eq_sleeping h
  exact ⟨hr, mem, hmem, rfl, rfl⟩

/-- **The re-entry, when it returns `Success`**: `*nevents` was cleared once
more, then `handle_rewind` put the stack back. -/
theorem pollOneoff_of_rewinding {stack : List UInt8} {r : Except WasiError Errno}
    (hrw : env.rewinding = some stack) (h : pollOneoff w env fs args readiness rws = .returned env' r)
    (hs : r = .ok .success) :
    ∃ mem, env.memory.write args.nevents (leBytes 0 w.offsetSize) = .ok mem ∧
      env' = { env.bumpPollSeed with memory := mem, rewinding := none }.setMemoryStack stack := by
  subst hs
  simp only [pollOneoff] at h
  split at h
  · cases h
    rcases readSubscriptions_eq_error (by assumption) with h | h <;> cases h
  · split at h
    · cases h
      rcases Memory.write_eq_error_of (by assumption) with h | h <;> cases h
    · rename_i mem hmem
      rw [pollOneoffInternal_of_rewinding (by exact hrw)] at h
      cases h
      exact ⟨mem, hmem, rfl⟩

/-- A call that came back across a sleep went through every step of it. -/
theorem pollOneoffAcrossSleep_eq_some {res : Except Errno (List Event)} {r : Except WasiError Errno}
    (h : pollOneoffAcrossSleep w env fs args readiness rws res = some (env', r)) :
    ∃ env₁ rs after mem env₂, pollOneoff w env fs args readiness rws = .sleeping env₁ rs after ∧
      after res env₁.memory = some mem ∧
      { env₁ with memory := mem }.rewind rs.memoryStack rs.rewindStack rs.storeData =
        (.success, env₂) ∧
      pollOneoff w env₂ fs args readiness rws = .returned env' r := by
  unfold pollOneoffAcrossSleep at h
  split at h
  next env₁ rs after hs =>
    split at h
    next => cases h
    next mem hm =>
      split at h
      next env₂ hrw =>
        split at h
        next env₃ r' hre => cases h; exact ⟨env₁, rs, after, mem, env₂, hs, hm, hrw, hre⟩
        next => cases h
      next => cases h
  next => cases h

/-- **A `poll_oneoff` that slept reports no events.** Whatever the completion
wrote, a call that returns `Success` to the guest after a deep sleep leaves
`*nevents` at zero: the re-entry clears it before `handle_rewind` is
reached, and the stack `handle_rewind` puts back was captured after the
first entry had cleared it too. -/
theorem nevents_zero_across_sleep {res : Except Errno (List Event)}
    (h : pollOneoffAcrossSleep w env fs args readiness rws res = some (env', .ok .success)) :
    env'.memory.load args.nevents w.offsetSize = List.replicate w.offsetSize 0 := by
  obtain ⟨env₁, rs, after, mem₂, env₂, hsleep, -, hrw, hre⟩ := pollOneoffAcrossSleep_eq_some h
  obtain ⟨-, mem₁, hmem₁, rfl, rfl⟩ := pollOneoff_eq_sleeping hsleep
  have hstack := Env.rewind_eq_success hrw
  obtain ⟨mem₄, hmem₄, rfl⟩ := pollOneoff_of_rewinding (by rw [hstack]) hre rfl
  obtain ⟨-, rfl⟩ := Memory.write_eq_ok.1 hmem₁
  obtain ⟨-, rfl⟩ := Memory.write_eq_ok.1 hmem₄
  -- the memory the stack was captured from and the one it is put back into both hold zero there
  have hzero : ∀ (m : Memory) i, i < w.offsetSize →
      (m.store args.nevents (leBytes 0 w.offsetSize)).data (args.nevents + i) = 0 := by
    intro m i hi
    rw [Memory.store_data_add (by simpa using hi)]
    simp [leBytes_zero]
  rw [Memory.load_eq_replicate_zero]
  intro i hi
  subst hstack
  simp only [Env.setMemoryStack, Env.unwind, Env.getMemoryStack, Env.bumpPollSeed,
    Memory.length_load]
  by_cases hsp : env.stackPointer ≤ env.layout.stackUpper
  · rw [show env.layout.stackUpper - (env.layout.stackUpper - env.stackPointer) = env.stackPointer
      by omega, Memory.store_load_data]
    split_ifs <;> exact hzero _ i hi
  · rw [show env.layout.stackUpper - env.stackPointer = 0 by omega, Memory.load,
      List.range_zero, List.map_nil, Memory.store_nil_data]
    exact hzero _ i hi

/-- One clock of 1000 ns, timed out after a deep sleep: the count reads zero. -/
theorem timed_out_sleep_count_zero :
    ∃ env', pollOneoffAcrossSleep .memory32
        ⟨⟨256, fun a => [7, 0, 0, 0, 0, 0, 0, 0, 0, 0, 0, 0, 0, 0, 0, 0, 1, 0, 0, 0, 0, 0, 0, 0,
          232, 3, 0, 0, 0, 0, 0, 0].getD a 0, by decide⟩, ⟨128, 256, by decide, by decide⟩,
          200, none, 0⟩
        ⟨fun _ => none⟩ ⟨0, 48, 1, 80⟩ (fun _ => none) [] (.error .timedout) =
          some (env', .ok .success) ∧
      env'.memory.load 80 4 = List.replicate 4 0 :=
  (fun h => ⟨_, h, nevents_zero_across_sleep h⟩) rfl

/-- A 64 KiB memory whose upper half is the stack, the stack pointer 32 bytes
below its top; one monotonic clock of 1000 ns, userdata 7, read from address
0, with the events at 48 and the count at 80, outside the stack. The
time-out's completion writes the clock event and a count of one; the guest
gets `Success` and a count of zero. -/
theorem pollOneoff_sleep_loses_count :
    let env : Env := ⟨⟨65536, fun a => [7, 0, 0, 0, 0, 0, 0, 0, 0, 0, 0, 0, 0, 0, 0, 0, 1, 0, 0, 0,
      0, 0, 0, 0, 232, 3, 0, 0, 0, 0, 0, 0].getD a 0, by decide⟩, ⟨32768, 65536, by decide, by decide⟩,
      65504, none, 0⟩
    ∃ env₁ rs after mem env',
      pollOneoff .memory32 env ⟨fun _ => none⟩ ⟨0, 48, 1, 80⟩ (fun _ => none) [] =
        .sleeping env₁ rs after ∧
      after (.error .timedout) env₁.memory = some mem ∧
      mem.load 48 eventSize = (Event.ofClock 7).encode ∧ mem.load 80 4 = [1, 0, 0, 0] ∧
      pollOneoffAcrossSleep .memory32 env ⟨fun _ => none⟩ ⟨0, 48, 1, 80⟩ (fun _ => none) []
          (.error .timedout) = some (env', .ok .success) ∧
      env'.memory.load 80 4 = [0, 0, 0, 0] :=
  ⟨_, _, _, _, _, rfl, rfl, rfl, rfl, rfl, rfl⟩

/-! ## The rotated read -/

/-- The subscription array in its own order: the overflow check of
`in_.slice`, then slots `0, 1, …` read in turn. What the rotated read is
compared with. -/
def subscriptionArray (mem : Memory) (args : PollArgs) : Except Errno (List Subscription) :=
  match Memory.sliceCheck args.inPtr (args.nsubscriptions * subscriptionSize) with
  | .error e => .error e
  | .ok () => (List.range args.nsubscriptions).mapM (readSlot mem args)

/-- What the read loop of `poll_oneoff` gives at seed `s`, `L` being
`nsubscriptions`. -/
structure RotatedRead (mem : Memory) (args : PollArgs) (s : Nat) : Prop where
  /-- The loop reads the array rotated left by `s mod L`, and fails exactly
  when reading the array fails, with the same errno. -/
  eq_rotate : readSubscriptions mem args s =
    (subscriptionArray mem args).map (·.rotate (s % args.nsubscriptions))
  /-- What it hands to `poll_oneoff_internal` has `L` elements, the `n`-th
  being the array's element `(n + s) mod L`, and is a permutation of the
  array. -/
  elems : ∀ subs, readSubscriptions mem args s = .ok subs →
    ∃ arr, subscriptionArray mem args = .ok arr ∧ subs.length = args.nsubscriptions ∧
      (∀ n < args.nsubscriptions, subs[n]? = arr[(n + s) % args.nsubscriptions]?) ∧ subs.Perm arr
  /-- Each slot is read exactly once. -/
  slots_perm : ((List.range args.nsubscriptions).map (rotatedIndex s args.nsubscriptions)).Perm
    (List.range args.nsubscriptions)
  /-- Over the `L` seeds from `s` on, each slot is the first one read exactly once. -/
  first_once : ∀ i < args.nsubscriptions,
    ∃! k, k < args.nsubscriptions ∧ rotatedIndex (s + k) args.nsubscriptions 0 = i
  /-- With no subscription, the loop reads nothing and computes no slot. -/
  empty : args.nsubscriptions = 0 →
    readSubscriptions mem args s = (Memory.sliceCheck args.inPtr 0).map fun _ => []

variable {mem : Memory} {s L : Nat}

/-- Inside an array whose end does not overflow, a slot read fails out of
bounds or on bytes that do not decode: `Memviolation` either way. -/
theorem readSlot_eq_memviolation {i : Nat} {e : Errno} (h : readSlot mem args i = .error e)
    (hs : Memory.sliceCheck args.inPtr (args.nsubscriptions * subscriptionSize) = .ok ())
    (hi : i < args.nsubscriptions) : e = .memviolation := by
  have hend := Nat.mul_le_mul_right subscriptionSize (Nat.succ_le_of_lt hi)
  rw [Nat.succ_mul] at hend
  have hfit := Memory.sliceCheck_eq_ok.1 hs
  unfold readSlot at h
  split at h
  · cases h; exact Memory.read_eq_error (by assumption) (by omega)
  · split at h <;> cases h
    rfl

theorem length_of_subscriptionArray_eq_ok {arr : List Subscription}
    (h : subscriptionArray mem args = .ok arr) : arr.length = args.nsubscriptions := by
  unfold subscriptionArray at h
  split at h
  · cases h
  · simpa using length_of_mapM_eq_ok h

/-- The read loop, as a loop over the slots it visits. -/
theorem readSubscriptions_eq (seed : Nat) :
    readSubscriptions mem args seed =
      match Memory.sliceCheck args.inPtr (args.nsubscriptions * subscriptionSize) with
      | .error e => .error e
      | .ok () => ((List.range args.nsubscriptions).map (rotatedIndex seed args.nsubscriptions)).mapM
          (readSlot mem args) := by
  rw [mapM_map]
  rfl

/-- **The slots visited are a rotation.** Without wrap-around, slot
`(n + s) mod L` is the `n`-th one read. -/
theorem map_rotatedIndex (hs : s + L < 2 ^ 64) :
    (List.range L).map (rotatedIndex s L) = (List.range L).rotate (s % L) := by
  apply List.ext_getElem (by simp)
  intro n h₁ _
  simp only [List.length_map, List.length_range] at h₁
  rw [List.getElem_map, List.getElem_rotate, List.getElem_range, List.getElem_range, rotatedIndex,
    Nat.mod_eq_of_lt (by omega : n + s < 2 ^ 64), List.length_range, Nat.add_mod_mod]

theorem map_rotatedIndex_perm (hs : s + L < 2 ^ 64) :
    ((List.range L).map (rotatedIndex s L)).Perm (List.range L) := by
  rw [map_rotatedIndex hs]
  exact List.rotate_perm _ _

/-- Over the `L` seeds from `s` on, each slot is read first once. -/
theorem existsUnique_first (hs : s + L < 2 ^ 64) {i : Nat} (hi : i < L) :
    ∃! k, k < L ∧ rotatedIndex (s + k) L 0 = i := by
  have hperm := map_rotatedIndex_perm hs
  have hfirst : ∀ k, rotatedIndex (s + k) L 0 = rotatedIndex s L k := by
    intro k; simp only [rotatedIndex, Nat.zero_add, Nat.add_comm s k]
  obtain ⟨k, hk, hki⟩ := List.mem_map.1 (hperm.mem_iff.2 (List.mem_range.2 hi))
  refine ⟨k, ⟨List.mem_range.1 hk, by rw [hfirst, hki]⟩, fun k' ⟨hk', hk'i⟩ => ?_⟩
  exact List.inj_on_of_nodup_map (hperm.nodup_iff.2 (List.nodup_range _)) (List.mem_range.2 hk') hk
    (by rw [← hfirst, hk'i, hki])

/-- The read loop reads the array rotated left by `s mod L`. -/
theorem readSubscriptions_eq_rotate (hs : s + args.nsubscriptions < 2 ^ 64) :
    readSubscriptions mem args s =
      (subscriptionArray mem args).map (·.rotate (s % args.nsubscriptions)) := by
  rw [readSubscriptions_eq, map_rotatedIndex hs, subscriptionArray]
  rcases Nat.eq_zero_or_pos args.nsubscriptions with h0 | hpos
  · simp only [h0]
    cases Memory.sliceCheck args.inPtr (0 * subscriptionSize) <;> rfl
  · cases hc : Memory.sliceCheck args.inPtr (args.nsubscriptions * subscriptionSize) with
    | error e => rfl
    | ok u =>
      exact mapM_rotate (fun i hi _ he => readSlot_eq_memviolation he hc (List.mem_range.1 hi))
        (by simpa using (Nat.mod_lt _ hpos).le)

theorem readSubscriptions_eq_ok (hs : s + args.nsubscriptions < 2 ^ 64) {subs : List Subscription}
    (h : readSubscriptions mem args s = .ok subs) :
    ∃ arr, subscriptionArray mem args = .ok arr ∧ subs.length = args.nsubscriptions ∧
      (∀ n < args.nsubscriptions, subs[n]? = arr[(n + s) % args.nsubscriptions]?) ∧ subs.Perm arr := by
  rw [readSubscriptions_eq_rotate hs] at h
  obtain ⟨arr, harr, rfl⟩ := map_eq_ok.1 h
  have hlen := length_of_subscriptionArray_eq_ok harr
  refine ⟨arr, harr, by simp [hlen], fun n hn => ?_, List.rotate_perm _ _⟩
  rw [List.getElem?_rotate (by omega), hlen, Nat.add_mod_mod]

theorem readSubscriptions_of_zero (h0 : args.nsubscriptions = 0) :
    readSubscriptions mem args s = (Memory.sliceCheck args.inPtr 0).map fun _ => [] := by
  rw [readSubscriptions_eq, h0, Nat.zero_mul]
  cases Memory.sliceCheck args.inPtr 0 <;> rfl

/-- **`poll_oneoff` reads its subscriptions as a rotation.** For every
subscription array and every seed `s` with `s + nsubscriptions < 2^64`, the
loop hands `poll_oneoff_internal` the array rotated left by
`s mod nsubscriptions`: each slot read once, and over `nsubscriptions`
consecutive seeds each slot read first once. -/
theorem readSubscriptions_rotated (mem : Memory) (args : PollArgs) (s : Nat)
    (hs : s + args.nsubscriptions < 2 ^ 64) : RotatedRead mem args s :=
  ⟨readSubscriptions_eq_rotate hs, fun _ => readSubscriptions_eq_ok hs, map_rotatedIndex_perm hs,
    fun _ => existsUnique_first hs, readSubscriptions_of_zero⟩

/-- Three fd subscriptions at address 0, userdata 1, 2, 3 on fds 3, 4, 5, read
at seed 7: the loop hands them over rotated left by one. -/
theorem three_slots_rotated :
    let mem : Memory := ⟨65536, fun a =>
      if 144 ≤ a then 0
      else if a % 48 = 0 then .ofNat (a / 48 + 1)
      else if a % 48 = 8 then 1
      else if a % 48 = 16 then .ofNat (a / 48 + 3) else 0, by decide⟩
    subscriptionArray mem ⟨0, 144, 3, 200⟩ =
        .ok [⟨1, .fdRead 3⟩, ⟨2, .fdRead 4⟩, ⟨3, .fdRead 5⟩] ∧
      readSubscriptions mem ⟨0, 144, 3, 200⟩ 7 = .ok [⟨2, .fdRead 4⟩, ⟨3, .fdRead 5⟩, ⟨1, .fdRead 3⟩] ∧
      7 + 3 < 2 ^ 64 ∧ RotatedRead mem ⟨0, 144, 3, 200⟩ 7 :=
  ⟨rfl, rfl, by decide, readSubscriptions_rotated _ ⟨0, 144, 3, 200⟩ 7 (by decide)⟩

end Poll

end Wasix
