import Wasix.Common.Memory
/-!
# Wasix — the values that cross the syscall boundary

Exit codes, the two memory widths a syscall is instantiated at, the stack
layout the asyncify engine works inside, and the WASI records the poll
syscall reads and writes: subscriptions in, events out. A subscription is
read out of guest memory (`Subscription.decode`); an event is written back
(`Event.encode`). Both follow the `wasi_snapshot_preview1` layout.
-/

namespace Wasix

/-- A process exit code (`ExitCode`): an errno, or any other status. -/
inductive ExitCode
  | errno (e : Errno)
  | other (code : Int)
  deriving DecidableEq, Repr

namespace ExitCode

/-- The raw status (`ExitCode::raw`). -/
def raw : ExitCode → Int
  | .errno e => e.toNat
  | .other c => c

/-- `ExitCode::is_success`: the raw status is zero. -/
def isSuccess (c : ExitCode) : Bool := c.raw == 0

@[simp] theorem isSuccess_errno (e : Errno) : (ExitCode.errno e).isSuccess = (e == .success) := by
  cases e <;> rfl

end ExitCode

/-- The width of the guest's pointers (`MemorySize`: `Memory32` or `Memory64`). -/
inductive MemoryWidth
  | memory32
  | memory64
  deriving DecidableEq, Repr

namespace MemoryWidth

/-- `MemorySize::is_64bit`. -/
def is64bit : MemoryWidth → Bool
  | .memory32 => false
  | .memory64 => true

/-- The byte size of an `M::Offset`. -/
def offsetSize : MemoryWidth → Nat
  | .memory32 => 4
  | .memory64 => 8

/-- The width a recorded flag names: what `call_module` dispatches on. -/
def ofIs64bit (b : Bool) : MemoryWidth := if b then .memory64 else .memory32

@[simp] theorem ofIs64bit_is64bit (w : MemoryWidth) : ofIs64bit w.is64bit = w := by
  cases w <;> rfl

@[simp] theorem is64bit_ofIs64bit (b : Bool) : (ofIs64bit b).is64bit = b := by
  cases b <;> rfl

/-- A width is the one a flag names exactly when it has that flag. -/
theorem eq_ofIs64bit_iff {w : MemoryWidth} {b : Bool} : w = ofIs64bit b ↔ w.is64bit = b := by
  cases w <;> cases b <;> decide

end MemoryWidth

/-- The guest's shadow stack (`env.layout`): it grows down from `stackUpper`
and must stay above `stackLower`. Both bounds are `u64` values. -/
structure StackLayout where
  stackLower : Nat
  stackUpper : Nat
  lower_le_upper : stackLower ≤ stackUpper
  upper_lt : stackUpper < 2 ^ 64

/-- The event kinds (`Eventtype`). -/
inductive Eventtype
  | clock
  | fdRead
  | fdWrite
  deriving DecidableEq, Repr

/-- The clocks a subscription may name (`Clockid`). -/
inductive Clockid
  | realtime
  | monotonic
  | processCputimeId
  | threadCputimeId
  deriving DecidableEq, Repr

/-- A clock subscription's payload (`SubscriptionClock`). -/
structure SubscriptionClock where
  clockId : Clockid
  timeout : UInt64
  precision : UInt64
  flags : UInt16
  deriving DecidableEq, Repr

/-- A subscription's payload, read through the union member its event type
selects (`Subscription.data`). -/
inductive SubscriptionData
  | clock (c : SubscriptionClock)
  | fdRead (fd : UInt32)
  | fdWrite (fd : UInt32)
  deriving DecidableEq, Repr

/-- A subscription (`Subscription`). -/
structure Subscription where
  userdata : UInt64
  data : SubscriptionData
  deriving DecidableEq, Repr

/-- `s.type_`. -/
def Subscription.type_ (s : Subscription) : Eventtype :=
  match s.data with
  | .clock _ => .clock
  | .fdRead _ => .fdRead
  | .fdWrite _ => .fdWrite

/-- An event's payload (`EventUnion`). -/
inductive EventUnion
  | fdReadwrite (nbytes : UInt64) (flags : UInt16)
  | clock
  deriving DecidableEq, Repr

/-- An event (`Event`). -/
structure Event where
  userdata : UInt64
  error : Errno
  type_ : Eventtype
  u : EventUnion
  deriving DecidableEq, Repr

/-- The clock event a timed-out clock subscription gets. -/
def Event.ofClock (userdata : UInt64) : Event :=
  { userdata, error := .success, type_ := .clock, u := .clock }

/-- The byte size of a subscription and of an event in guest memory. -/
def subscriptionSize : Nat := 48

def eventSize : Nat := 32

def Eventtype.toNat : Eventtype → Nat
  | .clock => 0
  | .fdRead => 1
  | .fdWrite => 2

def Clockid.ofNat? : Nat → Option Clockid
  | 0 => some .realtime
  | 1 => some .monotonic
  | 2 => some .processCputimeId
  | 3 => some .threadCputimeId
  | _ => none

/-- An event's 32 bytes: userdata, errno, type, then the payload. The source
writes the `Event` struct as it stands in host memory, so its padding bytes
(11–15, and the payload's bytes past its fields) are uninitialised there;
they are written as zero here. What the guest reads back is stated through
`Event.Fields`, which does not read them. -/
def Event.encode (e : Event) : List UInt8 :=
  leBytes e.userdata.toNat 8 ++ leBytes e.error.toNat 2 ++ leBytes e.type_.toNat 1 ++
    List.replicate 5 0 ++
    match e.u with
    | .fdReadwrite nbytes flags => leBytes nbytes.toNat 8 ++ leBytes flags.toNat 2 ++ List.replicate 6 0
    | .clock => List.replicate 16 0

@[simp] theorem Event.length_encode (e : Event) : e.encode.length = eventSize := by
  unfold encode; cases e.u <;> simp [eventSize]

/-- The bytes of an event's image that hold a field: userdata (0–7), errno
(8–9), type (10), and the payload's fields, `nbytes` (16–23) and `flags`
(24–25) of an fd event, the one `clock` byte (16) of a clock event. -/
def Event.IsField (e : Event) (i : Nat) : Bool :=
  i < 11 ||
    match e.u with
    | .fdReadwrite _ _ => 16 ≤ i && i < 26
    | .clock => i == 16

/-- `bs` is an image of `e`: 32 bytes holding `e`'s fields where
`Event.encode` puts them, whatever its padding bytes hold. -/
def Event.Fields (e : Event) (bs : List UInt8) : Prop :=
  bs.length = eventSize ∧ ∀ i < eventSize, e.IsField i → bs[i]? = e.encode[i]?

instance (e : Event) (bs : List UInt8) : Decidable (e.Fields bs) :=
  inferInstanceAs (Decidable (_ ∧ _))

theorem Event.fields_encode (e : Event) : e.Fields e.encode :=
  ⟨e.length_encode, fun _ _ _ => rfl⟩

/-- A subscription out of its 48 bytes: userdata, the tag at byte 8, the
payload from byte 16. A tag or clock id outside its enum is undefined
behaviour in the source, which transmutes the bytes; the read fails here. -/
def Subscription.decode (bs : List UInt8) : Option Subscription :=
  let field (off n : Nat) := leNat ((bs.drop off).take n)
  let userdata := UInt64.ofNat (field 0 8)
  match field 8 1 with
  | 0 => (Clockid.ofNat? (field 16 4)).map fun clockId =>
      ⟨userdata, .clock ⟨clockId, .ofNat (field 24 8), .ofNat (field 32 8), .ofNat (field 40 2)⟩⟩
  | 1 => some ⟨userdata, .fdRead (.ofNat (field 16 4))⟩
  | 2 => some ⟨userdata, .fdWrite (.ofNat (field 16 4))⟩
  | _ => none

end Wasix
