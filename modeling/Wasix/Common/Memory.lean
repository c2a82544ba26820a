import Mathlib.Algebra.Group.Nat.Basic
import Mathlib.Data.List.Rotate
/-!
# Wasix — the guest's linear memory

A guest sees one linear memory: a length and a byte at every address.
`store` and `load` are the raw accesses; `read` and `write` are what a
`WasmPtr` or a `MemoryView` does, a bounds check in front of the raw
access, whose failure `wasi_try_mem!` turns into an errno. A `WasmSlice` is
only checked for `u64` overflow when it is made (`sliceCheck`); each of its
elements is checked when it is read or written. Integers cross
the boundary as little-endian byte strings (`leBytes`, read back by
`leNat`). The frame lemmas here (`load_store_self`, `load_store_of_disjoint`)
are what every later module uses to follow a value through a syscall.
-/

namespace Wasix

/-- The WASI error codes the modelled syscalls name (`Errno`). -/
inductive Errno
  | success
  | access
  | again
  | badf
  | inval
  | memviolation
  | nodev
  | noent
  | noexec
  | overflow
  | perm
  | timedout
  | unknown
  deriving DecidableEq, Repr

/-- The ABI number of an errno. -/
def Errno.toNat : Errno → Nat
  | .success => 0
  | .access => 2
  | .again => 6
  | .badf => 8
  | .inval => 28
  | .nodev => 43
  | .noent => 44
  | .noexec => 45
  | .overflow => 61
  | .perm => 63
  | .timedout => 73
  | .memviolation => 78
  | .unknown => 79

theorem Errno.toNat_eq_zero {e : Errno} : e.toNat = 0 ↔ e = .success := by
  cases e <;> simp [Errno.toNat]

/-- Peeling one fallible step off a computation that succeeded. -/
theorem bind_eq_ok {ε α β : Type} {x : Except ε α} {f : α → Except ε β} {b : β} :
    x >>= f = .ok b ↔ ∃ a, x = .ok a ∧ f a = .ok b := by
  cases x <;> simp [bind, Except.bind]

theorem map_eq_ok {ε α β : Type} {x : Except ε α} {f : α → β} {b : β} :
    x.map f = .ok b ↔ ∃ a, x = .ok a ∧ f a = b := by
  cases x <;> simp [Except.map]

/-- A fallible loop that failed, failed at one of its items. -/
theorem mapM_eq_error {ε α β : Type} {f : α → Except ε β} {l : List α} {e : ε}
    (h : l.mapM f = .error e) : ∃ x ∈ l, f x = .error e := by
  induction l with
  | nil => cases h
  | cons x l ih =>
    rw [List.mapM_cons] at h
    cases hx : f x with
    | error e' => rw [hx] at h; cases h; exact ⟨x, List.mem_cons_self _ _, hx⟩
    | ok b =>
      rw [hx] at h
      cases hl : l.mapM f with
      | error e' =>
        rw [hl] at h; cases h
        obtain ⟨y, hy, hfy⟩ := ih hl
        exact ⟨y, List.mem_cons_of_mem _ hy, hfy⟩
      | ok bs => rw [hl] at h; cases h

/-- A fallible loop that succeeded returned one value per item. -/
theorem length_of_mapM_eq_ok {ε α β : Type} {f : α → Except ε β} {l : List α} {ys : List β}
    (h : l.mapM f = .ok ys) : ys.length = l.length := by
  induction l generalizing ys with
  | nil => cases h; rfl
  | cons x l ih =>
    rw [List.mapM_cons] at h
    cases hx : f x <;> cases hl : l.mapM f <;> rw [hx, hl] at h <;> cases h
    simp [ih hl]

/-- A loop over mapped items is the loop of the composite. -/
theorem mapM_map {m : Type → Type} [Monad m] [LawfulMonad m] {α β γ : Type} {f : β → m γ}
    {g : α → β} (l : List α) : (l.map g).mapM f = l.mapM (f ∘ g) := by
  induction l with
  | nil => rfl
  | cons x l ih => simp only [List.map_cons, List.mapM_cons, ih, Function.comp_apply]

/-- A fallible loop whose items all fail alike runs over a rotation of its
items as over the items themselves: the same values, rotated, or the same
error. -/
theorem mapM_rotate {ε α β : Type} {f : α → Except ε β} {e₀ : ε} {l : List α}
    (hf : ∀ x ∈ l, ∀ e, f x = .error e → e = e₀) {k : Nat} (hk : k ≤ l.length) :
    (l.rotate k).mapM f = (l.mapM f).map (·.rotate k) := by
  rw [List.rotate_eq_drop_append_take hk]
  conv_rhs => rw [← List.take_append_drop k l]
  simp only [List.mapM_append]
  cases ha : (l.take k).mapM f with
  | error ea =>
    obtain ⟨x, hxl, hx⟩ := mapM_eq_error ha
    cases hb : (l.drop k).mapM f with
    | error eb =>
      obtain ⟨y, hyl, hy⟩ := mapM_eq_error hb
      rw [hf x (List.mem_of_mem_take hxl) _ hx, hf y (List.mem_of_mem_drop hyl) _ hy]
      rfl
    | ok b => rfl
  | ok a =>
    have hlen : a.length = k := by rw [length_of_mapM_eq_ok ha]; simpa using hk
    cases hb : (l.drop k).mapM f with
    | error eb => rfl
    | ok b => simp [← hlen, bind, Except.bind, pure, Except.pure, Except.map]

/-- `n` as `k` little-endian bytes, truncated to `8 * k` bits: `to_le_bytes`, and
`to_ne_bytes` on the little-endian hosts the runtime runs on. -/
def leBytes (n : Nat) : Nat → List UInt8
  | 0 => []
  | k + 1 => UInt8.ofNat (n % 256) :: leBytes (n / 256) k

/-- The integer a little-endian byte string stands for. -/
def leNat : List UInt8 → Nat
  | [] => 0
  | b :: bs => b.toNat + 256 * leNat bs

@[simp] theorem length_leBytes (n k : Nat) : (leBytes n k).length = k := by
  induction k generalizing n with
  | zero => rfl
  | succ k ih => simp [leBytes, ih]

theorem leNat_leBytes (n k : Nat) : leNat (leBytes n k) = n % 256 ^ k := by
  induction k generalizing n with
  | zero => simp [leBytes, leNat, Nat.mod_one]
  | succ k ih =>
    have h8 : (UInt8.ofNat (n % 256)).toNat = n % 256 :=
      UInt8.toNat_ofNat_of_lt (Nat.mod_lt _ (by decide))
    rw [leBytes, leNat, ih, h8, Nat.pow_succ', Nat.mod_mul]

/-- A zero is all zero bytes. -/
theorem leBytes_zero (k : Nat) : leBytes 0 k = List.replicate k 0 := by
  induction k with
  | zero => rfl
  | succ k ih => rw [leBytes, ih]; rfl

/-- A guest's linear memory: its length in bytes and its contents. The length
is a `u64`, as every address and size the runtime computes with is. -/
structure Memory where
  size : Nat
  data : Nat → UInt8
  size_lt : size < 2 ^ 64

namespace Memory

variable (m : Memory)

/-- The bytes `[addr, addr + n)`, unchecked. -/
def load (addr n : Nat) : List UInt8 :=
  (List.range n).map fun i => m.data (addr + i)

/-- The memory with the bytes from `addr` on overwritten by `bs`, unchecked. -/
def store (addr : Nat) (bs : List UInt8) : Memory :=
  { m with
    data := fun a => if h : addr ≤ a ∧ a - addr < bs.length then bs[a - addr] else m.data a }

/-- The bounds check of a guest access (`MemoryBuffer::read`/`write`): the end
of the range must not overflow a `u64` (`Overflow`) and must lie inside the
memory (`HeapOutOfBounds`), each turned into its errno by `wasi_try_mem!`. -/
def checkAccess (addr n : Nat) : Except Errno Unit :=
  if 2 ^ 64 ≤ addr + n then .error .overflow
  else if m.size < addr + n then .error .memviolation
  else .ok ()

/-- The one check `WasmSlice::new` makes (`WasmPtr::slice`): the slice's end
must not overflow a `u64`. Whether it lies inside the memory is checked
element by element, when each is read or written. -/
def sliceCheck (addr n : Nat) : Except Errno Unit :=
  if 2 ^ 64 ≤ addr + n then .error .overflow else .ok ()

/-- A checked read of `n` bytes (`WasmRef::read`, `WasmSlice::read_to_vec`). -/
def read (addr n : Nat) : Except Errno (List UInt8) := do
  m.checkAccess addr n
  pure (m.load addr n)

/-- A checked write (`WasmRef::write`). -/
def write (addr : Nat) (bs : List UInt8) : Except Errno Memory := do
  m.checkAccess addr bs.length
  pure (m.store addr bs)

variable {m}

@[simp] theorem length_load (addr n : Nat) : (m.load addr n).length = n := by
  simp [load]

@[simp] theorem getElem_load {addr n i : Nat} (h : i < (m.load addr n).length) :
    (m.load addr n)[i] = m.data (addr + i) := by
  simp [load]

theorem getElem?_load {addr n i : Nat} (h : i < n) : (m.load addr n)[i]? = some (m.data (addr + i)) := by
  simp [load, h]

@[simp] theorem store_size (addr : Nat) (bs : List UInt8) : (m.store addr bs).size = m.size :=
  rfl

theorem store_data_of_not_mem {addr a : Nat} {bs : List UInt8}
    (h : a < addr ∨ addr + bs.length ≤ a) : (m.store addr bs).data a = m.data a := by
  simp only [store]
  rw [dif_neg (by omega)]

theorem store_data_add {addr i : Nat} {bs : List UInt8} (h : i < bs.length) :
    (m.store addr bs).data (addr + i) = bs[i] := by
  simp only [store]
  rw [dif_pos (by omega)]
  simp

/-- **Reading back a store gives what was stored.** -/
theorem load_store_self (addr : Nat) (bs : List UInt8) :
    (m.store addr bs).load addr bs.length = bs :=
  List.ext_getElem (by simp) fun i _ h => by
    rw [getElem_load, store_data_add (by simpa using h)]

/-- **A store leaves every range it does not touch alone.** -/
theorem load_store_of_disjoint {addr a n : Nat} {bs : List UInt8}
    (h : a + n ≤ addr ∨ addr + bs.length ≤ a) :
    (m.store addr bs).load a n = m.load a n :=
  List.ext_getElem (by simp) fun i h1 _ => by
    simp only [length_load] at h1
    rw [getElem_load, getElem_load, store_data_of_not_mem (by omega)]

/-- Putting back a range copied out of another memory: each byte of the range
is the copy's, every other byte the old one's. -/
theorem store_load_data (m' : Memory) (q n a : Nat) :
    (m.store q (m'.load q n)).data a = if q ≤ a ∧ a < q + n then m'.data a else m.data a := by
  simp only [store, length_load]
  split_ifs with h1 h2 h2
  · simp only [getElem_load]; congr 1; omega
  · omega
  · omega
  · rfl

/-- A load reads its range and nothing else. -/
theorem load_congr {m' : Memory} {a n : Nat} (h : ∀ i < n, m.data (a + i) = m'.data (a + i)) :
    m.load a n = m'.load a n :=
  List.ext_getElem (by simp) fun i h1 _ => by
    simp only [length_load] at h1
    rw [getElem_load, getElem_load, h i h1]

/-- A window into a stored range reads the stored bytes. -/
theorem load_store_window {q i k : Nat} {bs : List UInt8} (h : i + k ≤ bs.length) :
    (m.store q bs).load (q + i) k = (bs.drop i).take k :=
  List.ext_getElem (by simp; omega) fun j h1 _ => by
    simp only [length_load] at h1
    rw [getElem_load, Nat.add_assoc, store_data_add (by omega)]
    simp

/-- A window into a loaded range is the load of the window. -/
theorem take_drop_load {a n i k : Nat} (h : i + k ≤ n) :
    ((m.load a n).drop i).take k = m.load (a + i) k :=
  List.ext_getElem (by simp; omega) fun j _ _ => by simp [Nat.add_assoc]

/-- Two stores of equally long ranges agree at an address where the ranges agree. -/
theorem store_data_congr {q a : Nat} {bs bs' : List UInt8} (hlen : bs.length = bs'.length)
    (h : q ≤ a → bs[a - q]? = bs'[a - q]?) : (m.store q bs).data a = (m.store q bs').data a := by
  simp only [store]
  split_ifs with h1 h2 h2
  · exact Option.some_injective _ (by rw [← List.getElem?_eq_getElem, h h1.1, List.getElem?_eq_getElem])
  · omega
  · omega
  · rfl

@[simp] theorem store_nil_data (q : Nat) : (m.store q []).data = m.data := by
  funext a
  simp [store]

theorem load_eq_replicate_zero {a k : Nat} :
    m.load a k = List.replicate k 0 ↔ ∀ i < k, m.data (a + i) = 0 := by
  simp only [List.eq_replicate_iff, load, List.length_map, List.length_range, true_and,
    List.mem_map, List.mem_range]
  exact ⟨fun h i hi => h _ ⟨i, hi, rfl⟩, fun h b ⟨i, hi, hb⟩ => hb ▸ h i hi⟩

/-- The check passes exactly for a range inside the memory; the overflow test
never decides anything, since the memory is shorter than `2 ^ 64`. -/
theorem checkAccess_eq_ok {addr n : Nat} : m.checkAccess addr n = .ok () ↔ addr + n ≤ m.size := by
  have := m.size_lt
  unfold checkAccess
  split_ifs <;> simp <;> omega

/-- A failed check is an overflow or an access out of bounds. -/
theorem checkAccess_eq_error {addr n : Nat} {e : Errno} (h : m.checkAccess addr n = .error e) :
    e = .overflow ∨ e = .memviolation := by
  unfold checkAccess at h
  split_ifs at h <;> cases h <;> simp

theorem sliceCheck_eq_ok {addr n : Nat} : sliceCheck addr n = .ok () ↔ addr + n < 2 ^ 64 := by
  unfold sliceCheck
  split_ifs <;> simp <;> omega

theorem sliceCheck_eq_error {addr n : Nat} {e : Errno} (h : sliceCheck addr n = .error e) :
    e = .overflow := by
  unfold sliceCheck at h
  split_ifs at h
  exact (Except.error.inj h).symm

theorem read_eq_error_of {addr n : Nat} {e : Errno} (h : m.read addr n = .error e) :
    e = .overflow ∨ e = .memviolation := by
  unfold read at h
  cases hc : m.checkAccess addr n with
  | error e' => rw [hc] at h; cases h; exact checkAccess_eq_error hc
  | ok u => rw [hc] at h; cases h

/-- A failed read of a range whose end does not overflow is out of bounds. -/
theorem read_eq_error {addr n : Nat} {e : Errno} (h : m.read addr n = .error e)
    (hn : addr + n < 2 ^ 64) : e = .memviolation := by
  unfold read checkAccess at h
  split_ifs at h <;> first | omega | cases h
  rfl

theorem write_eq_error_of {addr : Nat} {bs : List UInt8} {e : Errno} (h : m.write addr bs = .error e) :
    e = .overflow ∨ e = .memviolation := by
  unfold write at h
  cases hc : m.checkAccess addr bs.length with
  | error e' => rw [hc] at h; cases h; exact checkAccess_eq_error hc
  | ok u => rw [hc] at h; cases h

theorem write_eq_ok {addr : Nat} {bs : List UInt8} {m' : Memory} :
    m.write addr bs = .ok m' ↔ addr + bs.length ≤ m.size ∧ m' = m.store addr bs := by
  unfold write
  cases h : m.checkAccess addr bs.length with
  | error e =>
    have : ¬ addr + bs.length ≤ m.size := fun hle => by simp [checkAccess_eq_ok.2 hle] at h
    simp [bind, Except.bind, this]
  | ok u => simp [bind, Except.bind, pure, Except.pure, checkAccess_eq_ok.1 h, eq_comm]

/-- A write outside the memory fails, and changes nothing. -/
theorem write_eq_error {addr : Nat} {bs : List UInt8} (h : m.size < addr + bs.length) :
    ∃ e, m.write addr bs = .error e := by
  cases hw : m.write addr bs with
  | error e => exact ⟨e, rfl⟩
  | ok m' => exact absurd (write_eq_ok.1 hw).1 (by omega)

end Memory

end Wasix
