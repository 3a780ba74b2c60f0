import Mathlib.Data.List.Basic
import Mathlib.Tactic.Ring

/-!
# Little-endian numbers and byte memory

`leBytes k n` is a number in `k` little-endian bytes and `leNat` reads it back. A `Memory` is what a
pointer points at: `overwrite` stores a list of bytes from an offset on, and `slice` loads one. The
lemmas say when a load sees a store, whole, in pieces, or not at all.
-/

namespace Bytes

/-! ## Numbers -/

/-- The `k` low bytes of a number, low byte first. -/
def leBytes : ℕ → ℕ → List UInt8
  | 0, _ => []
  | k + 1, n => UInt8.ofNat n :: leBytes k (n / 256)

/-- The number whose bytes are given, low byte first. -/
def leNat : List UInt8 → ℕ
  | [] => 0
  | b :: bs => b.toNat + 256 * leNat bs

@[simp]
theorem length_leBytes (k n : ℕ) : (leBytes k n).length = k := by
  induction k generalizing n with
  | zero => rfl
  | succ k ih => simp [leBytes, ih]

/-- Reading the low bytes of a number back gives the number modulo `256 ^ k`. -/
@[simp]
theorem leNat_leBytes (k n : ℕ) : leNat (leBytes k n) = n % 256 ^ k := by
  induction k generalizing n with
  | zero => simp [leBytes, leNat, Nat.mod_one]
  | succ k ih =>
    have hb : (UInt8.ofNat n).toNat = n % 256 := UInt8.toNat_ofNat'
    calc leNat (leBytes (k + 1) n) = n % 256 + 256 * (n / 256 % 256 ^ k) := by
          rw [leBytes, leNat, ih, hb]
      _ = n % (256 * 256 ^ k) := (Nat.mod_mul).symm
      _ = n % 256 ^ (k + 1) := by rw [pow_succ']

/-- A number read from `k` bytes is below `256 ^ k`. -/
theorem leNat_lt (bs : List UInt8) : leNat bs < 256 ^ bs.length := by
  induction bs with
  | nil => simp [leNat]
  | cons b bs ih =>
    have hb : b.toNat < 256 := b.toNat_lt
    rw [leNat, List.length_cons, pow_succ']
    omega

/-- The bytes of the number that they make are the bytes. -/
theorem leBytes_leNat (bs : List UInt8) : leBytes bs.length (leNat bs) = bs := by
  induction bs with
  | nil => rfl
  | cons b bs ih =>
    have hb : b.toNat < 256 := b.toNat_lt
    have hmod : UInt8.ofNat (b.toNat + 256 * leNat bs) = b := by
      apply UInt8.toNat_inj.mp
      rw [UInt8.toNat_ofNat']
      omega
    have hdiv : (b.toNat + 256 * leNat bs) / 256 = leNat bs := by omega
    calc leBytes (b :: bs).length (leNat (b :: bs))
        = UInt8.ofNat (b.toNat + 256 * leNat bs) ::
            leBytes bs.length ((b.toNat + 256 * leNat bs) / 256) := rfl
      _ = b :: leBytes bs.length (leNat bs) := by rw [hmod, hdiv]
      _ = b :: bs := by rw [ih]

/-! ## Memory -/

/-- A byte at every offset. -/
abbrev Memory := ℕ → UInt8

/-- The memory after `bs` was stored from `off` on. -/
def overwrite (m : Memory) (off : ℕ) (bs : List UInt8) : Memory :=
  fun i => if off ≤ i then (bs[i - off]?).getD (m i) else m i

/-- The `n` bytes from `off` on. -/
def slice (m : Memory) (off n : ℕ) : List UInt8 := (List.range n).map fun i => m (off + i)

/-- The number in the `k` bytes from `off` on. -/
def readLE (m : Memory) (off k : ℕ) : ℕ := leNat (slice m off k)

@[simp]
theorem length_slice (m : Memory) (off n : ℕ) : (slice m off n).length = n := by
  simp [slice]

@[simp]
theorem overwrite_nil (m : Memory) (off : ℕ) : overwrite m off [] = m := by
  funext i
  simp [overwrite]

/-- A store leaves the offsets before it alone. -/
theorem overwrite_of_lt {m : Memory} {off i : ℕ} {bs : List UInt8} (h : i < off) :
    overwrite m off bs i = m i :=
  if_neg (by omega)

/-- A store leaves the offsets after it alone. -/
theorem overwrite_of_ge {m : Memory} {off i : ℕ} {bs : List UInt8} (h : off + bs.length ≤ i) :
    overwrite m off bs i = m i := by
  have hnone : bs[i - off]? = none := List.getElem?_eq_none (by omega)
  simp [overwrite, hnone]

/-- A store puts its bytes in place. -/
theorem overwrite_add {m : Memory} {off i : ℕ} {bs : List UInt8} (h : i < bs.length) :
    overwrite m off bs (off + i) = bs[i] := by
  simp [overwrite, h]

/-- Two stores, the second where the first ends, are one. -/
theorem overwrite_append (m : Memory) (off : ℕ) (as bs : List UInt8) :
    overwrite (overwrite m off as) (off + as.length) bs = overwrite m off (as ++ bs) := by
  funext i
  by_cases hlt : i < off
  · rw [overwrite_of_lt (by omega), overwrite_of_lt hlt, overwrite_of_lt hlt]
  · obtain ⟨j, rfl⟩ : ∃ j, i = off + j := ⟨i - off, by omega⟩
    by_cases ha : j < as.length
    · rw [overwrite_of_lt (by omega), overwrite_add ha, overwrite_add (by simp; omega)]
      simp [ha]
    · obtain ⟨k, rfl⟩ : ∃ k, j = as.length + k := ⟨j - as.length, by omega⟩
      by_cases hb : k < bs.length
      · rw [← Nat.add_assoc, overwrite_add hb, Nat.add_assoc, overwrite_add (by simp; omega)]
        simp
      · rw [overwrite_of_ge (by omega), overwrite_of_ge (by omega),
          overwrite_of_ge (by simp; omega)]

/-- A load depends on the bytes that it loads. -/
theorem slice_congr {m m' : Memory} {off n : ℕ} (h : ∀ i < n, m (off + i) = m' (off + i)) :
    slice m off n = slice m' off n := by
  refine List.map_congr_left fun i hi => h i (List.mem_range.mp hi)

/-- A load is the load of its first part and of its second part. -/
theorem slice_append (m : Memory) (off a b : ℕ) :
    slice m off (a + b) = slice m off a ++ slice m (off + a) b := by
  simp [slice, List.range_add, Nat.add_assoc]

/-- The parts of a load that is known. -/
theorem slice_eq_append {m : Memory} {off a b : ℕ} {xs ys : List UInt8} (hxs : xs.length = a)
    (h : slice m off (a + b) = xs ++ ys) : slice m off a = xs ∧ slice m (off + a) b = ys := by
  rw [slice_append] at h
  exact List.append_inj h (by rw [length_slice, hxs])

/-- A load sees a store of the same range. -/
theorem slice_overwrite_self (m : Memory) (off : ℕ) (bs : List UInt8) :
    slice (overwrite m off bs) off bs.length = bs := by
  refine List.ext_getElem (by simp) fun i h _ => ?_
  have hi : i < bs.length := by simpa using h
  simp [slice, overwrite_add hi]

/-- A load sees its part of a store of a larger range. -/
theorem slice_overwrite_of_le {m : Memory} {off n : ℕ} {bs : List UInt8}
    (h : off + n ≤ bs.length) : slice (overwrite m 0 bs) off n = (bs.drop off).take n := by
  refine List.ext_getElem (by simp; omega) fun i hi _ => ?_
  have hin : i < n := by simpa using hi
  have hstore : overwrite m 0 bs (0 + (off + i)) = bs[off + i] := overwrite_add (by omega)
  simp only [Nat.zero_add] at hstore
  simp [slice, hstore]

/-- A load does not see a store of another range. -/
theorem slice_overwrite_of_disjoint {m : Memory} {off off' n : ℕ} {bs : List UInt8}
    (h : off + n ≤ off' ∨ off' + bs.length ≤ off) :
    slice (overwrite m off' bs) off n = slice m off n := by
  refine slice_congr fun i hi => ?_
  rcases h with h | h
  · exact overwrite_of_lt (by omega)
  · exact overwrite_of_ge (by omega)

/-- Storing a part of another memory behind where the two agree makes them agree to its end. -/
theorem overwrite_slice_of_lt {m m' : Memory} {off n i : ℕ} (h : ∀ j < off, m j = m' j)
    (hi : i < off + n) : overwrite m off (slice m' off n) i = m' i := by
  by_cases hlt : i < off
  · rw [overwrite_of_lt hlt, h i hlt]
  · obtain ⟨j, rfl⟩ : ∃ j, i = off + j := ⟨i - off, by omega⟩
    rw [overwrite_add (by simpa using hi)]
    simp [slice]

/-- The first bytes of a load. -/
theorem take_slice {m : Memory} {off n k : ℕ} (h : k ≤ n) :
    (slice m off n).take k = slice m off k := by
  obtain ⟨j, rfl⟩ : ∃ j, n = k + j := ⟨n - k, by omega⟩
  rw [slice_append, List.take_left' (length_slice m off k)]

/-- Storing what is there changes nothing. -/
theorem overwrite_slice (m : Memory) (off n : ℕ) : overwrite m off (slice m off n) = m := by
  funext i
  by_cases hlt : i < off
  · exact overwrite_of_lt hlt
  · obtain ⟨j, rfl⟩ : ∃ j, i = off + j := ⟨i - off, by omega⟩
    by_cases hj : j < n
    · rw [overwrite_add (by simpa using hj)]
      simp [slice]
    · exact overwrite_of_ge (by simp; omega)

/-- A store over a shorter store hides it. -/
theorem overwrite_overwrite (m : Memory) (off : ℕ) {as bs : List UInt8}
    (h : as.length ≤ bs.length) : overwrite (overwrite m off as) off bs = overwrite m off bs := by
  funext i
  by_cases hlt : i < off
  · rw [overwrite_of_lt hlt, overwrite_of_lt hlt, overwrite_of_lt hlt]
  · obtain ⟨j, rfl⟩ : ∃ j, i = off + j := ⟨i - off, by omega⟩
    by_cases hj : j < bs.length
    · rw [overwrite_add hj, overwrite_add hj]
    · rw [overwrite_of_ge (by omega), overwrite_of_ge (by omega), overwrite_of_ge (by omega)]

/-- A number that was stored is loaded, modulo `256 ^ k`. -/
theorem readLE_overwrite_self (m : Memory) (off k n : ℕ) :
    readLE (overwrite m off (leBytes k n)) off k = n % 256 ^ k := by
  have h := slice_overwrite_self m off (leBytes k n)
  rw [length_leBytes] at h
  rw [readLE, h, leNat_leBytes]

/-- A number elsewhere is not changed by a store. -/
theorem readLE_overwrite_of_disjoint {m : Memory} {off off' k : ℕ} {bs : List UInt8}
    (h : off + k ≤ off' ∨ off' + bs.length ≤ off) :
    readLE (overwrite m off' bs) off k = readLE m off k := by
  rw [readLE, slice_overwrite_of_disjoint h, readLE]

/-- Storing the number that is there changes nothing. -/
theorem overwrite_readLE (m : Memory) (off k : ℕ) :
    overwrite m off (leBytes k (readLE m off k)) = m := by
  have h := leBytes_leNat (slice m off k)
  rw [length_slice] at h
  rw [readLE, h, overwrite_slice]

theorem readLE_lt (m : Memory) (off k : ℕ) : readLE m off k < 256 ^ k := by
  have := leNat_lt (slice m off k)
  rwa [length_slice] at this

end Bytes
