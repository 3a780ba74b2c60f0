import Mathlib.Data.Rat.Floor

/-!
# Doubles and their integer parts

A `Double` is 64 bits: a sign, 11 bits of exponent and 52 of fraction. Its value is a rational
number unless it is an infinity or not a number. A conversion to `int` cuts the fractional part off;
what is then too large for an `int` has no conversion. -/

structure Double where
  bits : BitVec 64
deriving DecidableEq, Repr

namespace Double

/-! ## Integer parts -/

/-- The integer part of a number, towards zero. -/
def truncate (q : ℚ) : ℤ := if 0 ≤ q then ⌊q⌋ else ⌈q⌉

theorem truncate_of_nonneg {q : ℚ} (h : 0 ≤ q) : truncate q = ⌊q⌋ := if_pos h

theorem truncate_of_neg {q : ℚ} (h : q < 0) : truncate q = ⌈q⌉ := if_neg h.not_ge

/-- What is cut off leaves 0. -/
theorem truncate_eq_zero_iff {q : ℚ} : truncate q = 0 ↔ -1 < q ∧ q < 1 := by
  rcases le_or_gt 0 q with h | h
  · rw [truncate_of_nonneg h, Int.floor_eq_zero_iff, Set.mem_Ico]
    constructor
    · exact fun hq => ⟨by linarith, hq.2⟩
    · exact fun hq => ⟨h, hq.2⟩
  · rw [truncate_of_neg h, Int.ceil_eq_zero_iff, Set.mem_Ioc]
    constructor
    · exact fun hq => ⟨hq.1, by linarith⟩
    · exact fun hq => ⟨hq.1, h.le⟩

theorem truncate_eq_iff_of_pos {q : ℚ} {n : ℤ} (hn : 0 < n) :
    truncate q = n ↔ (n : ℚ) ≤ q ∧ q < n + 1 := by
  have hn' : (0 : ℚ) < n := Int.cast_pos.mpr hn
  rcases le_or_gt 0 q with h | h
  · rw [truncate_of_nonneg h, Int.floor_eq_iff]
  · rw [truncate_of_neg h]
    constructor
    · intro hq
      have hceil : ⌈q⌉ ≤ 0 := Int.ceil_le.mpr (by exact_mod_cast h.le)
      omega
    · exact fun hq => by linarith [hq.1]

/-- The numbers with an integer part from `-n` on. -/
theorem neg_le_truncate_iff {q : ℚ} {n : ℕ} : -(n : ℤ) ≤ truncate q ↔ -(n : ℚ) - 1 < q := by
  rcases le_or_gt 0 q with h | h
  · rw [truncate_of_nonneg h]
    have hfloor : 0 ≤ ⌊q⌋ := Int.floor_nonneg.mpr h
    have hn : (0 : ℚ) ≤ n := Nat.cast_nonneg n
    exact iff_of_true (by omega) (by linarith)
  · rw [truncate_of_neg h, Int.le_ceil_iff]
    push_cast
    rfl

/-- The numbers with an integer part below `n`. -/
theorem truncate_lt_iff {q : ℚ} {n : ℕ} (hn : 0 < n) : truncate q < n ↔ q < n := by
  rcases le_or_gt 0 q with h | h
  · rw [truncate_of_nonneg h, Int.floor_lt]
    rfl
  · rw [truncate_of_neg h]
    have hceil : ⌈q⌉ ≤ 0 := Int.ceil_le.mpr (by exact_mod_cast h.le)
    have hn' : (0 : ℚ) < n := Nat.cast_pos.mpr hn
    exact iff_of_true (by omega) (by linarith)

/-! ## The value of a double -/

def sign (d : Double) : Bool := d.bits.msb

def exponent (d : Double) : ℕ := d.bits.toNat / 2 ^ 52 % 2 ^ 11

def fraction (d : Double) : ℕ := d.bits.toNat % 2 ^ 52

/-- The magnitude of a finite double, in units of `2 ^ -1074`. -/
def magnitude (d : Double) : ℕ :=
  if d.exponent = 0 then d.fraction else (2 ^ 52 + d.fraction) * 2 ^ (d.exponent - 1)

/-- The value, unless the double is an infinity or not a number. -/
def value? (d : Double) : Option ℚ :=
  if d.exponent = 2047 then none
  else
    let q : ℚ := d.magnitude / 2 ^ 1074
    some (if d.sign then -q else q)

/-- The integer part, if it is an `int`. -/
def toInt? (d : Double) : Option ℤ :=
  d.value?.bind fun q =>
    if -2 ^ 31 ≤ truncate q ∧ truncate q < 2 ^ 31 then some (truncate q) else none

/-- The double has a value, and its integer part is an `int`. -/
def IsRepresentable (d : Double) : Prop :=
  ∃ q, d.value? = some q ∧ -2 ^ 31 - 1 < q ∧ q < 2 ^ 31

theorem toInt?_eq_some_iff {d : Double} {n : ℤ} :
    d.toInt? = some n ↔
      ∃ q, d.value? = some q ∧ (-2 ^ 31 - 1 < q ∧ q < 2 ^ 31) ∧ truncate q = n := by
  have hrange (q : ℚ) : -2 ^ 31 ≤ truncate q ∧ truncate q < 2 ^ 31 ↔
      -2 ^ 31 - 1 < q ∧ q < 2 ^ 31 := by
    have hlow := neg_le_truncate_iff (q := q) (n := 2 ^ 31)
    have hhigh := truncate_lt_iff (q := q) (n := 2 ^ 31) (by decide)
    norm_num at hlow hhigh ⊢
    exact and_congr hlow hhigh
  unfold toInt?
  rw [Option.bind_eq_some_iff]
  refine exists_congr fun q => and_congr_right fun _ => ?_
  rw [Option.ite_none_right_eq_some, hrange, Option.some.injEq]

theorem toInt?_eq_none_iff {d : Double} : d.toInt? = none ↔ ¬ d.IsRepresentable := by
  rw [Option.eq_none_iff_forall_ne_some]
  constructor
  · rintro h ⟨q, hq, hrange⟩
    exact h (truncate q) (toInt?_eq_some_iff.mpr ⟨q, hq, hrange, rfl⟩)
  · intro h n hn
    obtain ⟨q, hq, hrange, -⟩ := toInt?_eq_some_iff.mp hn
    exact h ⟨q, hq, hrange⟩

end Double
