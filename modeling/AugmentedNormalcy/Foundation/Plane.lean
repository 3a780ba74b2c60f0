import Mathlib.Tactic.Ring
import Mathlib.Tactic.Linarith

/-!
# Planes of an image

A `Plane` is a number of rows of the same length, one behind the other, in the memory of a buffer.
Addresses are integers, so that a pointer that runs past its plane is an address, too. The three
planes of an `I420` image follow each other; with even sides they fill the buffer.
-/

structure Plane where
  base : ℤ
  stride : ℤ
  rows : ℕ
deriving DecidableEq

namespace Plane

variable (p : Plane)

/-- The address of row `i`, whether or not the plane has it. -/
def row (i : ℕ) : ℤ := p.base + i * p.stride

/-- The address behind the last row. -/
def finish : ℤ := p.base + p.rows * p.stride

/-- A row of the plane starts at `a`. -/
def IsRow (a : ℤ) : Prop := ∃ i < p.rows, a = p.row i

/-- The addresses that a pointer runs through when it starts at row `i`. -/
def rowsFrom (i n : ℕ) : List ℤ := (List.range n).map fun j => p.row (i + j)

@[simp]
theorem row_zero : p.row 0 = p.base := by simp [row]

theorem row_add (i j : ℕ) : p.row (i + j) = p.row i + j * p.stride := by
  unfold row
  push_cast
  ring

variable {p}

theorem row_le_row (hs : 0 ≤ p.stride) {i j : ℕ} (h : i ≤ j) : p.row i ≤ p.row j := by
  have := mul_le_mul_of_nonneg_right (Int.ofNat_le.mpr h) hs
  unfold row
  linarith

theorem row_lt_row (hs : 0 < p.stride) {i j : ℕ} (h : i < j) : p.row i < p.row j := by
  have := mul_lt_mul_of_pos_right (Int.ofNat_lt.mpr h) hs
  unfold row
  linarith

/-- Rows that are not empty have different addresses. -/
theorem row_injective (hs : 0 < p.stride) : Function.Injective p.row := by
  intro i j h
  rcases Nat.lt_trichotomy i j with hlt | heq | hgt
  · exact absurd h (row_lt_row hs hlt).ne
  · exact heq
  · exact absurd h (row_lt_row hs hgt).ne'

theorem isRow_row_iff (hs : 0 < p.stride) {i : ℕ} : p.IsRow (p.row i) ↔ i < p.rows := by
  constructor
  · rintro ⟨j, hj, h⟩
    rwa [row_injective hs h]
  · exact fun h => ⟨i, h, rfl⟩

/-- A row lies between the ends of its plane. -/
theorem IsRow.bounds (hs : 0 ≤ p.stride) {a : ℤ} (h : p.IsRow a) :
    p.base ≤ a ∧ a + p.stride ≤ p.finish := by
  obtain ⟨i, hi, rfl⟩ := h
  refine ⟨?_, ?_⟩
  · calc p.base = p.row 0 := p.row_zero.symm
      _ ≤ p.row i := row_le_row hs (Nat.zero_le i)
  · calc p.row i + p.stride = p.row (i + 1) := by rw [row_add]; simp
      _ ≤ p.row p.rows := row_le_row hs hi

/-- Clamping an address at a row is clamping its number. -/
theorem min_row (hs : 0 ≤ p.stride) (i j : ℕ) : min (p.row i) (p.row j) = p.row (min i j) := by
  rcases Nat.le_total i j with h | h
  · rw [Nat.min_eq_left h, min_eq_left (row_le_row hs h)]
  · rw [Nat.min_eq_right h, min_eq_right (row_le_row hs h)]

/-- The numbers below `n`, clamped at `last`, are those up to `last` and then copies of it. -/
theorem map_min_range {α : Type*} (f : ℕ → α) (last n : ℕ) (h : last < n) :
    (List.range n).map (fun i => f (min i last)) =
      (List.range (last + 1)).map f ++ List.replicate (n - (last + 1)) (f last) := by
  obtain ⟨k, rfl⟩ : ∃ k, n = last + 1 + k := ⟨n - (last + 1), by omega⟩
  rw [List.range_add, List.map_append, Nat.add_sub_cancel_left]
  congr 1
  · refine List.map_congr_left fun i hi => ?_
    rw [Nat.min_eq_left (by simpa [Nat.lt_succ_iff] using hi)]
  · rw [List.map_map]
    refine List.eq_replicate_iff.mpr ⟨by simp, fun a ha => ?_⟩
    obtain ⟨i, -, rfl⟩ := List.mem_map.mp ha
    show f (min (last + 1 + i) last) = f last
    rw [Nat.min_eq_right (by omega)]

/-- Groups of `m` consecutive numbers make up the numbers. -/
theorem flatMap_map_range {α : Type*} (f : ℕ → α) (m n : ℕ) :
    ((List.range n).flatMap fun k => (List.range m).map fun i => f (m * k + i)) =
      (List.range (m * n)).map f := by
  induction n with
  | zero => rfl
  | succ n ih =>
    rw [List.range_succ, List.flatMap_append, ih, Nat.mul_succ, List.range_add, List.map_append,
      List.flatMap_singleton, List.map_map]
    rfl

end Plane

/-- An image of `width * height` pixels in the layout I420, from address 0 on. -/
structure I420 where
  width : ℕ
  height : ℕ

namespace I420

variable (im : I420)

def Y : Plane := ⟨0, im.width, im.height⟩

def U : Plane := ⟨im.width * im.height, im.width / 2, im.height / 2⟩

def V : Plane :=
  ⟨im.width * im.height + im.width / 2 * (im.height / 2), im.width / 2, im.height / 2⟩

theorem Y_finish : im.Y.finish = im.U.base := by
  simp only [Y, U, Plane.finish]
  ring

theorem U_finish : im.U.finish = im.V.base := by
  simp only [U, V, Plane.finish]
  push_cast
  ring

end I420
