import Mathlib.Data.List.Perm.Basic

/-!
# Pools

A pool owns the elements of a list `all`. Some are free, in a queue, and the others are out, held by
whoever took them. `Whole all free out` says that nothing is missing and nothing is in two places;
taking from the front of the queue and giving back at its end keep it.
-/

namespace Pool

variable {α : Type*} {all free out out' : List α} {a : α}

/-- Every element is free or out, as often as the pool owns it. -/
def Whole (all free out : List α) : Prop := (free ++ out).Perm all

/-- At first everything is free. -/
theorem Whole.initial (all : List α) : Whole all all [] := by
  rw [Whole, List.append_nil]

/-- The front of the queue is taken. -/
theorem Whole.take (h : Whole all (a :: free) out) : Whole all free (a :: out) :=
  List.perm_middle.trans h

/-- An element is given back, at the end of the queue. -/
theorem Whole.give (h : Whole all free out) (hout : out.Perm (a :: out')) :
    Whole all (free ++ [a]) out' := by
  rw [Whole, List.append_assoc, List.singleton_append]
  calc (free ++ a :: out').Perm (free ++ out) := hout.symm.append_left free
    List.Perm _ all := h

/-- Who holds what does not matter. -/
theorem Whole.perm_out (h : Whole all free out) (hout : out.Perm out') : Whole all free out' :=
  (hout.symm.append_left free).trans h

theorem Whole.length_eq (h : Whole all free out) : free.length + out.length = all.length := by
  rw [← List.length_append]
  exact List.Perm.length_eq h

/-- Nothing is in two places. -/
theorem Whole.nodup (h : Whole all free out) (hall : all.Nodup) : (free ++ out).Nodup :=
  (List.Perm.nodup_iff h).mpr hall

theorem Whole.mem_iff (h : Whole all free out) : a ∈ all ↔ a ∈ free ∨ a ∈ out := by
  rw [← List.Perm.mem_iff h, List.mem_append]

end Pool
