import Mathlib.Data.List.Infix

/-!
# Lists

Replacing and removing the only occurrence of an element, and the last element of a suffix.
-/

namespace List

variable {α : Type*}

/-- When one element alone meets the predicate, removing the first that does removes it. -/
theorem eraseP_eq_erase [DecidableEq α] {p : α → Bool} {s : α} {l : List α}
    (h : ∀ a ∈ l, p a = true ↔ a = s) : l.eraseP p = l.erase s := by
  induction l with
  | nil => rfl
  | cons a l ih =>
    have ha := h a List.mem_cons_self
    by_cases has : a = s
    · subst has
      rw [List.eraseP_cons_of_pos (ha.mpr rfl), List.erase_cons_head]
    · rw [List.eraseP_cons_of_neg (fun hp => has (ha.mp hp)),
        List.erase_cons_tail (by simpa using has), ih fun b hb => h b (List.mem_cons_of_mem _ hb)]

/-- Erasing an element that a filter drops does not change what it keeps. -/
theorem filter_erase_of_neg [DecidableEq α] {p : α → Bool} {s : α} (hp : p s = false)
    (l : List α) : (l.erase s).filter p = l.filter p := by
  induction l with
  | nil => rfl
  | cons a l ih =>
    by_cases has : a = s
    · subst has
      rw [List.erase_cons_head, List.filter_cons_of_neg (by simp [hp])]
    · rw [List.erase_cons_tail (by simpa using has), List.filter_cons, List.filter_cons, ih]

/-- The first occurrence in a list without repetitions is the only one. -/
theorem replace_eq_set [DecidableEq α] {old new : α} {l : List α} (hl : l.Nodup)
    {i : ℕ} (hi : l[i]? = some old) : l.replace old new = l.set i new := by
  induction l generalizing i with
  | nil => simp at hi
  | cons a l ih =>
    obtain ⟨hnot, hl⟩ := List.nodup_cons.mp hl
    cases i with
    | zero =>
      obtain rfl : a = old := by simpa using hi
      simp
    | succ i =>
      have hmem : l[i]? = some old := by simpa using hi
      have hne : old ≠ a := by
        rintro rfl
        exact hnot (List.mem_of_getElem? hmem)
      have hbeq : (old == a) = false := by simpa using hne
      rw [List.replace_cons, hbeq, List.set_cons_succ, ih hl hmem]

/-- What ends in `l` ends with its last element. -/
theorem getLast?_of_suffix {l l' : List α} {a : α} (h : l <:+ l')
    (ha : l.getLast? = some a) : l'.getLast? = some a :=
  List.singleton_suffix_iff_getLast?_eq_some.mp
    ((List.singleton_suffix_iff_getLast?_eq_some.mpr ha).trans h)

end List
