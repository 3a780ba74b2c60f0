import Mathlib.Data.List.Infix
import Mathlib.Data.List.TakeWhile

/-!
# Scanning a text for a pattern

A `Pattern` is tried at the beginning of a text. An iterator tries it at one place after the other
and goes on behind each match (`iterate`); `found` tries it everywhere. The two agree for a pattern
whose matches do not overlap. What is found in a text is found in pieces when the text is cut behind
a delimiter, a symbol that the pattern never looks past.

Patterns are put together from words, runs of symbols and alternatives.
-/

namespace Scan

variable {α β : Type*}

/-- A pattern: what it matches at the beginning of a text, and the rest of the text. -/
abbrev Pattern (α β : Type*) := List α → Option (β × List α)

/-- The matches that an iterator comes to; `skip` symbols belong to the match before. -/
def iterate (m : Pattern α β) : ℕ → List α → List β
  | _, [] => []
  | skip + 1, _ :: s => iterate m skip s
  | 0, a :: s =>
    match m (a :: s) with
    | some (b, rest) => b :: iterate m (s.length - rest.length) s
    | none => iterate m 0 s

/-- The matches at all places. -/
def found (m : Pattern α β) : List α → List β
  | [] => []
  | a :: s => ((m (a :: s)).map Prod.fst).toList ++ found m s

/-- No match begins inside of another one. -/
def NoOverlap (m : Pattern α β) : Prop :=
  ∀ s b rest i, m s = some (b, rest) → 0 < i → i < s.length - rest.length → m (s.drop i) = none

/-- What comes after the first `d` does not matter. -/
def IsDelimiter (d : α) (m : Pattern α β) : Prop :=
  ∀ s rest, d ∈ s → m (s ++ rest) = (m s).map fun (b, r) => (b, r ++ rest)

/-- A match does not contain `a`. -/
def Avoids (a : α) (m : Pattern α β) : Prop :=
  ∀ s b rest, m s = some (b, rest) → ∃ w, s = w ++ rest ∧ a ∉ w

section Found

variable {m : Pattern α β}

theorem iterate_eq_found_of_skip (h : NoOverlap m) (s : List α) :
    ∀ skip, (∀ i < skip, m (s.drop i) = none) → iterate m skip s = found m s := by
  induction s with
  | nil => exact fun _ _ => by simp [iterate, found]
  | cons a s ih =>
    intro skip hskip
    cases skip with
    | succ skip =>
      have hnone : m (a :: s) = none := hskip 0 (Nat.succ_pos skip)
      rw [iterate, found, hnone, ih skip fun i hi => hskip (i + 1) (Nat.succ_lt_succ hi)]
      rfl
    | zero =>
      cases hm : m (a :: s) with
      | none =>
        rw [iterate, found, hm, ih 0 fun i hi => absurd hi (Nat.not_lt_zero i)]
        rfl
      | some p =>
        obtain ⟨b, rest⟩ := p
        have hinside : ∀ i < s.length - rest.length, m (s.drop i) = none := fun i hi =>
          h (a :: s) b rest (i + 1) hm (Nat.succ_pos i) (by simp only [List.length_cons]; omega)
        rw [iterate, found, hm]
        dsimp only
        rw [ih _ hinside]
        rfl

/-- An iterator comes to every match. -/
theorem iterate_eq_found (h : NoOverlap m) (s : List α) : iterate m 0 s = found m s :=
  iterate_eq_found_of_skip h s 0 fun i hi => absurd hi (Nat.not_lt_zero i)

theorem found_suffix {s t : List α} (h : t <:+ s) : found m t <:+ found m s := by
  obtain ⟨u, rfl⟩ := h
  induction u with
  | nil => exact List.suffix_refl _
  | cons a u ih => exact ih.trans (List.suffix_append _ _)

/-- A text is found in pieces when it is cut behind a delimiter. -/
theorem found_append {d : α} (hd : IsDelimiter d m) (s : List α) :
    ∀ {t : List α}, t.getLast? = some d → found m (t ++ s) = found m t ++ found m s := by
  intro t
  induction t with
  | nil => exact fun ht => by cases ht
  | cons a t ih =>
    intro ht
    have hmem : d ∈ a :: t := List.mem_of_getLast? ht
    have hhead : (m (a :: t ++ s)).map Prod.fst = (m (a :: t)).map Prod.fst := by
      rw [hd (a :: t) s hmem, Option.map_map]
      rfl
    cases t with
    | nil =>
      rw [List.cons_append, found, found, ← List.cons_append, hhead, List.append_assoc]
      rfl
    | cons b t =>
      have ht' : (b :: t).getLast? = some d := by simpa using ht
      rw [List.cons_append, found, ih ht', ← List.cons_append, hhead, ← List.append_assoc]
      rfl

end Found

/-! ## Patterns from parts -/

section Parts

/-- Symbols that meet `p`, as many as there are, and `m` behind them. -/
def skipping (p : α → Bool) (m : Pattern α β) : Pattern α β := fun s => m (s.dropWhile p)

/-- The first of two patterns, or else the second. -/
def orElse (m m' : Pattern α β) : Pattern α β := fun s => (m s).or (m' s)

variable {d : α} {s : List α} {p : α → Bool} {m m' : Pattern α β}

theorem mem_dropWhile (hs : d ∈ s) (hp : p d = false) : d ∈ s.dropWhile p := by
  rw [← List.takeWhile_append_dropWhile (p := p) (l := s)] at hs
  refine (List.mem_append.mp hs).resolve_left fun hmem => ?_
  rw [List.mem_takeWhile_imp hmem] at hp
  cases hp

theorem dropWhile_append (rest : List α) (hs : d ∈ s) (hp : p d = false) :
    (s ++ rest).dropWhile p = s.dropWhile p ++ rest := by
  rw [List.dropWhile_append, if_neg]
  simpa using List.ne_nil_of_mem (mem_dropWhile hs hp)

theorem IsDelimiter.skipping (hp : p d = false) (hm : IsDelimiter d m) :
    IsDelimiter d (skipping p m) := by
  intro s rest hs
  simp only [Scan.skipping, dropWhile_append rest hs hp]
  exact hm _ rest (mem_dropWhile hs hp)

theorem IsDelimiter.orElse (hm : IsDelimiter d m) (hm' : IsDelimiter d m') :
    IsDelimiter d (orElse m m') := by
  intro s rest hs
  simp only [Scan.orElse, hm s rest hs, hm' s rest hs]
  cases m s <;> rfl

theorem Avoids.skipping (hp : p d = false) (hm : Avoids d m) : Avoids d (skipping p m) := by
  intro s b rest h
  obtain ⟨u, hu, hd⟩ := hm _ b rest h
  refine ⟨s.takeWhile p ++ u, ?_, fun hmem => ?_⟩
  · rw [List.append_assoc, ← hu, List.takeWhile_append_dropWhile]
  · rcases List.mem_append.mp hmem with hmem | hmem
    · rw [List.mem_takeWhile_imp hmem] at hp
      cases hp
    · exact hd hmem

theorem Avoids.orElse (hm : Avoids d m) (hm' : Avoids d m') : Avoids d (orElse m m') := by
  intro s b rest h
  rcases Option.or_eq_some_iff.mp h with h | ⟨-, h⟩
  · exact hm s b rest h
  · exact hm' s b rest h

end Parts

section Words

variable [DecidableEq α]

/-- The word `w`, with the value `b`. -/
def word (w : List α) (b : β) : Pattern α β := fun s => (s.dropPrefix? w).map fun rest => (b, rest)

/-- The word `w`, and `m` behind it. -/
def after (w : List α) (m : Pattern α β) : Pattern α β := fun s => (s.dropPrefix? w).bind m

variable {d : α} {w s rest : List α} {b : β} {m : Pattern α β}

theorem dropPrefix?_eq_some : s.dropPrefix? w = some rest ↔ s = w ++ rest := by
  simp [List.dropPrefix?_eq_some_iff]

/-- Whether a text begins with a word is decided before a delimiter that is not in the word. -/
theorem dropPrefix?_append (rest : List α) (hs : d ∈ s) (hw : d ∉ w) :
    (s ++ rest).dropPrefix? w = (s.dropPrefix? w).map (· ++ rest) := by
  cases h : s.dropPrefix? w with
  | some r =>
    rw [dropPrefix?_eq_some] at h
    rw [Option.map_some, dropPrefix?_eq_some, h, List.append_assoc]
  | none =>
    rw [Option.map_none, Option.eq_none_iff_forall_ne_some]
    intro r hr
    rcases List.append_eq_append_iff.mp (dropPrefix?_eq_some.mp hr) with ⟨u, hwu, -⟩ | ⟨u, hsu, -⟩
    · exact hw (hwu ▸ List.mem_append_left u hs)
    · rw [dropPrefix?_eq_some.mpr hsu] at h
      cases h

theorem IsDelimiter.word (hw : d ∉ w) : IsDelimiter d (word w b) := by
  intro s rest hs
  simp only [Scan.word, dropPrefix?_append rest hs hw, Option.map_map]
  rfl

theorem IsDelimiter.after (hw : d ∉ w) (hm : IsDelimiter d m) : IsDelimiter d (after w m) := by
  intro s rest hs
  simp only [Scan.after, dropPrefix?_append rest hs hw]
  cases h : s.dropPrefix? w with
  | none => rfl
  | some r =>
    rw [dropPrefix?_eq_some.mp h] at hs
    exact hm r rest ((List.mem_append.mp hs).resolve_left hw)

theorem Avoids.word (hw : d ∉ w) : Avoids d (word w b) := by
  intro s b' rest h
  obtain ⟨r, hr, heq⟩ := Option.map_eq_some_iff.mp h
  cases heq
  exact ⟨w, dropPrefix?_eq_some.mp hr, hw⟩

/-- A pattern that begins with a symbol, and does not contain it again, does not overlap. -/
theorem noOverlap_after {a : α} (hw : a ∉ w) (hm : Avoids a m) : NoOverlap (after (a :: w) m) := by
  intro s b rest i h hpos hlt
  obtain ⟨r, hr, hm'⟩ := Option.bind_eq_some_iff.mp h
  obtain ⟨u, rfl, hu⟩ := hm r b rest hm'
  obtain rfl := dropPrefix?_eq_some.mp hr
  obtain ⟨j, rfl⟩ : ∃ j, i = j + 1 := ⟨i - 1, by omega⟩
  simp only [List.cons_append, List.drop_succ_cons]
  -- Another match would begin with `a`, within the symbols that are not `a`.
  have hin : j < (w ++ u).length := by
    simp only [List.length_append, List.length_cons] at hlt
    rw [List.length_append]
    omega
  rw [Option.eq_none_iff_forall_ne_some]
  rintro ⟨b', rest'⟩ h'
  obtain ⟨r', hr', -⟩ := Option.bind_eq_some_iff.mp h'
  have hdrop : (w ++ (u ++ rest)).drop j = a :: w ++ r' := dropPrefix?_eq_some.mp hr'
  have hget : (w ++ u)[j] = a := by
    rw [← List.append_assoc, List.drop_eq_getElem_cons (by rw [List.length_append]; omega),
      List.getElem_append_left hin] at hdrop
    exact (List.cons.inj hdrop).1
  exact (List.mem_append.mp (hget ▸ List.getElem_mem hin)).elim hw hu

end Words

end Scan
