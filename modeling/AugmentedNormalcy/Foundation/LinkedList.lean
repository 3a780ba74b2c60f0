import Mathlib.Data.List.Nodup
import Mathlib.Logic.Function.Basic

/-!
# Doubly linked lists

Every node has a link forward and a link back. `Segment a l b` says that the links lead from `a`
over the nodes `l` to `b`, and back the same way; with a dummy node at either end, `l` is the list.
A node is unlinked behind the first dummy and linked before the last one.
-/

namespace LinkedList

/-- The links of every node. -/
structure Links (N : Type*) where
  next : N → N
  previous : N → N

namespace Links

variable {N : Type*}

/-- The links lead from `a` over the nodes of the list to `b`, and back. -/
def Segment (s : Links N) : N → List N → N → Prop
  | a, [], b => s.next a = b ∧ s.previous b = a
  | a, c :: l, b => (s.next a = c ∧ s.previous c = a) ∧ s.Segment c l b

variable {s s' : Links N} {a b c n : N} {l l' : List N}

/-- A segment through `c` is one to `c` and one from there. -/
theorem segment_append :
    s.Segment a (l ++ c :: l') b ↔ s.Segment a l c ∧ s.Segment c l' b := by
  induction l generalizing a with
  | nil => rfl
  | cons d l ih =>
    show _ ∧ s.Segment d (l ++ c :: l') b ↔ (_ ∧ s.Segment d l c) ∧ s.Segment c l' b
    rw [ih, ← and_assoc]

/-- Only the links inside a segment count. -/
theorem Segment.congr (h : s.Segment a l b) (hnext : ∀ x ∈ a :: l, s'.next x = s.next x)
    (hprevious : ∀ x ∈ l ++ [b], s'.previous x = s.previous x) : s'.Segment a l b := by
  induction l generalizing a with
  | nil =>
    obtain ⟨hab, hba⟩ := h
    exact ⟨(hnext a (by simp)).trans hab, (hprevious b (by simp)).trans hba⟩
  | cons c l ih =>
    obtain ⟨⟨hac, hca⟩, hrest⟩ := h
    refine ⟨⟨(hnext a (by simp)).trans hac, (hprevious c (by simp)).trans hca⟩, ?_⟩
    exact ih hrest (fun x hx => hnext x (List.mem_cons_of_mem a hx))
      fun x hx => hprevious x (List.mem_cons_of_mem c hx)

/-- The nodes of a segment are determined by its ends, when it does not pass through them. -/
theorem Segment.unique (h : s.Segment a l b) (h' : s.Segment a l' b) (hb : b ∉ l) (hb' : b ∉ l') :
    l = l' := by
  induction l generalizing a l' with
  | nil =>
    cases l' with
    | nil => rfl
    | cons c l' => exact absurd (h.1.symm.trans h'.1.1 ▸ List.mem_cons_self) hb'
  | cons c l ih =>
    cases l' with
    | nil => exact absurd (h'.1.symm.trans h.1.1 ▸ List.mem_cons_self) hb
    | cons c' l' =>
      obtain rfl : c = c' := h.1.1.symm.trans h'.1.1
      rw [ih h.2 h'.2 (List.not_mem_of_not_mem_cons hb) (List.not_mem_of_not_mem_cons hb')]

/-- The last link back. -/
theorem Segment.previous_eq (h : s.Segment a l b) :
    s.previous b = (a :: l).getLast (List.cons_ne_nil a l) := by
  induction l generalizing a with
  | nil => exact h.2
  | cons c l ih =>
    rw [List.getLast_cons (List.cons_ne_nil c l)]
    exact ih h.2

/-! ## The operations -/

variable [DecidableEq N]

/-- Assigns the link forward of one node. -/
def setNext (s : Links N) (a b : N) : Links N := { s with next := Function.update s.next a b }

/-- Assigns the link back of one node. -/
def setPrevious (s : Links N) (a b : N) : Links N :=
  { s with previous := Function.update s.previous a b }

@[simp]
theorem setNext_previous (s : Links N) (a b : N) : (s.setNext a b).previous = s.previous := rfl

@[simp]
theorem setPrevious_next (s : Links N) (a b : N) : (s.setPrevious a b).next = s.next := rfl

@[simp]
theorem setNext_next_self (s : Links N) (a b : N) : (s.setNext a b).next a = b := by
  simp [setNext]

@[simp]
theorem setPrevious_previous_self (s : Links N) (a b : N) : (s.setPrevious a b).previous a = b := by
  simp [setPrevious]

theorem setNext_next_of_ne (s : Links N) (b : N) (h : c ≠ a) :
    (s.setNext a b).next c = s.next c := by
  simp [setNext, h]

theorem setPrevious_previous_of_ne (s : Links N) (b : N) (h : c ≠ a) :
    (s.setPrevious a b).previous c = s.previous c := by
  simp [setPrevious, h]

/-- The node behind `a` is unlinked. -/
theorem Segment.unlink (h : s.Segment a (c :: l) b) (hnodup : (a :: c :: (l ++ [b])).Nodup) :
    ((s.setNext a (s.next c)).setPrevious (s.next c) a).Segment a l b := by
  obtain ⟨-, hrest⟩ := h
  obtain ⟨ha, hnodup⟩ := List.nodup_cons.mp hnodup
  obtain ⟨-, hnodup⟩ := List.nodup_cons.mp hnodup
  cases l with
  | nil =>
    obtain ⟨hnext, -⟩ := hrest
    rw [hnext]
    exact ⟨by simp, by simp⟩
  | cons d l =>
    obtain ⟨⟨hnext, -⟩, hrest⟩ := hrest
    rw [hnext]
    refine ⟨⟨by simp, by simp⟩, hrest.congr (fun x hx => ?_) fun x hx => ?_⟩
    -- The links behind `d` are as they were.
    · refine setNext_next_of_ne s d ?_
      rintro rfl
      exact ha (List.mem_cons_of_mem c (List.mem_append_left [b] hx))
    · refine setPrevious_previous_of_ne _ a ?_
      rintro rfl
      exact (List.nodup_cons.mp hnodup).1 hx

/-- A new node between `z` and `b`. -/
theorem segment_link_singleton (s : Links N) {z : N} (hnz : n ≠ z) (hnb : n ≠ b) :
    ((((s.setPrevious n z).setNext z n).setNext n b).setPrevious b n).Segment z [n] b := by
  refine ⟨⟨?_, ?_⟩, ?_, ?_⟩
  · rw [setPrevious_next, setNext_next_of_ne _ _ hnz.symm, setNext_next_self]
  · rw [setPrevious_previous_of_ne _ _ hnb]
    exact setPrevious_previous_self s n z
  · rw [setPrevious_next, setNext_next_self]
  · exact setPrevious_previous_self _ b n

/-- The links up to `z` stay when a new node is linked behind it. -/
theorem Segment.link_of_notMem {z : N} (h : s.Segment a l z) (hz : z ∉ a :: l) (hb : b ∉ l ++ [z])
    (hn : n ∉ a :: (l ++ [z])) :
    ((((s.setPrevious n z).setNext z n).setNext n b).setPrevious b n).Segment a l z := by
  refine h.congr (fun x hx => ?_) fun x hx => ?_
  · have hxz : x ≠ z := fun e => hz (e ▸ hx)
    have hxn : x ≠ n := by
      rintro rfl
      exact hn (List.mem_append_left [z] hx)
    rw [setPrevious_next, setNext_next_of_ne _ _ hxn, setNext_next_of_ne _ _ hxz, setPrevious_next]
  · have hxb : x ≠ b := fun e => hb (e ▸ hx)
    have hxn : x ≠ n := fun e => hn (List.mem_cons_of_mem a (e ▸ hx))
    rw [setPrevious_previous_of_ne _ _ hxb]
    exact setPrevious_previous_of_ne s z hxn

/-- A new node is linked before `b`, first back and then forward. -/
theorem Segment.link (h : s.Segment a l b) (hnodup : (a :: (l ++ [b])).Nodup)
    (hn : n ∉ a :: (l ++ [b])) :
    ((((s.setPrevious n (s.previous b)).setNext (s.previous b) n).setNext n b).setPrevious b
      n).Segment a (l ++ [n]) b := by
  -- `z` is the node before `b`.
  obtain ⟨k, z, hk, hz⟩ : ∃ k z, a :: l = k ++ [z] ∧ s.previous b = z :=
    ⟨(a :: l).dropLast, _, (List.dropLast_concat_getLast (List.cons_ne_nil a l)).symm,
      h.previous_eq⟩
  rw [hz]
  have hall : a :: (l ++ [b]) = k ++ [z] ++ [b] := by
    rw [← List.cons_append, hk]
  rw [hall] at hnodup hn
  obtain ⟨hnodup, -, hdisjoint⟩ := List.nodup_append.mp hnodup
  have hb : b ∉ k ++ [z] := fun hmem => hdisjoint b hmem b (List.mem_singleton_self b) rfl
  have hnz : n ≠ z := fun e => hn (by simp [e])
  have hnb : n ≠ b := fun e => hn (by simp [e])
  have hlast := segment_link_singleton s hnz hnb
  cases k with
  | nil =>
    obtain ⟨rfl, rfl⟩ := List.cons.inj hk
    exact hlast
  | cons a' k =>
    rw [List.cons_append] at hk
    obtain ⟨rfl, rfl⟩ := List.cons.inj hk
    rw [List.append_assoc]
    refine segment_append.mpr ⟨(segment_append.mp h).1.link_of_notMem ?_ ?_ ?_, hlast⟩
    · exact fun hmem => (List.nodup_append.mp hnodup).2.2 z hmem z (List.mem_singleton_self z) rfl
    · exact fun hmem => hb (List.mem_cons_of_mem a hmem)
    · exact fun hmem => hn (List.mem_append_left [b] hmem)

end Links

end LinkedList
