import Mathlib.Data.List.Sort
import Mathlib.Order.Defs.LinearOrder

/-!
# Ordered maps

An ordered map is a list of entries in strictly increasing order of their keys, so a map has one
representation and iteration is in key order, as it is for a balanced search tree. `find?` is the
meaning of a map: `ext_find?` says that two maps with the same lookups are equal, and every
operation has one lemma that says what `find?` returns after it. `begin?` and `next?` are the
iterators, and `cyclicNext?` is the successor that wraps around at the last key.
-/

/-- A finite map in key order. -/
structure OrdMap (K V : Type*) [LinearOrder K] where
  /-- The entries, in the order of iteration. -/
  entries : List (K × V)
  /-- The keys increase strictly, so no key occurs twice. -/
  sorted : entries.Pairwise fun a b => a.1 < b.1

namespace OrdMap

variable {K V W : Type*} [LinearOrder K]

instance [DecidableEq V] : DecidableEq (OrdMap K V) := fun a b =>
  decidable_of_iff (a.entries = b.entries) (by cases a; cases b; simp)

/-! ## The operations -/

/-- The first value under `k` in a list of entries. -/
def lookup (k : K) : List (K × V) → Option V
  | [] => none
  | e :: es => if e.1 = k then some e.2 else lookup k es

/-- Puts `v` under `k`, in its place in the order. -/
def insertEntry (k : K) (v : V) : List (K × V) → List (K × V)
  | [] => [(k, v)]
  | e :: es =>
    if k < e.1 then (k, v) :: e :: es
    else if e.1 = k then (k, v) :: es
    else e :: insertEntry k v es

/-- An entry of the new list is the new one or an old one. -/
theorem mem_insertEntry {k : K} {v : V} {a : K × V} {es : List (K × V)}
    (h : a ∈ insertEntry k v es) : a = (k, v) ∨ a ∈ es := by
  induction es with
  | nil => exact Or.inl (by simpa [insertEntry] using h)
  | cons e es ih =>
    simp only [insertEntry] at h
    split_ifs at h
    · simpa using h
    · rcases List.mem_cons.mp h with h | h
      · exact Or.inl h
      · exact Or.inr (List.mem_cons_of_mem _ h)
    · rcases List.mem_cons.mp h with h | h
      · exact Or.inr (h ▸ List.mem_cons_self)
      · exact (ih h).imp_right (List.mem_cons_of_mem _)

/-- Inserting keeps the keys sorted. -/
theorem insertEntry_sorted (k : K) (v : V) {es : List (K × V)}
    (h : es.Pairwise fun a b => a.1 < b.1) :
    (insertEntry k v es).Pairwise fun a b => a.1 < b.1 := by
  induction es with
  | nil => simp [insertEntry]
  | cons e es ih =>
    obtain ⟨hhead, htail⟩ := List.pairwise_cons.mp h
    simp only [insertEntry]
    split_ifs with hlt heq
    · refine List.pairwise_cons.mpr ⟨fun a ha => ?_, h⟩
      rcases List.mem_cons.mp ha with rfl | ha
      · exact hlt
      · exact hlt.trans (hhead a ha)
    · subst heq
      exact List.pairwise_cons.mpr ⟨hhead, htail⟩
    · refine List.pairwise_cons.mpr ⟨fun a ha => ?_, ih htail⟩
      rcases mem_insertEntry ha with rfl | ha
      · exact lt_of_le_of_ne (not_lt.mp hlt) heq
      · exact hhead a ha

/-- The map with no entries. -/
def empty : OrdMap K V := ⟨[], List.Pairwise.nil⟩

/-- The value under `k`. -/
def find? (m : OrdMap K V) (k : K) : Option V := lookup k m.entries

/-- Is there an entry under `k`? -/
def contains (m : OrdMap K V) (k : K) : Bool := (m.find? k).isSome

/-- Assigns `v` to `k`, with a new entry if there is none. -/
def insert (m : OrdMap K V) (k : K) (v : V) : OrdMap K V :=
  ⟨insertEntry k v m.entries, insertEntry_sorted k v m.sorted⟩

/-- Removes the entry under `k`, if there is one. -/
def erase (m : OrdMap K V) (k : K) : OrdMap K V :=
  ⟨m.entries.filter fun e => decide (e.1 ≠ k), m.sorted.sublist List.filter_sublist⟩

/-- Replaces every value by a function of its key and itself. -/
def mapVal (f : K → V → W) (m : OrdMap K V) : OrdMap K W :=
  ⟨m.entries.map fun e => (e.1, f e.1 e.2), List.pairwise_map.mpr m.sorted⟩

/-- The number of entries. -/
def size (m : OrdMap K V) : ℕ := m.entries.length

/-- The keys, in increasing order. -/
def keys (m : OrdMap K V) : List K := m.entries.map Prod.fst

/-- The entry of the least key. -/
def begin? (m : OrdMap K V) : Option (K × V) := m.entries.head?

/-- The entry after `k` in key order. -/
def next? (m : OrdMap K V) (k : K) : Option (K × V) := m.entries.find? fun e => decide (k < e.1)

/-- The entry after `k`, or the first entry when `k` is at or past the last key. -/
def cyclicNext? (m : OrdMap K V) (k : K) : Option (K × V) :=
  match m.next? k with
  | some e => some e
  | none => m.begin?

/-! ## Lookups -/

/-- What `lookup` finds in a sorted list are its entries. -/
theorem lookup_eq_some {k : K} {v : V} {es : List (K × V)}
    (h : es.Pairwise fun a b => a.1 < b.1) : lookup k es = some v ↔ (k, v) ∈ es := by
  induction es with
  | nil => simp [lookup]
  | cons e es ih =>
    obtain ⟨hhead, htail⟩ := List.pairwise_cons.mp h
    simp only [lookup, List.mem_cons]
    split_ifs with hk
    · subst hk
      constructor
      · intro hv
        cases hv
        exact Or.inl rfl
      · rintro (heq | hmem)
        · rw [← heq]
        · exact absurd (hhead _ hmem) (lt_irrefl _)
    · rw [ih htail]
      constructor
      · exact Or.inr
      · rintro (rfl | hmem)
        · exact absurd rfl hk
        · exact hmem

/-- The lookups of a map are its entries. -/
theorem find?_eq_some {m : OrdMap K V} {k : K} {v : V} :
    m.find? k = some v ↔ (k, v) ∈ m.entries :=
  lookup_eq_some m.sorted

/-- Two maps with the same lookups are equal. -/
theorem ext_find? {m n : OrdMap K V} (h : ∀ k, m.find? k = n.find? k) : m = n := by
  have hmem : ∀ e, e ∈ m.entries ↔ e ∈ n.entries := by
    rintro ⟨k, v⟩
    rw [← find?_eq_some, ← find?_eq_some, h]
  have hperm : m.entries.Perm n.entries :=
    (List.perm_ext_iff_of_nodup (m.sorted.imp fun h => by rintro rfl; exact lt_irrefl _ h)
      (n.sorted.imp fun h => by rintro rfl; exact lt_irrefl _ h)).mpr hmem
  have heq : m.entries = n.entries :=
    hperm.eq_of_pairwise (fun a b _ _ hab hba => (lt_asymm hab hba).elim) m.sorted n.sorted
  cases m
  cases n
  simpa using heq

/-- Nothing is found in the empty map. -/
@[simp]
theorem find?_empty (k : K) : (empty : OrdMap K V).find? k = none := rfl

/-- `insertEntry` changes what is found at its own key only. -/
theorem lookup_insertEntry (k : K) (v : V) (k' : K) (es : List (K × V)) :
    lookup k' (insertEntry k v es) = if k' = k then some v else lookup k' es := by
  induction es with
  | nil =>
    by_cases h : k' = k
    · simp [insertEntry, lookup, h]
    · simp [insertEntry, lookup, h, Ne.symm h]
  | cons e es ih =>
    simp only [insertEntry]
    rcases eq_or_ne k' k with rfl | h
    · rw [if_pos rfl] at ih ⊢
      by_cases hlt : k' < e.1
      · simp [hlt, lookup]
      · by_cases heq : e.1 = k'
        · simp [heq, lookup]
        · simp [hlt, heq, lookup, ih]
    · rw [if_neg h] at ih ⊢
      by_cases hlt : k < e.1
      · simp [hlt, lookup, h.symm]
      · by_cases heq : e.1 = k
        · simp [heq, lookup, h.symm]
        · simp [hlt, heq, lookup, ih]

/-- `insert` changes what is found at its own key only. -/
theorem find?_insert (m : OrdMap K V) (k : K) (v : V) (k' : K) :
    (m.insert k v).find? k' = if k' = k then some v else m.find? k' :=
  lookup_insertEntry k v k' m.entries

/-- At its own key the new value is found. -/
@[simp]
theorem find?_insert_self (m : OrdMap K V) (k : K) (v : V) : (m.insert k v).find? k = some v := by
  simp [find?_insert]

/-- At another key what was found before. -/
theorem find?_insert_of_ne {m : OrdMap K V} {k k' : K} {v : V} (h : k' ≠ k) :
    (m.insert k v).find? k' = m.find? k' := by
  simp [find?_insert, h]

/-- `erase` changes what is found at its own key only. -/
theorem find?_erase (m : OrdMap K V) (k k' : K) :
    (m.erase k).find? k' = if k' = k then none else m.find? k' := by
  apply Option.ext
  intro v
  split_ifs with h
  · subst h
    simp [find?_eq_some, erase]
  · simp [find?_eq_some, erase, h]

/-- At its own key nothing is found any more. -/
@[simp]
theorem find?_erase_self (m : OrdMap K V) (k : K) : (m.erase k).find? k = none := by
  simp [find?_erase]

/-- `mapVal` applies the function to what is found. -/
theorem find?_mapVal (f : K → V → W) (m : OrdMap K V) (k : K) :
    (m.mapVal f).find? k = (m.find? k).map (f k) := by
  have h : ∀ es : List (K × V),
      lookup k (es.map fun e => (e.1, f e.1 e.2)) = (lookup k es).map (f k) := by
    intro es
    induction es with
    | nil => rfl
    | cons e es ih =>
      simp only [List.map_cons, lookup]
      split_ifs with hk
      · subst hk
        rfl
      · exact ih
  exact h m.entries

/-- A map contains the keys at which something is found. -/
@[simp]
theorem contains_eq_true {m : OrdMap K V} {k : K} : m.contains k = true ↔ (m.find? k).isSome :=
  Iff.rfl

/-- And so do its keys. -/
theorem mem_keys {m : OrdMap K V} {k : K} : k ∈ m.keys ↔ (m.find? k).isSome := by
  rw [keys, List.mem_map, Option.isSome_iff_exists]
  constructor
  · rintro ⟨⟨k', v⟩, hmem, rfl⟩
    exact ⟨v, find?_eq_some.mpr hmem⟩
  · rintro ⟨v, hv⟩
    exact ⟨(k, v), find?_eq_some.mp hv, rfl⟩

/-- The keys come in order. -/
theorem keys_sorted (m : OrdMap K V) : m.keys.Pairwise (· < ·) :=
  List.pairwise_map.mpr m.sorted

/-- No key comes twice. -/
theorem keys_nodup (m : OrdMap K V) : m.keys.Nodup := m.keys_sorted.imp fun h => h.ne

/-- Inserting at a key that is there keeps the keys. -/
@[simp]
theorem keys_insert_of_isSome {m : OrdMap K V} {k : K} {v : V} (h : (m.find? k).isSome) :
    (m.insert k v).keys = m.keys := by
  refine List.Pairwise.eq_of_mem_iff (m.insert k v).keys_sorted m.keys_sorted fun k' => ?_
  rw [mem_keys, mem_keys, find?_insert]
  split_ifs with hk
  · subst hk
    simpa using h
  · rfl

/-- No entry comes twice. -/
theorem entries_nodup (m : OrdMap K V) : m.entries.Nodup :=
  m.sorted.imp fun h e => h.ne (congrArg Prod.fst e)

/-- Erasing a key takes its entry out of the entries. -/
theorem entries_perm_erase [DecidableEq V] {m : OrdMap K V} {k : K} {v : V}
    (h : m.find? k = some v) : m.entries.Perm ((k, v) :: (m.erase k).entries) := by
  have hmem := find?_eq_some.mp h
  refine (List.perm_ext_iff_of_nodup m.entries_nodup ?_).mpr fun e => ?_
  · refine List.nodup_cons.mpr ⟨fun he => ?_, (m.erase k).entries_nodup⟩
    simp [erase] at he
  · rw [List.mem_cons, erase, List.mem_filter, decide_eq_true_eq]
    constructor
    · intro he
      by_cases hk : e.1 = k
      · have hv : m.find? k = some e.2 := find?_eq_some.mpr (hk ▸ he)
        rw [h] at hv
        exact .inl (Prod.ext hk (Option.some.inj hv).symm)
      · exact .inr ⟨he, hk⟩
    · rintro (rfl | ⟨he, -⟩)
      · exact hmem
      · exact he

/-! ## Size and iteration -/

/-- A map is empty exactly when no key has an entry. -/
theorem eq_empty_iff {m : OrdMap K V} : m = empty ↔ ∀ k, m.find? k = none :=
  ⟨fun h k => by rw [h]; rfl, fun h => ext_find? fun k => by rw [h k]; rfl⟩

/-- A map with the keys of an empty one is empty. -/
theorem eq_empty_of_isSome_iff {m m' : OrdMap K V}
    (h : ∀ k, (m'.find? k).isSome ↔ (m.find? k).isSome) (hm : m = empty) : m' = empty := by
  rw [eq_empty_iff] at hm ⊢
  intro k
  rw [← Option.not_isSome_iff_eq_none, h, hm k]
  simp

/-- A map is not empty when something is found in it. -/
theorem ne_empty_iff {m : OrdMap K V} : m ≠ empty ↔ ∃ k, (m.find? k).isSome := by
  rw [Ne, eq_empty_iff]
  push Not
  exact exists_congr fun k => Option.ne_none_iff_isSome

/-- It is empty when its size is 0. -/
@[simp]
theorem size_eq_zero {m : OrdMap K V} : m.size = 0 ↔ m = empty := by
  rw [size, List.length_eq_zero_iff]
  constructor
  · intro h
    cases m
    cases h
    rfl
  · rintro rfl
    rfl

/-- It is empty when there is no first key. -/
theorem begin?_eq_none {m : OrdMap K V} : m.begin? = none ↔ m = empty := by
  rw [← size_eq_zero, size, begin?, List.head?_eq_none_iff, List.length_eq_zero_iff]

/-- The first entry is an entry of the map, and no key is below it. -/
theorem begin?_eq_some {m : OrdMap K V} {k : K} {v : V} (h : m.begin? = some (k, v)) :
    m.find? k = some v ∧ ∀ k', (m.find? k').isSome → k ≤ k' := by
  obtain ⟨es, hes⟩ : ∃ es, m.entries = (k, v) :: es := by
    obtain ⟨es, hes⟩ := List.head?_eq_some_iff.mp h
    exact ⟨es, hes⟩
  have hs := m.sorted
  rw [hes] at hs
  obtain ⟨hhead, -⟩ := List.pairwise_cons.mp hs
  refine ⟨find?_eq_some.mpr (by simp [hes]), fun k' hk' => ?_⟩
  obtain ⟨v', hv'⟩ := Option.isSome_iff_exists.mp hk'
  rw [find?_eq_some, hes] at hv'
  rcases List.mem_cons.mp hv' with heq | hmem
  · exact le_of_eq (congrArg Prod.fst heq).symm
  · exact (hhead _ hmem).le

/-- The entry after `k` is an entry of the map, past `k`, with no key in between. -/
theorem next?_eq_some {m : OrdMap K V} {k k' : K} {v : V} (h : m.next? k = some (k', v)) :
    m.find? k' = some v ∧ k < k' ∧ ∀ j, (m.find? j).isSome → k < j → k' ≤ j := by
  obtain ⟨hlt, as, bs, heq, has⟩ := List.find?_eq_some_iff_append.mp h
  refine ⟨find?_eq_some.mpr (by simp [heq]), by simpa using hlt, fun j hj hkj => ?_⟩
  obtain ⟨w, hw⟩ := Option.isSome_iff_exists.mp hj
  rw [find?_eq_some, heq, List.mem_append, List.mem_cons] at hw
  have hs := m.sorted
  rw [heq, List.pairwise_append] at hs
  rcases hw with hw | hw | hw
  · exact absurd hkj (by simpa using has _ hw)
  · exact le_of_eq (congrArg Prod.fst hw).symm
  · exact ((List.pairwise_cons.mp hs.2.1).1 _ hw).le

/-- The last key has no successor. -/
theorem next?_eq_none {m : OrdMap K V} {k : K} :
    m.next? k = none ↔ ∀ j, (m.find? j).isSome → j ≤ k := by
  rw [next?, List.find?_eq_none]
  constructor
  · intro h j hj
    obtain ⟨w, hw⟩ := Option.isSome_iff_exists.mp hj
    simpa using h _ (find?_eq_some.mp hw)
  · intro h e he
    simpa using h e.1 (Option.isSome_iff_exists.mpr ⟨e.2, find?_eq_some.mpr he⟩)

/-- With an entry under `k`, the map has one entry exactly when there is no other key. -/
theorem size_eq_one_iff {m : OrdMap K V} {k : K} (hk : (m.find? k).isSome) :
    m.size = 1 ↔ ∀ k', (m.find? k').isSome → k' = k := by
  obtain ⟨v, hv⟩ := Option.isSome_iff_exists.mp hk
  have hmem := find?_eq_some.mp hv
  constructor
  · intro hsize k' hk'
    obtain ⟨w, hw⟩ := Option.isSome_iff_exists.mp hk'
    obtain ⟨e, he⟩ := List.length_eq_one_iff.mp hsize
    have hmem' := find?_eq_some.mp hw
    rw [he, List.mem_singleton] at hmem hmem'
    exact (congrArg Prod.fst hmem').trans (congrArg Prod.fst hmem).symm
  · intro h
    have hkeys : m.keys = [k] := by
      refine List.Pairwise.eq_of_mem_iff m.keys_sorted (List.pairwise_singleton _ _) fun k' => ?_
      rw [mem_keys, List.mem_singleton]
      exact ⟨h k', by rintro rfl; exact hk⟩
    have hlen := congrArg List.length hkeys
    simpa [keys, size] using hlen

/-- The cyclic successor is an entry of the map. -/
theorem cyclicNext?_eq_some {m : OrdMap K V} {k k' : K} {v : V}
    (h : m.cyclicNext? k = some (k', v)) : m.find? k' = some v := by
  unfold cyclicNext? at h
  split at h
  · cases h
    rename_i hnext
    exact (next?_eq_some hnext).1
  · exact (begin?_eq_some h).1

/-- With another key in the map, the cyclic successor of `k` exists and is another key. -/
theorem exists_cyclicNext? {m : OrdMap K V} {k j : K} (hj : (m.find? j).isSome) (hne : j ≠ k) :
    ∃ k' v, m.cyclicNext? k = some (k', v) ∧ k' ≠ k := by
  unfold cyclicNext?
  cases hnext : m.next? k with
  | some e => exact ⟨e.1, e.2, rfl, (next?_eq_some hnext).2.1.ne'⟩
  | none =>
    have hle := next?_eq_none.mp hnext
    cases hbegin : m.begin? with
    | none =>
      rw [begin?_eq_none] at hbegin
      subst hbegin
      simp at hj
    | some e =>
      refine ⟨e.1, e.2, rfl, ?_⟩
      have hfirst := (begin?_eq_some hbegin).2 j hj
      have hlt := lt_of_le_of_ne (hle j hj) hne
      exact (lt_of_le_of_lt hfirst hlt).ne

/-- `next?` is the entry at the next position. -/
theorem next?_eq_getElem? {m : OrdMap K V} {i : ℕ} {k : K} (h : m.keys[i]? = some k) :
    m.next? k = m.entries[i + 1]? := by
  -- By induction on the sorted entries.
  have hes : ∀ (es : List (K × V)) (i : ℕ), es.Pairwise (fun a b => a.1 < b.1) →
      (es.map Prod.fst)[i]? = some k →
        es.find? (fun e => decide (k < e.1)) = es[i + 1]? := by
    intro es
    induction es with
    | nil => simp
    | cons e es ih =>
      intro i hs hk
      obtain ⟨hhead, htail⟩ := List.pairwise_cons.mp hs
      cases i with
      -- The key is at the front, so the next entry is the first larger one.
      | zero =>
        obtain rfl : e.1 = k := by simpa using hk
        rw [List.find?_cons_of_neg (by simp)]
        cases es with
        | nil => rfl
        | cons e' es =>
          rw [List.find?_cons_of_pos (by simpa using hhead e' List.mem_cons_self)]
          rfl
      | succ i =>
        rw [List.map_cons, List.getElem?_cons_succ] at hk
        obtain ⟨e', he', rfl⟩ := List.mem_map.mp (List.mem_of_getElem? hk)
        have hlt := hhead e' he'
        rw [List.find?_cons_of_neg (by simpa using hlt.le), ih i htail hk]
        rfl
  exact hes m.entries i m.sorted h

/-- The positions of the keys are below the size. -/
theorem lt_size_of_getElem?_keys {m : OrdMap K V} {i : ℕ} {k : K} (h : m.keys[i]? = some k) :
    i < m.size := by
  simpa [keys, size] using (List.getElem?_eq_some_iff.mp h).1

/-- After the key at position `i` the cyclic successor is at `i + 1`, counted modulo the size. -/
theorem cyclicNext?_eq_getElem? {m : OrdMap K V} {i : ℕ} {k : K} (h : m.keys[i]? = some k) :
    m.cyclicNext? k = m.entries[(i + 1) % m.size]? := by
  have hi := lt_size_of_getElem?_keys h
  rw [cyclicNext?, next?_eq_getElem? h]
  rcases Nat.lt_or_ge (i + 1) m.size with hlt | hge
  · rw [Nat.mod_eq_of_lt hlt, List.getElem?_eq_getElem hlt]
  · have heq : i + 1 = m.size := by omega
    rw [heq, Nat.mod_self, size, List.getElem?_eq_none (Nat.le_refl _), begin?,
      List.head?_eq_getElem?]

/-- A key has a position. -/
theorem exists_getElem?_keys {m : OrdMap K V} {k : K} (h : (m.find? k).isSome) :
    ∃ i < m.size, m.keys[i]? = some k := by
  obtain ⟨i, hi, hk⟩ := List.getElem_of_mem (mem_keys.mpr h)
  exact ⟨i, by simpa [keys, size] using hi, by rw [List.getElem?_eq_getElem hi, hk]⟩

end OrdMap
