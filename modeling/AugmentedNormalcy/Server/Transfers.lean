import AugmentedNormalcy.Foundation.Lists
import AugmentedNormalcy.Server.Linked

/-!
# The operations that move attached writers

`RotateWriterConnection` and `ResetWriterConnection` move one writer to another reader, and
`RotateAllConnections` and `PointReaderAtWriters` move all of them. Over linked maps each operation
either leaves the manager as it is or is one of two transfers, `moveConnection` and `moveAllTo`, to
a reader that has a list (`rotateWriterConnection_cases` and its siblings); both transfers keep the
maps linked and the readers' sessions and lists where they were. -/

namespace AugmentedNormalcy.Server

open ConnectionManager

/-! ## One writer -/

/-- The list of a reader holds one session under the address of a writer that is mapped to it. -/
theorem Linked.find?_list {attached : TcpAddr → Option Writer} {m : ConnectionManager}
    (h : Linked attached m) {w r : TcpAddr} {l : List Writer}
    (hw : m.writer_connections.find? w = some r) (hl : m.reader_connections.find? r = some l) :
    ∃ s, attached w = some s ∧ s.addr = w ∧ s ∈ l ∧
      l.find? (fun writer => writer.addr = w) = some s ∧
      l.eraseP (fun writer => writer.addr = w) = l.erase s := by
  obtain ⟨s, l', hs, ha, hl', hmem⟩ := h.exists_mem hw
  rw [hl] at hl'
  cases hl'
  -- An attached session is the only one under its address.
  have honly : ∀ a ∈ l, a.addr = w → a = s := by
    intro a hal haw
    have := ((h.mem_iff hl a).mp hal).1
    rw [haw, hs] at this
    exact (Option.some.inj this).symm
  refine ⟨s, hs, ha, hmem, ?_, List.eraseP_eq_erase fun a hal => ?_⟩
  · cases hf : l.find? (fun writer => writer.addr = w) with
    | none =>
      have := List.find?_eq_none.mp hf s hmem
      simp [ha] at this
    | some a =>
      have hp := List.find?_some hf
      rw [honly a (List.mem_of_find?_eq_some hf) (by simpa using hp)]
  · rw [decide_eq_true_eq]
    exact ⟨honly a hal, by rintro rfl; exact ha⟩

/-- The manager after the session `s` was moved from the list of `c` to the back of the list of
`q`. -/
def moveWriter (m : ConnectionManager) (s : Writer) (c q : TcpAddr) : ConnectionManager :=
  { m with
    reader_connections :=
      (m.reader_connections.insert q ((m.reader_connections.find? q).getD [] ++ [s])).insert c
        (((m.reader_connections.find? c).getD []).erase s)
    writer_connections := m.writer_connections.insert s.addr q }

/-- Over linked maps the move of a mapped writer succeeds, and moves its one session. -/
theorem moveConnection_eq {attached : TcpAddr → Option Writer} {m : ConnectionManager}
    (h : Linked attached m) {w c q : TcpAddr} {lc lq : List Writer}
    (hw : m.writer_connections.find? w = some c) (hc : m.reader_connections.find? c = some lc)
    (hq : m.reader_connections.find? q = some lq) :
    ∃ s, attached w = some s ∧ s.addr = w ∧
      m.moveConnection w c q lc lq = (moveWriter m s c q, true) := by
  obtain ⟨s, hs, ha, -, hfind, herase⟩ := h.find?_list hw hc
  exact ⟨s, hs, ha, by simp [moveConnection, hfind, herase, moveWriter, hc, hq, ha]⟩

/-- What `RotateWriterConnection` does over linked maps: nothing, or one move to another reader. -/
theorem rotateWriterConnection_cases {attached : TcpAddr → Option Writer} {m : ConnectionManager}
    (h : Linked attached m) (w : TcpAddr) :
    (m.rotateWriterConnection w).1 = m ∨
      ∃ s c q, attached w = some s ∧ s.addr = w ∧ m.writer_connections.find? w = some c ∧
        (m.reader_connections.find? q).isSome ∧ q ≠ c ∧
        m.rotateWriterConnection w = (moveWriter m s c q, true) := by
  unfold rotateWriterConnection
  split
  · exact Or.inl rfl
  · rename_i c hw
    obtain ⟨s₀, l₀, -, -, hl₀, -⟩ := h.exists_mem hw
    have hreg : (m.reader_sessions.find? c).isSome := h.registered (by simp [hl₀])
    split_ifs with hnone hone
    · exact Or.inl rfl
    · exact Or.inl rfl
    · split
      · exact Or.inl rfl
      · exact Or.inl rfl
      · rename_i lc _ hc
        split
        · exact Or.inl rfl
        · rename_i q _ hnext
          split
          · exact Or.inl rfl
          · rename_i lq hq
            -- Another reader is registered, so the cyclic successor is another reader.
            have hne : q ≠ c := by
              rw [OrdMap.size_eq_one_iff hreg] at hone
              push Not at hone
              obtain ⟨j, hj, hjc⟩ := hone
              obtain ⟨q', _, hq', hqc⟩ := OrdMap.exists_cyclicNext? hj hjc
              rw [hnext] at hq'
              cases hq'
              exact hqc
            obtain ⟨s, hs, ha, heq⟩ := moveConnection_eq h hw hc hq
            exact Or.inr ⟨s, c, q, hs, ha, hw, by simp [hq], hne, heq⟩

/-- What `ResetWriterConnection` does over linked maps: nothing, or one move to another reader. -/
theorem resetWriterConnection_cases {attached : TcpAddr → Option Writer} {m : ConnectionManager}
    (h : Linked attached m) (w : TcpAddr) :
    (m.resetWriterConnection w).1 = m ∨
      ∃ s c q, attached w = some s ∧ s.addr = w ∧ m.writer_connections.find? w = some c ∧
        (m.reader_connections.find? q).isSome ∧ q ≠ c ∧
        m.resetWriterConnection w = (moveWriter m s c q, true) := by
  unfold resetWriterConnection
  split
  · exact Or.inl rfl
  · rename_i c hw
    split
    · exact Or.inl rfl
    · exact Or.inl rfl
    · rename_i q _ _ _
      split_ifs with hfirst
      · exact Or.inl rfl
      · split
        · exact Or.inl rfl
        · exact Or.inl rfl
        · rename_i lc _ hc
          split
          · exact Or.inl rfl
          · rename_i lq hq
            push Not at hfirst
            obtain ⟨s, hs, ha, heq⟩ := moveConnection_eq h hw hc hq
            exact Or.inr ⟨s, c, q, hs, ha, hw, by simp [hq], Ne.symm hfirst.2, heq⟩

section MoveWriter

variable {attached : TcpAddr → Option Writer} {m : ConnectionManager} {s : Writer} {c q : TcpAddr}
  {lc lq : List Writer}

theorem find?_moveWriter (hc : m.reader_connections.find? c = some lc)
    (hq : m.reader_connections.find? q = some lq) (s : Writer) (r : TcpAddr) :
    (moveWriter m s c q).reader_connections.find? r =
      if r = c then some (lc.erase s) else if r = q then some (lq ++ [s])
      else m.reader_connections.find? r := by
  simp [moveWriter, OrdMap.find?_insert, hq, hc]

theorem find?_writer_moveWriter (m : ConnectionManager) (s : Writer) (c q w : TcpAddr) :
    (moveWriter m s c q).writer_connections.find? w =
      if w = s.addr then some q else m.writer_connections.find? w := OrdMap.find?_insert _ _ _ _

/-- After a move the lists are still those of the attached writers that are mapped to the reader. -/
theorem Linked.mem_moveWriter_iff (h : Linked attached m) (hs : attached s.addr = some s)
    (hw : m.writer_connections.find? s.addr = some c)
    (hc : m.reader_connections.find? c = some lc) (hq : m.reader_connections.find? q = some lq)
    (hqc : q ≠ c) {r : TcpAddr} {l : List Writer}
    (hl : (Server.moveWriter m s c q).reader_connections.find? r = some l) (x : Writer) :
    x ∈ l ↔ attached x.addr = some x ∧
      (Server.moveWriter m s c q).writer_connections.find? x.addr = some r := by
  -- A session under the address of `s` that is attached is `s`.
  have honly : attached x.addr = some x → x.addr = s.addr → x = s := by
    intro hx hxa
    rw [hxa, hs] at hx
    exact (Option.some.inj hx).symm
  rw [find?_moveWriter hc hq] at hl
  rw [find?_writer_moveWriter]
  split_ifs at hl with hrc hrq
  · cases hl
    subst hrc
    -- The list that the writer leaves.
    rw [(h.nodup hc).mem_erase_iff, h.mem_iff hc]
    constructor
    · rintro ⟨hne, hx, hxr⟩
      exact ⟨hx, by rw [if_neg fun e => hne (honly hx e)]; exact hxr⟩
    · rintro ⟨hx, hxr⟩
      split_ifs at hxr with hxa
      · exact absurd (Option.some.inj hxr) hqc
      · exact ⟨fun e => hxa (by rw [e]), hx, hxr⟩
  · cases hl
    subst hrq
    -- The list that it joins.
    rw [List.mem_append, List.mem_singleton, h.mem_iff hq]
    constructor
    · rintro (⟨hx, hxr⟩ | rfl)
      · exact ⟨hx, by rw [hxr, ite_self]⟩
      · exact ⟨hs, by simp⟩
    · rintro ⟨hx, hxr⟩
      split_ifs at hxr with hxa
      · exact Or.inr (honly hx hxa)
      · exact Or.inl ⟨hx, hxr⟩
  -- Any other list: the writer was not in it, and is not now.
  · rw [h.mem_iff hl]
    refine and_congr_right fun hx => ?_
    split_ifs with hxa
    · rw [hxa, hw]
      simp [Ne.symm hrc, Ne.symm hrq]
    · rfl

theorem Linked.nodup_moveWriter (h : Linked attached m)
    (hw : m.writer_connections.find? s.addr = some c)
    (hc : m.reader_connections.find? c = some lc) (hq : m.reader_connections.find? q = some lq)
    (hqc : q ≠ c) {r : TcpAddr} {l : List Writer}
    (hl : (Server.moveWriter m s c q).reader_connections.find? r = some l) : l.Nodup := by
  rw [find?_moveWriter hc hq] at hl
  split_ifs at hl with hrc hrq
  · cases hl
    exact (h.nodup hc).erase s
  -- The writer was mapped to `c`, so it is not in the list that it joins.
  · cases hl
    refine List.Nodup.append (h.nodup hq) (List.nodup_singleton s) ?_
    intro x hx hx'
    rw [List.mem_singleton.mp hx', h.mem_iff hq, hw] at hx
    exact hqc (Option.some.inj hx.2).symm
  · exact h.nodup hl

theorem Linked.moveWriter (h : Linked attached m) (hs : attached s.addr = some s)
    (hw : m.writer_connections.find? s.addr = some c)
    (hq : (m.reader_connections.find? q).isSome) (hqc : q ≠ c) :
    Linked attached (moveWriter m s c q) := by
  obtain ⟨lq, hq⟩ := Option.isSome_iff_exists.mp hq
  obtain ⟨lc, hc⟩ := Option.isSome_iff_exists.mp (h.listed hw)
  refine ⟨h.addr_eq, h.mem_moveWriter_iff hs hw hc hq hqc, h.nodup_moveWriter hw hc hq hqc,
    fun w => ?_, ?_, ?_⟩
  · rw [find?_writer_moveWriter, ← h.mapped_iff]
    split_ifs with hws
    · simp [hws, hw]
    · rfl
  · intro w r hwr
    rw [find?_writer_moveWriter] at hwr
    rw [find?_moveWriter hc hq]
    split_ifs at hwr with hws
    · cases hwr
      simp [hqc]
    · split_ifs
      · rfl
      · rfl
      · exact h.listed hwr
  · intro r hr
    rw [find?_moveWriter hc hq] at hr
    refine h.registered (r := r) ?_
    split_ifs at hr with hrc hrq
    · simp [hrc, hc]
    · simp [hrq, hq]
    · exact hr

end MoveWriter

/-- A move adds and removes no list. -/
theorem moveWriter_isSome {m : ConnectionManager} {s : Writer} {c q : TcpAddr}
    (hc : (m.reader_connections.find? c).isSome) (hq : (m.reader_connections.find? q).isSome)
    (r : TcpAddr) : ((moveWriter m s c q).reader_connections.find? r).isSome ↔
      (m.reader_connections.find? r).isSome := by
  obtain ⟨lc, hc⟩ := Option.isSome_iff_exists.mp hc
  obtain ⟨lq, hq⟩ := Option.isSome_iff_exists.mp hq
  rw [find?_moveWriter hc hq]
  split_ifs with hrc hrq
  · simp [hrc, hc]
  · simp [hrq, hq]
  · rfl

/-! ## Every writer -/

/-- What the loop has moved to `q` after the readers `rs`. -/
def movedTo (q : TcpAddr) (reader_connections : OrdMap TcpAddr (List Writer)) (rs : List TcpAddr) :
    List Writer :=
  rs.flatMap fun r => if r = q then [] else (reader_connections.find? r).getD []

/-- One iteration of the loop, on any list. -/
theorem find?_moveListTo {reader_connections : OrdMap TcpAddr (List Writer)} {q r : TcpAddr}
    {lq : List Writer} (hq : reader_connections.find? q = some lq) (k : TcpAddr) :
    (moveListTo q reader_connections r).find? k =
      if k = q then some (lq ++ if r = q then [] else (reader_connections.find? r).getD [])
      else if k = r then (reader_connections.find? k).map fun _ => []
      else reader_connections.find? k := by
  unfold moveListTo
  -- The list of `q` itself is skipped, and so is an empty one.
  by_cases hrq : r = q
  · subst hrq
    by_cases hk : k = r <;> simp [hk, hq]
  · simp only [if_neg hrq, hq, Option.getD_some]
    cases hr : reader_connections.find? r with
    | none =>
      by_cases hk : k = q
      · simp [hk, hq]
      · by_cases hkr : k = r <;> simp [hk, hkr, hr, hrq]
    | some l =>
      cases l with
      | nil =>
        by_cases hk : k = q
        · simp [hk, hq]
        · by_cases hkr : k = r <;> simp [hk, hkr, hr, hrq]
      | cons a l =>
        by_cases hk : k = q
        · subst hk
          simp [OrdMap.find?_insert, Ne.symm hrq]
        · by_cases hkr : k = r <;> simp [OrdMap.find?_insert, hk, hkr, hr, hrq]

/-- The loop over the readers `rs`: the list of `q` collects the lists of the others, which it
leaves empty. -/
theorem find?_foldl_moveListTo {q : TcpAddr} {rs : List TcpAddr} (hrs : rs.Nodup) :
    ∀ {reader_connections : OrdMap TcpAddr (List Writer)} {lq : List Writer},
      reader_connections.find? q = some lq → ∀ k,
        (rs.foldl (moveListTo q) reader_connections).find? k =
          if k = q then some (lq ++ movedTo q reader_connections rs)
          else if k ∈ rs then (reader_connections.find? k).map fun _ => []
          else reader_connections.find? k := by
  induction rs with
  | nil =>
    intro reader_connections lq hq k
    by_cases hk : k = q <;> simp [movedTo, hk, hq]
  | cons r rs ih =>
    intro reader_connections lq hq k
    obtain ⟨hr, hrs⟩ := List.nodup_cons.mp hrs
    have hstep := find?_moveListTo (r := r) hq
    rw [List.foldl_cons, ih hrs (by rw [hstep q, if_pos rfl])]
    -- The lists still to come are untouched by this iteration.
    have hrest : movedTo q (moveListTo q reader_connections r) rs =
        movedTo q reader_connections rs := by
      unfold movedTo
      rw [List.flatMap_def, List.flatMap_def]
      refine congrArg List.flatten (List.map_congr_left fun k hk => ?_)
      have hkr : k ≠ r := fun e => hr (e ▸ hk)
      by_cases hkq : k = q
      · simp [hkq]
      · simp [hkq, hstep k, hkr]
    rw [hrest]
    by_cases hk : k = q
    · simp [hk, movedTo, List.append_assoc]
    · by_cases hkr : k = r
      · subst hkr
        simp [hk, hr, hstep k]
      · simp [hk, hstep k, hkr]

/-- The lists after `moveAllTo`. -/
theorem find?_moveAllTo {m : ConnectionManager} {q : TcpAddr} {lq : List Writer}
    (hq : m.reader_connections.find? q = some lq) (r : TcpAddr) :
    (m.moveAllTo q).reader_connections.find? r =
      if r = q then some (lq ++ movedTo q m.reader_connections m.reader_connections.keys)
      else (m.reader_connections.find? r).map fun _ => [] := by
  rw [moveAllTo, find?_foldl_moveListTo m.reader_connections.keys_nodup hq]
  split_ifs with hrq hr
  · rfl
  · rfl
  · rw [OrdMap.mem_keys, Option.isSome_iff_ne_none, not_not] at hr
    rw [hr, Option.map_none]

theorem mem_movedTo {attached : TcpAddr → Option Writer} {m : ConnectionManager}
    (h : Linked attached m) {q : TcpAddr} {s : Writer} :
    s ∈ movedTo q m.reader_connections m.reader_connections.keys ↔
      attached s.addr = some s ∧ m.writer_connections.find? s.addr ≠ some q := by
  simp only [movedTo, List.mem_flatMap, OrdMap.mem_keys]
  constructor
  · rintro ⟨r, hr, hs⟩
    obtain ⟨l, hl⟩ := Option.isSome_iff_exists.mp hr
    split_ifs at hs with hrq
    · simp at hs
    · rw [hl, Option.getD_some, h.mem_iff hl] at hs
      exact ⟨hs.1, by rw [hs.2]; simpa using hrq⟩
  · rintro ⟨hs, hne⟩
    obtain ⟨r, hr⟩ := Option.isSome_iff_exists.mp ((h.mapped_iff s.addr).mpr (by simp [hs]))
    obtain ⟨l, hl⟩ := Option.isSome_iff_exists.mp (h.listed hr)
    have hrq : r ≠ q := fun e => hne (by rw [hr, e])
    exact ⟨r, by simp [hl], by simpa [hrq, hl] using (h.mem_iff hl s).mpr ⟨hs, hr⟩⟩

theorem nodup_movedTo {attached : TcpAddr → Option Writer} {m : ConnectionManager}
    (h : Linked attached m) (q : TcpAddr) :
    (movedTo q m.reader_connections m.reader_connections.keys).Nodup := by
  rw [movedTo, List.nodup_flatMap]
  constructor
  · intro r _
    split_ifs
    · exact List.nodup_nil
    · cases hl : m.reader_connections.find? r with
      | none => exact List.nodup_nil
      | some l => exact h.nodup hl
  · refine m.reader_connections.keys_nodup.imp fun {a b} hab s hs hs' => ?_
    -- A session in two lists would be mapped to two readers.
    have hread : ∀ r, s ∈ (if r = q then [] else (m.reader_connections.find? r).getD []) →
        m.writer_connections.find? s.addr = some r := by
      intro r hr
      split_ifs at hr
      · simp at hr
      · cases hl : m.reader_connections.find? r with
        | none => simp [hl] at hr
        | some l =>
          rw [hl, Option.getD_some] at hr
          exact ((h.mem_iff hl s).mp hr).2
    have ha := hread a hs
    have hb := hread b hs'
    rw [ha] at hb
    exact hab (Option.some.inj hb)

theorem Linked.moveAllTo {attached : TcpAddr → Option Writer} {m : ConnectionManager}
    (h : Linked attached m) {q : TcpAddr} (hq : (m.reader_connections.find? q).isSome) :
    Linked attached (m.moveAllTo q) := by
  obtain ⟨lq, hq⟩ := Option.isSome_iff_exists.mp hq
  -- The maps after the loop: one list that is not empty, and everybody mapped to it.
  have hlist := find?_moveAllTo hq
  have hmap : ∀ w, (m.moveAllTo q).writer_connections.find? w =
      (m.writer_connections.find? w).map fun _ => q := fun w => OrdMap.find?_mapVal _ _ _
  have hmapped : ∀ s : Writer, attached s.addr = some s →
      (m.writer_connections.find? s.addr).isSome :=
    fun s hs => (h.mapped_iff s.addr).mpr (by simp [hs])
  refine ⟨h.addr_eq, ?_, ?_, ?_, ?_, ?_⟩
  · intro r l hl s
    rw [hlist] at hl
    rw [hmap]
    split_ifs at hl with hrq
    · cases hl
      subst hrq
      rw [List.mem_append, h.mem_iff hq, mem_movedTo h]
      constructor
      · rintro (⟨hs, -⟩ | ⟨hs, -⟩)
        · exact ⟨hs, by obtain ⟨x, hx⟩ := Option.isSome_iff_exists.mp (hmapped s hs); simp [hx]⟩
        · exact ⟨hs, by obtain ⟨x, hx⟩ := Option.isSome_iff_exists.mp (hmapped s hs); simp [hx]⟩
      · rintro ⟨hs, -⟩
        by_cases hr : m.writer_connections.find? s.addr = some r
        · exact Or.inl ⟨hs, hr⟩
        · exact Or.inr ⟨hs, hr⟩
    · obtain ⟨x, -, rfl⟩ := Option.map_eq_some_iff.mp hl
      simp [Ne.symm hrq]
  · intro r l hl
    rw [hlist] at hl
    split_ifs at hl with hrq
    · cases hl
      -- A session from another list was not mapped to `q`.
      refine List.Nodup.append (h.nodup hq) (nodup_movedTo h q) ?_
      intro s hs hs'
      exact ((mem_movedTo h).mp hs').2 ((h.mem_iff hq s).mp hs).2
    · obtain ⟨x, -, rfl⟩ := Option.map_eq_some_iff.mp hl
      exact List.nodup_nil
  · intro w
    rw [hmap, Option.isSome_map]
    exact h.mapped_iff w
  · intro w r hwr
    rw [hmap, Option.map_eq_some_iff] at hwr
    obtain ⟨x, -, rfl⟩ := hwr
    simp [hlist]
  · intro r hr
    rw [hlist] at hr
    refine h.registered (r := r) ?_
    split_ifs at hr with hrq
    · simp [hrq, hq]
    · simpa using hr

/-- Moving every writer adds and removes no list. -/
theorem moveAllTo_isSome {m : ConnectionManager} {q : TcpAddr}
    (hq : (m.reader_connections.find? q).isSome) (r : TcpAddr) :
    ((m.moveAllTo q).reader_connections.find? r).isSome ↔
      (m.reader_connections.find? r).isSome := by
  obtain ⟨lq, hq⟩ := Option.isSome_iff_exists.mp hq
  rw [find?_moveAllTo hq]
  split_ifs with hrq
  · simp [hrq, hq]
  · simp

/-- What `RotateAllConnections` does: nothing, or the move of every writer to one reader. -/
theorem rotateAllConnections_cases (m : ConnectionManager) :
    m.rotateAllConnections = (m, false) ∨ ∃ q, (m.reader_connections.find? q).isSome ∧
      m.rotateAllConnections = (m.moveAllTo q, true) := by
  unfold rotateAllConnections
  split
  · exact Or.inl rfl
  · split_ifs
    · exact Or.inl rfl
    · exact Or.inl rfl
    · split
      · exact Or.inl rfl
      · rename_i q _ _
        split_ifs with hq
        · exact Or.inr ⟨q, hq, rfl⟩
        · exact Or.inl rfl

/-- What `PointReaderAtWriters` does: nothing, or the move of every writer to the reader. -/
theorem pointReaderAtWriters_cases (m : ConnectionManager) (q : TcpAddr) :
    m.pointReaderAtWriters q = (m, false) ∨ ((m.reader_connections.find? q).isSome ∧
      m.pointReaderAtWriters q = (m.moveAllTo q, true)) := by
  unfold pointReaderAtWriters
  split_ifs with hnone hq
  · exact Or.inl rfl
  · exact Or.inr ⟨hq, rfl⟩
  · exact Or.inl rfl

end AugmentedNormalcy.Server
