import AugmentedNormalcy.Server.Linked

/-!
# Registering a session, and removing a writer

The second locked regions of `AddReaderSession` and `AddWriterSession`, and `RemoveWriterSession`,
over linked maps. The first reader attaches every registered writer; a later reader starts with an
empty list, which is right only when no list with writers stood under its address
(`Linked.addReaderConnect_later`). A new writer is attached to the first reader, a replaced one is
swapped in its list, and a removed one leaves its list.
-/

namespace AugmentedNormalcy.Server

open ConnectionManager

/-! ## Readers -/

/-- The loop of `AddReaderSession` maps every registered writer to the reader and lists it. -/
theorem foldl_attach (r : TcpAddr) (es : List (TcpAddr × Writer))
    (writer_connections : OrdMap TcpAddr TcpAddr) (connections : List Writer) :
    (es.foldl (fun (acc : OrdMap TcpAddr TcpAddr × List Writer) e =>
        (acc.1.insert e.1 r, acc.2 ++ [e.2])) (writer_connections, connections)).2 =
        connections ++ es.map Prod.snd ∧
      ∀ w, (es.foldl (fun (acc : OrdMap TcpAddr TcpAddr × List Writer) e =>
          (acc.1.insert e.1 r, acc.2 ++ [e.2])) (writer_connections, connections)).1.find? w =
        if w ∈ es.map Prod.fst then some r else writer_connections.find? w := by
  induction es generalizing writer_connections connections with
  | nil => simp
  | cons e es ih =>
    obtain ⟨hlist, hmap⟩ := ih (writer_connections.insert e.1 r) (connections ++ [e.2])
    refine ⟨by simp [hlist], fun w => ?_⟩
    rw [List.foldl_cons, hmap, OrdMap.find?_insert]
    by_cases hw : w = e.1
    · simp [hw]
    · simp only [List.map_cons, List.mem_cons, hw, false_or, if_false]

/-- The second region of `AddReaderSession` leaves the sessions alone, and gives the reader a
list. -/
theorem addReaderConnect_spec (m : ConnectionManager) (r : TcpAddr) (is_first_reader : Bool) :
    (m.addReaderConnect r is_first_reader).last_session_number = m.last_session_number ∧
      (m.addReaderConnect r is_first_reader).reader_sessions = m.reader_sessions ∧
      (m.addReaderConnect r is_first_reader).writer_sessions = m.writer_sessions ∧
      ∀ k, ((m.addReaderConnect r is_first_reader).reader_connections.find? k).isSome ↔
        k = r ∨ (m.reader_connections.find? k).isSome := by
  cases is_first_reader <;>
  · refine ⟨rfl, rfl, rfl, fun k => ?_⟩
    by_cases hk : k = r <;> simp [addReaderConnect, OrdMap.find?_insert, hk]

/-- The first reader takes every registered writer. -/
theorem Linked.addReaderConnect_first {m : ConnectionManager} {r : TcpAddr}
    (haddr : ∀ {w s}, m.writer_sessions.find? w = some s → s.addr = w)
    (hr : m.reader_connections = .empty) (hw : m.writer_connections = .empty)
    (hs : (m.reader_sessions.find? r).isSome) :
    Linked m.writer_sessions.find? (m.addReaderConnect r true) := by
  obtain ⟨hfold, hmap⟩ := foldl_attach r m.writer_sessions.entries m.writer_connections []
  have hkeys : ∀ w, w ∈ m.writer_sessions.entries.map Prod.fst ↔
      (m.writer_sessions.find? w).isSome := fun w => OrdMap.mem_keys
  -- The only list is that of `r`, and it holds every registered writer.
  have hlist : ∀ r' l, (m.addReaderConnect r true).reader_connections.find? r' = some l ↔
      r' = r ∧ l = m.writer_sessions.entries.map Prod.snd := by
    intro r' l
    simp only [addReaderConnect, if_true, hfold, OrdMap.find?_insert, hr, List.nil_append]
    by_cases hr' : r' = r
    · simp [hr', eq_comm]
    · simp [hr']
  -- Whoever is registered is mapped to `r`, since nobody was mapped before.
  have hfind : ∀ w, (m.addReaderConnect r true).writer_connections.find? w =
      if (m.writer_sessions.find? w).isSome then some r else none := by
    intro w
    simp only [addReaderConnect, if_true, hmap, hkeys]
    rw [hw, OrdMap.find?_empty]
  refine ⟨haddr, ?_, ?_, ?_, ?_, ?_⟩
  · intro r' l hl s
    obtain ⟨rfl, rfl⟩ := (hlist _ _).mp hl
    rw [hfind, List.mem_map]
    constructor
    · rintro ⟨⟨w, s⟩, hmem, rfl⟩
      have hws := OrdMap.find?_eq_some.mpr hmem
      have hsa := haddr hws
      rw [hsa]
      exact ⟨hws, by simp [hws]⟩
    · rintro ⟨hws, -⟩
      exact ⟨(s.addr, s), OrdMap.find?_eq_some.mp hws, rfl⟩
  · intro r' l hl
    obtain ⟨rfl, rfl⟩ := (hlist _ _).mp hl
    -- The entries have different keys, and a session is kept under its own address.
    refine List.Nodup.map_on ?_ (List.Nodup.of_map _ m.writer_sessions.keys_nodup)
    rintro ⟨w, s⟩ hs ⟨w', s'⟩ hs' rfl
    have h1 := haddr (OrdMap.find?_eq_some.mpr hs)
    have h2 := haddr (OrdMap.find?_eq_some.mpr hs')
    rw [← h1, ← h2]
  · intro w
    rw [hfind]
    split_ifs with hws <;> simp [hws]
  · intro w r' hwr
    rw [hfind] at hwr
    split_ifs at hwr
    cases hwr
    exact Option.isSome_iff_exists.mpr ⟨_, (hlist _ _).mpr ⟨rfl, rfl⟩⟩
  · intro r' hr'
    obtain ⟨l, hl⟩ := Option.isSome_iff_exists.mp hr'
    obtain ⟨rfl, -⟩ := (hlist _ _).mp hl
    exact hs

/-- A later reader that had no list, or an empty one, gets an empty list. -/
theorem Linked.addReaderConnect_later {attached : TcpAddr → Option Writer} {m : ConnectionManager}
    (h : Linked attached m) {r : TcpAddr} (hr : (m.reader_connections.find? r).getD [] = [])
    (hs : (m.reader_sessions.find? r).isSome) :
    Linked attached (m.addReaderConnect r false) := by
  have hlist : ∀ r', (m.addReaderConnect r false).reader_connections.find? r' =
      if r' = r then some [] else m.reader_connections.find? r' := by
    intro r'
    simp [addReaderConnect, OrdMap.find?_insert]
  -- Nobody is mapped to `r`, so nobody is missing from its new list.
  have hnone : ∀ w, m.writer_connections.find? w ≠ some r := by
    intro w hw
    obtain ⟨l, hl⟩ := Option.isSome_iff_exists.mp (h.listed hw)
    rw [hl, Option.getD_some] at hr
    exact h.ne_of_nil (hr ▸ hl) w hw
  refine ⟨h.addr_eq, ?_, ?_, h.mapped_iff, ?_, ?_⟩
  · intro r' l hl s
    rw [hlist] at hl
    split_ifs at hl with hr'
    · cases hl
      subst hr'
      constructor
      · simp
      · exact fun hs => absurd hs.2 (hnone _)
    · exact h.mem_iff hl s
  · intro r' l hl
    rw [hlist] at hl
    split_ifs at hl
    · cases hl
      exact List.nodup_nil
    · exact h.nodup hl
  · intro w r' hw
    rw [hlist]
    exact h.listed_insert hw r []
  · intro r' hr'
    rw [hlist] at hr'
    exact h.registered_insert hs hr'

/-! ## Writers -/

/-- Swapping an element of a list is removing it and putting the other in. -/
theorem replace_perm {α : Type*} [DecidableEq α] {old new : α} {l : List α} (h : old ∈ l) :
    (l.replace old new).Perm (new :: l.erase old) := by
  induction l with
  | nil => simp at h
  | cons a l ih =>
    by_cases ha : a = old
    · subst ha
      simp
    · have hmem : old ∈ l := by simpa [Ne.symm ha] using h
      have hbeq : (old == a) = false := by simpa using Ne.symm ha
      have hrep : (a :: l).replace old new = a :: l.replace old new := by
        simp [List.replace_cons, hbeq]
      rw [hrep, List.erase_cons_tail (by simpa using ha)]
      calc (a :: l.replace old new).Perm (a :: new :: l.erase old) := (ih hmem).cons a
        List.Perm _ (new :: a :: l.erase old) := List.Perm.swap new a _

/-- The second region of `AddWriterSession` leaves the sessions and the keys of
`_reader_connections` alone. -/
theorem addWriterConnect_spec (m : ConnectionManager) (s : Writer)
    (writer_to_remove : Option Writer) (replace_connection : Option TcpAddr) :
    (m.addWriterConnect s writer_to_remove replace_connection).last_session_number =
        m.last_session_number ∧
      (m.addWriterConnect s writer_to_remove replace_connection).reader_sessions =
        m.reader_sessions ∧
      (m.addWriterConnect s writer_to_remove replace_connection).writer_sessions =
        m.writer_sessions ∧
      ∀ k, ((m.addWriterConnect s writer_to_remove replace_connection).reader_connections.find?
        k).isSome ↔ (m.reader_connections.find? k).isSome := by
  -- Every branch that changes the lists puts one back under a key that has one.
  have hkeys : ∀ {r l} (l' : List Writer), m.reader_connections.find? r = some l → ∀ k,
      ((m.reader_connections.insert r l').find? k).isSome ↔
        (m.reader_connections.find? k).isSome := by
    intro r l l' hl k
    by_cases hk : k = r <;> simp [OrdMap.find?_insert, hk, hl]
  unfold addWriterConnect
  split
  · split
    · exact ⟨rfl, rfl, rfl, fun _ => Iff.rfl⟩
    · split
      · exact ⟨rfl, rfl, rfl, fun _ => Iff.rfl⟩
      · rename_i hl
        exact ⟨rfl, rfl, rfl, hkeys _ hl⟩
  · split
    · rename_i hl
      exact ⟨rfl, rfl, rfl, hkeys _ hl⟩
    · exact ⟨rfl, rfl, rfl, fun _ => Iff.rfl⟩

/-- A new writer is attached at the back of the first reader's list. -/
theorem Linked.addWriterConnect_new {attached : TcpAddr → Option Writer} {m : ConnectionManager}
    (h : Linked attached m) {s : Writer} {writer_to_remove : Option Writer} {r : TcpAddr}
    {first : Reader} {l : List Writer} (hs : attached s.addr = none)
    (hr : m.reader_sessions.begin? = some (r, first))
    (hl : m.reader_connections.find? r = some l) :
    Linked (Function.update attached s.addr (some s))
      (m.addWriterConnect s writer_to_remove none) := by
  have hunmapped : m.writer_connections.find? s.addr = none := by
    rw [← Option.not_isSome_iff_eq_none, h.mapped_iff, hs]
    simp
  -- The maps after the call: one list is longer, and one writer is mapped.
  have hlist : ∀ r', (m.addWriterConnect s writer_to_remove none).reader_connections.find? r' =
      if r' = r then some (l ++ [s]) else m.reader_connections.find? r' := by
    intro r'
    simp [addWriterConnect, hr, hl, OrdMap.find?_insert]
  have hmap : ∀ w, (m.addWriterConnect s writer_to_remove none).writer_connections.find? w =
      if w = s.addr then some r else m.writer_connections.find? w := by
    intro w
    simp [addWriterConnect, hr, hl, OrdMap.find?_insert]
  have hsess : (m.addWriterConnect s writer_to_remove none).reader_sessions =
      m.reader_sessions := by
    simp [addWriterConnect, hr, hl]
  -- Membership in an old list, over the new maps.
  have hold : ∀ x r', (attached x.addr = some x ∧ m.writer_connections.find? x.addr = some r') ↔
      x.addr ≠ s.addr ∧ Function.update attached s.addr (some s) x.addr = some x ∧
        (if x.addr = s.addr then some r else m.writer_connections.find? x.addr) = some r' := by
    intro x r'
    by_cases hx : x.addr = s.addr
    · simp [hx, hs]
    · simp [hx]
  refine h.exchange hl hlist hsess (h.addr_eq_update s) ?_ ?_ ?_ ?_
  · intro x
    rw [List.mem_append, List.mem_singleton, h.mem_iff hl, hold, hmap]
    constructor
    · rintro (⟨-, hx⟩ | rfl)
      · exact hx
      · simp
    · intro hx
      by_cases hxs : x.addr = s.addr
      · rw [hxs, Function.update_self] at hx
        exact Or.inr (Option.some.inj hx.1).symm
      · exact Or.inl ⟨hxs, hx⟩
  -- `s` is not mapped to the reader of another list.
  · intro x r' hr'
    rw [hold, hmap]
    refine ⟨fun hx => hx.2, fun hx => ⟨fun hxs => ?_, hx⟩⟩
    rw [if_pos hxs] at hx
    exact hr' (Option.some.inj hx.2).symm
  -- Nobody with the address of `s` was attached, so `s` was in no list.
  · refine List.Nodup.append (h.nodup hl) (List.nodup_singleton s) ?_
    intro x hx hxs
    rw [List.mem_singleton.mp hxs, h.mem_iff hl, hs] at hx
    exact absurd hx.1 (by simp)
  · intro w
    rw [hmap]
    by_cases hws : w = s.addr
    · simp [hws]
    · rw [if_neg hws, Function.update_of_ne hws]
      exact h.mapped_iff w

/-- A replaced writer is swapped in the list of its reader. -/
theorem Linked.addWriterConnect_replace {attached : TcpAddr → Option Writer}
    {m : ConnectionManager} (h : Linked attached m) {s old : Writer} {r : TcpAddr}
    (hold : attached s.addr = some old) (hr : m.writer_connections.find? s.addr = some r) :
    Linked (Function.update attached s.addr (some s))
      (m.addWriterConnect s (some old) (some r)) := by
  obtain ⟨old', l, hold', hoa, hl, hmem⟩ := h.exists_mem hr
  rw [hold] at hold'
  cases hold'
  -- The list of `r` has `s` in the place of `old`, and the other maps are as they were.
  have hperm : (l.replace old s).Perm (s :: l.erase old) := replace_perm hmem
  have hlist : ∀ r', (m.addWriterConnect s (some old) (some r)).reader_connections.find? r' =
      if r' = r then some (l.replace old s) else m.reader_connections.find? r' := by
    intro r'
    simp [addWriterConnect, hl, OrdMap.find?_insert]
  have hmap : (m.addWriterConnect s (some old) (some r)).writer_connections =
      m.writer_connections := by
    simp [addWriterConnect, hl]
  have hsess : (m.addWriterConnect s (some old) (some r)).reader_sessions = m.reader_sessions := by
    simp [addWriterConnect, hl]
  -- The elements that stay in the list of `r` are those of other writers.
  have hrest : ∀ x, x ∈ l.erase old ↔
      x.addr ≠ s.addr ∧ attached x.addr = some x ∧
        m.writer_connections.find? x.addr = some r := by
    intro x
    rw [(h.nodup hl).mem_erase_iff, h.mem_iff hl]
    refine and_congr_left fun hx => not_congr ⟨?_, ?_⟩
    · rintro rfl
      exact hoa
    · intro hxa
      rw [hxa, hold] at hx
      exact (Option.some.inj hx.1).symm
  refine h.exchange hl hlist hsess (h.addr_eq_update s) ?_ ?_ ?_ ?_
  -- The list of `r`: either `s`, or one of the others.
  · intro x
    rw [hperm.mem_iff, List.mem_cons, hrest, hmap]
    by_cases hxs : x.addr = s.addr
    · rw [hxs, Function.update_self, hr]
      constructor
      · rintro (rfl | ⟨hne, -⟩)
        · exact ⟨rfl, rfl⟩
        · exact absurd rfl hne
      · rintro ⟨hx, -⟩
        exact Or.inl (Option.some.inj hx).symm
    · rw [Function.update_of_ne hxs]
      constructor
      · rintro (rfl | ⟨-, hx⟩)
        · exact absurd rfl hxs
        · exact hx
      · exact fun hx => Or.inr ⟨hxs, hx⟩
  -- The other lists: the address of `s` is mapped to `r`, before and after.
  · intro x r' hr'
    rw [hmap]
    by_cases hxs : x.addr = s.addr
    · rw [hxs, hr]
      simp [Ne.symm hr']
    · rw [Function.update_of_ne hxs]
  · rw [hperm.nodup_iff, List.nodup_cons]
    exact ⟨fun hs => ((hrest s).mp hs).1 rfl, (h.nodup hl).erase old⟩
  · intro w
    rw [hmap, h.mapped_iff]
    by_cases hws : w = s.addr
    · simp [hws, hold]
    · rw [Function.update_of_ne hws]

/-! ## Removing a writer -/

/-- The manager after the session `s`, attached to `r`, was removed. -/
def dropWriter (m : ConnectionManager) (s : Writer) (r : TcpAddr) : ConnectionManager :=
  { m with
    reader_connections :=
      m.reader_connections.insert r (((m.reader_connections.find? r).getD []).erase s)
    writer_connections := m.writer_connections.erase s.addr
    writer_sessions := m.writer_sessions.erase s.addr }

/-- `RemoveWriterSession` leaves the readers' sessions and the session number alone, and registers
no writer. -/
theorem removeWriterSession_spec (session_id : Session → ℕ) (m : ConnectionManager)
    (session : Writer) :
    (m.removeWriterSession session_id session).last_session_number = m.last_session_number ∧
      (m.removeWriterSession session_id session).reader_sessions = m.reader_sessions ∧
      ∀ {w s}, (m.removeWriterSession session_id session).writer_sessions.find? w = some s →
        m.writer_sessions.find? w = some s := by
  have herase : ∀ {w s}, (m.writer_sessions.erase session.addr).find? w = some s →
      m.writer_sessions.find? w = some s := by
    intro w s h
    rw [OrdMap.find?_erase] at h
    split_ifs at h
    exact h
  unfold removeWriterSession
  dsimp only
  repeat' split
  all_goals first
    | exact ⟨rfl, rfl, fun h => h⟩
    | exact ⟨rfl, rfl, herase⟩
    | exact ⟨rfl, rfl, fun h => by simp at h⟩

/-- A session that is not the registered one of its address is not removed. -/
theorem removeWriterSession_of_stale {m : ConnectionManager} {session_id : Session → ℕ}
    {session : Writer}
    (hstale : ∀ dead, m.writer_sessions.find? session.addr = some dead →
      session_id dead ≠ session_id session) :
    m.removeWriterSession session_id session = m := by
  cases hdead : m.writer_sessions.find? session.addr with
  | none => simp only [removeWriterSession, hdead]
  | some dead => simp only [removeWriterSession, hdead, if_pos (hstale dead hdead)]

/-- The only writer takes every connection with it. -/
theorem removeWriterSession_of_alone {m : ConnectionManager} {session_id : Session → ℕ}
    {session dead : Writer} (hdead : m.writer_sessions.find? session.addr = some dead)
    (hid : session_id dead = session_id session)
    (halone : ∀ w, (m.writer_sessions.find? w).isSome → w = session.addr) :
    m.removeWriterSession session_id session =
      { m with
        writer_connections := .empty
        reader_connections := m.reader_connections.mapVal fun _ _ => []
        writer_sessions := .empty } := by
  have hsize : m.writer_sessions.size = 1 :=
    (OrdMap.size_eq_one_iff (by simp [hdead])).mpr halone
  simp [removeWriterSession, hdead, hid, hsize]

/-- A writer that is mapped to no reader loses its registration only. -/
theorem removeWriterSession_of_unmapped {m : ConnectionManager} {session_id : Session → ℕ}
    {session dead : Writer} {j : TcpAddr}
    (hdead : m.writer_sessions.find? session.addr = some dead)
    (hid : session_id dead = session_id session) (hj : (m.writer_sessions.find? j).isSome)
    (hne : j ≠ session.addr) (hw : m.writer_connections.find? session.addr = none) :
    m.removeWriterSession session_id session =
      { m with writer_sessions := m.writer_sessions.erase session.addr } := by
  have hsize : m.writer_sessions.size ≠ 1 := fun hone =>
    hne ((OrdMap.size_eq_one_iff (by simp [hdead])).mp hone j hj)
  simp [removeWriterSession, hdead, hid, hsize, hw]

/-- An attached writer leaves the list of its reader. -/
theorem removeWriterSession_eq {attached : TcpAddr → Option Writer} {m : ConnectionManager}
    (h : Linked attached m) {session_id : Session → ℕ} {session dead : Writer} {j r : TcpAddr}
    (hdead : m.writer_sessions.find? session.addr = some dead)
    (hid : session_id dead = session_id session) (hj : (m.writer_sessions.find? j).isSome)
    (hne : j ≠ session.addr) (hs : attached session.addr = some session)
    (hw : m.writer_connections.find? session.addr = some r) :
    m.removeWriterSession session_id session = dropWriter m session r := by
  have hsize : m.writer_sessions.size ≠ 1 := fun hone =>
    hne ((OrdMap.size_eq_one_iff (by simp [hdead])).mp hone j hj)
  obtain ⟨l, hl⟩ := Option.isSome_iff_exists.mp (h.listed hw)
  have hmem : session ∈ l := (h.mem_iff hl session).mpr ⟨hs, hw⟩
  simp [removeWriterSession, hdead, hid, hsize, hw, hl, hmem, dropWriter]

theorem Linked.dropWriter {attached : TcpAddr → Option Writer} {m : ConnectionManager}
    (h : Linked attached m) {s : Writer} {r : TcpAddr} (hs : attached s.addr = some s)
    (hw : m.writer_connections.find? s.addr = some r) :
    Linked (Function.update attached s.addr none) (dropWriter m s r) := by
  obtain ⟨l, hl⟩ := Option.isSome_iff_exists.mp (h.listed hw)
  -- The maps after the call: one list is shorter, and one writer is unmapped.
  have hlist : ∀ r', (Server.dropWriter m s r).reader_connections.find? r' =
      if r' = r then some (l.erase s) else m.reader_connections.find? r' := by
    intro r'
    simp [Server.dropWriter, OrdMap.find?_insert, hl]
  have hmap : ∀ w, (Server.dropWriter m s r).writer_connections.find? w =
      if w = s.addr then none else m.writer_connections.find? w :=
    fun w => OrdMap.find?_erase _ _ _
  -- What is said of a writer in the old maps and in the new ones.
  have hother : ∀ x r', (Function.update attached s.addr none x.addr = some x ∧
      (if x.addr = s.addr then none else m.writer_connections.find? x.addr) = some r') ↔
      x ≠ s ∧ attached x.addr = some x ∧ m.writer_connections.find? x.addr = some r' := by
    intro x r'
    by_cases hxs : x.addr = s.addr
    · rw [if_pos hxs, hxs, hs]
      constructor
      · rintro ⟨-, hx⟩
        cases hx
      · rintro ⟨hne, hx, -⟩
        exact absurd (Option.some.inj hx).symm hne
    · have hne : x ≠ s := fun e => hxs (by rw [e])
      simp [hxs, hne]
  refine h.exchange hl hlist rfl ?_ ?_ ?_ ((h.nodup hl).erase s) ?_
  · intro w x hwx
    by_cases hws : w = s.addr
    · simp [hws] at hwx
    · rw [Function.update_of_ne hws] at hwx
      exact h.addr_eq hwx
  · intro x
    rw [hmap, hother, (h.nodup hl).mem_erase_iff, h.mem_iff hl]
  -- The other lists did not hold `s`, which was mapped to `r`.
  · intro x r' hr'
    rw [hmap, hother]
    constructor
    · rintro ⟨hx, hxr⟩
      refine ⟨?_, hx, hxr⟩
      rintro rfl
      rw [hw] at hxr
      exact hr' (Option.some.inj hxr).symm
    · exact fun hx => hx.2
  · intro w
    rw [hmap]
    by_cases hws : w = s.addr
    · simp [hws]
    · rw [if_neg hws, Function.update_of_ne hws]
      exact h.mapped_iff w

end AugmentedNormalcy.Server
