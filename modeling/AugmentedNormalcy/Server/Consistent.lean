import AugmentedNormalcy.Server.Registration
import AugmentedNormalcy.Server.Transfers

/-!
# Consistent managers, and what each operation keeps

`Consistent` is what the four maps of the manager are for. The rest says in one lemma per operation
what it does to the sessions and to the keys of the connection maps, over maps that are linked for
any set of attached writers, so that the lemmas also apply between the two locked regions of an
`Add`.
-/

namespace AugmentedNormalcy.Server

open ConnectionManager

/-- The four maps describe one connected state. -/
structure Consistent (m : ConnectionManager) : Prop where
  /-- `_reader_connections` has exactly the keys of `_reader_sessions`. -/
  reader_keys : ∀ r, (m.reader_connections.find? r).isSome ↔ (m.reader_sessions.find? r).isSome
  /-- A listed session is the current one of its address. -/
  current : ∀ {r l}, m.reader_connections.find? r = some l →
    ∀ s ∈ l, m.writer_sessions.find? s.addr = some s
  /-- No list holds a session twice. -/
  nodup : ∀ {r l}, m.reader_connections.find? r = some l → l.Nodup
  /-- No two lists hold the same session. -/
  disjoint : ∀ {r r' l l'}, m.reader_connections.find? r = some l →
    m.reader_connections.find? r' = some l' → ∀ s ∈ l, s ∈ l' → r = r'
  /-- The session of `w` is in the list of `r` exactly when `_writer_connections` maps `w` to
  `r`. -/
  mapped : ∀ w r, (∃ s l, m.writer_sessions.find? w = some s ∧
    m.reader_connections.find? r = some l ∧ s ∈ l) ↔ m.writer_connections.find? w = some r
  /-- With a reader, `_writer_connections` has exactly the keys of `_writer_sessions`; without one
  it is empty. -/
  writer_keys : if m.reader_sessions = .empty then m.writer_connections = .empty
    else ∀ w, (m.writer_connections.find? w).isSome ↔ (m.writer_sessions.find? w).isSome

/-- A message of a registered reader is written to exactly the writers that are mapped to it. -/
theorem Consistent.mem_postMessage {m : ConnectionManager} (h : Consistent m) (r : TcpAddr)
    (s : Writer) : s ∈ m.postMessage r ↔
      m.writer_sessions.find? s.addr = some s ∧ m.writer_connections.find? s.addr = some r := by
  unfold postMessage
  rw [← h.mapped]
  cases hl : m.reader_connections.find? r with
  | none => simp
  | some l =>
    constructor
    · intro hs
      exact ⟨h.current hl s hs, s, l, h.current hl s hs, rfl, hs⟩
    · rintro ⟨hw, s', l', hw', hl', hs⟩
      cases hl'
      rw [hw] at hw'
      cases hw'
      exact hs

/-! ## The operations that move writers -/

/-- The sessions and the session number are as before. -/
structure SameSessions (m m' : ConnectionManager) : Prop where
  readers : m'.reader_sessions = m.reader_sessions
  writers : m'.writer_sessions = m.writer_sessions
  number : m'.last_session_number = m.last_session_number

section SameSessions

variable (m : ConnectionManager)

theorem sameSessions_moveConnection (w c n : TcpAddr) (l l' : List Writer) :
    SameSessions m (m.moveConnection w c n l l').1 := by
  unfold moveConnection
  split <;> exact ⟨rfl, rfl, rfl⟩

theorem sameSessions_rotateWriterConnection (w : TcpAddr) :
    SameSessions m (m.rotateWriterConnection w).1 := by
  unfold rotateWriterConnection
  repeat' split
  all_goals first
    | exact ⟨rfl, rfl, rfl⟩
    | exact sameSessions_moveConnection ..

theorem sameSessions_resetWriterConnection (w : TcpAddr) :
    SameSessions m (m.resetWriterConnection w).1 := by
  unfold resetWriterConnection
  repeat' split
  all_goals first
    | exact ⟨rfl, rfl, rfl⟩
    | exact sameSessions_moveConnection ..

theorem sameSessions_rotateAllConnections : SameSessions m m.rotateAllConnections.1 := by
  unfold rotateAllConnections
  repeat' split
  all_goals exact ⟨rfl, rfl, rfl⟩

theorem sameSessions_pointReaderAtWriters (r : TcpAddr) :
    SameSessions m (m.pointReaderAtWriters r).1 := by
  unfold pointReaderAtWriters
  repeat' split
  all_goals exact ⟨rfl, rfl, rfl⟩

end SameSessions

/-- Only the assignment of the attached writers to the readers changes from `m` to `m'`. -/
structure Moved (attached : TcpAddr → Option Writer) (m m' : ConnectionManager) : Prop
    extends SameSessions m m' where
  linked : Linked attached m'
  lists : ∀ r, (m'.reader_connections.find? r).isSome ↔ (m.reader_connections.find? r).isSome

section Moved

variable {attached : TcpAddr → Option Writer} {m : ConnectionManager}

theorem Linked.moved_self (h : Linked attached m) : Moved attached m m :=
  ⟨⟨rfl, rfl, rfl⟩, h, fun _ => Iff.rfl⟩

/-- One writer moves to another reader with a list. -/
theorem Linked.moved_moveWriter (h : Linked attached m) {s : Writer} {w c q : TcpAddr}
    (hs : attached w = some s) (ha : s.addr = w) (hw : m.writer_connections.find? w = some c)
    (hq : (m.reader_connections.find? q).isSome) (hqc : q ≠ c) :
    Moved attached m (Server.moveWriter m s c q) := by
  subst ha
  exact ⟨⟨rfl, rfl, rfl⟩, h.moveWriter hs hw hq hqc, moveWriter_isSome (h.listed hw) hq⟩

/-- Every writer moves to a reader with a list. -/
theorem Linked.moved_moveAllTo (h : Linked attached m) {q : TcpAddr}
    (hq : (m.reader_connections.find? q).isSome) : Moved attached m (m.moveAllTo q) :=
  ⟨⟨rfl, rfl, rfl⟩, h.moveAllTo hq, moveAllTo_isSome hq⟩

theorem Linked.moved_rotateWriterConnection (h : Linked attached m) (w : TcpAddr) :
    Moved attached m (m.rotateWriterConnection w).1 := by
  rcases rotateWriterConnection_cases h w with he | ⟨s, c, q, hs, ha, hw, hq, hqc, he⟩
  · rw [he]
    exact h.moved_self
  · rw [he]
    exact h.moved_moveWriter hs ha hw hq hqc

theorem Linked.moved_resetWriterConnection (h : Linked attached m) (w : TcpAddr) :
    Moved attached m (m.resetWriterConnection w).1 := by
  rcases resetWriterConnection_cases h w with he | ⟨s, c, q, hs, ha, hw, hq, hqc, he⟩
  · rw [he]
    exact h.moved_self
  · rw [he]
    exact h.moved_moveWriter hs ha hw hq hqc

theorem Linked.moved_rotateAllConnections (h : Linked attached m) :
    Moved attached m m.rotateAllConnections.1 := by
  rcases rotateAllConnections_cases m with he | ⟨q, hq, he⟩
  · rw [he]
    exact h.moved_self
  · rw [he]
    exact h.moved_moveAllTo hq

theorem Linked.moved_pointReaderAtWriters (h : Linked attached m) (r : TcpAddr) :
    Moved attached m (m.pointReaderAtWriters r).1 := by
  rcases pointReaderAtWriters_cases m r with he | ⟨hq, he⟩
  · rw [he]
    exact h.moved_self
  · rw [he]
    exact h.moved_moveAllTo hq

end Moved

/-! ## Removing a session -/

/-- The manager after its only reader was removed. -/
def withoutReaders (m : ConnectionManager) : ConnectionManager :=
  { m with
    writer_connections := .empty
    reader_connections := .empty
    reader_sessions := .empty }

/-- From `m` to `m'` the reader of `r` is gone, and its writers are with the others. -/
structure ReaderGone (attached : TcpAddr → Option Writer) (r : TcpAddr)
    (m m' : ConnectionManager) : Prop where
  linked : Linked attached m'
  number : m'.last_session_number = m.last_session_number
  readers : m'.reader_sessions = m.reader_sessions.erase r
  remains : m'.reader_sessions ≠ .empty
  writers : m'.writer_sessions = m.writer_sessions
  lists : ∀ k, k ≠ r → (m.reader_connections.find? k).isSome →
    (m'.reader_connections.find? k).isSome

/-- `RemoveReaderSession` does nothing, empties the maps with the only reader, or removes one of
several readers. -/
theorem Linked.removeReaderSession_cases {attached : TcpAddr → Option Writer}
    {m : ConnectionManager} (h : Linked attached m) {session_id : Session → ℕ} {session : Reader}
    (hlist : ∀ dead, m.reader_sessions.find? session.addr = some dead →
      session_id dead = session_id session → (m.reader_connections.find? session.addr).isSome) :
    m.removeReaderSession session_id session = m ∨
      (∃ dead, m.reader_sessions.find? session.addr = some dead ∧
        session_id dead = session_id session ∧
        (m.removeReaderSession session_id session = withoutReaders m ∨
          ReaderGone attached session.addr m (m.removeReaderSession session_id session))) := by
  -- The early returns: no such session, or another one under its address.
  by_cases hstale : ∀ dead, m.reader_sessions.find? session.addr = some dead →
      session_id dead ≠ session_id session
  · exact Or.inl (removeReaderSession_of_stale hstale)
  push Not at hstale
  obtain ⟨dead, hdead, hid⟩ := hstale
  refine Or.inr ⟨dead, hdead, hid, ?_⟩
  -- The only reader takes every connection with it.
  by_cases halone : ∀ r, (m.reader_sessions.find? r).isSome → r = session.addr
  · exact Or.inl (removeReaderSession_of_alone hdead hid halone)
  push Not at halone
  -- One of several: `j` is another reader, who stays.
  obtain ⟨j, hj, hne⟩ := halone
  obtain ⟨l, hl⟩ := Option.isSome_iff_exists.mp (hlist dead hdead hid)
  have hremains : m.reader_sessions.erase session.addr ≠ .empty :=
    OrdMap.ne_empty_iff.mpr ⟨j, by rw [OrdMap.find?_erase, if_neg hne]; exact hj⟩
  right
  rcases removeReaderSession_eq h hdead hid hj hne hl with ⟨rfl, he⟩ | ⟨-, q, s, hq, hqne, he⟩
  · rw [he]
    refine ⟨h.dropReader hl, rfl, rfl, hremains, rfl, fun k hk hkl => ?_⟩
    simpa [Server.dropReader, OrdMap.find?_erase, hk] using hkl
  · rw [he]
    have hqs : (m.reader_sessions.find? q).isSome := by
      simp [OrdMap.cyclicNext?_eq_some hq]
    refine ⟨h.handOver hqne (by simp [hl]) hqs, rfl, rfl, hremains, rfl, fun k hk hkl => ?_⟩
    simp only [Server.handOver, OrdMap.find?_erase, if_neg hk, OrdMap.find?_insert]
    split_ifs
    · rfl
    · exact hkl

/-- From `m` to `m'` the writer of `w` is gone. -/
structure WriterGone (attached : TcpAddr → Option Writer) (w : TcpAddr)
    (m m' : ConnectionManager) : Prop where
  linked : Linked (Function.update attached w none) m'
  number : m'.last_session_number = m.last_session_number
  readers : m'.reader_sessions = m.reader_sessions
  writers : m'.writer_sessions = m.writer_sessions.erase w
  lists : ∀ r, (m'.reader_connections.find? r).isSome ↔ (m.reader_connections.find? r).isSome

/-- Clearing every list leaves nobody attached. -/
theorem Linked.cleared {attached : TcpAddr → Option Writer} {m m' : ConnectionManager}
    (h : Linked attached m) (hw : m'.writer_connections = .empty)
    (hr : m'.reader_connections = m.reader_connections.mapVal fun _ _ => [])
    (hs : m'.reader_sessions = m.reader_sessions) : Linked (fun _ => none) m' := by
  have hlist : ∀ r, m'.reader_connections.find? r =
      (m.reader_connections.find? r).map fun _ => [] := by
    intro r
    rw [hr, OrdMap.find?_mapVal]
  refine ⟨by simp, ?_, ?_, by simp [hw], by simp [hw], ?_⟩
  · intro r l hl s
    rw [hlist] at hl
    obtain ⟨x, -, rfl⟩ := Option.map_eq_some_iff.mp hl
    simp
  · intro r l hl
    rw [hlist] at hl
    obtain ⟨x, -, rfl⟩ := Option.map_eq_some_iff.mp hl
    exact List.nodup_nil
  · intro r hl
    rw [hs]
    rw [hlist, Option.isSome_map] at hl
    exact h.registered hl

/-- `RemoveWriterSession` does nothing, or removes the writer. -/
theorem Linked.removeWriterSession_cases {attached : TcpAddr → Option Writer}
    {m : ConnectionManager} (h : Linked attached m) {session_id : Session → ℕ} {session : Writer}
    (hreg : ∀ w, (attached w).isSome → (m.writer_sessions.find? w).isSome)
    (hsession : ∀ dead, m.writer_sessions.find? session.addr = some dead →
      session_id dead = session_id session →
        attached session.addr = some session ∨ attached session.addr = none) :
    m.removeWriterSession session_id session = m ∨
      (∃ dead, m.writer_sessions.find? session.addr = some dead ∧
        session_id dead = session_id session ∧
        WriterGone attached session.addr m (m.removeWriterSession session_id session)) := by
  -- The early returns: no such session, or another one under its address.
  by_cases hstale : ∀ dead, m.writer_sessions.find? session.addr = some dead →
      session_id dead ≠ session_id session
  · exact Or.inl (removeWriterSession_of_stale hstale)
  push Not at hstale
  obtain ⟨dead, hdead, hid⟩ := hstale
  refine Or.inr ⟨dead, hdead, hid, ?_⟩
  by_cases halone : ∀ w, (m.writer_sessions.find? w).isSome → w = session.addr
  · rw [removeWriterSession_of_alone hdead hid halone]
    -- The only writer: nobody is attached when it is gone.
    have hnone : Function.update attached session.addr none = fun _ => none := by
      funext w
      by_cases hw : w = session.addr
      · rw [hw, Function.update_self]
      · rw [Function.update_of_ne hw, ← Option.not_isSome_iff_eq_none]
        exact fun ha => hw (halone w (hreg w ha))
    -- Clearing `_writer_sessions` erases its one entry.
    have herase : (.empty : OrdMap TcpAddr Writer) = m.writer_sessions.erase session.addr := by
      apply OrdMap.ext_find?
      intro w
      rw [OrdMap.find?_empty, OrdMap.find?_erase]
      split_ifs with hw
      · rfl
      · symm
        rw [← Option.not_isSome_iff_eq_none]
        exact fun hs => hw (halone w hs)
    refine ⟨?_, rfl, rfl, herase, fun r => ?_⟩
    · rw [hnone]
      exact h.cleared rfl rfl rfl
    · rw [OrdMap.find?_mapVal, Option.isSome_map]
  push Not at halone
  obtain ⟨j, hj, hne⟩ := halone
  -- One of several writers, who may not be mapped.
  cases hw : m.writer_connections.find? session.addr with
  | none =>
    have hattached : attached session.addr = none := by
      rw [← Option.not_isSome_iff_eq_none, ← h.mapped_iff, hw]
      simp
    rw [removeWriterSession_of_unmapped hdead hid hj hne hw]
    refine ⟨?_, rfl, rfl, rfl, fun _ => Iff.rfl⟩
    rw [← hattached, Function.update_eq_self]
    exact h.congr rfl rfl fun _ hs => hs
  | some r =>
    have hattached : attached session.addr = some session := by
      refine (hsession dead hdead hid).resolve_right fun hnone => ?_
      have := (h.mapped_iff session.addr).mp (by simp [hw])
      simp [hnone] at this
    rw [removeWriterSession_eq h hdead hid hj hne hattached hw]
    refine ⟨h.dropWriter hattached hw, rfl, rfl, rfl, fun k => ?_⟩
    simp only [Server.dropWriter, OrdMap.find?_insert]
    split_ifs with hk
    · rw [hk]
      exact ⟨fun _ => h.listed hw, fun _ => rfl⟩
    · rfl

end AugmentedNormalcy.Server
