import AugmentedNormalcy.Server.ConnectionManager

/-!
# How the connection maps mirror each other

`Linked attached m` says that the two connection maps of `m` describe one assignment of the
`attached` writers to readers: the list of a reader holds exactly the attached sessions that
`_writer_connections` maps to it, each once. Every locked region of the manager preserves it, with
the set of attached writers that the region means to leave, whether or not the sessions of an
unfinished `Add` are already registered; that is why `attached` is an argument, and not read off
`_writer_sessions`.

Each section is one operation: what it computes when the maps are linked, and that they stay linked.
-/

namespace AugmentedNormalcy.Server

open ConnectionManager

/-- The connection maps of `m` describe one assignment of the `attached` writers to readers. -/
structure Linked (attached : TcpAddr → Option Writer) (m : ConnectionManager) : Prop where
  /-- A writer is attached under its own address. -/
  addr_eq : ∀ {w s}, attached w = some s → s.addr = w
  /-- The list of a reader is the attached writers that are mapped to it. -/
  mem_iff : ∀ {r l}, m.reader_connections.find? r = some l → ∀ s,
    s ∈ l ↔ attached s.addr = some s ∧ m.writer_connections.find? s.addr = some r
  /-- No list holds a writer twice. -/
  nodup : ∀ {r l}, m.reader_connections.find? r = some l → l.Nodup
  /-- The attached writers are the mapped ones. -/
  mapped_iff : ∀ w, (m.writer_connections.find? w).isSome ↔ (attached w).isSome
  /-- A writer is mapped to a reader that has a list. -/
  listed : ∀ {w r}, m.writer_connections.find? w = some r →
    (m.reader_connections.find? r).isSome
  /-- A list belongs to a registered reader. -/
  registered : ∀ {r}, (m.reader_connections.find? r).isSome → (m.reader_sessions.find? r).isSome

namespace Linked

variable {attached : TcpAddr → Option Writer} {m : ConnectionManager}

/-- An attached writer is in the list of the reader that it is mapped to. -/
theorem exists_mem (h : Linked attached m) {w r : TcpAddr}
    (hw : m.writer_connections.find? w = some r) :
    ∃ s l, attached w = some s ∧ s.addr = w ∧ m.reader_connections.find? r = some l ∧ s ∈ l := by
  obtain ⟨s, hs⟩ := Option.isSome_iff_exists.mp ((h.mapped_iff w).mp (by simp [hw]))
  obtain ⟨l, hl⟩ := Option.isSome_iff_exists.mp (h.listed hw)
  have ha := h.addr_eq hs
  exact ⟨s, l, hs, ha, hl, (h.mem_iff hl s).mpr (by simp [ha, hs, hw])⟩

/-- A reader with an empty list has no writer mapped to it. -/
theorem ne_of_nil (h : Linked attached m) {r : TcpAddr}
    (hr : m.reader_connections.find? r = some []) (w : TcpAddr) :
    m.writer_connections.find? w ≠ some r := by
  intro hw
  obtain ⟨s, l, -, -, hl, hs⟩ := h.exists_mem hw
  rw [hr] at hl
  cases hl
  simp at hs

/-- The maps that `Linked` reads, and nothing else, decide it. -/
theorem congr {m' : ConnectionManager} (h : Linked attached m)
    (hw : m'.writer_connections = m.writer_connections)
    (hr : m'.reader_connections = m.reader_connections)
    (hs : ∀ r, (m.reader_sessions.find? r).isSome → (m'.reader_sessions.find? r).isSome) :
    Linked attached m' where
  addr_eq := h.addr_eq
  mem_iff hl := by rw [hw]; rw [hr] at hl; exact h.mem_iff hl
  nodup hl := by rw [hr] at hl; exact h.nodup hl
  mapped_iff w := by rw [hw]; exact h.mapped_iff w
  listed hx := by rw [hr]; rw [hw] at hx; exact h.listed hx
  registered hx := by rw [hr] at hx; exact hs _ (h.registered hx)

/-- Nobody is attached when both connection maps are empty. -/
theorem of_empty (hr : m.reader_connections = .empty) (hw : m.writer_connections = .empty) :
    Linked (fun _ => none) m where
  addr_eq h := by simp at h
  mem_iff h := by simp [hr] at h
  nodup h := by simp [hr] at h
  mapped_iff w := by simp [hw]
  listed h := by simp [hw] at h
  registered h := by simp [hr] at h

/-- With no list there is no attached writer. -/
theorem attached_eq_none (h : Linked attached m) (hr : m.reader_connections = .empty)
    (w : TcpAddr) : attached w = none := by
  rw [← Option.not_isSome_iff_eq_none, ← h.mapped_iff]
  intro hw
  obtain ⟨r, hr'⟩ := Option.isSome_iff_exists.mp hw
  simpa [hr] using h.listed hr'

/-- A writer that comes in is attached under its own address. -/
theorem addr_eq_update (h : Linked attached m) (s : Writer) {w : TcpAddr} {x : Writer}
    (hw : Function.update attached s.addr (some s) w = some x) : x.addr = w := by
  by_cases hws : w = s.addr
  · subst hws
    rw [Function.update_self] at hw
    cases hw
    rfl
  · rw [Function.update_of_ne hws] at hw
    exact h.addr_eq hw

/-- Exchanging one list leaves a list to every mapped reader. -/
theorem listed_insert (h : Linked attached m) {w r' : TcpAddr}
    (hw : m.writer_connections.find? w = some r') (r : TcpAddr) (l : List Writer) :
    (if r' = r then some l else m.reader_connections.find? r').isSome := by
  split_ifs
  · rfl
  · exact h.listed hw

/-- Exchanging the list of a registered reader leaves the lists with registered readers. -/
theorem registered_insert (h : Linked attached m) {r r' : TcpAddr} {l : List Writer}
    (hr : (m.reader_sessions.find? r).isSome)
    (hr' : (if r' = r then some l else m.reader_connections.find? r').isSome) :
    (m.reader_sessions.find? r').isSome := by
  split_ifs at hr' with he
  · exact he ▸ hr
  · exact h.registered hr'

/-- An operation on the list of one reader keeps the maps linked when that list is right after it,
and nothing has changed for the writers of the others. -/
theorem exchange {attached' : TcpAddr → Option Writer} {m' : ConnectionManager}
    (h : Linked attached m) {r : TcpAddr} {l l' : List Writer}
    (hl : m.reader_connections.find? r = some l)
    (hlist : ∀ r', m'.reader_connections.find? r' =
      if r' = r then some l' else m.reader_connections.find? r')
    (hsess : m'.reader_sessions = m.reader_sessions)
    (haddr : ∀ {w x}, attached' w = some x → x.addr = w)
    (hmem : ∀ x, x ∈ l' ↔
      attached' x.addr = some x ∧ m'.writer_connections.find? x.addr = some r)
    (hother : ∀ x r', r' ≠ r →
      (attached x.addr = some x ∧ m.writer_connections.find? x.addr = some r' ↔
        attached' x.addr = some x ∧ m'.writer_connections.find? x.addr = some r'))
    (hnodup : l'.Nodup)
    (hmapped : ∀ w, (m'.writer_connections.find? w).isSome ↔ (attached' w).isSome) :
    Linked attached' m' := by
  refine ⟨haddr, ?_, ?_, hmapped, ?_, ?_⟩
  · intro r' k hk x
    rw [hlist] at hk
    split_ifs at hk with hr'
    · cases hk
      exact hr' ▸ hmem x
    · rw [h.mem_iff hk]
      exact hother x r' hr'
  · intro r' k hk
    rw [hlist] at hk
    split_ifs at hk
    · cases hk
      exact hnodup
    · exact h.nodup hk
  · intro w r' hw
    rw [hlist]
    split_ifs with hr'
    · rfl
    -- Another reader's writers were mapped to it before.
    · obtain ⟨x, hx⟩ := Option.isSome_iff_exists.mp ((hmapped w).mp (by simp [hw]))
      obtain rfl := haddr hx
      exact h.listed ((hother x r' hr').mpr ⟨hx, hw⟩).2
  · intro r' hr'
    rw [hsess]
    rw [hlist] at hr'
    exact h.registered_insert (h.registered (by simp [hl])) hr'

end Linked

/-! ## Handing a dead reader's writers over -/

/-- The loop appends the dead list and points its writers at the replacement. -/
theorem moveConnections_eq (q : TcpAddr) (dead replacement : List Writer)
    (writer_connections : OrdMap TcpAddr TcpAddr) :
    (moveConnections q dead replacement writer_connections).1 = replacement ++ dead ∧
      ∀ w, (moveConnections q dead replacement writer_connections).2.find? w =
        if w ∈ dead.map Session.addr then some q else writer_connections.find? w := by
  unfold moveConnections
  induction dead generalizing replacement writer_connections with
  | nil => simp
  | cons s dead ih =>
    obtain ⟨hlist, hmap⟩ := ih (replacement ++ [s]) (writer_connections.insert s.addr q)
    refine ⟨by simp [hlist], fun w => ?_⟩
    rw [List.foldl_cons, hmap, OrdMap.find?_insert]
    by_cases hw : w = s.addr
    · simp [hw]
    · simp [hw]

/-- The manager after the writers of `r` were handed over to `q` and `r` was removed. -/
def handOver (m : ConnectionManager) (r q : TcpAddr) : ConnectionManager :=
  { m with
    writer_connections := m.writer_connections.mapVal fun _ x => if x = r then q else x
    reader_connections :=
      (m.reader_connections.insert q
        ((m.reader_connections.find? q).getD [] ++ (m.reader_connections.find? r).getD [])).erase r
    reader_sessions := m.reader_sessions.erase r }

/-- The manager after a reader `r` without writers was removed. -/
def dropReader (m : ConnectionManager) (r : TcpAddr) : ConnectionManager :=
  { m with
    reader_connections := m.reader_connections.erase r
    reader_sessions := m.reader_sessions.erase r }

/-- Over linked maps, the loop's `_writer_connections` is the old one with `r` replaced by `q`. -/
theorem moveConnections_snd_eq {attached : TcpAddr → Option Writer} {m : ConnectionManager}
    (h : Linked attached m) {r q : TcpAddr} {l replacement : List Writer}
    (hr : m.reader_connections.find? r = some l) :
    (moveConnections q l replacement m.writer_connections).2 =
      m.writer_connections.mapVal fun _ x => if x = r then q else x := by
  apply OrdMap.ext_find?
  intro w
  rw [(moveConnections_eq q l replacement m.writer_connections).2, OrdMap.find?_mapVal]
  by_cases hw : m.writer_connections.find? w = some r
  · -- A writer mapped to `r` is in its list.
    obtain ⟨s, l', -, rfl, hl', hs⟩ := h.exists_mem hw
    rw [hr] at hl'
    cases hl'
    rw [if_pos (List.mem_map_of_mem hs), hw]
    simp
  -- Every writer in the list is mapped to `r`, and this one is not.
  · have hnot : w ∉ l.map Session.addr := by
      intro hmem
      obtain ⟨s, hs, rfl⟩ := List.mem_map.mp hmem
      exact hw ((h.mem_iff hr s).mp hs).2
    rw [if_neg hnot]
    cases hx : m.writer_connections.find? w with
    | none => rfl
    | some x =>
      have hne : x ≠ r := fun e => hw (by rw [hx, e])
      simp [hne]

/-- What `RemoveReaderSession` does over linked maps when it gets as far as removing a reader that
is not the only one: it drops a reader without writers, and hands the writers of any other over to
the next reader. -/
theorem removeReaderSession_eq {attached : TcpAddr → Option Writer} {m : ConnectionManager}
    (h : Linked attached m) {session_id : Session → ℕ} {session dead : Reader} {j : TcpAddr}
    {l : List Writer} (hdead : m.reader_sessions.find? session.addr = some dead)
    (hid : session_id dead = session_id session) (hj : (m.reader_sessions.find? j).isSome)
    (hne : j ≠ session.addr) (hl : m.reader_connections.find? session.addr = some l) :
    (l = [] ∧ m.removeReaderSession session_id session = dropReader m session.addr) ∨
      (l ≠ [] ∧ ∃ q s, m.reader_sessions.cyclicNext? session.addr = some (q, s) ∧
        q ≠ session.addr ∧
        m.removeReaderSession session_id session = handOver m session.addr q) := by
  have hsize : m.reader_sessions.size ≠ 1 := fun hone =>
    hne ((OrdMap.size_eq_one_iff (by simp [hdead])).mp hone j hj)
  cases l with
  | nil =>
    refine Or.inl ⟨rfl, ?_⟩
    simp [removeReaderSession, hdead, hid, hsize, hl, dropReader]
  | cons a l =>
    obtain ⟨q, s, hq, hqne⟩ := OrdMap.exists_cyclicNext? hj hne
    refine Or.inr ⟨by simp, q, s, hq, hqne, ?_⟩
    simp only [removeReaderSession, hdead, hid, ne_eq, not_true_eq_false, if_false, hsize, hl, hq]
    rw [(moveConnections_eq _ _ _ _).1, moveConnections_snd_eq h hl]
    simp [handOver, hl]

/-- A reader whose list is missing, which only an unfinished `AddReaderSession` leaves, or who is
alone, is not handed over. -/
theorem removeReaderSession_of_alone {m : ConnectionManager} {session_id : Session → ℕ}
    {session dead : Reader} (hdead : m.reader_sessions.find? session.addr = some dead)
    (hid : session_id dead = session_id session)
    (halone : ∀ r, (m.reader_sessions.find? r).isSome → r = session.addr) :
    m.removeReaderSession session_id session =
      { m with
        writer_connections := .empty
        reader_connections := .empty
        reader_sessions := .empty } := by
  have hsize : m.reader_sessions.size = 1 :=
    (OrdMap.size_eq_one_iff (by simp [hdead])).mpr halone
  simp [removeReaderSession, hdead, hid, hsize]

/-- `RemoveReaderSession` leaves the writers' sessions and the session number alone. -/
theorem removeReaderSession_spec (session_id : Session → ℕ) (m : ConnectionManager)
    (session : Reader) :
    (m.removeReaderSession session_id session).last_session_number = m.last_session_number ∧
      (m.removeReaderSession session_id session).writer_sessions = m.writer_sessions := by
  unfold removeReaderSession
  dsimp only
  repeat' split
  all_goals exact ⟨rfl, rfl⟩

/-- `RemoveReaderSession` registers no reader. -/
theorem find?_of_removeReaderSession {session_id : Session → ℕ} {m : ConnectionManager}
    {session x : Reader} {r : TcpAddr}
    (h : (m.removeReaderSession session_id session).reader_sessions.find? r = some x) :
    m.reader_sessions.find? r = some x := by
  have herase : ∀ {a}, (m.reader_sessions.erase a).find? r = some x →
      m.reader_sessions.find? r = some x := by
    intro a h
    rw [OrdMap.find?_erase] at h
    split_ifs at h
    exact h
  unfold removeReaderSession at h
  dsimp only at h
  repeat' split at h
  all_goals first | exact h | exact herase h | cases h

/-- A session that is not the registered one of its address is not removed. -/
theorem removeReaderSession_of_stale {m : ConnectionManager} {session_id : Session → ℕ}
    {session : Reader}
    (hstale : ∀ dead, m.reader_sessions.find? session.addr = some dead →
      session_id dead ≠ session_id session) :
    m.removeReaderSession session_id session = m := by
  cases hdead : m.reader_sessions.find? session.addr with
  | none => simp only [removeReaderSession, hdead]
  | some dead => simp only [removeReaderSession, hdead, if_pos (hstale dead hdead)]

section HandOver

variable {attached : TcpAddr → Option Writer} {m : ConnectionManager} {r q : TcpAddr}
  {l : List Writer}

/-- The writers of a reader, whether or not it has a list yet. -/
theorem Linked.mem_getD_iff (h : Linked attached m) (q : TcpAddr) (s : Writer) :
    s ∈ (m.reader_connections.find? q).getD [] ↔
      attached s.addr = some s ∧ m.writer_connections.find? s.addr = some q := by
  cases hlq : m.reader_connections.find? q with
  | some lq => exact h.mem_iff hlq s
  | none =>
    constructor
    · simp
    · rintro ⟨-, hs⟩
      simpa [hlq] using h.listed hs

/-- After the handover the list of `q` is longer, and that of `r` is gone. -/
theorem find?_handOver_eq_some (hl : m.reader_connections.find? r = some l) (hqr : q ≠ r)
    {r' : TcpAddr} {l' : List Writer} :
    (handOver m r q).reader_connections.find? r' = some l' ↔
      r' ≠ r ∧ if r' = q then l' = (m.reader_connections.find? q).getD [] ++ l
        else m.reader_connections.find? r' = some l' := by
  simp only [handOver, OrdMap.find?_erase, OrdMap.find?_insert, hl, Option.getD_some]
  by_cases hr' : r' = r
  · simp [hr']
  · by_cases hq' : r' = q
    · simp [hq', hqr, eq_comm]
    · simp [hr', hq']

/-- A writer that was mapped to `r` is mapped to `q`. -/
theorem find?_writer_handOver (m : ConnectionManager) (r q w : TcpAddr) :
    (handOver m r q).writer_connections.find? w =
      (m.writer_connections.find? w).map fun x => if x = r then q else x :=
  OrdMap.find?_mapVal _ _ _

theorem Linked.mem_handOver_iff (h : Linked attached m)
    (hl : m.reader_connections.find? r = some l) (hqr : q ≠ r) {r' : TcpAddr} {l' : List Writer}
    (hl' : (Server.handOver m r q).reader_connections.find? r' = some l') (s : Writer) :
    s ∈ l' ↔ attached s.addr = some s ∧
      (Server.handOver m r q).writer_connections.find? s.addr = some r' := by
  obtain ⟨hne, hl'⟩ := (find?_handOver_eq_some hl hqr).mp hl'
  rw [find?_writer_handOver]
  split_ifs at hl' with hq'
  · subst hl' hq'
    rw [List.mem_append, h.mem_getD_iff, h.mem_iff hl, ← and_or_left]
    refine and_congr_right fun _ => ?_
    cases m.writer_connections.find? s.addr with
    | none => simp
    | some x => by_cases hx : x = r <;> simp [hx]
  -- The list of a third reader, who is neither `r` nor `q`.
  · rw [h.mem_iff hl']
    refine and_congr_right fun _ => ?_
    cases m.writer_connections.find? s.addr with
    | none => simp
    | some x =>
      by_cases hx : x = r
      · subst hx
        simp [Ne.symm hne, Ne.symm hq']
      · simp [hx]

theorem Linked.nodup_handOver (h : Linked attached m)
    (hl : m.reader_connections.find? r = some l) (hqr : q ≠ r) {r' : TcpAddr} {l' : List Writer}
    (hl' : (Server.handOver m r q).reader_connections.find? r' = some l') : l'.Nodup := by
  obtain ⟨-, hl'⟩ := (find?_handOver_eq_some hl hqr).mp hl'
  split_ifs at hl' with hq'
  · subst hl'
    -- A writer in both lists would be mapped to both readers.
    refine List.Nodup.append ?_ (h.nodup hl) ?_
    · cases hlq : m.reader_connections.find? q with
      | none => simp
      | some lq => exact h.nodup hlq
    · intro s hs hs'
      have h1 := ((h.mem_getD_iff q s).mp hs).2
      have h2 := ((h.mem_iff hl s).mp hs').2
      rw [h1] at h2
      cases h2
      exact hqr rfl
  · exact h.nodup hl'

theorem Linked.handOver (h : Linked attached m) (hqr : q ≠ r)
    (hr : (m.reader_connections.find? r).isSome) (hq : (m.reader_sessions.find? q).isSome) :
    Linked attached (handOver m r q) := by
  obtain ⟨l, hl⟩ := Option.isSome_iff_exists.mp hr
  refine ⟨h.addr_eq, h.mem_handOver_iff hl hqr, h.nodup_handOver hl hqr, fun w => ?_, ?_, ?_⟩
  · rw [find?_writer_handOver, Option.isSome_map]
    exact h.mapped_iff w
  · intro w r' hw
    rw [find?_writer_handOver, Option.map_eq_some_iff] at hw
    obtain ⟨x, hx, rfl⟩ := hw
    rw [Option.isSome_iff_exists]
    by_cases hxr : x = r
    · rw [if_pos hxr]
      exact ⟨_, (find?_handOver_eq_some hl hqr).mpr ⟨hqr, by rw [if_pos rfl]⟩⟩
    · obtain ⟨lx, hlx⟩ := Option.isSome_iff_exists.mp (h.listed hx)
      rw [if_neg hxr]
      by_cases hxq : x = q
      · exact ⟨_, (find?_handOver_eq_some hl hqr).mpr ⟨hxr, by rw [if_pos hxq]⟩⟩
      · exact ⟨lx, (find?_handOver_eq_some hl hqr).mpr ⟨hxr, by simp [hxq, hlx]⟩⟩
  · intro r' hr'
    obtain ⟨l', hl'⟩ := Option.isSome_iff_exists.mp hr'
    obtain ⟨hne, hl'⟩ := (find?_handOver_eq_some hl hqr).mp hl'
    simp only [Server.handOver, OrdMap.find?_erase, if_neg hne]
    split_ifs at hl' with hq'
    · exact hq' ▸ hq
    · exact h.registered (by simp [hl'])

end HandOver

theorem Linked.dropReader {attached : TcpAddr → Option Writer} {m : ConnectionManager}
    (h : Linked attached m) {r : TcpAddr} (hr : m.reader_connections.find? r = some []) :
    Linked attached (dropReader m r) := by
  have hfind : ∀ r' l', (Server.dropReader m r).reader_connections.find? r' = some l' ↔
      r' ≠ r ∧ m.reader_connections.find? r' = some l' := by
    intro r' l'
    by_cases hr' : r' = r <;> simp [Server.dropReader, OrdMap.find?_erase, hr']
  refine ⟨h.addr_eq, ?_, ?_, h.mapped_iff, ?_, ?_⟩
  · exact fun hl s => h.mem_iff ((hfind _ _).mp hl).2 s
  · exact fun hl => h.nodup ((hfind _ _).mp hl).2
  -- Nobody is mapped to `r`, because its list is empty.
  · intro w r' hw
    have hne : r' ≠ r := fun e => h.ne_of_nil hr w (e ▸ hw)
    obtain ⟨l', hl'⟩ := Option.isSome_iff_exists.mp (h.listed hw)
    exact Option.isSome_iff_exists.mpr ⟨l', (hfind _ _).mpr ⟨hne, hl'⟩⟩
  · intro r' hr'
    obtain ⟨l', hl'⟩ := Option.isSome_iff_exists.mp hr'
    obtain ⟨hne, hl'⟩ := (hfind _ _).mp hl'
    simpa [Server.dropReader, OrdMap.find?_erase, hne] using h.registered (by simp [hl'])

end AugmentedNormalcy.Server
