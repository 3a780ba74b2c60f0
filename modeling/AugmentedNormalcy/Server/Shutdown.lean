import AugmentedNormalcy.Server.Sequential
import AugmentedNormalcy.Server.ServerStreamer

/-!
# What `Stop` leaves behind

`Stop` clears the manager first and stops the acceptor last, so an accept handler can register a
session in between. Nothing closes that session any more: `TcpServer::Stop` cancels the acceptor
only, and the manager keeps the session when `Stop` has returned (`late_session_left`).

When no region of an `Add` runs after `Clear`, `Stop` leaves nothing behind
(`leavesNothing_of_along`): every session that was ever registered has been closed, and the four
maps are empty. The invariant `Tracks` says where a registered session is: closed, about to be
closed, or in its map. -/

namespace AugmentedNormalcy.Server

/-- The four maps are empty. -/
structure ConnectionManager.Cleared (m : ConnectionManager) : Prop where
  reader_sessions : m.reader_sessions = .empty
  writer_sessions : m.writer_sessions = .empty
  reader_connections : m.reader_connections = .empty
  writer_connections : m.writer_connections = .empty

namespace ConnectionManager.Cleared

variable {m : ConnectionManager}

/-- `Clear` empties the maps. -/
theorem clear (m : ConnectionManager) : m.clear.1.Cleared := ⟨rfl, rfl, rfl, rfl⟩

/-- A session number changes no map. -/
theorem nextSessionNumber (h : m.Cleared) : m.nextSessionNumber.1.Cleared :=
  ⟨h.reader_sessions, h.writer_sessions, h.reader_connections, h.writer_connections⟩

/-- The second region of `AddWriterSession` finds no reader and no list. -/
theorem addWriterConnect (h : m.Cleared) (session : Writer) (writer_to_remove : Option Writer)
    (replace_connection : Option TcpAddr) :
    (m.addWriterConnect session writer_to_remove replace_connection).Cleared := by
  have hnone : m.reader_sessions.begin? = none := OrdMap.begin?_eq_none.mpr h.reader_sessions
  cases replace_connection with
  | none => simpa [ConnectionManager.addWriterConnect, hnone] using h
  | some r => simpa [ConnectionManager.addWriterConnect, h.reader_connections] using h

/-- There is no reader to remove. -/
theorem removeReaderSession (h : m.Cleared) (session_id : Session → ℕ) (session : Reader) :
    (m.removeReaderSession session_id session).Cleared := by
  rwa [removeReaderSession_of_stale (by simp [h.reader_sessions])]

/-- There is no writer to remove. -/
theorem removeWriterSession (h : m.Cleared) (session_id : Session → ℕ) (session : Writer) :
    (m.removeWriterSession session_id session).Cleared := by
  rwa [removeWriterSession_of_stale (by simp [h.writer_sessions])]

/-- No writer has a connection to rotate. -/
theorem rotateWriterConnection (h : m.Cleared) (w : TcpAddr) :
    (m.rotateWriterConnection w).1.Cleared := by
  simpa [ConnectionManager.rotateWriterConnection, h.writer_connections] using h

/-- No writer has a connection to reset. -/
theorem resetWriterConnection (h : m.Cleared) (w : TcpAddr) :
    (m.resetWriterConnection w).1.Cleared := by
  simpa [ConnectionManager.resetWriterConnection, h.writer_connections] using h

/-- There is nothing to rotate. -/
theorem rotateAllConnections (h : m.Cleared) : m.rotateAllConnections.1.Cleared := by
  have hnone : m.writer_connections.begin? = none := OrdMap.begin?_eq_none.mpr h.writer_connections
  simpa [ConnectionManager.rotateAllConnections, hnone] using h

/-- There is no reader to point at. -/
theorem pointReaderAtWriters (h : m.Cleared) (r : TcpAddr) :
    (m.pointReaderAtWriters r).1.Cleared := by
  simpa [ConnectionManager.pointReaderAtWriters, h.reader_sessions] using h

end ConnectionManager.Cleared

/-! ## What the operations do to the sessions -/

section Sessions

open ConnectionManager

variable {m : ConnectionManager} {session_id : Session → ℕ} {session : Session}

/-- `RemoveReaderSession` takes out a session with the number of its argument, or none. -/
theorem removeReaderSession_keeps {a : TcpAddr} {x : Reader}
    (hx : m.reader_sessions.find? a = some x)
    (hne : a = session.addr → session_id x ≠ session_id session) :
    (m.removeReaderSession session_id session).reader_sessions.find? a = some x := by
  -- At the address of the call the numbers differ; elsewhere the entry is not touched.
  by_cases ha : a = session.addr
  · subst ha
    rw [removeReaderSession_of_stale]
    · exact hx
    · intro dead hdead
      rw [hx] at hdead
      cases hdead
      exact hne rfl
  · have herase : (m.reader_sessions.erase session.addr).find? a = some x := by
      rwa [OrdMap.find?_erase, if_neg ha]
    unfold removeReaderSession
    dsimp only
    cases hdead : m.reader_sessions.find? session.addr with
    | none => exact hx
    | some dead =>
      -- There is another reader, so the maps are not emptied.
      have hsize : m.reader_sessions.size ≠ 1 := fun hone =>
        ha ((OrdMap.size_eq_one_iff (by simp [hdead])).mp hone a (by simp [hx]))
      simp only [hsize, if_false]
      repeat' split
      all_goals first
        | exact hx
        | exact herase

/-- `RemoveReaderSession` registers nobody. -/
theorem removeReaderSession_sub {a : TcpAddr} {x : Reader}
    (hx : (m.removeReaderSession session_id session).reader_sessions.find? a = some x) :
    m.reader_sessions.find? a = some x := by
  have herase : (m.reader_sessions.erase session.addr).find? a = some x →
      m.reader_sessions.find? a = some x := by
    intro h
    rw [OrdMap.find?_erase] at h
    split_ifs at h
    exact h
  unfold removeReaderSession at hx
  dsimp only at hx
  repeat' split at hx
  all_goals first
    | exact hx
    | exact herase hx
    | simp at hx

/-- `RemoveWriterSession` takes out a session with the number of its argument, or none. -/
theorem removeWriterSession_keeps {a : TcpAddr} {x : Writer}
    (hx : m.writer_sessions.find? a = some x)
    (hne : a = session.addr → session_id x ≠ session_id session) :
    (m.removeWriterSession session_id session).writer_sessions.find? a = some x := by
  -- At the address of the call the numbers differ; elsewhere the entry is not touched.
  by_cases ha : a = session.addr
  · subst ha
    rw [removeWriterSession_of_stale]
    · exact hx
    · intro dead hdead
      rw [hx] at hdead
      cases hdead
      exact hne rfl
  · have herase : (m.writer_sessions.erase session.addr).find? a = some x := by
      rwa [OrdMap.find?_erase, if_neg ha]
    unfold removeWriterSession
    dsimp only
    cases hdead : m.writer_sessions.find? session.addr with
    | none => exact hx
    | some dead =>
      -- There is another writer, so the maps are not emptied.
      have hsize : m.writer_sessions.size ≠ 1 := fun hone =>
        ha ((OrdMap.size_eq_one_iff (by simp [hdead])).mp hone a (by simp [hx]))
      simp only [hsize, if_false]
      repeat' split
      all_goals first
        | exact hx
        | exact herase

end Sessions

/-! ## Where a registered session is -/

/-- A table of sessions holds registered ones under their addresses, and every registered session
that is not in the table is closed or `due` to be. -/
structure Tracked (due : Session → Prop) (registered : List Session)
    (table : OrdMap TcpAddr Session) : Prop where
  entry : ∀ {a x}, table.find? a = some x → x.addr = a ∧ x ∈ registered
  tracked : ∀ x ∈ registered, due x ∨ table.find? x.addr = some x

namespace Tracked

variable {due due' : Session → Prop} {registered : List Session}
  {table table' : OrdMap TcpAddr Session}

/-- More sessions may be due. -/
theorem mono (h : Tracked due registered table) (hdue : ∀ x, due x → due' x) :
    Tracked due' registered table :=
  ⟨h.entry, fun x hx => (h.tracked x hx).imp_left (hdue x)⟩

/-- Registering a session closes the one that it replaces. -/
theorem insert (h : Tracked due registered table) (session : Session) (hdue : ∀ x, due x → due' x)
    (hold : ∀ x, table.find? session.addr = some x → due' x) :
    Tracked due' (session :: registered) (table.insert session.addr session) := by
  constructor
  · intro a x hx
    rw [OrdMap.find?_insert] at hx
    split_ifs at hx with ha
    · cases hx
      exact ⟨ha.symm, List.mem_cons_self⟩
    · exact ⟨(h.entry hx).1, List.mem_cons_of_mem _ (h.entry hx).2⟩
  · intro x hx
    obtain rfl | hx := List.mem_cons.mp hx
    · exact .inr (OrdMap.find?_insert_self _ _ _)
    obtain hx | hx := h.tracked x hx
    · exact .inl (hdue x hx)
    -- The session that was in the table under this address is the one that goes.
    · by_cases ha : x.addr = session.addr
      · rw [ha] at hx
        exact .inl (hold x hx)
      · exact .inr (by rw [OrdMap.find?_insert_of_ne ha, hx])

/-- What leaves the table has to be due. -/
theorem shrink (h : Tracked due registered table)
    (hsub : ∀ {a x}, table'.find? a = some x → table.find? a = some x)
    (hgone : ∀ {a x}, table.find? a = some x → due x ∨ table'.find? a = some x) :
    Tracked due registered table' := by
  refine ⟨fun hx => h.entry (hsub hx), fun x hx => ?_⟩
  obtain hx | hx := h.tracked x hx
  · exact .inl hx
  · exact hgone hx

/-- Whoever is due is in no table once the table is empty. -/
theorem clear (h : Tracked due registered table) (hdue : ∀ x, due x → due' x)
    (hgone : ∀ e ∈ table.entries, due' e.2) : Tracked due' registered .empty := by
  refine ⟨fun hx => by simp at hx, fun x hx => .inl ?_⟩
  obtain hx | hx := h.tracked x hx
  · exact hdue x hx
  · exact hgone (x.addr, x) (OrdMap.find?_eq_some.mp hx)

end Tracked

namespace Shutdown

open StepSystem

/-- The sessions that `Clear` has still to close. -/
def Progress.toClose : Progress → List Session
  | clearing sessions => sessions
  | _ => []

/-- Closed, or about to be: by `Clear`, or by the `Add` that replaces it. -/
def State.Due (s : State) (x : Session) : Prop :=
  x ∈ s.closed ∨ x ∈ s.progress.toClose ∨ s.handler.replaced? = some x

/-- The acceptor takes no connection any more. -/
def Progress.refuses : Progress → Bool
  | tcpStopping | tcpStopped | stopped => true
  | _ => false

/-- No accept handler is under way. -/
def Progress.halts : Progress → Bool
  | tcpStopped | stopped => true
  | _ => false

/-- What holds in every run. -/
structure Tracks (s : State) : Prop where
  readers : Tracked s.Due s.readers s.manager.reader_sessions
  writers : Tracked s.Due s.writers s.manager.writer_sessions
  numbered : Numbered s.session_id s.manager.last_session_number
  /-- A registered session has its number, unless its `Add` has not returned. -/
  unnumbered : ∀ x, x ∈ s.readers ∨ x ∈ s.writers → s.session_id x = 0 →
    s.handler.session? = some x
  removing_readers : ∀ x ∈ s.removing_readers, x ∈ s.readers ∧ x ∈ s.closed
  removing_writers : ∀ x ∈ s.removing_writers, x ∈ s.writers ∧ x ∈ s.closed
  refuses : s.progress.refuses → s.is_stopped = true
  halts : s.progress.halts → s.handler = .idle

namespace Tracks

variable {s s' : State}

/-- Nobody was ever registered. -/
theorem initial : Tracks initial where
  readers := ⟨fun h => by simp [Shutdown.initial, ConnectionManager.initial] at h, by
    simp [Shutdown.initial]⟩
  writers := ⟨fun h => by simp [Shutdown.initial, ConnectionManager.initial] at h, by
    simp [Shutdown.initial]⟩
  numbered := ⟨fun _ => Nat.le_refl _, fun _ h => absurd rfl h⟩
  unnumbered := by simp [Shutdown.initial]
  removing_readers := by simp [Shutdown.initial]
  removing_writers := by simp [Shutdown.initial]
  refuses := fun _ => rfl
  halts := fun _ => rfl

/-- Registered sessions with one number are one session. -/
theorem eq_of_session_id (h : Tracks s) {x y : Session} (hx : x ∈ s.readers ∨ x ∈ s.writers)
    (hy : y ∈ s.readers ∨ y ∈ s.writers) (hid : s.session_id x = s.session_id y) : x = y := by
  by_cases h0 : s.session_id x = 0
  · have hx0 := h.unnumbered x hx h0
    have hy0 := h.unnumbered y hy (hid ▸ h0)
    rw [hx0] at hy0
    exact Option.some.inj hy0
  · exact h.numbered.eq_of_eq hid h0

/-- `Start` and `Stop` go on, and the manager and the sessions stay. -/
theorem progress (h : Tracks s) {p : Progress} {b : Bool} (hclose : s.progress.toClose = [])
    (hrefuses : p.refuses → b = true) (hhalts : p.halts → s.handler = .idle) :
    Tracks { s with progress := p, is_stopped := b } := by
  have hdue : ∀ x, s.Due x → State.Due { s with progress := p, is_stopped := b } x := by
    rintro x (hx | hx | hx)
    · exact .inl hx
    · simp [hclose] at hx
    · exact .inr (.inr hx)
  exact ⟨h.readers.mono hdue, h.writers.mono hdue, h.numbered, h.unnumbered, h.removing_readers,
    h.removing_writers, hrefuses, hhalts⟩

/-- A call that moves writers between the lists changes nothing here. -/
theorem sameSessions (h : Tracks s) {m : ConnectionManager} (hm : SameSessions s.manager m) :
    Tracks { s with manager := m } := by
  refine ⟨?_, ?_, ?_, h.unnumbered, h.removing_readers, h.removing_writers, h.refuses, h.halts⟩
  · rw [hm.readers]
    exact h.readers
  · rw [hm.writers]
    exact h.writers
  · rw [hm.number]
    exact h.numbered

/-- `Clear` takes every session out of its map, and will close it. -/
theorem clear (h : Tracks s) (hp : s.progress = .running) :
    Tracks { s with manager := s.manager.clear.1, progress := .clearing s.manager.clear.2 } := by
  -- Whoever was in a map is in the list of sessions to close.
  have hdue : ∀ x, s.Due x →
      x ∈ s.closed ∨ x ∈ s.manager.clear.2 ∨ s.handler.replaced? = some x := by
    rintro x (hx | hx | hx)
    · exact .inl hx
    · simp [hp, Progress.toClose] at hx
    · exact .inr (.inr hx)
  refine ⟨h.readers.clear hdue fun e he => ?_, h.writers.clear hdue fun e he => ?_, h.numbered,
    h.unnumbered, h.removing_readers, h.removing_writers, by simp [Progress.refuses],
    by simp [Progress.halts]⟩
  · exact .inr (.inl (List.mem_append_left _ (List.mem_map_of_mem he)))
  · exact .inr (.inl (List.mem_append_right _ (List.mem_map_of_mem he)))

/-- The next of the sessions that were taken out is closed. -/
theorem tryClose (h : Tracks s) {session : Session} {sessions : List Session}
    (hp : s.progress = .clearing (session :: sessions)) :
    Tracks { s with progress := .clearing sessions, closed := session :: s.closed } := by
  -- The session leaves the list of those to close because it is closed.
  have hdue : ∀ x, s.Due x →
      x ∈ session :: s.closed ∨ x ∈ sessions ∨ s.handler.replaced? = some x := by
    rintro x (hx | hx | hx)
    · exact .inl (List.mem_cons_of_mem _ hx)
    · rw [hp] at hx
      obtain rfl | hx := List.mem_cons.mp hx
      · exact .inl List.mem_cons_self
      · exact .inr (.inl hx)
    · exact .inr (.inr hx)
  exact ⟨h.readers.mono hdue, h.writers.mono hdue, h.numbered, h.unnumbered,
    fun x hx => (h.removing_readers x hx).imp_right (List.mem_cons_of_mem _),
    fun x hx => (h.removing_writers x hx).imp_right (List.mem_cons_of_mem _),
    by simp [Progress.refuses], by simp [Progress.halts]⟩

/-! ### The accept handler -/

/-- A connection that was just accepted has no session yet. -/
theorem accept (h : Tracks s) (hidle : s.handler = .idle) (session : Session)
    (connection_type : ConnectionType) :
    Tracks { s with
      handler := if s.is_stopped then .idle else .accepted session connection_type } := by
  -- No `Add` is under way, so every registered session has its number.
  have hsession : ∀ x, s.handler.session? ≠ some x := by simp [hidle, Handler.session?]
  have hdue : ∀ x, s.Due x → State.Due { s with
      handler := if s.is_stopped then .idle else .accepted session connection_type } x := by
    rintro x (hx | hx | hx)
    · exact .inl hx
    · exact .inr (.inl hx)
    · simp [hidle, Handler.replaced?] at hx
  refine ⟨h.readers.mono hdue, h.writers.mono hdue, h.numbered,
    fun x hx h0 => absurd (h.unnumbered x hx h0) (hsession x), h.removing_readers,
    h.removing_writers, h.refuses, fun hp => if_pos (h.refuses ?_)⟩
  revert hp
  cases s.progress <;> simp [Progress.halts, Progress.refuses]

/-- The first region registers the session; the one that it replaces will be closed by the `Add`. -/
theorem register (h : Tracks s) {session : Session} {connection_type : ConnectionType}
    (hhandler : s.handler = .accepted session connection_type) :
    Tracks (s.register session connection_type) := by
  have hhalts : ¬ s.progress.halts := fun hp => by
    have := h.halts hp
    rw [hhandler] at this
    cases this
  have hsession : ∀ x, s.handler.session? ≠ some x := by simp [hhandler, Handler.session?]
  have hdue : ∀ {to_remove : Option Session} x, s.Due x →
      x ∈ s.closed ∨ x ∈ s.progress.toClose ∨ to_remove = some x := by
    rintro to_remove x (hx | hx | hx)
    · exact .inl hx
    · exact .inr (.inl hx)
    · simp [hhandler, Handler.replaced?] at hx
  -- Before the handler went on, every registered session had its number.
  have hnew : ∀ x, x = session ∨ (x ∈ s.readers ∨ x ∈ s.writers) → s.session_id x = 0 →
      some session = some x := by
    rintro x (rfl | hx) h0
    · rfl
    · exact absurd (h.unnumbered x hx h0) (hsession x)
  -- A camera takes the place of a reader, and is due to close it.
  have hreader : Tracks (s.register session .CAMERA_CONNECTION) := by
    refine ⟨h.readers.insert session hdue fun x hx => .inr (.inr hx), h.writers.mono hdue,
      h.numbered, fun x hx => hnew x ?_, fun x hx => ?_, h.removing_writers, h.refuses,
      fun hp => absurd hp hhalts⟩
    · obtain hx | hx := hx
      · exact (List.mem_cons.mp hx).imp_right .inl
      · exact .inr (.inr hx)
    · exact (h.removing_readers x hx).imp_left (List.mem_cons_of_mem _)
  -- A headset or a display takes the place of a writer.
  have hwriter : Tracks (s.register session .HEADSET_CONNECTION) := by
    refine ⟨h.readers.mono hdue, h.writers.insert session hdue fun x hx => .inr (.inr hx),
      h.numbered, fun x hx => hnew x ?_, h.removing_readers, fun x hx => ?_, h.refuses,
      fun hp => absurd hp hhalts⟩
    · obtain hx | hx := hx
      · exact .inr (.inl hx)
      · exact (List.mem_cons.mp hx).imp_right .inr
    · exact (h.removing_writers x hx).imp_left (List.mem_cons_of_mem _)
  cases connection_type with
  | CAMERA_CONNECTION => exact hreader
  | HEADSET_CONNECTION => exact hwriter
  | DISPLAY_CONNECTION => exact hwriter
  | UNKNOWN_CONNECTION =>
    exact ⟨h.readers.mono hdue, h.writers.mono hdue, h.numbered,
      fun x hx h0 => absurd (h.unnumbered x hx h0) (hsession x), h.removing_readers,
      h.removing_writers, h.refuses, fun _ => rfl⟩

/-- The second region moves no session and leaves the session to replace. -/
theorem connect (h : Tracks s) {m : ConnectionManager} (hm : SameSessions s.manager m)
    (session : Session) (hsession : s.handler.session? = some session) :
    Tracks { s with manager := m, handler := .connected session s.handler.replaced? } := by
  have hs := h.sameSessions hm
  refine ⟨hs.readers, hs.writers, hs.numbered, fun x hx h0 => ?_, h.removing_readers,
    h.removing_writers, h.refuses, fun hp => ?_⟩
  · exact hsession.symm.trans (h.unnumbered x hx h0)
  · rw [h.halts hp] at hsession
    cases hsession

/-- The `Add` gives the session its number, and closes the one that was replaced. -/
theorem finish (h : Tracks s) {session : Session} {to_remove : Option Session}
    (hhandler : s.handler = .connected session to_remove) :
    Tracks { s with
      manager := s.manager.nextSessionNumber.1
      session_id := Function.update s.session_id session s.manager.nextSessionNumber.2
      handler := .idle
      closed := to_remove.toList ++ s.closed } := by
  -- The replaced session is closed here.
  have hdue : ∀ x, s.Due x →
      x ∈ to_remove.toList ++ s.closed ∨ x ∈ s.progress.toClose ∨ none = some x := by
    rintro x (hx | hx | hx)
    · exact .inl (List.mem_append_right _ hx)
    · exact .inr (.inl hx)
    · rw [hhandler] at hx
      exact .inl (List.mem_append_left _ (Option.mem_toList.mpr hx))
  refine ⟨h.readers.mono hdue, h.writers.mono hdue, h.numbered.assign session,
    fun x hx h0 => ?_, fun x hx => ?_, fun x hx => ?_, h.refuses, fun _ => rfl⟩
  -- Only the session of this `Add` was without a number, and it has one now.
  · dsimp only at h0
    by_cases hne : x = session
    · rw [hne, Function.update_self] at h0
      cases h0
    · rw [Function.update_of_ne hne] at h0
      have := h.unnumbered x hx h0
      rw [hhandler] at this
      exact absurd (Option.some.inj this).symm hne
  · exact (h.removing_readers x hx).imp_right (List.mem_append_right _)
  · exact (h.removing_writers x hx).imp_right (List.mem_append_right _)

/-! ### Sessions that close themselves -/

/-- A session that closes itself is no longer due. -/
theorem due_close {session : Session} : ∀ x, s.Due x →
    x ∈ session :: s.closed ∨ x ∈ s.progress.toClose ∨ s.handler.replaced? = some x :=
  fun _ hx => hx.imp_left (List.mem_cons_of_mem _)

/-- A camera's session closes itself. -/
theorem closeReader (h : Tracks s) {session : Reader} (hmem : session ∈ s.readers) :
    Tracks { s with
      closed := session :: s.closed, removing_readers := session :: s.removing_readers } := by
  refine ⟨h.readers.mono due_close, h.writers.mono due_close, h.numbered, h.unnumbered,
    fun x hx => ?_, fun x hx => (h.removing_writers x hx).imp_right (List.mem_cons_of_mem _),
    h.refuses, h.halts⟩
  obtain rfl | hx := List.mem_cons.mp hx
  · exact ⟨hmem, List.mem_cons_self⟩
  · exact (h.removing_readers x hx).imp_right (List.mem_cons_of_mem _)

/-- So does a headset's. -/
theorem closeWriter (h : Tracks s) {session : Writer} (hmem : session ∈ s.writers) :
    Tracks { s with
      closed := session :: s.closed, removing_writers := session :: s.removing_writers } := by
  refine ⟨h.readers.mono due_close, h.writers.mono due_close, h.numbered, h.unnumbered,
    fun x hx => (h.removing_readers x hx).imp_right (List.mem_cons_of_mem _), fun x hx => ?_,
    h.refuses, h.halts⟩
  obtain rfl | hx := List.mem_cons.mp hx
  · exact ⟨hmem, List.mem_cons_self⟩
  · exact (h.removing_writers x hx).imp_right (List.mem_cons_of_mem _)

/-- The entry that a session removes is itself, and it is closed. -/
theorem removeReaderSession (h : Tracks s) {session : Reader}
    (hmem : session ∈ s.removing_readers) :
    Tracks { s with
      manager := s.manager.removeReaderSession s.session_id session
      removing_readers := s.removing_readers.erase session } := by
  obtain ⟨hreg, hclosed⟩ := h.removing_readers session hmem
  obtain ⟨hlast, hwriters⟩ := removeReaderSession_spec s.session_id s.manager session
  refine ⟨h.readers.shrink removeReaderSession_sub fun {a x} hx => ?_, ?_, ?_, h.unnumbered,
    fun x hx => h.removing_readers x (List.mem_of_mem_erase hx), h.removing_writers, h.refuses,
    h.halts⟩
  · -- An entry with the number of the session is the session, which is closed.
    by_cases hid : s.session_id x = s.session_id session
    · rw [h.eq_of_session_id (.inl (h.readers.entry hx).2) (.inl hreg) hid]
      exact .inl (.inl hclosed)
    · exact .inr (removeReaderSession_keeps hx fun _ => hid)
  · rw [hwriters]
    exact h.writers
  · rw [hlast]
    exact h.numbered

/-- A session that closed itself is taken out, or has been replaced before. -/
theorem removeWriterSession (h : Tracks s) {session : Writer}
    (hmem : session ∈ s.removing_writers) :
    Tracks { s with
      manager := s.manager.removeWriterSession s.session_id session
      removing_writers := s.removing_writers.erase session } := by
  obtain ⟨hreg, hclosed⟩ := h.removing_writers session hmem
  obtain ⟨hlast, hreaders, hsub⟩ := removeWriterSession_spec s.session_id s.manager session
  refine ⟨?_, h.writers.shrink hsub fun {a x} hx => ?_, ?_, h.unnumbered, h.removing_readers,
    fun x hx => h.removing_writers x (List.mem_of_mem_erase hx), h.refuses, h.halts⟩
  · rw [hreaders]
    exact h.readers
  · -- An entry with the number of the session is the session, which is closed.
    by_cases hid : s.session_id x = s.session_id session
    · rw [h.eq_of_session_id (.inr (h.writers.entry hx).2) (.inr hreg) hid]
      exact .inl (.inl hclosed)
    · exact .inr (removeWriterSession_keeps hx fun _ => hid)
  · rw [hlast]
    exact h.numbered

/-- Every step keeps track of the sessions. -/
theorem step (h : Tracks s) {e : Event} (hs : step s e = some s') : Tracks s' := by
  cases Step.of_step hs with
  | start hp | joinWorker hp | stopWebsocketServer hp =>
    exact h.progress (by rw [hp]; rfl) (by simp [Progress.refuses]) (by simp [Progress.halts])
  | setStopped hp => exact h.progress (by rw [hp]; rfl) (fun _ => rfl) (by simp [Progress.halts])
  | cancelAcceptor hp hidle =>
    exact h.progress (by rw [hp]; rfl) (fun _ => h.refuses (by rw [hp]; rfl)) fun _ => hidle
  | stopContext hp =>
    exact h.progress (by rw [hp]; rfl) (fun _ => h.refuses (by rw [hp]; rfl))
      fun _ => h.halts (by rw [hp]; rfl)
  | clear hp => exact h.clear hp
  | tryClose hp => exact h.tryClose hp
  | accept hidle => exact h.accept hidle _ _
  | register hhandler => exact h.register hhandler
  | @connectReader _ session is_first_reader _ hhandler =>
    obtain ⟨hlast, hreaders, hwriters, -⟩ :=
      addReaderConnect_spec s.manager session.addr is_first_reader
    have hconnect := h.connect ⟨hreaders, hwriters, hlast⟩ session (by rw [hhandler]; rfl)
    rwa [hhandler] at hconnect
  | @connectWriter read session writer_to_remove replace_connection hhandler =>
    obtain ⟨hlast, hreaders, hwriters, -⟩ := addWriterConnect_spec s.manager session
      writer_to_remove (if replace_connection then some read else none)
    have hconnect := h.connect ⟨hreaders, hwriters, hlast⟩ session (by rw [hhandler]; rfl)
    rwa [hhandler] at hconnect
  | finish hhandler => exact h.finish hhandler
  | closeReader hmem => exact h.closeReader hmem
  | closeWriter hmem => exact h.closeWriter hmem
  | removeReaderSession hmem => exact h.removeReaderSession hmem
  | removeWriterSession hmem => exact h.removeWriterSession hmem
  -- The calls that move writers about leave the sessions alone.
  | rotateWriterConnection w => exact h.sameSessions (sameSessions_rotateWriterConnection _ w)
  | resetWriterConnection w => exact h.sameSessions (sameSessions_resetWriterConnection _ w)
  | rotateAllConnections => exact h.sameSessions (sameSessions_rotateAllConnections _)
  | pointReaderAtWriters r => exact h.sameSessions (sameSessions_pointReaderAtWriters _ r)

end Tracks

/-! ## Clearing stays -/

/-- The handler goes on to register its session. -/
def Handler.registers : Handler → Bool
  | accepted _ .UNKNOWN_CONNECTION => false
  | accepted _ _ => true
  | _ => false

/-- The handler goes on to make the list of a reader. -/
def Handler.makesList : Handler → Bool
  | registeredReader _ _ _ => true
  | _ => false

/-- After `Clear` the manager registers no session, and makes no list for a reader that it took
out. -/
def RegistersBeforeClear (s : State) : Event → Prop
  | .register => s.handler.registers → s.progress = .running
  | .connect _ => s.handler.makesList → s.progress = .running
  | _ => True

instance decidableRegistersBeforeClear (s : State) : ∀ e, Decidable (RegistersBeforeClear s e)
  | .register => inferInstanceAs (Decidable (_ → _))
  | .connect _ => inferInstanceAs (Decidable (_ → _))
  | .start | .clear | .tryClose | .joinWorker | .stopWebsocketServer | .setStopped
  | .cancelAcceptor | .stopContext | .accept _ _ | .finish | .closeReader _ | .closeWriter _
  | .removeReaderSession _ | .removeWriterSession _ | .rotateWriterConnection _
  | .resetWriterConnection _ | .rotateAllConnections | .pointReaderAtWriters _ => isTrue trivial

/-- From `Clear` to the next `Start` the maps are empty. -/
def StaysCleared (s : State) : Prop := s.progress ≠ .running → s.manager.Cleared

/-- After `Clear`, the maps stay empty as long as nobody registers. -/
theorem StaysCleared.step {s s' : State} (h : StaysCleared s) {e : Event}
    (hp : RegistersBeforeClear s e) (hs : step s e = some s') : StaysCleared s' := by
  cases Step.of_step hs with
  | start => exact fun hne => absurd rfl hne
  | clear => exact fun _ => ConnectionManager.Cleared.clear s.manager
  | tryClose hprogress | joinWorker hprogress | stopWebsocketServer hprogress
  | setStopped hprogress | cancelAcceptor hprogress | stopContext hprogress =>
    exact fun _ => h (by simp [hprogress])
  | accept | closeReader | closeWriter => exact h
  -- Only a connection of unknown type comes this far after `Clear`.
  | @register _ connection_type hhandler =>
    simp only [RegistersBeforeClear, hhandler] at hp
    cases connection_type with
    | UNKNOWN_CONNECTION => exact h
    | _ => exact fun hne => absurd (hp rfl) hne
  | connectReader hhandler => exact fun hne => absurd (hp (by rw [hhandler]; rfl)) hne
  -- A late headset finds no list to join.
  | connectWriter => exact fun hne => (h hne).addWriterConnect _ _ _
  | finish => exact fun hne => (h hne).nextSessionNumber
  | removeReaderSession => exact fun hne => (h hne).removeReaderSession _ _
  | removeWriterSession => exact fun hne => (h hne).removeWriterSession _ _
  | rotateWriterConnection w => exact fun hne => (h hne).rotateWriterConnection w
  | resetWriterConnection w => exact fun hne => (h hne).resetWriterConnection w
  | rotateAllConnections => exact fun hne => (h hne).rotateAllConnections
  | pointReaderAtWriters r => exact fun hne => (h hne).pointReaderAtWriters r

/-- When `Stop` has returned, the maps are empty and every session that was ever registered is
closed. -/
def LeavesNothing (s : State) : Prop :=
  s.progress = .stopped →
    s.manager.Cleared ∧ ∀ x, x ∈ s.readers ∨ x ∈ s.writers → x ∈ s.closed

/-- When the maps are empty and nobody is to be closed any more, all have been. -/
theorem Tracks.leavesNothing {s : State} (h : Tracks s) (hcleared : StaysCleared s) :
    LeavesNothing s := by
  intro hp
  have hm := hcleared (by simp [hp])
  -- Nobody is left to close a session.
  have hdue : ∀ x, s.Due x → x ∈ s.closed := by
    rintro x (hx | hx | hx)
    · exact hx
    · simp [hp, Progress.toClose] at hx
    · rw [h.halts (by rw [hp]; rfl)] at hx
      cases hx
  refine ⟨hm, fun x hx => ?_⟩
  obtain hx | hx := hx
  · obtain hd | hd := h.readers.tracked x hx
    · exact hdue x hd
    · simp [hm.reader_sessions] at hd
  · obtain hd | hd := h.writers.tracked x hx
    · exact hdue x hd
    · simp [hm.writer_sessions] at hd

/-- `Stop` leaves nothing behind in a run in which no `Add` registers a session after `Clear`, and
no `AddReaderSession` makes its list after it. -/
theorem leavesNothing_of_along {s : State} {es : List Event}
    (halong : Along step RegistersBeforeClear initial es) (hrun : run step initial es = some s) :
    LeavesNothing s := by
  -- Both invariants hold along the run, the second because of the condition.
  have hinv : Tracks s ∧ StaysCleared s :=
    halong.run_invariant (fun s => Tracks s ∧ StaysCleared s)
      (fun _ _ _ h hp hs => ⟨h.1.step hs, h.2.step hp hs⟩) hrun
      ⟨Tracks.initial, fun _ => ⟨rfl, rfl, rfl, rfl⟩⟩
  exact hinv.1.leavesNothing hinv.2

/-- A camera and a headset connect, the headset closes itself, and a second camera comes when the
acceptor refuses it. -/
def stopRun (camera headset late : Session) : List Event :=
  [.start, .accept camera .CAMERA_CONNECTION, .register, .connect camera.addr, .finish,
    .accept headset .HEADSET_CONNECTION, .register, .connect camera.addr, .finish,
    .closeWriter headset, .clear, .tryClose, .removeWriterSession headset, .tryClose, .joinWorker,
    .stopWebsocketServer, .setStopped, .accept late .CAMERA_CONNECTION, .cancelAcceptor,
    .stopContext]

theorem leavesNothing_of_stopRun :
    ∃ s, run step initial (stopRun ⟨1, 200⟩ ⟨2, 100⟩ ⟨3, 201⟩) = some s ∧ s.progress = .stopped ∧
      s.readers = [⟨1, 200⟩] ∧ s.writers = [⟨2, 100⟩] ∧ LeavesNothing s := by
  obtain ⟨s, hs, hp, hr, hw⟩ :
      ∃ s, run step initial (stopRun ⟨1, 200⟩ ⟨2, 100⟩ ⟨3, 201⟩) = some s ∧
        s.progress = .stopped ∧ s.readers = [⟨1, 200⟩] ∧ s.writers = [⟨2, 100⟩] :=
    ⟨_, rfl, rfl, rfl, rfl⟩
  exact ⟨s, hs, hp, hr, hw, leavesNothing_of_along (by decide +kernel) hs⟩

/-- A camera that connects between `Clear` and `TcpServer::Stop`. -/
def lateRun (camera : Session) : List Event :=
  [.start, .clear, .accept camera .CAMERA_CONNECTION, .register, .connect camera.addr, .finish,
    .joinWorker, .stopWebsocketServer, .setStopped, .cancelAcceptor, .stopContext]

theorem late_session_left :
    ∃ s, run step initial (lateRun ⟨1, 200⟩) = some s ∧ s.progress = .stopped ∧
      s.manager.reader_sessions.find? 200 = some ⟨1, 200⟩ ∧ ⟨1, 200⟩ ∉ s.closed ∧
      ¬ LeavesNothing s := by
  obtain ⟨s, hs, hp, hfind, hreg, hclosed⟩ :
      ∃ s, run step initial (lateRun ⟨1, 200⟩) = some s ∧ s.progress = .stopped ∧
        s.manager.reader_sessions.find? 200 = some ⟨1, 200⟩ ∧ s.readers = [⟨1, 200⟩] ∧
        s.closed = [] := ⟨_, rfl, rfl, rfl, rfl, rfl⟩
  have hnot : ⟨1, 200⟩ ∉ s.closed := by simp [hclosed]
  exact ⟨s, hs, hp, hfind, hnot, fun h => hnot ((h hp).2 ⟨1, 200⟩ (.inl (by simp [hreg])))⟩

end Shutdown

end AugmentedNormalcy.Server
