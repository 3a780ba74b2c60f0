import AugmentedNormalcy.Server.Shutdown

/-!
# The maps of a running server

The connection maps in the runs of `ServerStreamer`, in which any step of the server may come
between the two locked regions of an `Add`. The phase of the manager is that of the accept handler
(`Handler.phase`). `Clear` may come between the regions as well; the maps are empty then, until the
handler goes on.

The second region restores the maps when it finds what the first one has left: the reader registered
and its list empty, the entry that the pointer points at still there. And nobody may remove the
writer that is being added (`Undisturbed`). As long as this is so, the lists hold what the map of
the writers says, at any place of the handler (`Maps.listed`). -/

namespace AugmentedNormalcy.Server

open ConnectionManager StepSystem

/-- Empty maps are consistent. -/
theorem ConnectionManager.Cleared.invariant {m : ConnectionManager} (h : m.Cleared) :
    Invariant .idle m := by
  refine ⟨?_, ⟨fun hr => ?_, fun hw => ?_⟩, fun r hr => ?_, trivial⟩
  · rw [Invariant.attached_of_empty _ h.reader_sessions]
    exact Linked.of_empty h.reader_connections h.writer_connections
  · simp [h.reader_sessions] at hr
  · simp [h.writer_sessions] at hw
  · simp [h.reader_sessions] at hr

namespace Shutdown

/-! ## The phases of the accept handler -/

/-- The phase of the manager while the handler is at this place. -/
def Handler.phase : Handler → Phase
  | idle | accepted _ _ | connected _ _ => .idle
  | registeredReader session is_first_reader _ => .addingReader session is_first_reader
  | registeredWriter session writer_to_remove replace_connection =>
    .addingWriter session (if replace_connection then writer_to_remove else none)

/-- The writer between its two regions. -/
def Handler.addingWriter? : Handler → Option Writer
  | registeredWriter session _ _ => some session
  | _ => none

/-- What the first region has left for the second one is still there, and `read` is what the pointer
to an entry reads. -/
def Handler.Intact (m : ConnectionManager) (read : TcpAddr) : Handler → Prop
  | registeredReader session is_first_reader _ =>
    m.reader_sessions.find? session.addr = some session ∧
      (is_first_reader = false → (m.reader_connections.find? session.addr).getD [] = [])
  | registeredWriter session _ replace_connection =>
    replace_connection = true → m.writer_connections.find? session.addr = some read
  | _ => True

instance (m : ConnectionManager) (read : TcpAddr) : DecidablePred (Handler.Intact m read)
  | .registeredReader _ _ _ => inferInstanceAs (Decidable (_ ∧ (_ → _)))
  | .registeredWriter _ _ _ => inferInstanceAs (Decidable (_ → _))
  | .idle | .accepted _ _ | .connected _ _ => isTrue trivial

/-- The second region finds what the first one has left, and the writer that is being added is not
removed while there are readers. -/
def Undisturbed (s : State) : Event → Prop
  | .connect read => s.handler.Intact s.manager read
  | .removeWriterSession session =>
    s.handler.addingWriter? = some session → s.manager.reader_sessions = .empty
  | _ => True

instance (s : State) : DecidablePred (Undisturbed s)
  | .connect read => inferInstanceAs (Decidable (s.handler.Intact s.manager read))
  | .removeWriterSession _ => inferInstanceAs (Decidable (_ → _))
  | .start | .clear | .tryClose | .joinWorker | .stopWebsocketServer | .setStopped
  | .cancelAcceptor | .stopContext | .accept _ _ | .register | .finish | .closeReader _
  | .closeWriter _ | .removeReaderSession _ | .rotateWriterConnection _
  | .resetWriterConnection _ | .rotateAllConnections | .pointReaderAtWriters _ => isTrue trivial

/-! ## What holds at every place -/

/-- The maps are those of the handler's phase, or `Clear` has emptied them between the regions. -/
def State.Phased (s : State) : Prop :=
  Invariant s.handler.phase s.manager ∨ s.handler.phase ≠ .idle ∧ s.manager.Cleared

/-- What holds in every run whose steps are undisturbed. -/
structure Maps (s : State) : Prop where
  tracks : Tracks s
  phased : s.Phased
  /-- A pointer is taken to the entry of a session that is replaced, which was registered. -/
  replaced : ∀ {session old replace_connection},
    s.handler = .registeredWriter session old replace_connection →
      (replace_connection = true → old.isSome) ∧ ∀ x, old = some x → x ∈ s.writers
  /-- The reader that is being added does not run yet. -/
  removing : ∀ x ∈ s.removing_readers, s.handler.session? ≠ some x
  /-- A connection that was just accepted has no session yet. -/
  fresh : ∀ {session connection_type}, s.handler = .accepted session connection_type →
    session ∉ s.readers ∧ session ∉ s.writers

namespace Maps

variable {s s' : State}

theorem initial : Maps initial where
  tracks := .initial
  phased := .inl Invariant.initial
  replaced h := by cases h
  removing x hx := by cases hx
  fresh h := by cases h

/-- Between two `Add`s the maps are consistent. -/
theorem invariant (h : Maps s) (hidle : s.handler.phase = .idle) : Invariant .idle s.manager := by
  obtain hphased | ⟨hne, -⟩ := h.phased
  · rwa [hidle] at hphased
  · exact absurd hidle hne

/-- A step that leaves the manager and the handler alone. -/
theorem of_eq (h : Maps s) (htracks : Tracks s') (hmanager : s'.manager = s.manager)
    (hhandler : s'.handler = s.handler) (hreaders : s'.readers = s.readers)
    (hwriters : s'.writers = s.writers)
    (hremoving : ∀ x ∈ s'.removing_readers, x ∈ s.removing_readers ∨ s.handler.session? ≠ some x) :
    Maps s' where
  tracks := htracks
  phased := by
    unfold State.Phased
    rw [hmanager, hhandler]
    exact h.phased
  replaced heq := by
    rw [hhandler] at heq
    rw [hwriters]
    exact h.replaced heq
  removing x hx := by
    rw [hhandler]
    exact (hremoving x hx).elim (h.removing x) id
  fresh heq := by
    rw [hhandler] at heq
    rw [hreaders, hwriters]
    exact h.fresh heq

/-- An operation of one region, which takes the maps of any phase to maps of this phase. -/
theorem withManager (h : Maps s) {m : ConnectionManager} (htracks : Tracks { s with manager := m })
    (hinvariant : Invariant s.handler.phase s.manager → Invariant s.handler.phase m)
    (hcleared : s.manager.Cleared → m.Cleared) : Maps { s with manager := m } where
  tracks := htracks
  phased := h.phased.imp hinvariant (And.imp_right hcleared)
  replaced := h.replaced
  removing := h.removing
  fresh := h.fresh

/-- An operation that moves writers. -/
theorem moved (h : Maps s) {m : ConnectionManager} (htracks : Tracks { s with manager := m })
    (hmoved : Invariant s.handler.phase s.manager →
      Moved (s.handler.phase.attached s.manager) s.manager m)
    (hcleared : s.manager.Cleared → m.Cleared) : Maps { s with manager := m } :=
  h.withManager htracks (fun hinv => hinv.moved (hmoved hinv)) hcleared

theorem clear (h : Maps s) (hp : s.progress = .running) :
    Maps { s with manager := s.manager.clear.1, progress := .clearing s.manager.clear.2 } where
  tracks := h.tracks.clear hp
  phased := by
    by_cases hidle : s.handler.phase = .idle
    · refine .inl ?_
      dsimp only
      rw [hidle]
      exact Invariant.clear s.manager
    · exact .inr ⟨hidle, .clear s.manager⟩
  replaced := h.replaced
  removing := h.removing
  fresh := h.fresh

theorem accept (h : Maps s) (hidle : s.handler = .idle) {session : Session}
    (connection_type : ConnectionType) (hreaders : session ∉ s.readers)
    (hwriters : session ∉ s.writers) :
    Maps { s with
      handler := if s.is_stopped then .idle else .accepted session connection_type } := by
  have hinvariant := h.invariant (by rw [hidle]; rfl)
  refine ⟨h.tracks.accept hidle session connection_type, .inl ?_, ?_, ?_, ?_⟩
  · dsimp only
    split_ifs
    · exact hinvariant
    · exact hinvariant
  · intro x old replace heq
    dsimp only at heq
    split_ifs at heq
  · intro x hx
    dsimp only
    split_ifs
    · exact fun heq => by cases heq
    · exact fun heq => by cases heq
  · intro x t heq
    dsimp only at heq
    split_ifs at heq
    cases heq
    exact ⟨hreaders, hwriters⟩

/-- The type of the connection that was accepted may be told later. -/
theorem assign (h : Maps s) {session : Session} {connection_type : ConnectionType}
    (hhandler : s.handler = .accepted session connection_type) (connection_type' : ConnectionType) :
    Maps { s with handler := .accepted session connection_type' } := by
  have hdue : ∀ x, s.Due x →
      State.Due { s with handler := .accepted session connection_type' } x := by
    rintro x (hx | hx | hx)
    · exact .inl hx
    · exact .inr (.inl hx)
    · rw [hhandler] at hx
      cases hx
  have htracks : Tracks { s with handler := .accepted session connection_type' } := by
    refine ⟨h.tracks.readers.mono hdue, h.tracks.writers.mono hdue, h.tracks.numbered,
      fun x hx hzero => ?_, h.tracks.removing_readers, h.tracks.removing_writers, h.tracks.refuses,
      fun hp => ?_⟩
    · have hsession := h.tracks.unnumbered x hx hzero
      rw [hhandler] at hsession
      cases hsession
    · have hidle := h.tracks.halts hp
      rw [hhandler] at hidle
      cases hidle
  refine ⟨htracks, .inl (h.invariant (by rw [hhandler]; rfl)), ?_, ?_, ?_⟩
  · intro x old replace heq
    cases heq
  · intro x _ heq
    cases heq
  · intro x t heq
    cases heq
    exact h.fresh hhandler

theorem register (h : Maps s) {session : Session} {connection_type : ConnectionType}
    (hhandler : s.handler = .accepted session connection_type) :
    Maps (s.register session connection_type) := by
  have hinvariant := h.invariant (by rw [hhandler]; rfl)
  have htracks := h.tracks.register hhandler
  -- Nobody removes a session that was not registered.
  have hremoving : ∀ x ∈ s.removing_readers, some session ≠ some x := by
    intro x hx heq
    cases heq
    exact (h.fresh hhandler).1 (h.tracks.removing_readers session hx).1
  -- A headset or a display; the one that it replaces is registered.
  have hwriter : Tracks (s.register session .HEADSET_CONNECTION) →
      Maps (s.register session .HEADSET_CONNECTION) := by
    intro htracks
    refine ⟨htracks, .inl (hinvariant.addWriterRegister session), ?_, hremoving, ?_⟩
    · intro x old replace heq
      cases heq
      refine ⟨fun hreplace => (Invariant.addWriterRegister_replace hreplace).1, fun x hx => ?_⟩
      exact List.mem_cons_of_mem _ (h.tracks.writers.entry hx).2
    · intro x t heq
      cases heq
  cases connection_type with
  | CAMERA_CONNECTION =>
    refine ⟨htracks, .inl (hinvariant.addReaderRegister session), ?_, hremoving, ?_⟩
    · intro x old replace heq
      cases heq
    · intro x t heq
      cases heq
  | HEADSET_CONNECTION => exact hwriter htracks
  | DISPLAY_CONNECTION => exact hwriter htracks
  | UNKNOWN_CONNECTION =>
    refine ⟨htracks, .inl hinvariant, ?_, ?_, ?_⟩
    · intro x old replace heq
      cases heq
    · intro x _ heq
      cases heq
    · intro x t heq
      cases heq

/-- The second region, which restores the maps. -/
theorem connect (h : Maps s) {m : ConnectionManager} {session : Session}
    (hsession : s.handler.session? = some session)
    (htracks : Tracks { s with
      manager := m, handler := .connected session s.handler.replaced? })
    (hinvariant : Invariant .idle m) :
    Maps { s with manager := m, handler := .connected session s.handler.replaced? } where
  tracks := htracks
  phased := .inl hinvariant
  replaced heq := by cases heq
  removing x hx := by
    have hne := h.removing x hx
    rwa [hsession] at hne
  fresh heq := by cases heq

theorem connectReader (h : Maps s) {session : Reader} {is_first_reader : Bool}
    {reader_to_remove : Option Reader}
    (hhandler : s.handler = .registeredReader session is_first_reader reader_to_remove)
    (hregistered : s.manager.reader_sessions.find? session.addr = some session)
    (hlist : is_first_reader = false →
      (s.manager.reader_connections.find? session.addr).getD [] = []) :
    Invariant .idle (s.manager.addReaderConnect session.addr is_first_reader) := by
  obtain hphased | ⟨-, hcleared⟩ := h.phased
  · rw [hhandler] at hphased
    exact Invariant.addReaderConnect hphased hlist
  · rw [hcleared.reader_sessions] at hregistered
    cases hregistered

theorem connectWriter (h : Maps s) {session : Writer} {writer_to_remove : Option Writer}
    {replace_connection : Bool} {read : TcpAddr}
    (hhandler : s.handler = .registeredWriter session writer_to_remove replace_connection)
    (hentry : replace_connection = true →
      s.manager.writer_connections.find? session.addr = some read) :
    Invariant .idle (s.manager.addWriterConnect session writer_to_remove
      (if replace_connection then some read else none)) := by
  obtain hphased | ⟨-, hcleared⟩ := h.phased
  · rw [hhandler] at hphased
    -- The pointer reads the entry that is there.
    have hread : (if replace_connection then some read else none) =
        if replace_connection then s.manager.writer_connections.find? session.addr else none := by
      split_ifs with hreplace
      · exact (hentry hreplace).symm
      · rfl
    rw [hread]
    refine Invariant.addWriterConnect hphased fun hreplace => ⟨(h.replaced hhandler).1 hreplace, ?_⟩
    rw [hentry hreplace]
    rfl
  · exact (hcleared.addWriterConnect _ _ _).invariant

theorem finish (h : Maps s) {session : Session} {to_remove : Option Session}
    (hhandler : s.handler = .connected session to_remove) :
    Maps { s with
      manager := s.manager.nextSessionNumber.1
      session_id := Function.update s.session_id session s.manager.nextSessionNumber.2
      handler := .idle
      closed := to_remove.toList ++ s.closed } where
  tracks := h.tracks.finish hhandler
  phased := .inl (h.invariant (by rw [hhandler]; rfl)).of_nextSessionNumber
  replaced heq := by cases heq
  removing x _ heq := by cases heq
  fresh heq := by cases heq

theorem removeReaderSession (h : Maps s) {session : Reader}
    (hmem : session ∈ s.removing_readers) :
    Maps { s with
      manager := s.manager.removeReaderSession s.session_id session
      removing_readers := s.removing_readers.erase session } := by
  refine ⟨h.tracks.removeReaderSession hmem, ?_, h.replaced, fun x hx => ?_, h.fresh⟩
  · refine h.phased.imp (fun hinvariant => ?_) (And.imp_right (·.removeReaderSession _ _))
    refine hinvariant.removeReaderSession fun x b hphase hid => ?_
    -- With the number of the reader that is being added it would be this reader.
    cases hhandler : s.handler with
    | registeredReader y b' to_remove =>
      rw [hhandler] at hphase
      cases hphase
      have hregistered := hinvariant.registered
      rw [hhandler] at hregistered
      have heq := h.tracks.eq_of_session_id (.inl (h.tracks.readers.entry hregistered.1).2)
        (.inl (h.tracks.removing_readers session hmem).1) hid
      refine h.removing session hmem ?_
      rw [hhandler, ← heq]
      rfl
    | _ =>
      rw [hhandler] at hphase
      cases hphase
  · exact h.removing x (List.mem_of_mem_erase hx)

theorem removeWriterSession (h : Maps s) {session : Writer}
    (hmem : session ∈ s.removing_writers)
    (hundisturbed : s.handler.addingWriter? = some session → s.manager.reader_sessions = .empty) :
    Maps { s with
      manager := s.manager.removeWriterSession s.session_id session
      removing_writers := s.removing_writers.erase session } := by
  refine ⟨h.tracks.removeWriterSession hmem, ?_, h.replaced, h.removing, h.fresh⟩
  refine h.phased.imp (fun hinvariant => ?_) (And.imp_right (·.removeWriterSession _ _))
  refine hinvariant.removeWriterSession (fun dead hdead hid => ?_) fun o hphase => ?_
  · exact h.tracks.eq_of_session_id (.inr (h.tracks.writers.entry hdead).2)
      (.inr (h.tracks.removing_writers session hmem).1) hid
  · apply hundisturbed
    cases hhandler : s.handler with
    | registeredWriter =>
      rw [hhandler] at hphase
      cases hphase
      rfl
    | _ =>
      rw [hhandler] at hphase
      cases hphase

theorem step (h : Maps s) {ev : Event} (hundisturbed : Undisturbed s ev)
    (hs : Shutdown.step s ev = some s') : Maps s' := by
  have htracks := h.tracks.step hs
  cases Step.of_step hs with
  | start | tryClose | joinWorker | stopWebsocketServer | setStopped | cancelAcceptor | stopContext
  | closeWriter =>
    exact h.of_eq htracks rfl rfl rfl rfl fun _ hx => .inl hx
  | clear hp => exact h.clear hp
  | accept hidle hreaders hwriters => exact h.accept hidle _ hreaders hwriters
  | register hhandler => exact h.register hhandler
  | @connectReader _ session is_first_reader _ hhandler =>
    simp only [Undisturbed, hhandler, Handler.Intact] at hundisturbed
    have hsession : s.handler.session? = some session := by rw [hhandler]; rfl
    have hinvariant := h.connectReader hhandler hundisturbed.1 hundisturbed.2
    have hconnect := h.connect hsession (by rwa [hhandler]) hinvariant
    rwa [hhandler] at hconnect
  | @connectWriter read session writer_to_remove replace_connection hhandler =>
    simp only [Undisturbed, hhandler, Handler.Intact] at hundisturbed
    have hsession : s.handler.session? = some session := by rw [hhandler]; rfl
    have hconnect := h.connect hsession (by rwa [hhandler]) (h.connectWriter hhandler hundisturbed)
    rwa [hhandler] at hconnect
  | finish hhandler => exact h.finish hhandler
  | closeReader hmem hrun =>
    refine h.of_eq htracks rfl rfl rfl rfl fun x hx => ?_
    obtain rfl | hx := List.mem_cons.mp hx
    · exact .inr hrun
    · exact .inl hx
  | removeReaderSession hmem => exact h.removeReaderSession hmem
  | removeWriterSession hmem => exact h.removeWriterSession hmem hundisturbed
  | rotateWriterConnection w =>
    exact h.moved htracks (·.linked.moved_rotateWriterConnection w) (·.rotateWriterConnection w)
  | resetWriterConnection w =>
    exact h.moved htracks (·.linked.moved_resetWriterConnection w) (·.resetWriterConnection w)
  | rotateAllConnections =>
    exact h.moved htracks (·.linked.moved_rotateAllConnections) (·.rotateAllConnections)
  | pointReaderAtWriters r =>
    exact h.moved htracks (·.linked.moved_pointReaderAtWriters r) (·.pointReaderAtWriters r)

end Maps

theorem sessions_of_step {s s' : State} {ev : Event} (hs : step s ev = some s')
    (hregister : ev ≠ .register) : s'.readers = s.readers ∧ s'.writers = s.writers := by
  cases Step.of_step hs with
  | register => exact absurd rfl hregister
  | _ => exact ⟨rfl, rfl⟩

/-- Only the first region of an `Add` registers a session. -/
theorem registered_of_step {s s' : State} {ev : Event} (hs : step s ev = some s')
    (hregister : ev ≠ .register) :
    (∀ {a x}, s'.manager.reader_sessions.find? a = some x →
      s.manager.reader_sessions.find? a = some x) ∧
    ∀ {a x}, s'.manager.writer_sessions.find? a = some x →
      s.manager.writer_sessions.find? a = some x := by
  have hsame : ∀ {m : ConnectionManager}, SameSessions s.manager m →
      (∀ {a x}, m.reader_sessions.find? a = some x →
        s.manager.reader_sessions.find? a = some x) ∧
      ∀ {a x}, m.writer_sessions.find? a = some x →
        s.manager.writer_sessions.find? a = some x := by
    intro m hm
    rw [hm.readers, hm.writers]
    exact ⟨id, id⟩
  cases Step.of_step hs with
  | clear =>
    refine ⟨fun hx => ?_, fun hx => ?_⟩
    · simp [ConnectionManager.clear] at hx
    · simp [ConnectionManager.clear] at hx
  | register => exact absurd rfl hregister
  | @connectReader _ session is_first_reader _ _ =>
    obtain ⟨hlast, hreaders, hwriters, -⟩ :=
      addReaderConnect_spec s.manager session.addr is_first_reader
    exact hsame ⟨hreaders, hwriters, hlast⟩
  | @connectWriter read session writer_to_remove replace_connection _ =>
    obtain ⟨hlast, hreaders, hwriters, -⟩ := addWriterConnect_spec s.manager session
      writer_to_remove (if replace_connection then some read else none)
    exact hsame ⟨hreaders, hwriters, hlast⟩
  | @removeReaderSession session _ =>
    obtain ⟨-, hwriters⟩ := removeReaderSession_spec s.session_id s.manager session
    refine ⟨removeReaderSession_sub, fun hx => ?_⟩
    rwa [hwriters] at hx
  | @removeWriterSession session _ =>
    obtain ⟨-, hreaders, hsub⟩ := removeWriterSession_spec s.session_id s.manager session
    refine ⟨fun hx => ?_, hsub⟩
    rwa [hreaders] at hx
  | rotateWriterConnection w => exact hsame (sameSessions_rotateWriterConnection _ w)
  | resetWriterConnection w => exact hsame (sameSessions_resetWriterConnection _ w)
  | rotateAllConnections => exact hsame (sameSessions_rotateAllConnections _)
  | pointReaderAtWriters r => exact hsame (sameSessions_pointReaderAtWriters _ r)
  | _ => exact ⟨id, id⟩

/-! ## The lists -/

/-- The current session of a writer: the registered one, or the one that it is about to replace. -/
def Current (s : State) (w : Writer) : Prop :=
  s.manager.writer_sessions.find? w.addr = some w ∨
    ∃ session replace_connection,
      s.handler = .registeredWriter session (some w) replace_connection ∧
      session.addr = w.addr

namespace Maps

variable {s s' : State}

/-- A list holds current sessions that are mapped to its reader, each once, and they were all
registered. -/
theorem listed (h : Maps s) (a : TcpAddr) :
    (s.manager.postMessage a).Nodup ∧ ∀ w ∈ s.manager.postMessage a,
      Current s w ∧ s.manager.writer_connections.find? w.addr = some a ∧ w ∈ s.writers := by
  unfold postMessage
  cases hlist : s.manager.reader_connections.find? a with
  | none => exact ⟨List.nodup_nil, fun w hw => by cases hw⟩
  | some l =>
    obtain hinvariant | ⟨-, hcleared⟩ := h.phased
    · refine ⟨hinvariant.linked.nodup hlist, fun w hw => ?_⟩
      obtain ⟨hattached, hmapped⟩ := (hinvariant.linked.mem_iff hlist w).mp hw
      have hcurrent : Current s w ∧ w ∈ s.writers := by
        have hregistered : s.manager.writer_sessions.find? w.addr = some w →
            Current s w ∧ w ∈ s.writers := fun hw => ⟨.inl hw, (h.tracks.writers.entry hw).2⟩
        unfold Phase.attached at hattached
        split_ifs at hattached
        cases hhandler : s.handler with
        | idle | accepted | connected =>
          rw [hhandler] at hattached
          exact hregistered hattached
        | registeredReader session is_first_reader =>
          rw [hhandler] at hattached
          cases is_first_reader with
          | true => cases hattached
          | false => exact hregistered hattached
        | registeredWriter session old replace_connection =>
          rw [hhandler] at hattached
          dsimp only [Handler.phase] at hattached
          by_cases haddr : w.addr = session.addr
          · -- The session that is replaced stays in its list until the second region.
            rw [haddr, Function.update_self] at hattached
            split_ifs at hattached
            subst hattached
            exact ⟨.inr ⟨session, _, hhandler, haddr.symm⟩, (h.replaced hhandler).2 w rfl⟩
          · rw [Function.update_of_ne haddr] at hattached
            exact hregistered hattached
      exact ⟨hcurrent.1, hmapped, hcurrent.2⟩
    · rw [hcleared.reader_connections] at hlist
      cases hlist

end Maps

end Shutdown

end AugmentedNormalcy.Server
