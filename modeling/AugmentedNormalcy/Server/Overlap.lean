import AugmentedNormalcy.Server.Sequential

/-!
# Overlapping calls

The manager with each locked region as one step. One `Add` at a time is between its two regions, and
any other operation can come in between. `AddWriterSession` keeps a pointer into
`_writer_connections` across the gap: `erased` records that the entry was erased since, and reading
it then is a `fault`.

Whenever no `Add` is in progress every registered writer is in exactly one list, as long as three
things do not happen between the regions of an `Add` (`served_of_undisturbed`): a removal hands
writers over to the reader that is being added, whose list the second region then wipes out; a
removal erases the entry that the pointer points at; the writer that is being added is removed.
-/

namespace AugmentedNormalcy.Server.Overlap

open StepSystem

/-- What an `Add` carries from its first locked region to its second. -/
inductive Pending where
  | reader (session : Reader) (is_first_reader : Bool)
  | writer (session : Writer) (writer_to_remove : Option Writer) (replace_connection : Bool)
      (erased : Bool)
deriving DecidableEq

/-- The phase of the manager while the `Add` is in progress. -/
def Pending.phase : Pending → Phase
  | reader session is_first_reader => .addingReader session is_first_reader
  | writer session writer_to_remove replace_connection _ =>
    .addingWriter session (if replace_connection then writer_to_remove else none)

/-- The session that is being added. -/
def Pending.session : Pending → Session
  | reader session _ => session
  | writer session _ _ _ => session

/-- An entry that is missing from `_writer_connections` has been erased. -/
def Pending.observe (m : ConnectionManager) : Pending → Pending
  | reader session is_first_reader => reader session is_first_reader
  | writer session writer_to_remove replace_connection erased =>
    writer session writer_to_remove replace_connection
      (erased || !m.writer_connections.contains session.addr)

/-- The manager, the numbers of the sessions, and the `Add` that is between its two regions. -/
structure State where
  manager : ConnectionManager
  session_id : Session → ℕ
  pending : Option Pending
  /-- A pointer to an erased entry was followed. -/
  fault : Bool

/-- One locked region. The two regions of an `Add` are two events. -/
inductive Event where
  | addReaderRegister (session : Reader)
  | addReaderConnect
  | addWriterRegister (session : Writer)
  | addWriterConnect
  | removeReaderSession (session : Reader)
  | removeWriterSession (session : Writer)
  | rotateWriterConnection (writer_addr : TcpAddr)
  | resetWriterConnection (writer_addr : TcpAddr)
  | rotateAllConnections
  | pointReaderAtWriters (addr : TcpAddr)
  | postMessage (addr : TcpAddr)

/-- No session has come yet. -/
def initial : State := ⟨.initial, fun _ => 0, none, false⟩

/-- The state after an operation of one region that leaves the manager as `m`. -/
def State.withManager (s : State) (m : ConnectionManager) : State :=
  { s with manager := m, pending := s.pending.map (Pending.observe m) }

/-- The state after the second region of the `Add` of `session`, and its return. -/
def State.returned (s : State) (session : Session) (m : ConnectionManager) : State :=
  let (m, number) := m.nextSessionNumber
  { s with
    manager := m
    session_id := Function.update s.session_id session number
    pending := none }

/-- One locked region. An `Add` starts when no other is in progress, `AddReaderSession` with an
address that is not registered; a reader is removed after its `Add` returned, and a writer after its
`Add` started. -/
def step (s : State) (e : Event) : Option State :=
  if s.fault then none
  else
    match e with
    | .addReaderRegister session =>
      if s.pending = none ∧ s.session_id session = 0 ∧
          s.manager.reader_sessions.find? session.addr = none then
        let (m, is_first_reader, _) := s.manager.addReaderRegister session
        some { s with manager := m, pending := some (.reader session is_first_reader) }
      else none
    | .addReaderConnect =>
      match s.pending with
      | some (.reader session is_first_reader) =>
        some (s.returned session (s.manager.addReaderConnect session.addr is_first_reader))
      | _ => none
    | .addWriterRegister session =>
      if s.pending = none ∧ s.session_id session = 0 then
        let (m, writer_to_remove, replace_connection) := s.manager.addWriterRegister session
        some { s with
          manager := m
          pending := some (.writer session writer_to_remove replace_connection false) }
      else none
    | .addWriterConnect =>
      match s.pending with
      | some (.writer session writer_to_remove replace_connection erased) =>
        if replace_connection ∧ erased then some { s with fault := true }
        else
          some (s.returned session (s.manager.addWriterConnect session writer_to_remove
            (if replace_connection then s.manager.writer_connections.find? session.addr else none)))
      | _ => none
    | .removeReaderSession session =>
      if s.session_id session ≠ 0 then
        some (s.withManager (s.manager.removeReaderSession s.session_id session))
      else none
    | .removeWriterSession session =>
      if s.session_id session ≠ 0 ∨ s.pending.map Pending.session = some session then
        some (s.withManager (s.manager.removeWriterSession s.session_id session))
      else none
    | .rotateWriterConnection writer_addr =>
      some (s.withManager (s.manager.rotateWriterConnection writer_addr).1)
    | .resetWriterConnection writer_addr =>
      some (s.withManager (s.manager.resetWriterConnection writer_addr).1)
    | .rotateAllConnections => some (s.withManager s.manager.rotateAllConnections.1)
    | .pointReaderAtWriters addr => some (s.withManager (s.manager.pointReaderAtWriters addr).1)
    | .postMessage _ => some s

/-- While a reader is registered, every registered writer is in exactly one list, once: that of the
reader that `_writer_connections` maps it to. -/
def Served (m : ConnectionManager) : Prop :=
  ∀ w s, m.writer_sessions.find? w = some s → m.reader_sessions ≠ .empty →
    ∃ r l, m.writer_connections.find? w = some r ∧ m.reader_connections.find? r = some l ∧
      l.count s = 1 ∧ ∀ r' l', m.reader_connections.find? r' = some l' → s ∈ l' → r' = r

/-- A consistent manager serves everybody. -/
theorem Served.of_consistent {m : ConnectionManager} (h : Consistent m) : Served m := by
  intro w s hw hr
  have hkeys := h.writer_keys
  rw [if_neg hr] at hkeys
  obtain ⟨r, hwr⟩ := Option.isSome_iff_exists.mp ((hkeys w).mpr (by simp [hw]))
  obtain ⟨s', l, hw', hl, hs⟩ := (h.mapped w r).mpr hwr
  rw [hw] at hw'
  cases hw'
  exact ⟨r, l, hwr, hl, List.count_eq_one_of_mem (h.nodup hl) hs,
    fun r' l' hl' hs' => h.disjoint hl' hl s hs' hs⟩

/-- What the first region left for the second is still there: a later reader's list holds no writer,
and the entry that a pointer points at was not erased. -/
def Pending.Intact (m : ConnectionManager) : Pending → Prop
  | reader _ true => True
  | reader session false => (m.reader_connections.find? session.addr).getD [] = []
  | writer _ _ replace_connection erased => ¬(replace_connection = true ∧ erased = true)

instance decidableIntact (m : ConnectionManager) : ∀ p : Pending, Decidable (p.Intact m)
  | .reader _ true => isTrue trivial
  | .reader _ false => inferInstanceAs (Decidable (_ = _))
  | .writer _ _ _ _ => inferInstanceAs (Decidable (¬(_ ∧ _)))

/-- The second region of an `Add` finds intact what the first left, and the writer that is being
added is not removed while there are readers. -/
def Undisturbed (s : State) : Event → Prop
  | .addReaderConnect | .addWriterConnect => ∀ p ∈ s.pending, p.Intact s.manager
  | .removeWriterSession session =>
    s.pending.map Pending.session = some session → s.manager.reader_sessions = .empty
  | _ => True

instance decidableUndisturbed (s : State) : ∀ e, Decidable (Undisturbed s e)
  | .addReaderConnect | .addWriterConnect =>
    inferInstanceAs (Decidable (∀ p ∈ s.pending, p.Intact s.manager))
  | .removeWriterSession _ => inferInstanceAs (Decidable (_ → _))
  | .addReaderRegister _ | .addWriterRegister _ | .removeReaderSession _
  | .rotateWriterConnection _ | .resetWriterConnection _ | .rotateAllConnections
  | .pointReaderAtWriters _ | .postMessage _ => isTrue trivial

/-- The phase of the manager. -/
def State.phase (s : State) : Phase := s.pending.elim .idle Pending.phase

/-- What holds after every step that is undisturbed. -/
structure Inv (s : State) : Prop where
  manager : Invariant s.phase s.manager
  fault : s.fault = false
  numbered : Numbered s.session_id s.manager.last_session_number
  /-- A registered writer has a number, unless it is being added. -/
  writer_id : ∀ {w x}, s.manager.writer_sessions.find? w = some x →
    s.session_id x = 0 → s.pending.map Pending.session = some x
  /-- The session that is being added has no number yet. -/
  pending_id : ∀ p, s.pending = some p → s.session_id p.session = 0
  /-- An entry that was not erased is there, and belongs to a session that is replaced. -/
  entry : ∀ x old erased, s.pending = some (.writer x old true erased) →
    old.isSome ∧ (erased = false → (s.manager.writer_connections.find? x.addr).isSome)

/-- There is nothing to keep at first. -/
theorem inv_initial : Inv initial where
  manager := Invariant.initial
  fault := rfl
  numbered := ⟨fun _ => Nat.le_refl _, fun _ h => absurd rfl h⟩
  writer_id h := by simp [initial, ConnectionManager.initial] at h
  pending_id p h := by simp [initial] at h
  entry x old erased h := by simp [initial] at h

/-- The phase does not depend on the entry that the pointer points at. -/
@[simp]
theorem phase_observe (m : ConnectionManager) (p : Pending) : (p.observe m).phase = p.phase := by
  cases p <;> rfl

/-- Neither does the session. -/
@[simp]
theorem session_observe (m : ConnectionManager) (p : Pending) :
    (p.observe m).session = p.session := by
  cases p <;> rfl

/-- The phase is that of the `Add`, whatever the maps are. -/
theorem phase_withManager (s : State) (m : ConnectionManager) :
    (s.withManager m).phase = s.phase := by
  cases hp : s.pending <;> simp [State.withManager, State.phase, hp]

/-- So is the session that is being added. -/
theorem session_withManager (s : State) (m : ConnectionManager) :
    (s.withManager m).pending.map Pending.session = s.pending.map Pending.session := by
  cases hp : s.pending <;> simp [State.withManager, hp]

/-- An operation of one region keeps the invariant when it keeps that of the manager. -/
theorem Inv.withManager {s : State} (h : Inv s) {m : ConnectionManager}
    (hm : Invariant s.phase m) (hlast : m.last_session_number = s.manager.last_session_number)
    (hwriters : ∀ {w x}, m.writer_sessions.find? w = some x →
      s.manager.writer_sessions.find? w = some x) : Inv (s.withManager m) where
  manager := by rw [phase_withManager]; exact hm
  fault := h.fault
  numbered := by
    change Numbered s.session_id m.last_session_number
    rw [hlast]
    exact h.numbered
  writer_id hw hx := by
    rw [session_withManager]
    exact h.writer_id (hwriters hw) hx
  pending_id p hp := by
    obtain ⟨q, hq, rfl⟩ := Option.map_eq_some_iff.mp hp
    rw [session_observe]
    exact h.pending_id q hq
  entry x old erased hp := by
    obtain ⟨q, hq, hqe⟩ := Option.map_eq_some_iff.mp hp
    cases q with
    | reader session is_first_reader => simp [Pending.observe] at hqe
    | writer x' old' replace erased' =>
      -- The pointer is noted as erased when its entry is gone from the new map.
      simp only [Pending.observe, Pending.writer.injEq] at hqe
      obtain ⟨rfl, rfl, rfl, rfl⟩ := hqe
      refine ⟨(h.entry _ _ _ hq).1, fun he => ?_⟩
      simpa [State.withManager, OrdMap.contains] using (Bool.or_eq_false_iff.mp he).2

/-- An operation that moves writers keeps the invariant. -/
theorem Inv.moved {s : State} (h : Inv s) {m : ConnectionManager}
    (hm : Moved (s.phase.attached s.manager) s.manager m) : Inv (s.withManager m) :=
  h.withManager (h.manager.moved hm) hm.number fun hw => by rwa [hm.writers] at hw

/-- The second region of an `Add` keeps the invariant when it restores that of the manager. -/
theorem Inv.returned {s : State} (h : Inv s) {p : Pending} (hp : s.pending = some p)
    {m : ConnectionManager} (hm : Invariant .idle m)
    (hlast : m.last_session_number = s.manager.last_session_number)
    (hwriters : m.writer_sessions = s.manager.writer_sessions) :
    Inv (s.returned p.session m) where
  manager := hm.of_nextSessionNumber
  fault := h.fault
  numbered := by
    have := h.numbered.assign p.session
    rwa [← hlast] at this
  writer_id {w x} hw hx := by
    have hw' : s.manager.writer_sessions.find? w = some x := hwriters ▸ hw
    -- The session of the `Add` gets its number here, every other has one.
    by_cases hxp : x = p.session
    · simp [State.returned, ConnectionManager.nextSessionNumber, hxp] at hx
    · have hx' : s.session_id x = 0 := by
        simpa [State.returned, Function.update_of_ne hxp] using hx
      have := h.writer_id hw' hx'
      rw [hp] at this
      exact absurd (Option.some.inj this).symm hxp
  pending_id q hq := by simp [State.returned] at hq
  entry x old erased hq := by simp [State.returned] at hq

/-! ## The steps -/

section

variable {s : State}

/-- Without an `Add` the phase is idle. -/
theorem phase_of_idle (hp : s.pending = none) : s.phase = .idle := by
  simp [State.phase, hp]

/-- With one it is that of the `Add`. -/
theorem phase_of_pending {p : Pending} (hp : s.pending = some p) : s.phase = p.phase := by
  simp [State.phase, hp]

/-- Only an `AddReaderSession` adds a reader. -/
theorem pending_of_addingReader {x : Reader} {is_first_reader : Bool}
    (hphase : s.phase = .addingReader x is_first_reader) :
    s.pending = some (.reader x is_first_reader) := by
  cases hp : s.pending with
  | none =>
    rw [phase_of_idle hp] at hphase
    cases hphase
  | some p =>
    rw [phase_of_pending hp] at hphase
    cases p <;> cases hphase
    rfl

/-- The writer that is being added is the one of the `Add`. -/
theorem session_of_addingWriter {x : Writer} {old : Option Writer}
    (hphase : s.phase = .addingWriter x old) : s.pending.map Pending.session = some x := by
  cases hp : s.pending with
  | none =>
    rw [phase_of_idle hp] at hphase
    cases hphase
  | some p =>
    rw [phase_of_pending hp] at hphase
    cases p <;> cases hphase
    rfl

/-- The first region of `AddReaderSession`. -/
theorem Inv.addReaderRegister (h : Inv s) (hp : s.pending = none) {session : Reader}
    (hid : s.session_id session = 0) :
    Inv { s with
      manager := (s.manager.addReaderRegister session).1
      pending := some (.reader session (s.manager.addReaderRegister session).2.1) } := by
  -- No other `Add` is in progress.
  have hidle : Invariant .idle s.manager := phase_of_idle hp ▸ h.manager
  refine ⟨hidle.addReaderRegister session, h.fault, h.numbered, fun hw hx => ?_, ?_, ?_⟩
  · have := h.writer_id hw hx
    simp [hp] at this
  · rintro p hpe
    cases hpe
    exact hid
  · intro x old erased hpe
    cases hpe

/-- The second one. -/
theorem Inv.addReaderConnect (h : Inv s) {session : Reader} {is_first_reader : Bool}
    (hp : s.pending = some (.reader session is_first_reader))
    (hintact : (Pending.reader session is_first_reader).Intact s.manager) :
    Inv (s.returned session (s.manager.addReaderConnect session.addr is_first_reader)) := by
  have hm : Invariant (.addingReader session is_first_reader) s.manager := by
    have := h.manager
    rwa [phase_of_pending hp] at this
  obtain ⟨hlast, -, hwriters, -⟩ := addReaderConnect_spec s.manager session.addr is_first_reader
  refine h.returned hp (hm.addReaderConnect fun hfirst => ?_) hlast hwriters
  -- A later reader may make its list, because nothing was handed over to it.
  subst hfirst
  exact hintact

/-- The first region of `AddWriterSession`. -/
theorem Inv.addWriterRegister (h : Inv s) (hp : s.pending = none) {session : Writer}
    (hid : s.session_id session = 0) :
    Inv { s with
      manager := (s.manager.addWriterRegister session).1
      pending := some (.writer session (s.manager.addWriterRegister session).2.1
        (s.manager.addWriterRegister session).2.2 false) } := by
  have hidle : Invariant .idle s.manager := phase_of_idle hp ▸ h.manager
  refine ⟨hidle.addWriterRegister session, h.fault, h.numbered, fun {w x} hw hx => ?_, ?_, ?_⟩
  · by_cases hxs : x = session
    · rw [hxs]
      rfl
    · have hw' : s.manager.writer_sessions.find? w = some x := by
        simp only [ConnectionManager.addWriterRegister, OrdMap.find?_insert] at hw
        split_ifs at hw
        · exact absurd (Option.some.inj hw).symm hxs
        · exact hw
      have := h.writer_id hw' hx
      simp [hp] at this
  · rintro p hpe
    cases hpe
    exact hid
  · intro x old erased hpe
    simp only [Option.some.injEq, Pending.writer.injEq] at hpe
    obtain ⟨rfl, rfl, hreplace, -⟩ := hpe
    have := Invariant.addWriterRegister_replace hreplace
    exact ⟨this.1, fun _ => this.2⟩

/-- The second one. -/
theorem Inv.addWriterConnect (h : Inv s) {session : Writer} {old : Option Writer}
    {replace erased : Bool} (hp : s.pending = some (.writer session old replace erased))
    (hintact : (Pending.writer session old replace erased).Intact s.manager) :
    Inv (s.returned session (s.manager.addWriterConnect session old
      (if replace then s.manager.writer_connections.find? session.addr else none))) := by
  have hm : Invariant (.addingWriter session (if replace then old else none)) s.manager := by
    have := h.manager
    rwa [phase_of_pending hp] at this
  obtain ⟨hlast, -, hwriters, -⟩ := addWriterConnect_spec s.manager session old
    (if replace then s.manager.writer_connections.find? session.addr else none)
  refine h.returned hp (hm.addWriterConnect fun hreplace => ?_) hlast hwriters
  -- The remembered entry is still there.
  subst hreplace
  obtain ⟨hold, hentry⟩ := h.entry _ _ _ hp
  exact ⟨hold, hentry (Bool.eq_false_iff.mpr fun he => hintact ⟨rfl, he⟩)⟩

/-- A reader is removed at any time. -/
theorem Inv.removeReaderSession (h : Inv s) {session : Reader} (hid : s.session_id session ≠ 0) :
    Inv (s.withManager (s.manager.removeReaderSession s.session_id session)) := by
  obtain ⟨hlast, hwriters⟩ := removeReaderSession_spec s.session_id s.manager session
  refine h.withManager (h.manager.removeReaderSession fun x b hphase => ?_) hlast fun hw => by
    rwa [hwriters] at hw
  -- The reader that is being added has no number.
  intro heq
  rw [← heq] at hid
  exact hid (h.pending_id _ (pending_of_addingReader hphase))

/-- So is a writer, but not the one that is being added while there are readers. -/
theorem Inv.removeWriterSession (h : Inv s) {session : Writer}
    (hen : s.session_id session ≠ 0 ∨ s.pending.map Pending.session = some session)
    (hok : s.pending.map Pending.session = some session → s.manager.reader_sessions = .empty) :
    Inv (s.withManager (s.manager.removeWriterSession s.session_id session)) := by
  obtain ⟨hlast, -, hwriters⟩ := removeWriterSession_spec s.session_id s.manager session
  refine h.withManager (h.manager.removeWriterSession (fun dead hdead hid => ?_)
    fun o hphase => hok (session_of_addingWriter hphase)) hlast hwriters
  -- An equal number, or none at all, is the same session.
  by_cases hzero : s.session_id dead = 0
  · have hdeadp := h.writer_id hdead hzero
    rcases hen with hne | hsession
    · exact absurd (hid ▸ hzero) hne
    · rw [hsession] at hdeadp
      exact (Option.some.inj hdeadp).symm
  · exact h.numbered.eq_of_eq hid hzero

end

/-- An undisturbed step keeps the invariant. -/
theorem Inv.step {s s' : State} {e : Event} (h : Inv s) (hok : Undisturbed s e)
    (hs : Overlap.step s e = some s') : Inv s' := by
  unfold Overlap.step at hs
  rw [if_neg (by simp [h.fault])] at hs
  cases e with
  | addReaderRegister session =>
    dsimp only at hs
    split_ifs at hs with hen
    cases hs
    exact h.addReaderRegister hen.1 hen.2.1
  | addReaderConnect =>
    dsimp only at hs
    split at hs
    · rename_i session is_first_reader hp
      cases hs
      exact h.addReaderConnect hp (hok _ hp)
    · cases hs
  | addWriterRegister session =>
    dsimp only at hs
    split_ifs at hs with hen
    cases hs
    exact h.addWriterRegister hen.1 hen.2
  | addWriterConnect =>
    dsimp only at hs
    split at hs
    · rename_i session old replace erased hp
      have hintact := hok _ hp
      rw [if_neg hintact] at hs
      cases hs
      exact h.addWriterConnect hp hintact
    · cases hs
  | removeReaderSession session =>
    dsimp only at hs
    split_ifs at hs with hid
    cases hs
    exact h.removeReaderSession hid
  | removeWriterSession session =>
    dsimp only at hs
    split_ifs at hs with hen
    cases hs
    exact h.removeWriterSession hen hok
  | rotateWriterConnection w =>
    cases hs
    exact h.moved (h.manager.linked.moved_rotateWriterConnection w)
  | resetWriterConnection w =>
    cases hs
    exact h.moved (h.manager.linked.moved_resetWriterConnection w)
  | rotateAllConnections =>
    cases hs
    exact h.moved h.manager.linked.moved_rotateAllConnections
  | pointReaderAtWriters r =>
    cases hs
    exact h.moved (h.manager.linked.moved_pointReaderAtWriters r)
  | postMessage r =>
    cases hs
    exact h

/-- In a run whose steps are undisturbed no erased entry is read, and whenever no `Add` is in
progress the manager is consistent and every registered writer is served by one reader. -/
theorem served_of_undisturbed {es : List Event} {s : State} (hrun : run step initial es = some s)
    (hok : Along step Undisturbed initial es) :
    s.fault = false ∧ (s.pending = none → Served s.manager ∧ Consistent s.manager) := by
  have h := hok.run_invariant Inv (fun _ _ _ h hP hs => h.step hP hs) hrun inv_initial
  refine ⟨h.fault, fun hp => ?_⟩
  -- With no `Add` in progress the phase is the idle one.
  have hm : Invariant .idle s.manager := by simpa [State.phase, hp] using h.manager
  exact ⟨.of_consistent hm.consistent, hm.consistent⟩

/-- Two readers, and a writer that is replaced while the first reader is removed. -/
def replacedWriterRun : List Event :=
  [.addReaderRegister ⟨1, 10⟩, .addReaderConnect, .addWriterRegister ⟨2, 20⟩, .addWriterConnect,
    .addReaderRegister ⟨3, 11⟩, .rotateWriterConnection 20, .addReaderConnect,
    .addWriterRegister ⟨4, 20⟩, .removeReaderSession ⟨1, 10⟩, .addWriterConnect]

theorem served_of_replacedWriterRun : ∃ s, run step initial replacedWriterRun = some s ∧
    s.fault = false ∧ (s.pending = none → Served s.manager ∧ Consistent s.manager) := by
  obtain ⟨s, hs⟩ : ∃ s, run step initial replacedWriterRun = some s := ⟨_, rfl⟩
  exact ⟨s, hs, served_of_undisturbed hs (by decide)⟩

/-- A reader that is removed while another is being added hands its writers over to it, and they are
lost when the second region makes its list empty. -/
theorem handed_over_not_served : ∃ s, run step initial
    [.addReaderRegister ⟨1, 10⟩, .addReaderConnect, .addWriterRegister ⟨2, 20⟩, .addWriterConnect,
      .addReaderRegister ⟨3, 11⟩, .removeReaderSession ⟨1, 10⟩, .addReaderConnect] = some s ∧
    s.pending = none ∧ ¬ Served s.manager := by
  refine ⟨_, rfl, rfl, fun h => ?_⟩
  obtain ⟨r, l, hr, hl, hcount, -⟩ := h 20 ⟨2, 20⟩ rfl (by decide)
  cases hr
  cases hl
  simp at hcount

/-- A pointer to the entry of a writer is followed after the removal of the only reader erased the
entry. -/
theorem erased_entry_followed : ∃ s, run step initial
    [.addReaderRegister ⟨1, 10⟩, .addReaderConnect, .addWriterRegister ⟨2, 20⟩, .addWriterConnect,
      .addWriterRegister ⟨3, 20⟩, .removeReaderSession ⟨1, 10⟩, .addWriterConnect] = some s ∧
    s.fault = true :=
  ⟨_, rfl, rfl⟩

end AugmentedNormalcy.Server.Overlap
