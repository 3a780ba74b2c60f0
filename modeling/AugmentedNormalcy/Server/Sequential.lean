import AugmentedNormalcy.Foundation.Run
import AugmentedNormalcy.Server.Phase

/-!
# Runs of complete calls

The manager under calls that do not overlap, with the session numbers that the calls give out. A
call registers only a session that has no number yet, and a removal may name any session: one that
was never registered, or that another session of its address has replaced.

The manager is consistent after every call of a run exactly when no call registers a reader under an
address whose list of writers is not empty (`throughout_consistent_iff`). `AddReaderSession` then
replaces the list by an empty one, as for a new address, while `_writer_connections` still maps
those writers to the reader.
-/

namespace AugmentedNormalcy.Server

open StepSystem

/-- The session numbers are those given out so far, each to one session. -/
structure Numbered (session_id : Session → ℕ) (last : ℕ) : Prop where
  le : ∀ s, session_id s ≤ last
  eq_of_eq : ∀ {s t}, session_id s = session_id t → session_id s ≠ 0 → s = t

theorem Numbered.assign {session_id : Session → ℕ} {last : ℕ} (h : Numbered session_id last)
    (s : Session) : Numbered (Function.update session_id s (last + 1)) (last + 1) := by
  constructor
  · intro t
    have := h.le t
    by_cases hts : t = s
    · simp [hts]
    · rw [Function.update_of_ne hts]
      omega
  · intro t u htu ht
    have ht' := h.le t
    have hu' := h.le u
    by_cases hts : t = s
    · by_cases hus : u = s
      · rw [hts, hus]
      · rw [hts, Function.update_self, Function.update_of_ne hus] at htu
        omega
    · rw [Function.update_of_ne hts] at htu ht
      by_cases hus : u = s
      · rw [hus, Function.update_self] at htu
        omega
      · rw [Function.update_of_ne hus] at htu
        exact h.eq_of_eq htu ht

namespace Sequential

/-- The manager, and the `_session_id` of every session. -/
structure State where
  manager : ConnectionManager
  session_id : Session → ℕ

/-- A complete call. -/
inductive Call where
  | addReaderSession (session : Reader)
  | removeReaderSession (session : Reader)
  | addWriterSession (session : Writer)
  | removeWriterSession (session : Writer)
  | rotateWriterConnection (writer_addr : TcpAddr)
  | resetWriterConnection (writer_addr : TcpAddr)
  | rotateAllConnections
  | pointReaderAtWriters (addr : TcpAddr)
  | clear

/-- No session has been registered. -/
def initial : State := ⟨.initial, fun _ => 0⟩

/-- One call. A session object is registered at most once. -/
def step (s : State) : Call → Option State
  | .addReaderSession session =>
    if s.session_id session = 0 then
      let (manager, _, number) := s.manager.addReaderSession session
      some ⟨manager, Function.update s.session_id session number⟩
    else none
  | .removeReaderSession session =>
    some { s with manager := s.manager.removeReaderSession s.session_id session }
  | .addWriterSession session =>
    if s.session_id session = 0 then
      let (manager, _, number) := s.manager.addWriterSession session
      some ⟨manager, Function.update s.session_id session number⟩
    else none
  | .removeWriterSession session =>
    some { s with manager := s.manager.removeWriterSession s.session_id session }
  | .rotateWriterConnection writer_addr =>
    some { s with manager := (s.manager.rotateWriterConnection writer_addr).1 }
  | .resetWriterConnection writer_addr =>
    some { s with manager := (s.manager.resetWriterConnection writer_addr).1 }
  | .rotateAllConnections => some { s with manager := s.manager.rotateAllConnections.1 }
  | .pointReaderAtWriters addr =>
    some { s with manager := (s.manager.pointReaderAtWriters addr).1 }
  | .clear => some { s with manager := s.manager.clear.1 }

/-- The call does not register a reader over a list that holds writers. -/
def KeepsList (s : State) : Call → Prop
  | .addReaderSession session =>
    (s.manager.reader_connections.find? session.addr).getD [] = []
  | _ => True

instance (s : State) : DecidablePred (KeepsList s)
  | .addReaderSession session => inferInstanceAs <|
      Decidable ((s.manager.reader_connections.find? session.addr).getD [] = [])
  | .removeReaderSession _ | .addWriterSession _ | .removeWriterSession _
  | .rotateWriterConnection _ | .resetWriterConnection _ | .rotateAllConnections
  | .pointReaderAtWriters _ | .clear => isTrue trivial

/-- What holds after every call that keeps the lists. -/
structure Inv (s : State) : Prop where
  manager : Invariant .idle s.manager
  numbered : Numbered s.session_id s.manager.last_session_number
  writer_id : ∀ {w x}, s.manager.writer_sessions.find? w = some x → s.session_id x ≠ 0

theorem inv_initial : Inv initial where
  manager := Invariant.initial
  numbered := ⟨fun _ => Nat.le_refl _, fun _ h => absurd rfl h⟩
  writer_id h := by simp [initial, ConnectionManager.initial] at h

/-- A call that changes neither the numbers nor adds a writer keeps the invariant when it keeps that
of the manager. -/
theorem Inv.of_manager {s : State} (h : Inv s) {m : ConnectionManager} (hm : Invariant .idle m)
    (hlast : m.last_session_number = s.manager.last_session_number)
    (hwriters : ∀ {w x}, m.writer_sessions.find? w = some x →
      s.manager.writer_sessions.find? w = some x) : Inv { s with manager := m } :=
  ⟨hm, by rw [hlast]; exact h.numbered, fun hw => h.writer_id (hwriters hw)⟩

/-- An operation that moves writers keeps the invariant. -/
theorem Inv.moved {s : State} (h : Inv s) {m : ConnectionManager}
    (hm : Moved (Phase.idle.attached s.manager) s.manager m) : Inv { s with manager := m } :=
  h.of_manager (h.manager.moved hm) hm.number fun hw => by rwa [hm.writers] at hw

theorem Inv.addReaderSession {s : State} (h : Inv s) (session : Reader)
    (hlist : (s.manager.reader_connections.find? session.addr).getD [] = []) :
    Inv ⟨(s.manager.addReaderSession session).1,
      Function.update s.session_id session (s.manager.addReaderSession session).2.2⟩ := by
  obtain ⟨hlast, -, hwriters, -⟩ := addReaderConnect_spec (s.manager.addReaderRegister session).1
    session.addr (s.manager.addReaderRegister session).2.1
  -- The two regions of the call, one after the other, and its number.
  have hm := ((h.manager.addReaderRegister session).addReaderConnect fun _ =>
    hlist).of_nextSessionNumber
  refine ⟨hm, ?_, ?_⟩
  · simp only [ConnectionManager.addReaderSession, ConnectionManager.nextSessionNumber, hlast]
    exact h.numbered.assign session
  · intro w x hw
    simp only [ConnectionManager.addReaderSession, ConnectionManager.nextSessionNumber,
      hwriters] at hw
    by_cases hx : x = session
    · simp [hx, ConnectionManager.addReaderSession, ConnectionManager.nextSessionNumber]
    · simp only [Function.update_of_ne hx]
      exact h.writer_id hw

theorem Inv.addWriterSession {s : State} (h : Inv s) (session : Writer) :
    Inv ⟨(s.manager.addWriterSession session).1,
      Function.update s.session_id session (s.manager.addWriterSession session).2.2⟩ := by
  -- The two regions of the call, one after the other, and its number.
  have hm := ((h.manager.addWriterRegister session).addWriterConnect
    Invariant.addWriterRegister_replace).of_nextSessionNumber
  obtain ⟨hlast, -, hwriters, -⟩ := addWriterConnect_spec (s.manager.addWriterRegister session).1
    session (s.manager.addWriterRegister session).2.1
    (if (s.manager.addWriterRegister session).2.2 then
      (s.manager.addWriterRegister session).1.writer_connections.find? session.addr else none)
  refine ⟨hm, ?_, ?_⟩
  · simp only [ConnectionManager.addWriterSession, ConnectionManager.nextSessionNumber, hlast]
    exact h.numbered.assign session
  · intro w x hw
    simp only [ConnectionManager.addWriterSession, ConnectionManager.nextSessionNumber,
      hwriters] at hw
    by_cases hx : x = session
    · simp [hx, ConnectionManager.addWriterSession, ConnectionManager.nextSessionNumber]
    · simp only [Function.update_of_ne hx]
      rw [ConnectionManager.addWriterRegister, OrdMap.find?_insert] at hw
      split_ifs at hw
      · exact absurd (Option.some.inj hw).symm hx
      · exact h.writer_id hw

/-- A call that does not wipe out a list of writers keeps the invariant. -/
theorem Inv.step {s s' : State} {c : Call} (h : Inv s) (hkeeps : KeepsList s c)
    (hs : Sequential.step s c = some s') : Inv s' := by
  cases c with
  | addReaderSession session =>
    simp only [Sequential.step] at hs
    split_ifs at hs
    cases hs
    exact h.addReaderSession session hkeeps
  | removeReaderSession session =>
    cases hs
    obtain ⟨hlast, hwriters⟩ := removeReaderSession_spec s.session_id s.manager session
    exact h.of_manager (h.manager.removeReaderSession (by simp)) hlast fun hw => by
      rwa [hwriters] at hw
  | addWriterSession session =>
    simp only [Sequential.step] at hs
    split_ifs at hs
    cases hs
    exact h.addWriterSession session
  | removeWriterSession session =>
    cases hs
    obtain ⟨hlast, -, hwriters⟩ := removeWriterSession_spec s.session_id s.manager session
    refine h.of_manager (h.manager.removeWriterSession ?_ (by simp)) hlast hwriters
    -- Registered writers have numbers, so an equal number is the same session.
    exact fun dead hdead hid => h.numbered.eq_of_eq hid (h.writer_id hdead)
  | rotateWriterConnection w =>
    cases hs
    exact h.moved (h.manager.linked.moved_rotateWriterConnection w)
  | resetWriterConnection w =>
    cases hs
    exact h.moved (h.manager.linked.moved_resetWriterConnection w)
  | rotateAllConnections =>
    cases hs
    exact h.moved h.manager.linked.moved_rotateAllConnections
  | pointReaderAtWriters r =>
    cases hs
    exact h.moved (h.manager.linked.moved_pointReaderAtWriters r)
  | clear =>
    cases hs
    exact h.of_manager (Invariant.clear s.manager) rfl fun hw => by
      simp [ConnectionManager.clear] at hw

/-- Registering a reader over a list that holds writers breaks the maps: the list is gone, and the
writers are still mapped to it. -/
theorem Inv.not_consistent {s s' : State} {c : Call} (h : Inv s) (hkeeps : ¬ KeepsList s c)
    (hs : Sequential.step s c = some s') : ¬ Consistent s'.manager := by
  cases c with
  | addReaderSession session =>
    simp only [Sequential.step] at hs
    split_ifs at hs
    cases hs
    intro hc
    -- Some writer of the old list.
    have hlist : (s.manager.reader_connections.find? session.addr).getD [] ≠ [] := hkeeps
    obtain ⟨x, hx⟩ := List.exists_mem_of_ne_nil _ hlist
    cases hl : s.manager.reader_connections.find? session.addr with
    | none => simp [hl] at hx
    | some l =>
      rw [hl, Option.getD_some] at hx
      have hmapped := ((h.manager.linked.mem_iff hl x).mp hx).2
      have hreg : s.manager.reader_sessions ≠ .empty := OrdMap.ne_empty_iff.mpr
        ⟨session.addr, h.manager.linked.registered (by simp [hl])⟩
      -- It is still mapped to the reader, whose list is empty now.
      have hafter : (s.manager.addReaderSession session).1.writer_connections.find? x.addr =
          some session.addr := by
        simpa [ConnectionManager.addReaderSession, ConnectionManager.nextSessionNumber, hreg,
          ConnectionManager.addReaderConnect, ConnectionManager.addReaderRegister] using hmapped
      have hempty : (s.manager.addReaderSession session).1.reader_connections.find? session.addr =
          some [] := by
        simp [ConnectionManager.addReaderSession, ConnectionManager.nextSessionNumber, hreg,
          ConnectionManager.addReaderConnect, ConnectionManager.addReaderRegister]
      obtain ⟨y, l', -, hl', hy⟩ := (hc.mapped x.addr session.addr).mpr hafter
      rw [hempty] at hl'
      cases hl'
      simp at hy
  | _ => exact absurd trivial hkeeps

/-- The manager is consistent after every call of a run exactly when no `AddReaderSession` of the
run is made with an address whose list holds writers at that moment. -/
theorem throughout_consistent_iff (calls : List Call) :
    Throughout step (fun s => Consistent s.manager) initial calls ↔
      Along step KeepsList initial calls :=
  throughout_iff_along Inv (fun _ h => h.manager.consistent) (fun _ _ _ h => h.step)
    (fun _ _ _ h => h.not_consistent) inv_initial

/-- A camera that reconnects while a headset watches it leaves the manager inconsistent: the headset
is mapped to the camera and is in no list. -/
theorem reconnected_reader_not_consistent :
    ¬ Throughout step (fun s => Consistent s.manager) initial
      [.addReaderSession ⟨1, 10⟩, .addWriterSession ⟨2, 20⟩, .addReaderSession ⟨3, 10⟩] := by
  intro h
  have hc := h.last rfl
  obtain ⟨x, l, -, hl, hx⟩ := (hc.mapped 20 10).mpr rfl
  cases hl
  simp at hx

/-! ## Who is registered -/

/-- The sessions of `m'` are sessions of `m`, or registered by the call. -/
def Registers (c : Call) (m m' : ConnectionManager) : Prop :=
  (∀ {a x}, m'.reader_sessions.find? a = some x →
    m.reader_sessions.find? a = some x ∨ c = .addReaderSession x) ∧
  ∀ {a x}, m'.writer_sessions.find? a = some x →
    m.writer_sessions.find? a = some x ∨ c = .addWriterSession x

theorem registers_of_moved {attached : TcpAddr → Option Writer} {m m' : ConnectionManager}
    (c : Call) (h : Moved attached m m') : Registers c m m' := by
  constructor
  · intro a x hx
    rw [h.readers] at hx
    exact .inl hx
  · intro a x hx
    rw [h.writers] at hx
    exact .inl hx

/-- What a call registers is its own session. -/
theorem Inv.registers {s s' : State} {c : Call} (h : Inv s) (hs : Sequential.step s c = some s') :
    Registers c s.manager s'.manager := by
  have hlinked := h.manager.linked
  cases c with
  | addReaderSession session =>
    simp only [Sequential.step] at hs
    split_ifs at hs
    cases hs
    obtain ⟨-, hreaders, hwriters, -⟩ := addReaderConnect_spec
      (s.manager.addReaderRegister session).1 session.addr (s.manager.addReaderRegister session).2.1
    constructor
    · intro a x hx
      simp only [ConnectionManager.addReaderSession, ConnectionManager.nextSessionNumber,
        hreaders] at hx
      rw [ConnectionManager.addReaderRegister, OrdMap.find?_insert] at hx
      split_ifs at hx
      · exact .inr (by rw [Option.some.inj hx])
      · exact .inl hx
    · intro a x hx
      simp only [ConnectionManager.addReaderSession, ConnectionManager.nextSessionNumber,
        hwriters] at hx
      exact .inl hx
  | addWriterSession session =>
    simp only [Sequential.step] at hs
    split_ifs at hs
    cases hs
    obtain ⟨-, hreaders, hwriters, -⟩ := addWriterConnect_spec
      (s.manager.addWriterRegister session).1 session (s.manager.addWriterRegister session).2.1
      (if (s.manager.addWriterRegister session).2.2 then
        (s.manager.addWriterRegister session).1.writer_connections.find? session.addr else none)
    constructor
    · intro a x hx
      simp only [ConnectionManager.addWriterSession, ConnectionManager.nextSessionNumber,
        hreaders] at hx
      exact .inl hx
    · intro a x hx
      simp only [ConnectionManager.addWriterSession, ConnectionManager.nextSessionNumber,
        hwriters] at hx
      rw [ConnectionManager.addWriterRegister, OrdMap.find?_insert] at hx
      split_ifs at hx
      · exact .inr (by rw [Option.some.inj hx])
      · exact .inl hx
  | removeReaderSession session =>
    cases hs
    refine ⟨fun hx => .inl (find?_of_removeReaderSession hx), fun hx => .inl ?_⟩
    rwa [(removeReaderSession_spec s.session_id s.manager session).2] at hx
  | removeWriterSession session =>
    cases hs
    obtain ⟨-, hreaders, hwriters⟩ := removeWriterSession_spec s.session_id s.manager session
    refine ⟨fun hx => .inl ?_, fun hx => .inl (hwriters hx)⟩
    rwa [hreaders] at hx
  | rotateWriterConnection w =>
    cases hs
    exact registers_of_moved _ (hlinked.moved_rotateWriterConnection w)
  | resetWriterConnection w =>
    cases hs
    exact registers_of_moved _ (hlinked.moved_resetWriterConnection w)
  | rotateAllConnections =>
    cases hs
    exact registers_of_moved _ hlinked.moved_rotateAllConnections
  | pointReaderAtWriters r =>
    cases hs
    exact registers_of_moved _ (hlinked.moved_pointReaderAtWriters r)
  | clear =>
    cases hs
    constructor <;>
    · intro a x hx
      simp [ConnectionManager.clear] at hx

end Sequential

end AugmentedNormalcy.Server
