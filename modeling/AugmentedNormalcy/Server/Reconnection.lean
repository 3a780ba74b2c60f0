import AugmentedNormalcy.Foundation.Lists
import AugmentedNormalcy.Server.Attachment

/-!
# A headset that connects, or connects again

`AddWriterSession` over a manager that attaches every writer. A headset with a new address joins the
list of the first reader; one that comes back takes the place of its old session, which is closed
and is the old session of its address from then on: whenever it asks to be removed, the session
numbers tell that it has been replaced (`Replaced.removeWriterSession`).
-/

namespace AugmentedNormalcy.Server

open ConnectionManager StepSystem

/-! ## Session numbers -/

/-- The sessions that were given a number have different ones, and registered writers have one. -/
structure DistinctIds (session_id : Session → ℕ) (m : ConnectionManager) : Prop where
  numbered : Numbered session_id m.last_session_number
  registered : ∀ {w s}, m.writer_sessions.find? w = some s → session_id s ≠ 0

/-- From `m` to `m'` no writer is registered, and no number is taken back. -/
structure RegistersNone (m m' : ConnectionManager) : Prop where
  number : m.last_session_number ≤ m'.last_session_number
  writers : ∀ {w s}, m'.writer_sessions.find? w = some s → m.writer_sessions.find? w = some s

theorem RegistersNone.of_eq {m m' : ConnectionManager}
    (hnumber : m'.last_session_number = m.last_session_number)
    (hwriters : m'.writer_sessions = m.writer_sessions) : RegistersNone m m' :=
  ⟨hnumber.ge, fun hw => by rwa [hwriters] at hw⟩

theorem SameSessions.registersNone {m m' : ConnectionManager} (h : SameSessions m m') :
    RegistersNone m m' := .of_eq h.number h.writers

/-- `AddReaderSession` gives out the next number, and registers no writer. -/
theorem addReaderSession_spec (m : ConnectionManager) (s : Reader) :
    (m.addReaderSession s).2.2 = m.last_session_number + 1 ∧
      (m.addReaderSession s).1.last_session_number = m.last_session_number + 1 ∧
      (m.addReaderSession s).1.writer_sessions = m.writer_sessions := by
  obtain ⟨hlast, -, hwriters, -⟩ := addReaderConnect_spec (m.addReaderRegister s).1 s.addr
    (m.addReaderRegister s).2.1
  exact ⟨congrArg (· + 1) hlast, congrArg (· + 1) hlast, hwriters⟩

/-- `AddWriterSession` gives out the next number, and registers its writer. -/
theorem addWriterSession_spec (m : ConnectionManager) (s : Writer) :
    (m.addWriterSession s).2.2 = m.last_session_number + 1 ∧
      (m.addWriterSession s).1.last_session_number = m.last_session_number + 1 ∧
      (m.addWriterSession s).1.reader_sessions = m.reader_sessions ∧
      (m.addWriterSession s).1.writer_sessions = m.writer_sessions.insert s.addr s := by
  obtain ⟨hlast, hreaders, hwriters, -⟩ := addWriterConnect_spec (m.addWriterRegister s).1 s
    (m.addWriterRegister s).2.1
    (if (m.addWriterRegister s).2.2 then
      (m.addWriterRegister s).1.writer_connections.find? s.addr else none)
  exact ⟨congrArg (· + 1) hlast, congrArg (· + 1) hlast, hreaders, hwriters⟩

/-! ## A session that was replaced -/

/-- `old` had a number, and the writer that is registered under its address, if there is one, has
another. `number` has been given out. -/
structure Replaced (old : Writer) (number : ℕ) (s : Sequential.State) : Prop where
  numbered : Numbered s.session_id s.manager.last_session_number
  old_id : s.session_id old ≠ 0
  other : ∀ {x}, s.manager.writer_sessions.find? old.addr = some x →
    s.session_id x ≠ s.session_id old
  given : number ≤ s.manager.last_session_number

namespace Replaced

variable {old : Writer} {number : ℕ} {s s' : Sequential.State}

/-- A call that registers no writer and numbers no session. -/
theorem of_registersNone (h : Replaced old number s) {m : ConnectionManager}
    (hm : RegistersNone s.manager m) : Replaced old number ⟨m, s.session_id⟩ where
  numbered := ⟨fun t => (h.numbered.le t).trans hm.number, h.numbered.eq_of_eq⟩
  old_id := h.old_id
  other hx := h.other (hm.writers hx)
  given := h.given.trans hm.number

/-- A call that numbers the session `t`, and registers at most it. -/
theorem assign (h : Replaced old number s) {t : Session} (ht : s.session_id t = 0)
    {m : ConnectionManager} (hlast : m.last_session_number = s.manager.last_session_number + 1)
    (hwriters : ∀ {w x}, m.writer_sessions.find? w = some x →
      x = t ∨ s.manager.writer_sessions.find? w = some x) :
    Replaced old number
      ⟨m, Function.update s.session_id t (s.manager.last_session_number + 1)⟩ := by
  have hne : old ≠ t := fun e => h.old_id (e ▸ ht)
  have hid : Function.update s.session_id t (s.manager.last_session_number + 1) old =
      s.session_id old := Function.update_of_ne hne _ _
  refine ⟨?_, ?_, fun {x} hx => ?_, ?_⟩
  · rw [hlast]
    exact h.numbered.assign t
  · show Function.update s.session_id t (s.manager.last_session_number + 1) old ≠ 0
    rw [hid]
    exact h.old_id
  · show Function.update s.session_id t (s.manager.last_session_number + 1) x ≠
      Function.update s.session_id t (s.manager.last_session_number + 1) old
    rw [hid]
    by_cases hxt : x = t
    -- The new number is above all the others.
    · have := h.numbered.le old
      rw [hxt, Function.update_self]
      omega
    · rw [Function.update_of_ne hxt]
      exact h.other ((hwriters hx).resolve_left hxt)
  · have := h.given
    rw [hlast]
    omega

theorem step (h : Replaced old number s) {c : Sequential.Call}
    (hs : Sequential.step s c = some s') : Replaced old number s' := by
  cases c with
  | addReaderSession session =>
    obtain ⟨hid, ⟨⟩⟩ := Option.ite_none_right_eq_some.mp hs
    obtain ⟨hnumber, hlast, hwriters⟩ := addReaderSession_spec s.manager session
    show Replaced old number ⟨(s.manager.addReaderSession session).1,
      Function.update s.session_id session (s.manager.addReaderSession session).2.2⟩
    rw [hnumber]
    exact h.assign hid hlast fun hx => .inr (by rwa [hwriters] at hx)
  | addWriterSession session =>
    obtain ⟨hid, ⟨⟩⟩ := Option.ite_none_right_eq_some.mp hs
    obtain ⟨hnumber, hlast, -, hwriters⟩ := addWriterSession_spec s.manager session
    show Replaced old number ⟨(s.manager.addWriterSession session).1,
      Function.update s.session_id session (s.manager.addWriterSession session).2.2⟩
    rw [hnumber]
    refine h.assign hid hlast fun hx => ?_
    rw [hwriters, OrdMap.find?_insert] at hx
    split_ifs at hx
    · exact .inl (Option.some.inj hx).symm
    · exact .inr hx
  | removeReaderSession session =>
    cases hs
    obtain ⟨hlast, hwriters⟩ := removeReaderSession_spec s.session_id s.manager session
    exact h.of_registersNone (.of_eq hlast hwriters)
  | removeWriterSession session =>
    cases hs
    obtain ⟨hlast, -, hwriters⟩ := removeWriterSession_spec s.session_id s.manager session
    exact h.of_registersNone ⟨hlast.ge, hwriters⟩
  | rotateWriterConnection w =>
    cases hs
    exact h.of_registersNone (sameSessions_rotateWriterConnection _ w).registersNone
  | resetWriterConnection w =>
    cases hs
    exact h.of_registersNone (sameSessions_resetWriterConnection _ w).registersNone
  | rotateAllConnections =>
    cases hs
    exact h.of_registersNone (sameSessions_rotateAllConnections _).registersNone
  | pointReaderAtWriters r =>
    cases hs
    exact h.of_registersNone (sameSessions_pointReaderAtWriters _ r).registersNone
  | clear =>
    cases hs
    exact h.of_registersNone ⟨le_rfl, fun hw => by simp [clear] at hw⟩

theorem run (h : Replaced old number s) {calls : List Sequential.Call}
    (hrun : run Sequential.step s calls = some s') : Replaced old number s' :=
  run_invariant (Replaced old number) (fun _ _ _ h hs => h.step hs) hrun h

/-- A session that was replaced is not removed any more. -/
theorem removeWriterSession (h : Replaced old number s) :
    s.manager.removeWriterSession s.session_id old = s.manager :=
  removeWriterSession_of_stale fun _ hdead => h.other hdead

end Replaced

/-! ## What `AddWriterSession` does -/

/-- `r` is the smallest address of a reader. -/
structure IsFirstReader (m : ConnectionManager) (r : TcpAddr) : Prop where
  registered : (m.reader_sessions.find? r).isSome
  le : ∀ k, (m.reader_sessions.find? k).isSome → r ≤ k

/-- From `m` to `m'` the writer `s` is registered, and nobody is attached anew. -/
structure RegistersOnly (s : Writer) (m m' : ConnectionManager) : Prop where
  readers : m'.reader_sessions = m.reader_sessions
  writers : m'.writer_sessions = m.writer_sessions.insert s.addr s
  lists : m'.reader_connections = m.reader_connections
  connections : m'.writer_connections = m.writer_connections

/-- From `m` to `m'` the writer `s` is registered, at the back of the list of `r`. -/
structure Joins (s : Writer) (r : TcpAddr) (m m' : ConnectionManager) : Prop where
  readers : m'.reader_sessions = m.reader_sessions
  writers : m'.writer_sessions = m.writer_sessions.insert s.addr s
  lists : ∃ l, m.reader_connections.find? r = some l ∧
    m'.reader_connections = m.reader_connections.insert r (l ++ [s])
  connections : m'.writer_connections = m.writer_connections.insert s.addr r

/-- From `m` to `m'` the writer `s` is registered, at position `i` of the list `l` of `r`. -/
structure TakesPlace (s : Writer) (r : TcpAddr) (l : List Writer) (i : ℕ)
    (m m' : ConnectionManager) : Prop where
  readers : m'.reader_sessions = m.reader_sessions
  writers : m'.writer_sessions = m.writer_sessions.insert s.addr s
  lists : m'.reader_connections = m.reader_connections.insert r (l.set i s)
  connections : m'.writer_connections = m.writer_connections

/-- Without a session of its address, a writer closes nobody. -/
theorem addWriterSession_closes (m : ConnectionManager) (s : Writer) :
    (m.addWriterSession s).2.1 = (m.writer_sessions.find? s.addr).toList := rfl

theorem isFirstReader_of_begin? {m : ConnectionManager} {r : TcpAddr} {first : Reader}
    (hr : m.reader_sessions.begin? = some (r, first)) : IsFirstReader m r := by
  obtain ⟨hfind, hle⟩ := OrdMap.begin?_eq_some hr
  exact ⟨by simp [hfind], hle⟩

/-- The regions of the call for a writer with a new address. -/
theorem addWriterSession_of_new {m : ConnectionManager} {s : Writer}
    (hs : m.writer_sessions.find? s.addr = none) : (m.addWriterSession s).1 =
      ((m.addWriterRegister s).1.addWriterConnect s none none).nextSessionNumber.1 := by
  simp [addWriterSession, addWriterRegister, hs]

/-- The regions of the call for an attached writer that comes back. -/
theorem addWriterSession_of_old {m : ConnectionManager} {s old : Writer} {r : TcpAddr}
    (hs : m.writer_sessions.find? s.addr = some old)
    (hr : m.writer_connections.find? s.addr = some r) : (m.addWriterSession s).1 =
      ((m.addWriterRegister s).1.addWriterConnect s (some old) (some r)).nextSessionNumber.1 := by
  simp [addWriterSession, addWriterRegister, hs, hr, OrdMap.contains]

/-- A writer with a new address joins the list of the first reader. -/
theorem joins_addWriterSession {m : ConnectionManager} {s : Writer} {r : TcpAddr} {first : Reader}
    {l : List Writer} (hs : m.writer_sessions.find? s.addr = none)
    (hr : m.reader_sessions.begin? = some (r, first))
    (hl : m.reader_connections.find? r = some l) : Joins s r m (m.addWriterSession s).1 := by
  have heq : (m.addWriterRegister s).1.addWriterConnect s none none =
      { m with
        writer_sessions := m.writer_sessions.insert s.addr s
        reader_connections := m.reader_connections.insert r (l ++ [s])
        writer_connections := m.writer_connections.insert s.addr r } := by
    simp [addWriterRegister, addWriterConnect, hr, hl]
  rw [addWriterSession_of_new hs, heq]
  exact ⟨rfl, rfl, ⟨l, hl, rfl⟩, rfl⟩

/-- An attached writer that comes back takes the place of its old session. -/
theorem takesPlace_addWriterSession {m : ConnectionManager} {s old : Writer} {r : TcpAddr}
    {l : List Writer} {i : ℕ} (hs : m.writer_sessions.find? s.addr = some old)
    (hr : m.writer_connections.find? s.addr = some r)
    (hl : m.reader_connections.find? r = some l) (hnodup : l.Nodup) (hi : l[i]? = some old) :
    TakesPlace s r l i m (m.addWriterSession s).1 := by
  have heq : (m.addWriterRegister s).1.addWriterConnect s (some old) (some r) =
      { m with
        writer_sessions := m.writer_sessions.insert s.addr s
        reader_connections := m.reader_connections.insert r (l.replace old s) } := by
    simp [addWriterRegister, addWriterConnect, hl]
  rw [addWriterSession_of_old hs hr, heq]
  exact ⟨rfl, rfl, by rw [List.replace_eq_set hnodup hi]; rfl, rfl⟩

/-- Without readers nobody is attached, and there is nobody to attach to. -/
theorem registersOnly_addWriterSession {m : ConnectionManager} {s : Writer}
    (hr : m.reader_sessions = .empty) (hw : m.writer_connections = .empty) :
    RegistersOnly s m (m.addWriterSession s).1 := by
  have heq : (m.addWriterSession s).1 =
      { m with
        last_session_number := m.last_session_number + 1
        writer_sessions := m.writer_sessions.insert s.addr s } := by
    simp [addWriterSession, addWriterRegister, addWriterConnect, nextSessionNumber, hr, hw,
      OrdMap.contains, OrdMap.begin?_eq_none.mpr rfl]
  rw [heq]
  exact ⟨rfl, rfl, rfl, rfl⟩

/-! ## Every writer stays attached -/

namespace FullyAttached

variable {m : ConnectionManager}

/-- With a reader the attached writers are the registered ones. -/
theorem linked_writers (h : FullyAttached m) (hr : m.reader_sessions ≠ .empty) :
    Linked m.writer_sessions.find? m := by
  have heq : attachedWriters m = m.writer_sessions.find? := by
    funext w
    unfold attachedWriters
    split_ifs with hw
    · rfl
    · rw [eq_comm, ← Option.not_isSome_iff_eq_none]
      exact fun hs => hw ((h.attached_iff hs).mpr hr)
  rw [← heq]
  exact h.linked

/-- Without readers there are no lists. -/
theorem reader_connections_eq_empty (h : FullyAttached m) (hr : m.reader_sessions = .empty) :
    m.reader_connections = .empty := by
  rw [OrdMap.eq_empty_iff]
  intro r
  rw [← Option.not_isSome_iff_eq_none, h.reader_keys, hr]
  simp

/-- Without readers nobody is mapped. -/
theorem writer_connections_eq_empty (h : FullyAttached m) (hr : m.reader_sessions = .empty) :
    m.writer_connections = .empty := by
  rw [OrdMap.eq_empty_iff]
  intro w
  rw [← Option.not_isSome_iff_eq_none]
  intro hw
  obtain ⟨r, hr'⟩ := Option.isSome_iff_exists.mp hw
  simpa [h.reader_connections_eq_empty hr] using h.linked.listed hr'

/-- A manager with a reader whose lists are those of its registered writers. -/
theorem of_linked (h : Linked m.writer_sessions.find? m) (hr : m.reader_sessions ≠ .empty)
    (hkeys : ∀ r, (m.reader_sessions.find? r).isSome → (m.reader_connections.find? r).isSome) :
    FullyAttached m where
  toAttachment := h.attachment hkeys h.addr_eq fun hw => hw
  attached_iff {w} hw := by
    rw [h.mapped_iff]
    exact iff_of_true hw hr

/-- A manager without readers. -/
theorem of_empty (hr : m.reader_sessions = .empty) (hl : m.reader_connections = .empty)
    (hw : m.writer_connections = .empty)
    (hkeyed : ∀ {w s}, m.writer_sessions.find? w = some s → s.addr = w) : FullyAttached m where
  reader_keys r := by simp [hr, hl]
  keyed := hkeyed
  current hx := by simp [hw] at hx
  listed hx := by simp [hl] at hx
  nodup hx := by simp [hl] at hx
  attached_iff _ := by simp [hr, hw]

/-- `AddWriterSession` keeps every writer attached. -/
theorem addWriterSession (h : FullyAttached m) (s : Writer) :
    FullyAttached (m.addWriterSession s).1 := by
  obtain ⟨-, -, hreaders, hwriters⟩ := addWriterSession_spec m s
  by_cases hr : m.reader_sessions = .empty
  · have hw := h.writer_connections_eq_empty hr
    obtain ⟨-, -, hlists, hmap⟩ := registersOnly_addWriterSession (s := s) hr hw
    refine of_empty (hreaders.trans hr) (hlists.trans (h.reader_connections_eq_empty hr))
      (hmap.trans hw) fun hx => ?_
    rw [hwriters, OrdMap.find?_insert] at hx
    split_ifs at hx with hws
    · rw [← Option.some.inj hx, hws]
    · exact h.keyed hx
  · -- The first region registers the writer; until the second the maps describe the old writers.
    have hm₁ : Linked m.writer_sessions.find? (m.addWriterRegister s).1 :=
      (h.linked_writers hr).congr rfl rfl fun _ hx => hx
    obtain ⟨-, -, -, hkeys⟩ := addWriterConnect_spec (m.addWriterRegister s).1 s
      (m.addWriterRegister s).2.1
      (if (m.addWriterRegister s).2.2 then
        (m.addWriterRegister s).1.writer_connections.find? s.addr else none)
    have hupdate : (m.addWriterSession s).1.writer_sessions.find? =
        Function.update m.writer_sessions.find? s.addr (some s) := by
      funext w
      rw [hwriters, OrdMap.find?_insert]
      by_cases hws : w = s.addr
      · rw [if_pos hws, hws, Function.update_self]
      · rw [if_neg hws, Function.update_of_ne hws]
    refine of_linked ?_ (by rw [hreaders]; exact hr) fun r hx => ?_
    · rw [hupdate]
      cases hs : m.writer_sessions.find? s.addr with
      | none =>
        -- A new writer goes to the first reader.
        obtain ⟨⟨r, first⟩, hbegin⟩ :=
          Option.ne_none_iff_exists'.mp (mt OrdMap.begin?_eq_none.mp hr)
        obtain ⟨hfirst, -⟩ := OrdMap.begin?_eq_some hbegin
        obtain ⟨l, hl⟩ := Option.isSome_iff_exists.mp ((h.reader_keys r).mpr (by simp [hfirst]))
        rw [addWriterSession_of_new hs]
        have hconnect : Linked _ ((m.addWriterRegister s).1.addWriterConnect s none none) :=
          hm₁.addWriterConnect_new hs hbegin hl
        exact hconnect.congr rfl rfl fun _ hx => hx
      | some old =>
        have hreg : (m.writer_sessions.find? s.addr).isSome := by rw [hs]; rfl
        obtain ⟨r, hr'⟩ := Option.isSome_iff_exists.mp ((h.attached_iff hreg).mpr hr)
        rw [addWriterSession_of_old hs hr']
        have hconnect := hm₁.addWriterConnect_replace hs hr'
        exact hconnect.congr rfl rfl fun _ hx => hx
    · rw [hreaders, ← h.reader_keys] at hx
      exact (hkeys r).mpr hx

end FullyAttached

/-- `AddWriterSession` numbers its session with a number that nobody has. -/
theorem DistinctIds.addWriterSession {session_id : Session → ℕ} {m : ConnectionManager}
    (h : DistinctIds session_id m) (s : Writer) :
    DistinctIds (Function.update session_id s (m.addWriterSession s).2.2)
      (m.addWriterSession s).1 := by
  obtain ⟨hnumber, hlast, -, hwriters⟩ := addWriterSession_spec m s
  rw [hnumber]
  refine ⟨?_, fun {w x} hx => ?_⟩
  · rw [hlast]
    exact h.numbered.assign s
  · by_cases hxs : x = s
    · rw [hxs, Function.update_self]
      omega
    · rw [hwriters, OrdMap.find?_insert] at hx
      rw [Function.update_of_ne hxs]
      split_ifs at hx
      · exact absurd (Option.some.inj hx).symm hxs
      · exact h.registered hx

/-- Calls that do not overlap and wipe out no list keep the session numbers distinct. -/
theorem Sequential.distinctIds_of_run {s : Sequential.State} {calls : List Sequential.Call}
    (halong : Along Sequential.step Sequential.KeepsList Sequential.initial calls)
    (hrun : StepSystem.run Sequential.step Sequential.initial calls = some s) :
    DistinctIds s.session_id s.manager := by
  have hinv := halong.run_invariant Sequential.Inv (fun _ _ _ h hk hs => h.step hk hs) hrun
    Sequential.inv_initial
  exact ⟨hinv.numbered, hinv.writer_id⟩

/-- What the call of `AddWriterSession` with the session `s` does to `m`. -/
structure AddsWriter (session_id : Session → ℕ) (s : Writer) (m : ConnectionManager) : Prop where
  /-- A writer with a new address joins the list of the first reader, if there is a reader, and
  nobody is closed. -/
  joins : m.writer_sessions.find? s.addr = none → (m.addWriterSession s).2.1 = [] ∧
    (m.reader_sessions ≠ .empty → ∃ r, IsFirstReader m r ∧ Joins s r m (m.addWriterSession s).1) ∧
    (m.reader_sessions = .empty → RegistersOnly s m (m.addWriterSession s).1)
  /-- A writer that comes back takes the place of its old session `o`, if that was attached, and
  `o` alone is closed, once. -/
  takesPlace : ∀ {o}, m.writer_sessions.find? s.addr = some o → (m.addWriterSession s).2.1 = [o] ∧
    (∀ {r l i}, m.writer_connections.find? s.addr = some r →
      m.reader_connections.find? r = some l → l[i]? = some o →
      TakesPlace s r l i m (m.addWriterSession s).1) ∧
    (m.reader_sessions = .empty → RegistersOnly s m (m.addWriterSession s).1)
  /-- The returned number is larger than every number that was given out. -/
  number : ∀ t, session_id t < (m.addWriterSession s).2.2
  attached : FullyAttached (m.addWriterSession s).1
  ids : DistinctIds (Function.update session_id s (m.addWriterSession s).2.2)
    (m.addWriterSession s).1
  /-- After any further calls, the numbers they return are larger still, and a
  `RemoveWriterSession` of the old session changes nothing. -/
  later : ∀ {o calls s'}, m.writer_sessions.find? s.addr = some o →
    run Sequential.step ⟨(m.addWriterSession s).1,
      Function.update session_id s (m.addWriterSession s).2.2⟩ calls = some s' →
    (∀ t, (m.addWriterSession s).2.2 < (s'.manager.addWriterSession t).2.2 ∧
      (m.addWriterSession s).2.2 < (s'.manager.addReaderSession t).2.2) ∧
    s'.manager.removeWriterSession s'.session_id o = s'.manager

/-- `AddWriterSession` of a session that was never registered, over a manager that attaches every
writer and numbers every session once. -/
theorem addWriterSession_addsWriter {session_id : Session → ℕ} {m : ConnectionManager}
    (h : FullyAttached m) (hids : DistinctIds session_id m) {s : Writer} (hs : session_id s = 0) :
    AddsWriter session_id s m := by
  obtain ⟨hnumber, hlast, -, hwriters⟩ := addWriterSession_spec m s
  have hempty (hr : m.reader_sessions = .empty) : RegistersOnly s m (m.addWriterSession s).1 :=
    registersOnly_addWriterSession hr (h.writer_connections_eq_empty hr)
  refine ⟨fun hnone => ⟨?_, fun hr => ?_, hempty⟩, fun {o} ho => ⟨?_, fun hr hl hi => ?_, hempty⟩,
    fun t => ?_, h.addWriterSession s, hids.addWriterSession s, fun {o calls s'} ho hrun => ?_⟩
  · rw [addWriterSession_closes, hnone]
    rfl
  · obtain ⟨⟨r, first⟩, hbegin⟩ := Option.ne_none_iff_exists'.mp (mt OrdMap.begin?_eq_none.mp hr)
    have hfirst := isFirstReader_of_begin? hbegin
    obtain ⟨l, hl⟩ := Option.isSome_iff_exists.mp ((h.reader_keys r).mpr hfirst.registered)
    exact ⟨r, hfirst, joins_addWriterSession hnone hbegin hl⟩
  · rw [addWriterSession_closes, ho]
    rfl
  · exact takesPlace_addWriterSession ho hr hl (h.nodup hl) hi
  · have := hids.numbered.le t
    rw [hnumber]
    omega
  · -- The old session had a number, and the new one has another.
    have hoid := hids.registered ho
    have hne : o ≠ s := fun e => hoid (e ▸ hs)
    have hold : Replaced o (m.addWriterSession s).2.2 ⟨(m.addWriterSession s).1,
        Function.update session_id s (m.addWriterSession s).2.2⟩ := by
      have hoaddr := h.keyed ho
      refine ⟨(hids.addWriterSession s).numbered, ?_, fun {x} hx => ?_, by rw [hnumber, hlast]⟩
      · show Function.update session_id s (m.addWriterSession s).2.2 o ≠ 0
        rw [Function.update_of_ne hne]
        exact hoid
      · show Function.update session_id s (m.addWriterSession s).2.2 x ≠
          Function.update session_id s (m.addWriterSession s).2.2 o
        replace hx : (m.addWriterSession s).1.writer_sessions.find? o.addr = some x := hx
        rw [hwriters, hoaddr, OrdMap.find?_insert_self] at hx
        obtain rfl := Option.some.inj hx
        have := hids.numbered.le o
        rw [Function.update_self, Function.update_of_ne hne, hnumber]
        omega
    have hlater := hold.run hrun
    have hgiven := hlater.given
    refine ⟨fun t => ⟨?_, ?_⟩, hlater.removeWriterSession⟩
    · rw [(addWriterSession_spec s'.manager t).1]
      omega
    · rw [(addReaderSession_spec s'.manager t).1]
      omega

/-- A headset that watches the first of two cameras comes back. -/
theorem addWriterSession_addsWriter_back : ∃ s, run Sequential.step Sequential.initial
    [.addReaderSession ⟨1, 10⟩, .addReaderSession ⟨2, 11⟩, .addWriterSession ⟨3, 20⟩] = some s ∧
    s.manager.writer_sessions.find? 20 = some ⟨3, 20⟩ ∧
    AddsWriter s.session_id ⟨4, 20⟩ s.manager := by
  obtain ⟨s, hs, hold, hnew⟩ : ∃ s, run Sequential.step Sequential.initial
      [.addReaderSession ⟨1, 10⟩, .addReaderSession ⟨2, 11⟩, .addWriterSession ⟨3, 20⟩] = some s ∧
      s.manager.writer_sessions.find? 20 = some ⟨3, 20⟩ ∧ s.session_id ⟨4, 20⟩ = 0 :=
    ⟨_, rfl, rfl, rfl⟩
  have hattached := Sequential.fullyAttached_of_run (by decide +kernel) hs
  have hids := Sequential.distinctIds_of_run (by decide +kernel) hs
  exact ⟨s, hs, hold, addWriterSession_addsWriter hattached hids hnew⟩

end AugmentedNormalcy.Server
