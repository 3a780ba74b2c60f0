import AugmentedNormalcy.Server.Sequential

/-!
# Attached writers

`Attachment m` says that the connection maps of `m` attach some of the registered writers to
readers; unlike `Consistent`, it leaves open which ones. A manager that attaches every writer as
soon as there is a reader is `FullyAttached`, and calls that do not overlap keep it so
(`Sequential.fullyAttached_of_run`).

The loss of a reader, `RemoveReaderSession`, hands every writer that it had over to the next reader
in address order (`removeReaderSession_handsOver`).
-/

namespace AugmentedNormalcy.Server

open ConnectionManager StepSystem

/-- The connection maps attach registered writers to registered readers. -/
structure Attachment (m : ConnectionManager) : Prop where
  /-- `_reader_connections` has exactly the keys of `_reader_sessions`. -/
  reader_keys : ∀ r, (m.reader_connections.find? r).isSome ↔ (m.reader_sessions.find? r).isSome
  /-- `_writer_sessions` is keyed by `GetAddr()`. -/
  keyed : ∀ {w s}, m.writer_sessions.find? w = some s → s.addr = w
  /-- The current session of an attached writer is in the list of its reader. -/
  current : ∀ {w r}, m.writer_connections.find? w = some r → ∃ s l,
    m.writer_sessions.find? w = some s ∧ m.reader_connections.find? r = some l ∧ s ∈ l
  /-- A list holds nothing else. -/
  listed : ∀ {r l}, m.reader_connections.find? r = some l → ∀ s ∈ l, ∃ w,
    m.writer_sessions.find? w = some s ∧ m.writer_connections.find? w = some r
  /-- No list holds a session twice. -/
  nodup : ∀ {r l}, m.reader_connections.find? r = some l → l.Nodup

/-- Every writer is attached if there is a reader, and none otherwise. -/
structure FullyAttached (m : ConnectionManager) : Prop extends Attachment m where
  attached_iff : ∀ {w}, (m.writer_sessions.find? w).isSome →
    ((m.writer_connections.find? w).isSome ↔ m.reader_sessions ≠ .empty)

/-- The current sessions of the attached writers. -/
def attachedWriters (m : ConnectionManager) (w : TcpAddr) : Option Writer :=
  if (m.writer_connections.find? w).isSome then m.writer_sessions.find? w else none

theorem attachedWriters_eq_some {m : ConnectionManager} {w : TcpAddr} {s : Writer} :
    attachedWriters m w = some s ↔
      (m.writer_connections.find? w).isSome ∧ m.writer_sessions.find? w = some s := by
  unfold attachedWriters
  split_ifs with h <;> simp [h]

/-- The lists of an attachment mirror `_writer_connections`. -/
theorem Attachment.linked {m : ConnectionManager} (h : Attachment m) :
    Linked (attachedWriters m) m := by
  refine ⟨?_, ?_, h.nodup, ?_, ?_, ?_⟩
  · intro w s hs
    exact h.keyed (attachedWriters_eq_some.mp hs).2
  · intro r l hl s
    rw [attachedWriters_eq_some]
    constructor
    · intro hs
      obtain ⟨w, hw, hr⟩ := h.listed hl s hs
      obtain rfl := h.keyed hw
      exact ⟨⟨by simp [hr], hw⟩, hr⟩
    · rintro ⟨⟨-, hw⟩, hr⟩
      obtain ⟨s', l', hw', hl', hs⟩ := h.current hr
      rw [hw] at hw'
      rw [hl] at hl'
      cases hw'
      cases hl'
      exact hs
  · intro w
    constructor
    · intro hw
      obtain ⟨r, hr⟩ := Option.isSome_iff_exists.mp hw
      obtain ⟨s, -, hs, -⟩ := h.current hr
      exact Option.isSome_iff_exists.mpr ⟨s, attachedWriters_eq_some.mpr ⟨hw, hs⟩⟩
    · intro hw
      obtain ⟨s, hs⟩ := Option.isSome_iff_exists.mp hw
      exact (attachedWriters_eq_some.mp hs).1
  · intro w r hr
    obtain ⟨-, l, -, hl, -⟩ := h.current hr
    simp [hl]
  · exact fun hr => (h.reader_keys _).mp hr

/-- Maps that are linked for registered writers are an attachment. -/
theorem Linked.attachment {attached : TcpAddr → Option Writer} {m : ConnectionManager}
    (h : Linked attached m)
    (hkeys : ∀ r, (m.reader_sessions.find? r).isSome → (m.reader_connections.find? r).isSome)
    (hkeyed : ∀ {w s}, m.writer_sessions.find? w = some s → s.addr = w)
    (hcurrent : ∀ {w s}, attached w = some s → m.writer_sessions.find? w = some s) :
    Attachment m where
  reader_keys r := ⟨h.registered, hkeys r⟩
  keyed := hkeyed
  current hr := by
    obtain ⟨s, l, hs, -, hl, hmem⟩ := h.exists_mem hr
    exact ⟨s, l, hcurrent hs, hl, hmem⟩
  listed hl s hs := by
    obtain ⟨hw, hr⟩ := (h.mem_iff hl s).mp hs
    exact ⟨s.addr, hcurrent hw, hr⟩
  nodup := h.nodup

/-- The operations that move attached writers keep an attachment, and who is attached. -/
theorem Attachment.moved {m m' : ConnectionManager} (h : Attachment m)
    (hm : Moved (attachedWriters m) m m') : Attachment m' := by
  refine hm.linked.attachment (fun r hr => ?_) (fun hw => ?_) (fun hw => ?_)
  · rw [hm.lists, h.reader_keys, ← hm.readers]
    exact hr
  · rw [hm.writers] at hw
    exact h.keyed hw
  · rw [hm.writers]
    exact (attachedWriters_eq_some.mp hw).2

/-- The managers that attach every writer are the consistent ones. -/
theorem fullyAttached_iff {m : ConnectionManager} : FullyAttached m ↔
    Consistent m ∧ ∀ {w s}, m.writer_sessions.find? w = some s → s.addr = w := by
  constructor
  -- From attachment to consistency: a listed session is registered and mapped.
  · intro h
    have hlinked := h.linked
    have hlisted : ∀ {r l}, m.reader_connections.find? r = some l → ∀ s ∈ l,
        m.writer_sessions.find? s.addr = some s ∧ m.writer_connections.find? s.addr = some r := by
      intro r l hl s hs
      obtain ⟨ha, hr⟩ := (hlinked.mem_iff hl s).mp hs
      exact ⟨(attachedWriters_eq_some.mp ha).2, hr⟩
    refine ⟨⟨h.reader_keys, fun hl s hs => (hlisted hl s hs).1, h.nodup, ?_, ?_, ?_⟩, h.keyed⟩
    · intro r r' l l' hl hl' s hs hs'
      have hr := (hlisted hl s hs).2
      rw [(hlisted hl' s hs').2] at hr
      exact (Option.some.inj hr).symm
    · intro w r
      constructor
      · rintro ⟨s, l, hw, hl, hs⟩
        obtain rfl := h.keyed hw
        exact (hlisted hl s hs).2
      · exact h.current
    -- With no reader nobody is mapped, and with one everybody is.
    · split_ifs with hr
      · rw [OrdMap.eq_empty_iff]
        intro w
        rw [← Option.not_isSome_iff_eq_none]
        intro hw
        obtain ⟨r, hr'⟩ := Option.isSome_iff_exists.mp hw
        simpa [hr] using hlinked.registered (hlinked.listed hr')
      · intro w
        refine ⟨fun hw => ?_, fun hw => (h.attached_iff hw).mpr hr⟩
        obtain ⟨r, hr'⟩ := Option.isSome_iff_exists.mp hw
        obtain ⟨s, -, hs, -⟩ := h.current hr'
        simp [hs]
  · rintro ⟨h, hkeyed⟩
    refine ⟨⟨h.reader_keys, hkeyed, (h.mapped _ _).mpr, ?_, h.nodup⟩, ?_⟩
    · intro r l hl s hs
      have hw := h.current hl s hs
      exact ⟨s.addr, hw, (h.mapped _ _).mp ⟨s, l, hw, hl, hs⟩⟩
    · intro w hw
      have hkeys := h.writer_keys
      split_ifs at hkeys with hr
      · simp [hkeys, hr]
      · exact ⟨fun _ => hr, fun _ => (hkeys w).mpr hw⟩

/-- Calls that do not overlap and wipe out no list keep every writer attached. -/
theorem Sequential.fullyAttached_of_run {s : Sequential.State} {calls : List Sequential.Call}
    (halong : Along Sequential.step Sequential.KeepsList Sequential.initial calls)
    (hrun : run Sequential.step Sequential.initial calls = some s) : FullyAttached s.manager := by
  have hinv := halong.run_invariant Sequential.Inv (fun _ _ _ h hk hs => h.step hk hs) hrun
    Sequential.inv_initial
  exact fullyAttached_iff.mpr ⟨hinv.manager.consistent, hinv.manager.addressed.writer⟩

/-! ## Losing a reader -/

/-- `session` is the registered session of its address, by session id. -/
def IsRegistered (session_id : Session → ℕ) (m : ConnectionManager) (session : Reader) : Prop :=
  ∃ dead, m.reader_sessions.find? session.addr = some dead ∧
    session_id dead = session_id session

/-- From `m` to `m'` the reader `r` is gone, and the writers that it had are at the back of the list
of `q`. -/
structure HandedOver (r q : TcpAddr) (m m' : ConnectionManager) : Prop where
  number : m'.last_session_number = m.last_session_number
  readers : m'.reader_sessions = m.reader_sessions.erase r
  writers : m'.writer_sessions = m.writer_sessions
  lists : ∃ lr lq, m.reader_connections.find? r = some lr ∧ m.reader_connections.find? q = some lq ∧
    ∀ k, m'.reader_connections.find? k =
      if k = r then none else if k = q then some (lq ++ lr) else m.reader_connections.find? k
  connections : ∀ w, m'.writer_connections.find? w =
    if m.writer_connections.find? w = some r then some q else m.writer_connections.find? w

theorem handedOver_handOver {m : ConnectionManager} {r q : TcpAddr}
    (hr : (m.reader_connections.find? r).isSome) (hq : (m.reader_connections.find? q).isSome) :
    HandedOver r q m (handOver m r q) := by
  obtain ⟨lr, hr⟩ := Option.isSome_iff_exists.mp hr
  obtain ⟨lq, hq⟩ := Option.isSome_iff_exists.mp hq
  refine ⟨rfl, rfl, rfl, ⟨lr, lq, hr, hq, fun k => ?_⟩, fun w => ?_⟩
  · simp [handOver, OrdMap.find?_erase, OrdMap.find?_insert, hr, hq]
  · rw [find?_writer_handOver]
    cases m.writer_connections.find? w with
    | none => simp
    | some x => by_cases hx : x = r <;> simp [hx]

/-- Dropping a reader without writers is handing its empty list over. -/
theorem Linked.handedOver_dropReader {attached : TcpAddr → Option Writer} {m : ConnectionManager}
    (h : Linked attached m) {r q : TcpAddr} (hr : m.reader_connections.find? r = some [])
    (hq : (m.reader_connections.find? q).isSome) : HandedOver r q m (Server.dropReader m r) := by
  obtain ⟨lq, hq⟩ := Option.isSome_iff_exists.mp hq
  refine ⟨rfl, rfl, rfl, ⟨[], lq, hr, hq, fun k => ?_⟩, fun w => ?_⟩
  · simp only [Server.dropReader, OrdMap.find?_erase, List.append_nil]
    split_ifs with hkr hkq
    · rfl
    · rw [hkq, hq]
    · rfl
  · rw [if_neg (h.ne_of_nil hr w)]
    rfl

/-- The handover keeps every writer attached. -/
theorem FullyAttached.of_handedOver {m m' : ConnectionManager} (h : FullyAttached m)
    {r q : TcpAddr} (hqr : q ≠ r) (hm : HandedOver r q m m')
    (hlinked : Linked (attachedWriters m) m') : FullyAttached m' := by
  obtain ⟨lr, lq, -, hq, hlists⟩ := hm.lists
  -- There was a reader besides `r`, namely `q`, and it is still there.
  have hqs : (m.reader_sessions.find? q).isSome := (h.reader_keys q).mp (by simp [hq])
  have hne : m.reader_sessions ≠ .empty := OrdMap.ne_empty_iff.mpr ⟨q, hqs⟩
  have hne' : m'.reader_sessions ≠ .empty := OrdMap.ne_empty_iff.mpr
    ⟨q, by rw [hm.readers, OrdMap.find?_erase, if_neg hqr]; exact hqs⟩
  refine ⟨hlinked.attachment (fun k hk => ?_) (fun hw => ?_) (fun hw => ?_), fun {w} hw => ?_⟩
  · rw [hm.readers, OrdMap.find?_erase] at hk
    rw [hlists]
    split_ifs at hk with hkr
    · simp at hk
    · rw [if_neg hkr]
      split_ifs
      · rfl
      · exact (h.reader_keys k).mpr hk
  · rw [hm.writers] at hw
    exact h.keyed hw
  · rw [hm.writers]
    exact (attachedWriters_eq_some.mp hw).2
  · rw [hm.writers] at hw
    have hattached := h.attached_iff hw
    rw [hm.connections]
    split_ifs with hr
    · simp [hne']
    · rw [hattached]
      exact iff_of_true hne hne'

/-- Without readers nobody is attached. -/
theorem FullyAttached.withoutReaders {m : ConnectionManager} (h : FullyAttached m) :
    FullyAttached (Server.withoutReaders m) where
  reader_keys r := by simp [Server.withoutReaders]
  keyed := h.keyed
  current hr := by simp [Server.withoutReaders] at hr
  listed hl := by simp [Server.withoutReaders] at hl
  nodup hl := by simp [Server.withoutReaders] at hl
  attached_iff _ := by simp [Server.withoutReaders]

/-- `RemoveReaderSession` of a session that is not registered changes nothing; that of the only
reader removes every connection; that of any other hands its writers over to the next reader in
address order, the first after the last. In each case every writer is attached afterwards if there
is a reader. -/
theorem removeReaderSession_handsOver {m : ConnectionManager} (h : FullyAttached m)
    (session_id : Session → ℕ) (session : Reader) :
    (¬ IsRegistered session_id m session → m.removeReaderSession session_id session = m) ∧
      (IsRegistered session_id m session → m.reader_sessions.size = 1 →
        m.removeReaderSession session_id session = Server.withoutReaders m) ∧
      (IsRegistered session_id m session → m.reader_sessions.size ≠ 1 → ∃ i q,
        m.reader_sessions.keys[i]? = some session.addr ∧
        m.reader_sessions.keys[(i + 1) % m.reader_sessions.size]? = some q ∧ q ≠ session.addr ∧
        HandedOver session.addr q m (m.removeReaderSession session_id session)) ∧
      FullyAttached (m.removeReaderSession session_id session) := by
  by_cases hreg : IsRegistered session_id m session
  · obtain ⟨dead, hdead, hid⟩ := hreg
    have hone :=
      OrdMap.size_eq_one_iff (m := m.reader_sessions) (k := session.addr) (by simp [hdead])
    by_cases hsize : m.reader_sessions.size = 1
    -- The only reader.
    · have heq := removeReaderSession_of_alone hdead hid (hone.mp hsize)
      refine ⟨fun hnot => absurd ⟨dead, hdead, hid⟩ hnot, fun _ _ => heq,
        fun _ hne => absurd hsize hne, ?_⟩
      rw [heq]
      exact h.withoutReaders
    · have hother := mt hone.mpr hsize
      push Not at hother
      obtain ⟨j, hj, hne⟩ := hother
      obtain ⟨l, hl⟩ :=
        Option.isSome_iff_exists.mp ((h.reader_keys session.addr).mpr (by simp [hdead]))
      -- The successor, by position and by the iterator.
      obtain ⟨q, x, hq, hqr⟩ := OrdMap.exists_cyclicNext? hj hne
      obtain ⟨i, -, hi⟩ := OrdMap.exists_getElem?_keys (m := m.reader_sessions) (k := session.addr)
        (by simp [hdead])
      have hpos : m.reader_sessions.keys[(i + 1) % m.reader_sessions.size]? = some q := by
        rw [OrdMap.cyclicNext?_eq_getElem? hi] at hq
        simp [OrdMap.keys, hq]
      have hqs : (m.reader_sessions.find? q).isSome := by simp [OrdMap.cyclicNext?_eq_some hq]
      have hql := (h.reader_keys q).mpr hqs
      -- Dropping a reader without writers is a handover too, of an empty list.
      have hresult : HandedOver session.addr q m (m.removeReaderSession session_id session) ∧
          Linked (attachedWriters m) (m.removeReaderSession session_id session) := by
        rcases removeReaderSession_eq h.linked hdead hid hj hne hl with
          ⟨rfl, he⟩ | ⟨-, q', x', hq', -, he⟩
        · rw [he]
          exact ⟨h.linked.handedOver_dropReader hl hql, h.linked.dropReader hl⟩
        · rw [hq] at hq'
          cases hq'
          rw [he]
          exact ⟨handedOver_handOver (by simp [hl]) hql, h.linked.handOver hqr (by simp [hl]) hqs⟩
      exact ⟨fun hnot => absurd ⟨dead, hdead, hid⟩ hnot, fun _ hone' => absurd hone' hsize,
        fun _ _ => ⟨i, q, hi, hpos, hqr, hresult.1⟩, h.of_handedOver hqr hresult.1 hresult.2⟩
  -- A session that is not registered is not removed.
  · have heq : m.removeReaderSession session_id session = m :=
      removeReaderSession_of_stale fun dead hdead hid => hreg ⟨dead, hdead, hid⟩
    refine ⟨fun _ => heq, fun hyes => absurd hyes hreg, fun hyes => absurd hyes hreg, ?_⟩
    rw [heq]
    exact h

/-- Of two cameras, the loss of the one that both headsets watch. -/
theorem removeReaderSession_handsOver_two : ∃ s, run Sequential.step Sequential.initial
    [.addReaderSession ⟨1, 10⟩, .addReaderSession ⟨2, 11⟩, .addWriterSession ⟨3, 20⟩,
      .addWriterSession ⟨4, 21⟩] = some s ∧
    ∃ i q, s.manager.reader_sessions.keys[i]? = some 10 ∧
      s.manager.reader_sessions.keys[(i + 1) % s.manager.reader_sessions.size]? = some q ∧ q ≠ 10 ∧
      HandedOver 10 q s.manager (s.manager.removeReaderSession s.session_id ⟨1, 10⟩) := by
  obtain ⟨s, hs, hreg, hsize⟩ : ∃ s, run Sequential.step Sequential.initial
      [.addReaderSession ⟨1, 10⟩, .addReaderSession ⟨2, 11⟩, .addWriterSession ⟨3, 20⟩,
        .addWriterSession ⟨4, 21⟩] = some s ∧
      IsRegistered s.session_id s.manager ⟨1, 10⟩ ∧ s.manager.reader_sessions.size ≠ 1 :=
    ⟨_, rfl, ⟨⟨1, 10⟩, rfl, rfl⟩, by decide +kernel⟩
  have hfull := Sequential.fullyAttached_of_run (by decide +kernel) hs
  exact ⟨s, hs, (removeReaderSession_handsOver hfull s.session_id ⟨1, 10⟩).2.2.1 hreg hsize⟩

end AugmentedNormalcy.Server
