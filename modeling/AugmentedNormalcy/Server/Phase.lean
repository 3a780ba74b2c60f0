import AugmentedNormalcy.Server.Consistent

/-!
# The invariant of the manager, between locked regions

An `Add` in progress has registered its session and not yet attached it. `Phase` says which one is
in progress, `Phase.attached` which writers the connection maps must describe in the meantime, and
`Invariant` is what holds of the manager in that phase. Each locked region has one lemma that takes
the invariant of its phase to the invariant of the next; the hypotheses of the two second regions
are what an operation between the regions can destroy.
-/

namespace AugmentedNormalcy.Server

open ConnectionManager

/-- The `Add` whose second locked region is still to come. -/
inductive Phase where
  | idle
  | addingReader (session : Reader) (is_first_reader : Bool)
  /-- `old` is the session that the new one replaces in the list of a reader. -/
  | addingWriter (session : Writer) (old : Option Writer)
deriving DecidableEq

/-- The writers that the connection maps describe. -/
def Phase.attached (p : Phase) (m : ConnectionManager) : TcpAddr → Option Writer :=
  if m.reader_sessions = .empty then fun _ => none
  else
    match p with
    | .idle => m.writer_sessions.find?
    | .addingReader _ is_first_reader =>
      if is_first_reader then fun _ => none else m.writer_sessions.find?
    | .addingWriter session old => Function.update m.writer_sessions.find? session.addr old

/-- The reader that need not have a list. -/
def Phase.unlisted : Phase → Option TcpAddr
  | .addingReader session _ => some session.addr
  | _ => none

/-- What the first locked region has registered. -/
def Phase.Registered (m : ConnectionManager) : Phase → Prop
  | .idle => True
  | .addingReader session is_first_reader =>
    m.reader_sessions.find? session.addr = some session ∧
      (is_first_reader = true → m.reader_connections = .empty ∧
        ∀ r, (m.reader_sessions.find? r).isSome → r = session.addr)
  | .addingWriter session _ =>
    m.reader_sessions ≠ .empty → m.writer_sessions.find? session.addr = some session

/-- Sessions are registered under their own addresses. -/
structure Addressed (m : ConnectionManager) : Prop where
  reader : ∀ {r s}, m.reader_sessions.find? r = some s → s.addr = r
  writer : ∀ {w s}, m.writer_sessions.find? w = some s → s.addr = w

theorem Addressed.congr {m m' : ConnectionManager} (h : Addressed m)
    (hr : m'.reader_sessions = m.reader_sessions) (hw : m'.writer_sessions = m.writer_sessions) :
    Addressed m' where
  reader hx := h.reader (hr ▸ hx)
  writer hx := h.writer (hw ▸ hx)

/-- What holds of the manager in a phase. -/
structure Invariant (p : Phase) (m : ConnectionManager) : Prop where
  linked : Linked (p.attached m) m
  addressed : Addressed m
  /-- Every reader has a list, except the one that is being added. -/
  listed : ∀ r, (m.reader_sessions.find? r).isSome →
    (m.reader_connections.find? r).isSome ∨ p.unlisted = some r
  registered : p.Registered m

namespace Invariant

variable {p : Phase} {m m' : ConnectionManager}

theorem attached_of_empty (p : Phase) (hr : m.reader_sessions = .empty) :
    p.attached m = fun _ => none := if_pos hr

/-- Without readers there are no lists. -/
theorem lists_of_empty (h : Invariant p m) (hr : m.reader_sessions = .empty) :
    m.reader_connections = .empty := by
  rw [OrdMap.eq_empty_iff]
  intro r
  rw [← Option.not_isSome_iff_eq_none]
  intro hl
  simpa [hr] using h.linked.registered hl

/-- Without lists nobody is mapped. -/
theorem mapped_of_empty (h : Invariant p m) (hr : m.reader_connections = .empty) :
    m.writer_connections = .empty := by
  rw [OrdMap.eq_empty_iff]
  intro w
  rw [← Option.not_isSome_iff_eq_none, h.linked.mapped_iff, h.linked.attached_eq_none hr w]
  simp

/-- An attached writer's address is registered. -/
theorem attached_registered (h : Invariant p m) {w : TcpAddr} (hw : (p.attached m w).isSome) :
    (m.writer_sessions.find? w).isSome := by
  unfold Phase.attached at hw
  split_ifs at hw with hr
  · simp at hw
  cases p with
  | idle => exact hw
  | addingReader session is_first_reader =>
    dsimp only at hw
    split_ifs at hw
    · simp at hw
    · exact hw
  | addingWriter session old =>
    dsimp only at hw
    by_cases hs : w = session.addr
    · rw [hs, h.registered hr]
      rfl
    · rwa [Function.update_of_ne hs] at hw

/-- When no `Add` is in progress, the invariant makes the manager consistent. -/
theorem consistent (h : Invariant .idle m) : Consistent m := by
  have hlists : ∀ r, (m.reader_sessions.find? r).isSome → (m.reader_connections.find? r).isSome :=
    fun r hr => (h.listed r hr).resolve_right (by simp [Phase.unlisted])
  -- A listed session is the registered one, since nobody is being added.
  have hlisted : ∀ {r l}, m.reader_connections.find? r = some l → ∀ s ∈ l,
      m.writer_sessions.find? s.addr = some s ∧ m.writer_connections.find? s.addr = some r := by
    intro r l hl s hs
    obtain ⟨ha, hw⟩ := (h.linked.mem_iff hl s).mp hs
    unfold Phase.attached at ha
    split_ifs at ha
    exact ⟨ha, hw⟩
  refine ⟨fun r => ⟨h.linked.registered, hlists r⟩, fun hl s hs => (hlisted hl s hs).1,
    h.linked.nodup, ?_, ?_, ?_⟩
  · intro r r' l l' hl hl' s hs hs'
    have h1 := (hlisted hl s hs).2
    rw [(hlisted hl' s hs').2] at h1
    exact (Option.some.inj h1).symm
  · intro w r
    constructor
    · rintro ⟨s, l, hw, hl, hs⟩
      rw [← h.addressed.writer hw]
      exact (hlisted hl s hs).2
    · intro hw
      obtain ⟨s, l, -, rfl, hl, hs⟩ := h.linked.exists_mem hw
      exact ⟨s, l, (hlisted hl s hs).1, hl, hs⟩
  · split_ifs with hr
    · exact h.mapped_of_empty (h.lists_of_empty hr)
    · intro w
      rw [h.linked.mapped_iff, Phase.attached, if_neg hr]

theorem initial : Invariant .idle initial := by
  refine ⟨?_, ⟨fun h => ?_, fun h => ?_⟩, fun r hr => ?_, trivial⟩
  · rw [attached_of_empty _ rfl]
    exact Linked.of_empty rfl rfl
  · simp [ConnectionManager.initial] at h
  · simp [ConnectionManager.initial] at h
  · simp [ConnectionManager.initial] at hr

/-- The session number is no part of the invariant. -/
theorem of_nextSessionNumber (h : Invariant p m) : Invariant p m.nextSessionNumber.1 :=
  ⟨h.linked.congr rfl rfl fun _ hr => hr, ⟨h.addressed.reader, h.addressed.writer⟩, h.listed,
    by cases p <;> exact h.registered⟩

/-! ## The two regions of `AddReaderSession` -/

theorem addReaderRegister (h : Invariant .idle m) (s : Reader) :
    Invariant (.addingReader s (m.addReaderRegister s).2.1) (m.addReaderRegister s).1 := by
  have hne : (m.addReaderRegister s).1.reader_sessions ≠ .empty :=
    OrdMap.ne_empty_iff.mpr ⟨s.addr, by simp [ConnectionManager.addReaderRegister]⟩
  have hfind : ∀ r, (m.addReaderRegister s).1.reader_sessions.find? r =
      if r = s.addr then some s else m.reader_sessions.find? r :=
        fun r => OrdMap.find?_insert _ _ _ _
  have hfirst : (m.addReaderRegister s).2.1 = true ↔ m.reader_sessions = .empty := by
    rw [← OrdMap.size_eq_zero]
    exact beq_iff_eq
  have hlinked : Linked (Phase.idle.attached m) (m.addReaderRegister s).1 := by
    refine h.linked.congr rfl rfl fun r hr => ?_
    rw [hfind]
    split_ifs
    · rfl
    · exact hr
  refine ⟨?_, ⟨fun {r x} hx => ?_, h.addressed.writer⟩, fun r hr => ?_, ?_, fun htrue => ?_⟩
  · -- The first reader attaches nobody yet, a later one changes nothing.
    convert hlinked using 1
    simp only [Phase.attached, if_neg hne]
    by_cases hr : m.reader_sessions = .empty
    · rw [if_pos (hfirst.mpr hr), if_pos hr]
    · rw [if_neg (fun ht => hr (hfirst.mp ht)), if_neg hr]
      rfl
  · rw [hfind] at hx
    split_ifs at hx with hrs
    · cases hx
      exact hrs.symm
    · exact h.addressed.reader hx
  · rw [hfind] at hr
    split_ifs at hr with hrs
    · exact Or.inr (by rw [hrs]; rfl)
    · exact Or.inl ((h.listed r hr).resolve_right (by simp [Phase.unlisted]))
  · rw [hfind, if_pos rfl]
  · have hempty := hfirst.mp htrue
    refine ⟨h.lists_of_empty hempty, fun r hr => ?_⟩
    rw [hfind] at hr
    by_contra hne
    rw [if_neg hne, hempty] at hr
    simp at hr

/-- The second region restores the invariant, unless it wipes out a list that holds writers. -/
theorem addReaderConnect {s : Reader} {is_first_reader : Bool}
    (h : Invariant (.addingReader s is_first_reader) m)
    (hlist : is_first_reader = false → (m.reader_connections.find? s.addr).getD [] = []) :
    Invariant .idle (m.addReaderConnect s.addr is_first_reader) := by
  obtain ⟨-, hreaders, hwriters, hlists⟩ := addReaderConnect_spec m s.addr is_first_reader
  obtain ⟨hs, hfirst⟩ := h.registered
  have hsome : (m.reader_sessions.find? s.addr).isSome := by simp [hs]
  have hne : m.reader_sessions ≠ .empty := OrdMap.ne_empty_iff.mpr ⟨s.addr, hsome⟩
  refine ⟨?_, h.addressed.congr hreaders hwriters, fun r hr => ?_, trivial⟩
  -- Every registered writer is attached once the region has run.
  · have hattached : Phase.idle.attached (m.addReaderConnect s.addr is_first_reader) =
        m.writer_sessions.find? := by
      simp only [Phase.attached, hreaders, hwriters, if_neg hne]
    rw [hattached]
    cases is_first_reader with
    -- The first reader found the maps empty, and attaches everybody.
    | true =>
      have hempty := (hfirst rfl).1
      exact Linked.addReaderConnect_first h.addressed.writer hempty (h.mapped_of_empty hempty) hsome
    -- A later one attaches nobody, and gets an empty list.
    | false =>
      have hlinked : Linked m.writer_sessions.find? m := by
        simpa [Phase.attached, hne] using h.linked
      exact hlinked.addReaderConnect_later (hlist rfl) hsome
  · rw [hreaders] at hr
    rw [hlists]
    -- The reader that had no list has one now.
    rcases h.listed r hr with hl | hu
    · exact Or.inl (Or.inr hl)
    · exact Or.inl (Or.inl (Option.some.inj hu).symm)

/-! ## The two regions of `AddWriterSession` -/

theorem addWriterRegister (h : Invariant .idle m) (s : Writer) :
    Invariant (.addingWriter s
      (if (m.addWriterRegister s).2.2 then (m.addWriterRegister s).2.1 else none))
      (m.addWriterRegister s).1 := by
  have hfind : ∀ w, (m.addWriterRegister s).1.writer_sessions.find? w =
      if w = s.addr then some s else m.writer_sessions.find? w :=
        fun w => OrdMap.find?_insert _ _ _ _
  have hlinked : Linked (Phase.idle.attached m) (m.addWriterRegister s).1 :=
    h.linked.congr rfl rfl fun _ hr => hr
  refine ⟨?_, ⟨h.addressed.reader, fun {w x} hx => ?_⟩, fun r hr => ?_, fun _ => ?_⟩
  · convert hlinked using 1
    by_cases hr : m.reader_sessions = .empty
    · have hr' : (m.addWriterRegister s).1.reader_sessions = .empty := hr
      rw [attached_of_empty _ hr', attached_of_empty _ hr]
    · have hmapped := h.linked.mapped_iff s.addr
      simp only [Phase.attached, if_neg hr] at hmapped
      have hr' : (m.addWriterRegister s).1.reader_sessions ≠ .empty := hr
      simp only [Phase.attached, if_neg hr, if_neg hr']
      funext w
      by_cases hw : w = s.addr
      · subst hw
        rw [Function.update_self]
        -- The pointer is null only when there is no session to replace.
        cases hold : m.writer_sessions.find? s.addr with
        | none => simp [ConnectionManager.addWriterRegister, hold]
        | some old =>
          rw [hold] at hmapped
          simp [ConnectionManager.addWriterRegister, hold, OrdMap.contains, hmapped]
      · rw [Function.update_of_ne hw, hfind, if_neg hw]
  · rw [hfind] at hx
    split_ifs at hx with hws
    · cases hx
      exact hws.symm
    · exact h.addressed.writer hx
  · exact Or.inl ((h.listed r hr).resolve_right (by simp [Phase.unlisted]))
  · rw [hfind, if_pos rfl]

/-- A pointer is taken only to the entry of a session that is replaced. -/
theorem addWriterRegister_replace {m : ConnectionManager} {s : Writer}
    (h : (m.addWriterRegister s).2.2 = true) :
    (m.addWriterRegister s).2.1.isSome ∧
      ((m.addWriterRegister s).1.writer_connections.find? s.addr).isSome := by
  simpa [ConnectionManager.addWriterRegister, OrdMap.contains] using h

/-- The second region restores the invariant, when the entry that it remembered is still there. -/
theorem addWriterConnect {s : Writer} {writer_to_remove : Option Writer} {replace : Bool}
    (h : Invariant (.addingWriter s (if replace then writer_to_remove else none)) m)
    (hentry : replace = true →
      writer_to_remove.isSome ∧ (m.writer_connections.find? s.addr).isSome) :
    Invariant .idle (m.addWriterConnect s writer_to_remove
      (if replace then m.writer_connections.find? s.addr else none)) := by
  obtain ⟨-, hreaders, hwriters, hlists⟩ := addWriterConnect_spec m s writer_to_remove
    (if replace then m.writer_connections.find? s.addr else none)
  refine ⟨?_, h.addressed.congr hreaders hwriters, fun r hr => ?_, trivial⟩
  · by_cases hr : m.reader_sessions = .empty
    · have hmaps := h.mapped_of_empty (h.lists_of_empty hr)
      -- Without readers nobody was mapped, so no pointer was remembered and nothing happens.
      have hnull : replace = false := by
        rw [Bool.eq_false_iff]
        intro hreplace
        have := (hentry hreplace).2
        simp [hmaps] at this
      subst hnull
      have hsame : m.addWriterConnect s writer_to_remove none = m := by
        simp [ConnectionManager.addWriterConnect, OrdMap.begin?_eq_none.mpr hr]
      rw [if_neg Bool.false_ne_true, hsame, attached_of_empty _ hr,
        ← attached_of_empty (.addingWriter s none) hr]
      exact h.linked
    · have hs := h.registered hr
      have hlinked := h.linked
      simp only [Phase.attached, if_neg hr] at hlinked
      -- The attached writers are those of the phase, and now also the new one.
      have hattached : Phase.idle.attached (m.addWriterConnect s writer_to_remove
          (if replace then m.writer_connections.find? s.addr else none)) =
          Function.update (Function.update m.writer_sessions.find? s.addr
            (if replace then writer_to_remove else none)) s.addr (some s) := by
        rw [Function.update_idem, ← hs, Function.update_eq_self]
        simp only [Phase.attached, hreaders, hwriters, if_neg hr]
      rw [hattached]
      cases replace with
      -- No entry to follow: the writer goes to the first reader, who has a list.
      | false =>
        cases hbegin : m.reader_sessions.begin? with
        | none => exact absurd (OrdMap.begin?_eq_none.mp hbegin) hr
        | some e =>
          have hreg : (m.reader_sessions.find? e.1).isSome := by
            simp [(OrdMap.begin?_eq_some hbegin).1]
          obtain ⟨l, hl⟩ := Option.isSome_iff_exists.mp
            ((h.listed e.1 hreg).resolve_right (by simp [Phase.unlisted]))
          exact hlinked.addWriterConnect_new (by simp) hbegin hl
      -- The entry is still there, and its reader lists the session that is replaced.
      | true =>
        obtain ⟨hremove, hmapped⟩ := hentry rfl
        obtain ⟨old, rfl⟩ := Option.isSome_iff_exists.mp hremove
        obtain ⟨r, hr⟩ := Option.isSome_iff_exists.mp hmapped
        rw [if_pos rfl, if_pos rfl, hr]
        exact hlinked.addWriterConnect_replace (by simp) hr
  · rw [hreaders] at hr
    rw [hlists]
    exact h.listed r hr

/-! ## The operations of one region -/

/-- Moving writers between readers keeps the invariant of every phase. -/
theorem moved (h : Invariant p m) (hm : Moved (p.attached m) m m') : Invariant p m' := by
  have hattached : p.attached m' = p.attached m := by
    simp only [Phase.attached, hm.readers, hm.writers]
  refine ⟨hattached ▸ hm.linked, h.addressed.congr hm.readers hm.writers, fun r hr => ?_, ?_⟩
  · rw [hm.readers] at hr
    rw [hm.lists]
    exact h.listed r hr
  · have hreg := h.registered
    cases p with
    | idle => trivial
    | addingReader s is_first_reader =>
      simp only [Phase.Registered, hm.readers] at hreg ⊢
      refine ⟨hreg.1, fun hf => ⟨?_, (hreg.2 hf).2⟩⟩
      exact OrdMap.eq_empty_of_isSome_iff hm.lists (hreg.2 hf).1
    | addingWriter s old =>
      simpa only [Phase.Registered, hm.readers, hm.writers] using hreg

/-- When the removal leaves no readers, the removed one was the only one. -/
theorem eq_of_withoutReaders {attached : TcpAddr → Option Writer} (h : Linked attached m)
    {session_id : Session → ℕ} {session dead : Reader}
    (hdead : m.reader_sessions.find? session.addr = some dead)
    (hid : session_id dead = session_id session)
    (hl : (m.reader_connections.find? session.addr).isSome)
    (he : m.removeReaderSession session_id session = withoutReaders m) {r : TcpAddr}
    (hr : (m.reader_sessions.find? r).isSome) : r = session.addr := by
  by_contra hne
  obtain ⟨l, hl⟩ := Option.isSome_iff_exists.mp hl
  have hempty : (withoutReaders m).reader_sessions.find? r = none := rfl
  rw [← he] at hempty
  -- With another reader, its session would have stayed.
  rcases removeReaderSession_eq h hdead hid hr hne hl with ⟨-, hgone⟩ | ⟨-, q, s', -, -, hgone⟩
  · rw [hgone] at hempty
    simp [dropReader, OrdMap.find?_erase, hne, Option.isSome_iff_ne_none.mp hr] at hempty
  · rw [hgone] at hempty
    simp [handOver, OrdMap.find?_erase, hne, Option.isSome_iff_ne_none.mp hr] at hempty

/-- `RemoveReaderSession` keeps the invariant of every phase in which it does not remove the reader
that is being added. -/
theorem removeReaderSession (h : Invariant p m) {session_id : Session → ℕ} {session : Reader}
    (hadding : ∀ s b, p = .addingReader s b → session_id s ≠ session_id session) :
    Invariant p (m.removeReaderSession session_id session) := by
  -- The removed reader is another one than the unlisted one.
  have hother : ∀ dead, m.reader_sessions.find? session.addr = some dead →
      session_id dead = session_id session → ∀ s b, p = .addingReader s b →
        s.addr ≠ session.addr := by
    rintro dead hdead hid s b rfl ha
    have hs := h.registered.1
    rw [ha, hdead] at hs
    cases hs
    exact hadding _ _ rfl hid
  -- So the removed reader has a list.
  have hlist : ∀ dead, m.reader_sessions.find? session.addr = some dead →
      session_id dead = session_id session → (m.reader_connections.find? session.addr).isSome := by
    intro dead hdead hid
    refine (h.listed session.addr (by simp [hdead])).resolve_right fun hu => ?_
    cases p with
    | idle => simp [Phase.unlisted] at hu
    | addingWriter s old => simp [Phase.unlisted] at hu
    | addingReader s b => exact hother dead hdead hid s b rfl (Option.some.inj hu)
  rcases h.linked.removeReaderSession_cases hlist with he | ⟨dead, hdead, hid, he | hm⟩
  · rw [he]
    exact h
  · -- The only reader: no reader is being added.
    rw [he]
    have hnone : p.attached (withoutReaders m) = fun _ => none := attached_of_empty p rfl
    refine ⟨hnone ▸ Linked.of_empty rfl rfl, ⟨fun hr => ?_, h.addressed.writer⟩, fun r hr => ?_, ?_⟩
    · simp [withoutReaders] at hr
    · simp [withoutReaders] at hr
    · cases p with
      | idle => trivial
      | addingWriter s old => exact fun hr => absurd rfl hr
      | addingReader s b =>
        have hreg : (m.reader_sessions.find? s.addr).isSome := by simp [h.registered.1]
        exact absurd (eq_of_withoutReaders h.linked hdead hid (hlist dead hdead hid) he hreg)
          (hother dead hdead hid s b rfl)
  -- One of several readers: no writer loses its attachment.
  · have hne : m.reader_sessions ≠ .empty :=
      OrdMap.ne_empty_iff.mpr ⟨session.addr, by simp [hdead]⟩
    have hattached : p.attached (m.removeReaderSession session_id session) = p.attached m := by
      simp only [Phase.attached, if_neg hm.remains, if_neg hne, hm.writers]
    refine ⟨hattached ▸ hm.linked, ⟨fun {r s} hs => ?_, ?_⟩, fun r hr => ?_, ?_⟩
    · rw [hm.readers, OrdMap.find?_erase] at hs
      split_ifs at hs
      exact h.addressed.reader hs
    · rw [hm.writers]
      exact h.addressed.writer
    · rw [hm.readers, OrdMap.find?_erase] at hr
      split_ifs at hr with hrs
      · simp at hr
      · exact (h.listed r hr).imp_left (hm.lists r hrs)
    · have hreg := h.registered
      cases p with
      | idle => trivial
      | addingWriter s old =>
        intro _
        rw [hm.writers]
        exact hreg hne
      | addingReader s b =>
        have hsa := hother dead hdead hid s b rfl
        simp only [Phase.Registered, hm.readers, OrdMap.find?_erase, if_neg hsa]
        refine ⟨hreg.1, fun hb => ?_⟩
        -- A first reader is the only one.
        exact absurd ((hreg.2 hb).2 session.addr (by simp [hdead])) (Ne.symm hsa)

/-- The attached writers after the registration of another one than that which is being added was
erased. -/
theorem attached_erase (p : Phase) {dead : Writer}
    (hreaders : m'.reader_sessions = m.reader_sessions)
    (hwriters : m'.writer_sessions = m.writer_sessions.erase dead.addr)
    (hother : m.reader_sessions ≠ .empty → ∀ s o, p = .addingWriter s o → dead.addr ≠ s.addr) :
    p.attached m' = Function.update (p.attached m) dead.addr none := by
  funext w
  by_cases hr : m.reader_sessions = .empty
  · rw [attached_of_empty p (hreaders.trans hr), attached_of_empty p hr]
    by_cases hw : w = dead.addr <;> simp [hw]
  have herase : (m.writer_sessions.erase dead.addr).find? =
      Function.update m.writer_sessions.find? dead.addr none := by
    funext k
    by_cases hk : k = dead.addr
    · rw [hk, OrdMap.find?_erase_self, Function.update_self]
    · rw [OrdMap.find?_erase, if_neg hk, Function.update_of_ne hk]
  simp only [Phase.attached, hreaders, if_neg hr, hwriters, herase]
  cases p with
  | idle => rfl
  | addingReader s b =>
    cases b with
    | true => by_cases hw : w = dead.addr <;> simp [hw]
    | false => rfl
  | addingWriter s o => exact congrFun (Function.update_comm (hother hr s o rfl) _ _ _) w

/-- `RemoveWriterSession` keeps the invariant of every phase, unless it removes the writer that is
being added while there are readers. -/
theorem removeWriterSession (h : Invariant p m) {session_id : Session → ℕ} {session : Writer}
    (hid : ∀ dead, m.writer_sessions.find? session.addr = some dead →
      session_id dead = session_id session → dead = session)
    (hadding : ∀ o, p = .addingWriter session o → m.reader_sessions = .empty) :
    Invariant p (m.removeWriterSession session_id session) := by
  -- With readers, the writer that is being added is another one.
  have hother : m.writer_sessions.find? session.addr = some session →
      m.reader_sessions ≠ .empty → ∀ s o, p = .addingWriter s o → session.addr ≠ s.addr := by
    rintro hsession hr s o rfl ha
    have hs := h.registered hr
    rw [← ha, hsession] at hs
    cases hs
    exact hr (hadding o rfl)
  -- The removed writer is attached, or there are no readers.
  have hsession : ∀ dead, m.writer_sessions.find? session.addr = some dead →
      session_id dead = session_id session →
        p.attached m session.addr = some session ∨ p.attached m session.addr = none := by
    intro dead hdead hde
    have := hid dead hdead hde
    subst this
    by_cases hr : m.reader_sessions = .empty
    · exact Or.inr (by rw [attached_of_empty p hr])
    cases p with
    | idle => exact Or.inl (by simp [Phase.attached, hr, hdead])
    | addingReader s b => cases b <;> simp [Phase.attached, hr, hdead]
    | addingWriter s o =>
      simp [Phase.attached, hr, hdead, Function.update_of_ne (hother hdead hr s o rfl)]
  rcases h.linked.removeWriterSession_cases (fun _ => h.attached_registered) hsession with
    he | ⟨dead, hdead, hde, hm⟩
  · rw [he]
    exact h
  have := hid dead hdead hde
  subst this
  -- Only the removed writer loses its attachment.
  have hattached := attached_erase p hm.readers hm.writers (hother hdead)
  refine ⟨hattached ▸ hm.linked, ⟨?_, fun {w s} hs => ?_⟩, fun r hr => ?_, ?_⟩
  · rw [hm.readers]
    exact h.addressed.reader
  · rw [hm.writers, OrdMap.find?_erase] at hs
    split_ifs at hs
    exact h.addressed.writer hs
  · rw [hm.readers] at hr
    rw [hm.lists]
    exact h.listed r hr
  · have hreg := h.registered
    cases p with
    | idle => trivial
    | addingReader s b =>
      simp only [Phase.Registered, hm.readers] at hreg ⊢
      refine ⟨hreg.1, fun hb => ⟨?_, (hreg.2 hb).2⟩⟩
      exact OrdMap.eq_empty_of_isSome_iff hm.lists (hreg.2 hb).1
    | addingWriter s o =>
      intro hr
      rw [hm.readers] at hr
      rw [hm.writers, OrdMap.find?_erase, if_neg (Ne.symm (hother hdead hr s o rfl))]
      exact hreg hr

theorem clear (m : ConnectionManager) : Invariant .idle m.clear.1 := by
  refine ⟨?_, ⟨fun hr => ?_, fun hw => ?_⟩, fun r hr => ?_, trivial⟩
  · rw [attached_of_empty _ rfl]
    exact Linked.of_empty rfl rfl
  · simp [ConnectionManager.clear] at hr
  · simp [ConnectionManager.clear] at hw
  · simp [ConnectionManager.clear] at hr

end Invariant

end AugmentedNormalcy.Server
