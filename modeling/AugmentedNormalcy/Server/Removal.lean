import AugmentedNormalcy.Server.Reconnection

/-!
# A headset that leaves

`RemoveWriterSession` of a registered session, over a manager that attaches every writer. The source
has a shortcut for the only writer, a general path, and four branches for maps that do not fit
together. The general path alone would do: `withoutWriter` is what it makes of every such manager,
also of one without readers, where writers are registered and not attached, and the shortcut makes
the same of a manager with one writer.
-/

namespace AugmentedNormalcy.Server

open ConnectionManager

/-- `RemoveWriterSession` behind the shortcut for the only writer. -/
def ConnectionManager.removeWriterGeneral (m : ConnectionManager) (session : Writer) :
    ConnectionManager :=
  let dead_addr := session.addr
  match m.writer_connections.find? dead_addr with
  | none => { m with writer_sessions := m.writer_sessions.erase dead_addr }
  | some reader_addr =>
    let unlinked : ConnectionManager :=
      { m with
        writer_connections := m.writer_connections.erase dead_addr
        writer_sessions := m.writer_sessions.erase dead_addr }
    match m.reader_connections.find? reader_addr with
    | none => unlinked
    | some connections =>
      if session ∈ connections then
        { unlinked with
          reader_connections :=
            m.reader_connections.insert reader_addr (connections.erase session) }
      else unlinked

/-- The shortcut for the only writer. -/
def ConnectionManager.withoutWriters (m : ConnectionManager) : ConnectionManager :=
  { m with
    writer_connections := .empty
    reader_connections := m.reader_connections.mapVal fun _ _ => []
    writer_sessions := .empty }

/-- The manager without the writer `s`. -/
def ConnectionManager.withoutWriter (m : ConnectionManager) (s : Writer) : ConnectionManager :=
  { m with
    writer_sessions := m.writer_sessions.erase s.addr
    writer_connections := m.writer_connections.erase s.addr
    reader_connections := m.reader_connections.mapVal fun _ connections => connections.erase s }

/-- The paths of `RemoveWriterSession` for a registered session. -/
theorem removeWriterSession_of_registered {m : ConnectionManager} {s : Writer}
    (session_id : Session → ℕ) (hs : m.writer_sessions.find? s.addr = some s) :
    m.removeWriterSession session_id s =
      if m.writer_sessions.size = 1 then m.withoutWriters else m.removeWriterGeneral s := by
  unfold removeWriterSession
  simp only [hs, ne_eq, not_true_eq_false, if_false]
  rfl

/-- Two managers that differ in the writers' maps and in the lists only. -/
theorem ConnectionManager.ext_writers {m m' : ConnectionManager}
    (hnumber : m.last_session_number = m'.last_session_number)
    (hreaders : m.reader_sessions = m'.reader_sessions)
    (hwriters : ∀ w, m.writer_sessions.find? w = m'.writer_sessions.find? w)
    (hlists : ∀ r, m.reader_connections.find? r = m'.reader_connections.find? r)
    (hmap : ∀ w, m.writer_connections.find? w = m'.writer_connections.find? w) : m = m' :=
  ext_find? hnumber hreaders (OrdMap.ext_find? hwriters) hlists hmap

/-! ## Over a manager that attaches every writer -/

namespace FullyAttached

variable {m : ConnectionManager} {s : Writer}

/-- With a reader a registered writer is in the list of the reader that it is mapped to. -/
theorem exists_list (h : FullyAttached m) (hs : m.writer_sessions.find? s.addr = some s)
    (hr : m.reader_sessions ≠ .empty) : ∃ r l, m.writer_connections.find? s.addr = some r ∧
      m.reader_connections.find? r = some l ∧ s ∈ l := by
  have hreg : (m.writer_sessions.find? s.addr).isSome := by rw [hs]; rfl
  obtain ⟨r, hr'⟩ := Option.isSome_iff_exists.mp ((h.attached_iff hreg).mpr hr)
  obtain ⟨s', l, hs', hl, hmem⟩ := h.current hr'
  obtain rfl := Option.some.inj (hs.symm.trans hs')
  exact ⟨r, l, hr', hl, hmem⟩

/-- A registered writer is in the list of the reader that it is mapped to, and in no other. -/
theorem mem_iff (h : FullyAttached m) (hs : m.writer_sessions.find? s.addr = some s)
    {r : TcpAddr} {l : List Writer} (hl : m.reader_connections.find? r = some l) :
    s ∈ l ↔ m.writer_connections.find? s.addr = some r := by
  rw [h.linked.mem_iff hl, attachedWriters_eq_some]
  refine and_iff_right_of_imp fun hr => ⟨?_, hs⟩
  rw [hr]
  rfl

/-- The lists after `s` was removed. -/
theorem find?_withoutWriter (h : FullyAttached m) (hs : m.writer_sessions.find? s.addr = some s)
    {r : TcpAddr} {l : List Writer} (hl : m.reader_connections.find? r = some l) :
    (m.withoutWriter s).reader_connections.find? r =
      some (if m.writer_connections.find? s.addr = some r then l.erase s else l) := by
  rw [withoutWriter, OrdMap.find?_mapVal, hl, Option.map_some]
  split_ifs with hr
  · rfl
  · rw [List.erase_of_not_mem (mt (h.mem_iff hs hl).mp hr)]

/-- Removing an attached writer is taking it out of the list of its reader. -/
theorem withoutWriter_eq_dropWriter (h : FullyAttached m)
    (hs : m.writer_sessions.find? s.addr = some s) {r : TcpAddr} {l : List Writer}
    (hr : m.writer_connections.find? s.addr = some r)
    (hl : m.reader_connections.find? r = some l) : m.withoutWriter s = dropWriter m s r := by
  refine ext_writers rfl rfl (fun _ => rfl) (fun k => ?_) fun _ => rfl
  rw [dropWriter, hl, Option.getD_some, OrdMap.find?_insert]
  split_ifs with hk
  · rw [hk, h.find?_withoutWriter hs hl, if_pos hr]
  · cases hlk : m.reader_connections.find? k with
    | none => rw [withoutWriter, OrdMap.find?_mapVal, hlk, Option.map_none]
    | some lk =>
      have hne : m.writer_connections.find? s.addr ≠ some k := by
        rw [hr]
        exact fun e => hk (Option.some.inj e).symm
      rw [h.find?_withoutWriter hs hlk, if_neg hne]

/-- The general path leaves the manager without the writer. -/
theorem removeWriterGeneral_eq (h : FullyAttached m)
    (hs : m.writer_sessions.find? s.addr = some s) :
    m.removeWriterGeneral s = m.withoutWriter s := by
  by_cases hr : m.reader_sessions = .empty
  -- Nobody is mapped, and there are no lists.
  · have hmap := h.writer_connections_eq_empty hr
    have hlists := h.reader_connections_eq_empty hr
    have heq : m.removeWriterGeneral s =
        { m with writer_sessions := m.writer_sessions.erase s.addr } := by
      simp [removeWriterGeneral, hmap]
    rw [heq]
    refine ext_writers rfl rfl (fun _ => rfl) (fun r => ?_) fun w => ?_
    · simp [withoutWriter, OrdMap.find?_mapVal, hlists]
    · simp [withoutWriter, OrdMap.find?_erase, hmap]
  · obtain ⟨r, l, hr', hl, hmem⟩ := h.exists_list hs hr
    rw [h.withoutWriter_eq_dropWriter hs hr' hl]
    simp [removeWriterGeneral, hr', hl, hmem, dropWriter]

/-- The shortcut leaves the manager without the writer when there is only one. -/
theorem withoutWriters_eq (h : FullyAttached m) (hs : m.writer_sessions.find? s.addr = some s)
    (hsize : m.writer_sessions.size = 1) : m.withoutWriters = m.withoutWriter s := by
  have hreg : (m.writer_sessions.find? s.addr).isSome := by rw [hs]; rfl
  have halone := (OrdMap.size_eq_one_iff hreg).mp hsize
  have hother : ∀ w, w ≠ s.addr → m.writer_sessions.find? w = none := fun w hw => by
    rw [← Option.not_isSome_iff_eq_none]
    exact fun hx => hw (halone w hx)
  refine ext_writers rfl rfl (fun w => ?_) (fun r => ?_) fun w => ?_
  · rw [withoutWriter, OrdMap.find?_erase, withoutWriters, OrdMap.find?_empty]
    split_ifs with hw
    · rfl
    · exact (hother w hw).symm
  · simp only [withoutWriters, withoutWriter, OrdMap.find?_mapVal]
    cases hl : m.reader_connections.find? r with
    | none => rfl
    | some l =>
      -- Whoever is left in the list is registered, so nobody is.
      have hnil : l.erase s = [] := by
        refine List.eq_nil_iff_forall_not_mem.mpr fun x hx => ?_
        obtain ⟨hne, hx⟩ := (h.nodup hl).mem_erase_iff.mp hx
        obtain ⟨w, hw, -⟩ := h.listed hl x hx
        obtain rfl := h.keyed hw
        have haddr := halone x.addr (by rw [hw]; rfl)
        rw [haddr, hs] at hw
        exact hne (Option.some.inj hw).symm
      simp [hnil]
  · rw [withoutWriter, OrdMap.find?_erase, withoutWriters, OrdMap.find?_empty]
    split_ifs with hw
    · rfl
    · rw [eq_comm, ← Option.not_isSome_iff_eq_none]
      intro hx
      obtain ⟨r, hr⟩ := Option.isSome_iff_exists.mp hx
      obtain ⟨x, -, hx', -⟩ := h.current hr
      rw [hother w hw] at hx'
      cases hx'

/-- `RemoveWriterSession` leaves the manager without the writer, on either path. -/
theorem removeWriterSession_eq (h : FullyAttached m)
    (hs : m.writer_sessions.find? s.addr = some s) (session_id : Session → ℕ) :
    m.removeWriterSession session_id s = m.withoutWriter s := by
  rw [removeWriterSession_of_registered session_id hs]
  split_ifs with hsize
  · exact h.withoutWriters_eq hs hsize
  · exact h.removeWriterGeneral_eq hs

/-- Without the writer every other one is still attached. -/
theorem withoutWriter (h : FullyAttached m) (hs : m.writer_sessions.find? s.addr = some s) :
    FullyAttached (m.withoutWriter s) := by
  have hkeyed : ∀ {w x}, (m.withoutWriter s).writer_sessions.find? w = some x → x.addr = w := by
    intro w x hx
    rw [ConnectionManager.withoutWriter, OrdMap.find?_erase] at hx
    split_ifs at hx
    exact h.keyed hx
  by_cases hr : m.reader_sessions = .empty
  · refine of_empty hr ?_ ?_ hkeyed
    · rw [ConnectionManager.withoutWriter, h.reader_connections_eq_empty hr]
      rfl
    · rw [ConnectionManager.withoutWriter, h.writer_connections_eq_empty hr]
      rfl
  · obtain ⟨r, l, hr', hl, -⟩ := h.exists_list hs hr
    have hdrop := (h.linked_writers hr).dropWriter hs hr'
    have hwriters : (m.withoutWriter s).writer_sessions.find? =
        Function.update m.writer_sessions.find? s.addr none := by
      funext w
      rw [ConnectionManager.withoutWriter, OrdMap.find?_erase]
      by_cases hw : w = s.addr
      · rw [if_pos hw, hw, Function.update_self]
      · rw [if_neg hw, Function.update_of_ne hw]
    refine of_linked ?_ hr fun k hk => ?_
    · rw [hwriters, h.withoutWriter_eq_dropWriter hs hr' hl]
      exact hdrop
    · rw [ConnectionManager.withoutWriter, OrdMap.find?_mapVal, Option.isSome_map]
      exact (h.reader_keys k).mpr hk

end FullyAttached

/-! ## Removing one writer, and removing all -/

/-- The sessions of the writers. -/
def ConnectionManager.writers (m : ConnectionManager) : List Writer :=
  m.writer_sessions.entries.map Prod.snd

/-- What the call of `RemoveWriterSession` with the session `s` does to `m`. -/
structure RemovesWriter (session_id : Session → ℕ) (s : Writer) (m : ConnectionManager) : Prop where
  removed : m.removeWriterSession session_id s = m.withoutWriter s
  /-- `s` leaves the one list that it was in, and the other lists are as they were. -/
  lists : ∀ {r l}, m.reader_connections.find? r = some l →
    (s ∈ l ↔ m.writer_connections.find? s.addr = some r) ∧
      (m.withoutWriter s).reader_connections.find? r =
        some (if m.writer_connections.find? s.addr = some r then l.erase s else l)
  /-- The general path does the same, and so does the shortcut where it is taken. -/
  general : m.removeWriterGeneral s = m.withoutWriter s
  shortcut : m.writer_sessions.size = 1 → m.withoutWriters = m.removeWriterGeneral s
  /-- With a reader, the conditions of the four branches for maps that do not fit do not hold. -/
  found : m.reader_sessions ≠ .empty → ∃ r l, m.writer_connections.find? s.addr = some r ∧
    m.reader_connections.find? r = some l ∧ l ≠ [] ∧ s ∈ l
  attached : FullyAttached (m.withoutWriter s)

theorem FullyAttached.removesWriter {m : ConnectionManager} (h : FullyAttached m)
    (session_id : Session → ℕ) {s : Writer} (hs : m.writer_sessions.find? s.addr = some s) :
    RemovesWriter session_id s m where
  removed := h.removeWriterSession_eq hs session_id
  lists hl := ⟨h.mem_iff hs hl, h.find?_withoutWriter hs hl⟩
  general := h.removeWriterGeneral_eq hs
  shortcut hsize := (h.withoutWriters_eq hs hsize).trans (h.removeWriterGeneral_eq hs).symm
  found hr := by
    obtain ⟨r, l, hr', hl, hmem⟩ := h.exists_list hs hr
    exact ⟨r, l, hr', hl, List.ne_nil_of_mem hmem, hmem⟩
  attached := h.withoutWriter hs

/-- A manager that attaches every writer and has none is one without writers. -/
theorem FullyAttached.withoutWriters_of_empty {m : ConnectionManager} (h : FullyAttached m)
    (hw : m.writer_sessions = .empty) : m.withoutWriters = m := by
  refine ext_writers rfl rfl (fun w => by rw [hw]; rfl) (fun r => ?_) fun w => ?_
  · rw [withoutWriters, OrdMap.find?_mapVal]
    cases hl : m.reader_connections.find? r with
    | none => rfl
    | some l =>
      have hnil : l = [] := by
        refine List.eq_nil_iff_forall_not_mem.mpr fun x hx => ?_
        obtain ⟨w, hreg, -⟩ := h.listed hl x hx
        simp [hw] at hreg
      rw [hnil]
      rfl
  · rw [withoutWriters, OrdMap.find?_empty, eq_comm, ← Option.not_isSome_iff_eq_none]
    intro hx
    obtain ⟨r, hr⟩ := Option.isSome_iff_exists.mp hx
    obtain ⟨x, -, hreg, -⟩ := h.current hr
    simp [hw] at hreg

/-- Removing all writers, in any order, leaves every reader with an empty list. -/
theorem FullyAttached.foldl_removeWriterSession {session_id : Session → ℕ}
    {sessions : List Writer} : ∀ {m : ConnectionManager}, FullyAttached m →
      sessions.Perm m.writers →
      sessions.foldl (removeWriterSession session_id) m = m.withoutWriters := by
  induction sessions with
  | nil =>
    intro m h hperm
    have hnil : m.writer_sessions.entries = [] := List.map_eq_nil_iff.mp hperm.nil_eq.symm
    refine (h.withoutWriters_of_empty (OrdMap.size_eq_zero.mp ?_)).symm
    rw [OrdMap.size, hnil, List.length_nil]
  | cons s sessions ih =>
    intro m h hperm
    -- The first session is registered under its own address.
    obtain ⟨⟨w, x⟩, hmem, hx⟩ := List.mem_map.mp (hperm.subset List.mem_cons_self)
    obtain rfl : x = s := hx
    have hs : m.writer_sessions.find? w = some x := OrdMap.find?_eq_some.mpr hmem
    obtain rfl := h.keyed hs
    have hrest : sessions.Perm (m.withoutWriter x).writers := by
      refine List.Perm.cons_inv (hperm.trans ?_)
      exact (OrdMap.entries_perm_erase hs).map Prod.snd
    rw [List.foldl_cons, h.removeWriterSession_eq hs, ih (h.withoutWriter hs) hrest]
    refine ext_writers rfl rfl (fun _ => rfl) (fun r => ?_) fun _ => rfl
    simp only [withoutWriters, ConnectionManager.withoutWriter, OrdMap.find?_mapVal,
      Option.map_map]
    rfl

/-- `RemoveWriterSession` of a registered session over a manager that attaches every writer, and the
removal of all of them. -/
theorem removeWriterSession_removes {m : ConnectionManager} (h : FullyAttached m)
    (session_id : Session → ℕ) :
    (∀ s : Writer, m.writer_sessions.find? s.addr = some s → RemovesWriter session_id s m) ∧
      ∀ sessions : List Writer, sessions.Perm m.writers →
        sessions.foldl (removeWriterSession session_id) m = m.withoutWriters ∧
          m.withoutWriters.reader_sessions = m.reader_sessions ∧
          ∀ r, (m.reader_sessions.find? r).isSome →
            m.withoutWriters.reader_connections.find? r = some [] := by
  refine ⟨fun s hs => h.removesWriter session_id hs, fun sessions hperm =>
    ⟨h.foldl_removeWriterSession hperm, rfl, fun r hr => ?_⟩⟩
  obtain ⟨l, hl⟩ := Option.isSome_iff_exists.mp ((h.reader_keys r).mpr hr)
  rw [withoutWriters, OrdMap.find?_mapVal, hl]
  rfl

/-- Two headsets that watch one camera leave, the second first. -/
theorem removeWriterSession_removes_two : ∃ s, StepSystem.run Sequential.step Sequential.initial
    [.addReaderSession ⟨1, 10⟩, .addWriterSession ⟨2, 20⟩, .addWriterSession ⟨3, 21⟩] = some s ∧
    RemovesWriter s.session_id ⟨3, 21⟩ s.manager ∧
    [⟨3, 21⟩, ⟨2, 20⟩].foldl (removeWriterSession s.session_id) s.manager =
      s.manager.withoutWriters := by
  obtain ⟨s, hs, hreg, hperm⟩ : ∃ s, StepSystem.run Sequential.step Sequential.initial
      [.addReaderSession ⟨1, 10⟩, .addWriterSession ⟨2, 20⟩, .addWriterSession ⟨3, 21⟩] = some s ∧
      s.manager.writer_sessions.find? 21 = some ⟨3, 21⟩ ∧
      [⟨3, 21⟩, ⟨2, 20⟩].Perm s.manager.writers :=
    ⟨_, rfl, rfl, List.Perm.swap _ _ _⟩
  obtain ⟨hone, hall⟩ := removeWriterSession_removes
    (Sequential.fullyAttached_of_run (by decide +kernel) hs) s.session_id
  exact ⟨s, hs, hone ⟨3, 21⟩ hreg, (hall _ hperm).1⟩

end AugmentedNormalcy.Server
