import AugmentedNormalcy.Server.Attachment

/-!
# Moving every headset

`RotateAllConnections` and `PointReaderAtWriters` move every headset to one camera. The first takes
the reader of the first headset for that of all of them, which need not hold, and the two loops of
the functions stand in a different order; the state that they leave is the same, `moveAllTo q`, for
any distribution of the headsets over the cameras (`rotateAllConnections_gathers`).
-/

namespace AugmentedNormalcy.Server

open ConnectionManager StepSystem

/-- From `m` to `m'` every attached writer is moved to `q`. -/
structure Gathered (q : TcpAddr) (m m' : ConnectionManager) : Prop where
  attachment : Attachment m'
  number : m'.last_session_number = m.last_session_number
  readers : m'.reader_sessions = m.reader_sessions
  writers : m'.writer_sessions = m.writer_sessions
  connections : ∀ w, m'.writer_connections.find? w = (m.writer_connections.find? w).map fun _ => q
  /-- The list of `q` is followed by the lists of the other readers, in address order. -/
  lists : ∃ lq, m.reader_connections.find? q = some lq ∧ ∀ r, m'.reader_connections.find? r =
    if r = q then
      some (lq ++ (m.reader_connections.entries.filter fun e => e.1 ≠ q).flatMap Prod.snd)
    else (m.reader_connections.find? r).map fun _ => []
  /-- No session is lost, and none is listed twice. -/
  sessions : (m'.reader_connections.entries.flatMap Prod.snd).Perm
    (m.reader_connections.entries.flatMap Prod.snd)

/-- The loop moves the lists of the other readers, in address order. -/
theorem movedTo_keys (q : TcpAddr) (reader_connections : OrdMap TcpAddr (List Writer)) :
    movedTo q reader_connections reader_connections.keys =
      (reader_connections.entries.filter fun e => e.1 ≠ q).flatMap Prod.snd := by
  have hes :
    ∀ es : List (TcpAddr × List Writer), (∀ e ∈ es, reader_connections.find? e.1 = some e.2) →
      movedTo q reader_connections (es.map Prod.fst) =
        (es.filter fun e => e.1 ≠ q).flatMap Prod.snd := by
    intro es hfind
    induction es with
    | nil => rfl
    | cons e es ih =>
      have he := hfind e List.mem_cons_self
      have ih := ih fun e' he' => hfind e' (List.mem_cons_of_mem _ he')
      simp only [movedTo] at ih ⊢
      by_cases heq : e.1 = q
      · simp only [List.map_cons, List.flatMap_cons, heq, if_true, List.nil_append, ih]
        rw [List.filter_cons_of_neg (by simpa using heq)]
      · simp only [List.map_cons, List.flatMap_cons, if_neg heq, he, Option.getD_some, ih]
        rw [List.filter_cons_of_pos (by simpa using heq), List.flatMap_cons]
  exact hes _ fun e he => OrdMap.find?_eq_some.mpr he

/-- The lists after `moveAllTo`, as one map. -/
theorem moveAllTo_reader_connections {m : ConnectionManager} {q : TcpAddr} {lq : List Writer}
    (hq : m.reader_connections.find? q = some lq) :
    (m.moveAllTo q).reader_connections = m.reader_connections.mapVal fun r _ =>
      if r = q then lq ++ (m.reader_connections.entries.filter fun e => e.1 ≠ q).flatMap Prod.snd
      else [] := by
  apply OrdMap.ext_find?
  intro r
  rw [find?_moveAllTo hq, OrdMap.find?_mapVal, movedTo_keys]
  by_cases hr : r = q
  · simp [hr, hq]
  · simp [hr]

/-- The lists after `moveAllTo` hold the sessions that they held. -/
theorem perm_moveAllTo {m : ConnectionManager} {q : TcpAddr} {lq : List Writer}
    (hq : m.reader_connections.find? q = some lq) :
    ((m.moveAllTo q).reader_connections.entries.flatMap Prod.snd).Perm
      (m.reader_connections.entries.flatMap Prod.snd) := by
  obtain ⟨as, bs, hsplit⟩ := List.append_of_mem (OrdMap.find?_eq_some.mp hq)
  have hsorted := m.reader_connections.sorted
  rw [hsplit, List.pairwise_append, List.pairwise_cons] at hsorted
  obtain ⟨-, ⟨hbs, -⟩, has⟩ := hsorted
  -- `q` is the key of no other entry.
  have hneas : ∀ e ∈ as, e.1 ≠ q := fun e he => (has e he _ List.mem_cons_self).ne
  have hnebs : ∀ e ∈ bs, e.1 ≠ q := fun e he => (hbs e he).ne'
  -- The other lists go to the back of the list of `q` in address order.
  have hothers : (m.reader_connections.entries.filter fun e => e.1 ≠ q).flatMap Prod.snd =
      as.flatMap Prod.snd ++ bs.flatMap Prod.snd := by
    rw [hsplit, List.filter_append, List.filter_cons_of_neg (by simp),
      List.filter_eq_self.mpr (by simpa using hneas),
      List.filter_eq_self.mpr (by simpa using hnebs), List.flatMap_append]
  -- What is left of the other lists is empty.
  have hempty : ∀ es : List (TcpAddr × List Writer), (∀ e ∈ es, e.1 ≠ q) → ∀ l : List Writer,
      (es.map fun e => (e.1, if e.1 = q then l else [])).flatMap Prod.snd = [] := by
    intro es hes l
    rw [List.flatMap_eq_nil_iff]
    intro e he
    obtain ⟨e', he', rfl⟩ := List.mem_map.mp he
    exact if_neg (hes e' he')
  rw [moveAllTo_reader_connections hq, OrdMap.mapVal, hothers]
  simp only [hsplit, List.map_append, List.map_cons, List.flatMap_append, List.flatMap_cons,
    if_true,
    hempty as hneas, hempty bs hnebs, List.nil_append, List.append_nil]
  exact List.perm_append_comm_assoc _ _ _

/-- Over an attachment, moving every writer gathers them at the reader. -/
theorem Attachment.gathered {m : ConnectionManager} (h : Attachment m) {q : TcpAddr}
    (hq : (m.reader_connections.find? q).isSome) : Gathered q m (m.moveAllTo q) := by
  have hattachment := h.moved (h.linked.moved_moveAllTo hq)
  obtain ⟨lq, hq⟩ := Option.isSome_iff_exists.mp hq
  refine ⟨hattachment, rfl, rfl, rfl, fun w => OrdMap.find?_mapVal _ _ _, ⟨lq, hq, fun r => ?_⟩,
    perm_moveAllTo hq⟩
  rw [find?_moveAllTo hq, movedTo_keys]

/-! ## What one call does -/

/-- `PointReaderAtWriters` gathers the writers at any registered reader. -/
theorem Attachment.pointReaderAtWriters_eq {m : ConnectionManager} (h : Attachment m)
    (q : TcpAddr) :
    m.pointReaderAtWriters q =
      if (m.reader_sessions.find? q).isSome then (m.moveAllTo q, true) else (m, false) := by
  unfold pointReaderAtWriters
  by_cases hq : (m.reader_sessions.find? q).isSome
  · have hlist : m.reader_connections.contains q = true := (h.reader_keys q).mpr hq
    rw [if_neg (Option.isSome_iff_ne_none.mp hq), if_pos hlist, if_pos hq]
  · rw [if_pos (Option.not_isSome_iff_eq_none.mp hq), if_neg hq]

/-- With a first attached writer, `RotateAllConnections` gathers the writers at the reader after
that of the first one, unless it is the only reader. -/
theorem Attachment.rotateAllConnections_eq {m : ConnectionManager} (h : Attachment m)
    {w c : TcpAddr} {i : ℕ} (hw : m.writer_connections.begin? = some (w, c))
    (hi : m.reader_sessions.keys[i]? = some c) :
    ∃ q, m.reader_sessions.keys[(i + 1) % m.reader_sessions.size]? = some q ∧
      (m.reader_sessions.find? q).isSome ∧ m.rotateAllConnections =
        if m.reader_sessions.size = 1 then (m, false) else (m.moveAllTo q, true) := by
  have hpos : 0 < m.reader_sessions.size :=
    (Nat.zero_le i).trans_lt (OrdMap.lt_size_of_getElem?_keys hi)
  have hreg : (m.reader_sessions.find? c).isSome :=
    OrdMap.mem_keys.mp (List.mem_of_getElem? hi)
  -- The cyclic successor, by position.
  obtain ⟨⟨q, x⟩, hentry⟩ : ∃ e,
      m.reader_sessions.entries[(i + 1) % m.reader_sessions.size]? = some e :=
    ⟨_, List.getElem?_eq_getElem (Nat.mod_lt _ hpos)⟩
  have hnext : m.reader_sessions.cyclicNext? c = some (q, x) := by
    rw [OrdMap.cyclicNext?_eq_getElem? hi, hentry]
  have hqs : (m.reader_sessions.find? q).isSome := by simp [OrdMap.cyclicNext?_eq_some hnext]
  have hqc : m.reader_connections.contains q = true := (h.reader_keys q).mpr hqs
  refine ⟨q, by simp [OrdMap.keys, hentry], hqs, ?_⟩
  have hone : m.reader_sessions.size ≤ 1 ↔ m.reader_sessions.size = 1 := by omega
  simp only [rotateAllConnections, hw, hone, Option.isSome_iff_ne_none.mp hreg, if_false, hnext,
    hqc,
    if_true]

/-- The reader of the first attached writer is registered. -/
theorem Attachment.exists_begin {m : ConnectionManager} (h : Attachment m)
    (hw : ∃ w, (m.writer_connections.find? w).isSome) : ∃ (w c : TcpAddr) (i : ℕ),
    m.writer_connections.begin? = some (w, c) ∧ m.reader_sessions.keys[i]? = some c := by
  obtain ⟨⟨w, c⟩, hbegin⟩ := Option.ne_none_iff_exists'.mp
    (mt OrdMap.begin?_eq_none.mp (OrdMap.ne_empty_iff.mpr hw))
  obtain ⟨-, l, -, hl, -⟩ := h.current (OrdMap.begin?_eq_some hbegin).1
  obtain ⟨i, -, hi⟩ := OrdMap.exists_getElem?_keys ((h.reader_keys c).mp (by simp [hl]))
  exact ⟨w, c, i, hbegin, hi⟩

/-! ## Further calls -/

/-- `k` successive calls of `RotateAllConnections`, and whether all returned true. -/
def allRotations (m : ConnectionManager) : ℕ → ConnectionManager × Bool
  | 0 => (m, true)
  | k + 1 =>
    let (m, ok) := allRotations m k
    let (m, ok') := m.rotateAllConnections
    (m, ok && ok')

/-- With every attached writer on the `j`-th reader, a call moves them to the next one, and succeeds
if there is something to rotate. -/
theorem Attachment.rotateAllConnections_next {m : ConnectionManager} (h : Attachment m)
    {q : TcpAddr} {j : ℕ} (hq : m.reader_sessions.keys[j]? = some q)
    (hall : ∀ w, (m.writer_connections.find? w).isSome → m.writer_connections.find? w = some q) :
    ∃ q', m.reader_sessions.keys[(j + 1) % m.reader_sessions.size]? = some q' ∧
      Attachment m.rotateAllConnections.1 ∧
      m.rotateAllConnections.1.reader_sessions = m.reader_sessions ∧
      (∀ w, m.rotateAllConnections.1.writer_connections.find? w =
        (m.writer_connections.find? w).map fun _ => q') ∧
      ((∃ w, (m.writer_connections.find? w).isSome) → m.reader_sessions.size ≠ 1 →
        m.rotateAllConnections.2 = true) := by
  have hlt := OrdMap.lt_size_of_getElem?_keys hq
  by_cases hw : ∃ w, (m.writer_connections.find? w).isSome
  · obtain ⟨w, c, -, hbegin, -⟩ := h.exists_begin hw
    have hfirst := (OrdMap.begin?_eq_some hbegin).1
    obtain rfl : q = c := Option.some.inj ((hall w (by simp [hfirst])).symm.trans hfirst)
    obtain ⟨q', hq', hreg, heq⟩ := h.rotateAllConnections_eq hbegin hq
    rw [heq]
    split_ifs with hone
    · -- The next reader is the same one.
      have hq'q : q' = q := by
        have hj : j = 0 := by omega
        rw [hone, Nat.mod_one, ← hj, hq] at hq'
        exact (Option.some.inj hq').symm
      refine ⟨q', hq', h, rfl, fun x => ?_, fun _ hne => absurd hone hne⟩
      cases hx : m.writer_connections.find? x with
      | none => rfl
      | some y =>
        have hxq := hall x (by simp [hx])
        rw [hx] at hxq
        rw [hq'q, hxq]
        rfl
    · have hgathered := h.gathered ((h.reader_keys q').mpr hreg)
      exact ⟨q', hq', hgathered.attachment, rfl, hgathered.connections, fun _ _ => rfl⟩
  · have hempty : m.writer_connections = .empty := by
      by_contra hne
      exact hw (OrdMap.ne_empty_iff.mp hne)
    -- With nobody attached, every position is that of everybody.
    have heq : m.rotateAllConnections = (m, false) := by
      rw [rotateAllConnections, OrdMap.begin?_eq_none.mpr hempty]
    obtain ⟨q', hq'⟩ : ∃ q', m.reader_sessions.keys[(j + 1) % m.reader_sessions.size]? = some q' :=
      ⟨_, List.getElem?_eq_getElem (by
        rw [OrdMap.keys, List.length_map]
        exact Nat.mod_lt _ (by omega))⟩
    rw [heq]
    exact ⟨q', hq', h, rfl, fun w => by simp [hempty], fun hw' => absurd hw' hw⟩

/-- `k` calls move them to the reader at `j + k`, modulo the number of readers. -/
theorem Attachment.allRotations_eq {m : ConnectionManager} (h : Attachment m) {q : TcpAddr} {j : ℕ}
    (hq : m.reader_sessions.keys[j]? = some q)
    (hall : ∀ w, (m.writer_connections.find? w).isSome → m.writer_connections.find? w = some q)
    (k : ℕ) : ∃ q', m.reader_sessions.keys[(j + k) % m.reader_sessions.size]? = some q' ∧
      Attachment (allRotations m k).1 ∧
      (allRotations m k).1.reader_sessions = m.reader_sessions ∧
      (∀ w, (allRotations m k).1.writer_connections.find? w =
        (m.writer_connections.find? w).map fun _ => q') ∧
      ((∃ w, (m.writer_connections.find? w).isSome) → m.reader_sessions.size ≠ 1 →
        (allRotations m k).2 = true) := by
  -- Every call leaves all writers on one reader, which the next call needs.
  induction k with
  | zero =>
    refine ⟨q, by rw [Nat.add_zero, Nat.mod_eq_of_lt (OrdMap.lt_size_of_getElem?_keys hq), hq], h,
      rfl, fun w => ?_, fun _ _ => rfl⟩
    change m.writer_connections.find? w = _
    cases hw : m.writer_connections.find? w with
    | none => rfl
    | some x =>
      have hwq := hall w (by simp [hw])
      rw [hw] at hwq
      rw [hwq]
      rfl
  | succ k ih =>
    obtain ⟨q', hq', hk, hreaders, hmap, hok⟩ := ih
    obtain ⟨q'', hq'', hnext, hreaders', hmap', hok'⟩ :=
      hk.rotateAllConnections_next (by rw [hreaders]; exact hq') fun w hw => by
        rw [hmap, Option.isSome_map] at hw
        obtain ⟨x, hx⟩ := Option.isSome_iff_exists.mp hw
        rw [hmap, hx]
        rfl
    -- The positions add up, and so do the changes of `_writer_connections`.
    rw [hreaders, Nat.mod_add_mod, Nat.add_assoc] at hq''
    refine ⟨q'', hq'', hnext, hreaders'.trans hreaders, fun w => ?_, fun hw hne => ?_⟩
    · change (allRotations m k).1.rotateAllConnections.1.writer_connections.find? w = _
      rw [hmap', hmap, Option.map_map]
      rfl
    · obtain ⟨w, hw'⟩ := hw
      have hlast :=
        hok' ⟨w, by rw [hmap, Option.isSome_map]; exact hw'⟩ (by rw [hreaders]; exact hne)
      simp [allRotations, hok ⟨w, hw'⟩ hne, hlast]

/-! ## The two calls agree -/

/-- From gathered writers, further calls go through the readers in turn. -/
theorem Gathered.allRotations {m m' : ConnectionManager} {q : TcpAddr} {j : ℕ}
    (h : Gathered q m m') (hq : m.reader_sessions.keys[j]? = some q) (k : ℕ) : ∃ q',
      m.reader_sessions.keys[(j + k) % m.reader_sessions.size]? = some q' ∧
      (∀ x, (Server.allRotations m' k).1.writer_connections.find? x =
        (m.writer_connections.find? x).map fun _ => q') ∧
      ((∃ w, (m.writer_connections.find? w).isSome) → m.reader_sessions.size ≠ 1 →
        (Server.allRotations m' k).2 = true) := by
  -- The same writers are attached, all of them to `q`.
  have hsome : ∀ w, (m'.writer_connections.find? w).isSome ↔
      (m.writer_connections.find? w).isSome := by
    intro w
    rw [h.connections, Option.isSome_map]
  obtain ⟨q', hq', -, -, hmap, hok⟩ := h.attachment.allRotations_eq (by rw [h.readers]; exact hq)
    (fun w hw => by
      obtain ⟨x, hx⟩ := Option.isSome_iff_exists.mp ((hsome w).mp hw)
      rw [h.connections, hx]
      rfl) k
  rw [h.readers] at hq' hok
  refine ⟨q', hq', fun x => ?_, fun ⟨w, hw⟩ hne => hok ⟨w, (hsome w).mpr hw⟩ hne⟩
  rw [hmap, h.connections, Option.map_map]
  rfl

/-- When `RotateAllConnections` has something to rotate, it does what `PointReaderAtWriters`
does. -/
theorem Attachment.rotateAllConnections_eq_point {m : ConnectionManager} (h : Attachment m)
    (hw : ∃ w, (m.writer_connections.find? w).isSome) (hsize : 2 ≤ m.reader_sessions.size) :
    ∃ (w c q : TcpAddr) (i : ℕ), m.writer_connections.begin? = some (w, c) ∧
      m.reader_sessions.keys[i]? = some c ∧
      m.reader_sessions.keys[(i + 1) % m.reader_sessions.size]? = some q ∧
      m.rotateAllConnections = (m.moveAllTo q, true) ∧
      m.pointReaderAtWriters q = (m.moveAllTo q, true) ∧ Gathered q m (m.moveAllTo q) := by
  obtain ⟨w, c, i, hbegin, hi⟩ := h.exists_begin hw
  obtain ⟨q, hq, hreg, heq⟩ := h.rotateAllConnections_eq hbegin hi
  rw [if_neg (by omega)] at heq
  have hpoint := h.pointReaderAtWriters_eq q
  rw [if_pos hreg] at hpoint
  exact ⟨w, c, q, i, hbegin, hi, hq, heq, hpoint, h.gathered ((h.reader_keys q).mpr hreg)⟩

/-- It succeeds exactly when there is something to rotate. -/
theorem Attachment.rotateAllConnections_snd {m : ConnectionManager} (h : Attachment m) :
    m.rotateAllConnections.2 = true ↔
      (∃ w, (m.writer_connections.find? w).isSome) ∧ 2 ≤ m.reader_sessions.size := by
  constructor
  · intro hok
    unfold rotateAllConnections at hok
    split at hok
    · simp at hok
    · rename_i w c hbegin
      refine ⟨⟨w, by simp [(OrdMap.begin?_eq_some hbegin).1]⟩, ?_⟩
      by_contra hlt
      rw [if_pos (by omega)] at hok
      simp at hok
  · rintro ⟨hw, hsize⟩
    obtain ⟨_, _, _, _, -, -, -, heq, -⟩ := h.rotateAllConnections_eq_point hw hsize
    rw [heq]

/-- `RotateAllConnections` succeeds exactly when a writer is attached and there are two readers. It
then leaves the state of `PointReaderAtWriters` at the reader after that of the smallest attached
address: every writer is gathered there, and further calls of `RotateAllConnections` take them on to
the next readers in turn. They go on in turn from any `PointReaderAtWriters` too, and a call of
either that returns false changes nothing. -/
theorem rotateAllConnections_gathers {m : ConnectionManager} (h : Attachment m) :
    (m.rotateAllConnections.2 = true ↔
      (∃ w, (m.writer_connections.find? w).isSome) ∧ 2 ≤ m.reader_sessions.size) ∧
    (m.rotateAllConnections.2 = true → ∃ (w c q : TcpAddr) (i : ℕ),
      m.writer_connections.find? w = some c ∧
      (∀ w', (m.writer_connections.find? w').isSome → w ≤ w') ∧
      m.reader_sessions.keys[i]? = some c ∧
      m.reader_sessions.keys[(i + 1) % m.reader_sessions.size]? = some q ∧
      m.rotateAllConnections = m.pointReaderAtWriters q ∧
      Gathered q m m.rotateAllConnections.1 ∧
      ∀ k, (allRotations m.rotateAllConnections.1 k).2 = true ∧ ∃ q',
        m.reader_sessions.keys[(i + 1 + k) % m.reader_sessions.size]? = some q' ∧
        ∀ x, (allRotations m.rotateAllConnections.1 k).1.writer_connections.find? x =
          (m.writer_connections.find? x).map fun _ => q') ∧
    (∀ q j, (m.pointReaderAtWriters q).2 = true → m.reader_sessions.keys[j]? = some q →
      Gathered q m (m.pointReaderAtWriters q).1 ∧ ∀ k, ∃ q',
        m.reader_sessions.keys[(j + k) % m.reader_sessions.size]? = some q' ∧
        ∀ x, (allRotations (m.pointReaderAtWriters q).1 k).1.writer_connections.find? x =
          (m.writer_connections.find? x).map fun _ => q') ∧
    (m.rotateAllConnections.2 = false → m.rotateAllConnections.1 = m) ∧
    ∀ q, (m.pointReaderAtWriters q).2 = false → (m.pointReaderAtWriters q).1 = m := by
  refine ⟨h.rotateAllConnections_snd, fun hok => ?_, fun q j hok hj => ?_, fun hfalse => ?_,
    fun q hfalse => ?_⟩
  -- A success of `RotateAllConnections`, and what follows it.
  · obtain ⟨hw, hsize⟩ := h.rotateAllConnections_snd.mp hok
    obtain ⟨w, c, q, i, hbegin, hi, hq, heq, hpoint, hgathered⟩ :=
      h.rotateAllConnections_eq_point hw hsize
    obtain ⟨hfirst, hleast⟩ := OrdMap.begin?_eq_some hbegin
    refine ⟨w, c, q, i, hfirst, hleast, hi, hq, heq.trans hpoint.symm, by rwa [heq], fun k => ?_⟩
    obtain ⟨q', hq', hmap, hsucceeds⟩ := hgathered.allRotations hq k
    rw [Nat.mod_add_mod] at hq'
    rw [heq]
    exact ⟨hsucceeds hw (by omega), q', hq', hmap⟩
  -- A success of `PointReaderAtWriters`, and what follows it.
  · have hreg : (m.reader_sessions.find? q).isSome := OrdMap.mem_keys.mp (List.mem_of_getElem? hj)
    have hpoint := h.pointReaderAtWriters_eq q
    rw [if_pos hreg] at hpoint
    have hgathered := h.gathered ((h.reader_keys q).mpr hreg)
    rw [hpoint]
    refine ⟨hgathered, fun k => ?_⟩
    obtain ⟨q', hq', hmap, -⟩ := hgathered.allRotations hj k
    exact ⟨q', hq', hmap⟩
  -- A call that returns false has changed nothing.
  · rcases rotateAllConnections_cases m with heq | ⟨q, -, heq⟩
    · rw [heq]
    · simp [heq] at hfalse
  · rcases pointReaderAtWriters_cases m q with heq | ⟨-, heq⟩
    · rw [heq]
    · simp [heq] at hfalse

/-- Three cameras, with headsets on the first and the second. -/
theorem rotateAllConnections_gathers_three : ∃ s, run Sequential.step Sequential.initial
    [.addReaderSession ⟨1, 10⟩, .addReaderSession ⟨2, 11⟩, .addReaderSession ⟨3, 12⟩,
      .addWriterSession ⟨4, 20⟩, .addWriterSession ⟨5, 21⟩, .rotateWriterConnection 21] = some s ∧
    ∃ q, s.manager.rotateAllConnections = s.manager.pointReaderAtWriters q ∧
      Gathered q s.manager s.manager.rotateAllConnections.1 := by
  obtain ⟨s, hs, hok⟩ : ∃ s, run Sequential.step Sequential.initial
      [.addReaderSession ⟨1, 10⟩, .addReaderSession ⟨2, 11⟩, .addReaderSession ⟨3, 12⟩,
        .addWriterSession ⟨4, 20⟩, .addWriterSession ⟨5, 21⟩, .rotateWriterConnection 21] = some s ∧
      s.manager.rotateAllConnections.2 = true := ⟨_, rfl, rfl⟩
  have hfull := Sequential.fullyAttached_of_run (by decide +kernel) hs
  obtain ⟨_, _, q, _, -, -, -, -, heq, hgathered, -⟩ :=
    (rotateAllConnections_gathers hfull.toAttachment).2.1 hok
  exact ⟨s, hs, q, heq, hgathered⟩

end AugmentedNormalcy.Server
