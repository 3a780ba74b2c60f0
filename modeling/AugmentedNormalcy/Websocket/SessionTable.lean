import AugmentedNormalcy.Foundation.Run
import AugmentedNormalcy.Websocket.WebsocketServer

/-!
# What the pools of the websocket server hold

The pool entry of an address is the last session that was accepted for it, unless that session has
destroyed itself or a `Stop` has drained it (`Table.entry`). The two facts behind it are that
session numbers are fresh, so that `destroySession` recognises a session that was replaced, and that
the acceptor strand runs one job at a time, so that no session is registered after the cancel of a
`Stop` and before the next `Start`. -/

namespace AugmentedNormalcy.Websocket

open Server (TcpAddr ConnectionType)
open StepSystem

/-- `s` has the largest session number that was ever accepted for its pool and address. -/
structure IsLatest (w : WebsocketServer) (is_camera : Bool) (addr : TcpAddr)
    (s : WebsocketSession) : Prop where
  accepted : s ∈ w.accepted
  pool_eq : s.is_camera = is_camera
  addr_eq : s.addr = addr
  le : ∀ t ∈ w.accepted, t.is_camera = is_camera → t.addr = addr →
    t.session_number ≤ s.session_number

/-- From the return of `Stop` to the next `Start`; also before the first `Start`. -/
def Stopped (w : WebsocketServer) : Prop := w.owner = .idle ∧ w.is_stopped = true

/-- What holds of the table at any time. -/
structure Table (w : WebsocketServer) : Prop where
  /-- The entry of an address is its latest session, unless that is gone. -/
  entry : ∀ is_camera addr s, (w.session_pool is_camera).find? addr = some s ↔
    IsLatest w is_camera addr s ∧ s ∉ w.destroyed ∧ s ∉ w.drained
  number_le : ∀ s ∈ w.accepted, s.session_number ≤ w.last_session_number
  number_inj : ∀ s ∈ w.accepted, ∀ t ∈ w.accepted, s.session_number = t.session_number → s = t
  /-- A session that is still to be registered has the last number. -/
  created : ∀ s, w.strand = .created s → s.session_number = w.last_session_number ∧
    ∀ t ∈ w.accepted, t.session_number < s.session_number
  closing : ∀ s ∈ w.closing, s ∈ w.accepted
  gone : ∀ s, s ∈ w.destroyed ∨ s ∈ w.drained → s ∈ w.accepted
  /-- `Stop` runs with `_is_stopped` set. -/
  stopping : w.owner ≠ .idle → w.is_stopped = true
  /-- Once the cancel has run, the strand is idle until the next `Start`. -/
  quiet : w.is_stopped = true → w.owner ≠ .waiting → w.strand = .idle
  /-- Once the pools are drained, they are empty until the next `Start`. -/
  empty : w.is_stopped = true → w.owner ≠ .waiting → w.owner ≠ .cancelled →
    ∀ is_camera, w.session_pool is_camera = .empty

/-- Only the sessions that were accepted count. -/
theorem isLatest_congr {w w' : WebsocketServer} (h : w'.accepted = w.accepted) {is_camera : Bool}
    {addr : TcpAddr} {s : WebsocketSession} :
    IsLatest w' is_camera addr s ↔ IsLatest w is_camera addr s :=
  ⟨fun hs => ⟨h ▸ hs.accepted, hs.pool_eq, hs.addr_eq, h ▸ hs.le⟩,
    fun hs => ⟨h ▸ hs.accepted, hs.pool_eq, hs.addr_eq, h ▸ hs.le⟩⟩

theorem session_pool_setPool (w : WebsocketServer) (c c' : Bool)
    (session_pool : OrdMap TcpAddr WebsocketSession) :
    (w.setPool c session_pool).session_pool c' =
      if c' = c then session_pool else w.session_pool c' := by
  cases c <;> cases c' <;> rfl

theorem table_initial : Table .initial where
  entry c addr s := by
    cases c <;> simp [WebsocketServer.session_pool, WebsocketServer.initial] <;>
      exact fun h => by simpa using h.accepted
  number_le := by simp [WebsocketServer.initial]
  number_inj := by simp [WebsocketServer.initial]
  created s h := by simp [WebsocketServer.initial] at h
  closing := by simp [WebsocketServer.initial]
  gone := by simp [WebsocketServer.initial]
  stopping h := rfl
  quiet _ _ := rfl
  empty _ _ _ c := by cases c <;> rfl

/-- Some sessions leave the table, and the histories say so. -/
theorem Table.removed {w w' : WebsocketServer} (h : Table w) (removed : List WebsocketSession)
    (hfind : ∀ c a t, (w'.session_pool c).find? a = some t ↔
      (w.session_pool c).find? a = some t ∧ t ∉ removed)
    (haccepted : w'.accepted = w.accepted)
    (hgone : ∀ t, t ∈ w'.destroyed ∨ t ∈ w'.drained ↔
      (t ∈ w.destroyed ∨ t ∈ w.drained) ∨ t ∈ removed)
    (hremoved : ∀ t ∈ removed, t ∈ w.accepted)
    (hlast : w.last_session_number ≤ w'.last_session_number)
    (hcreated : ∀ s, w'.strand = .created s → s.session_number = w'.last_session_number ∧
      ∀ t ∈ w.accepted, t.session_number < s.session_number)
    (hclosing : ∀ s ∈ w'.closing, s ∈ w.accepted)
    (hstopping : w'.owner ≠ .idle → w'.is_stopped = true)
    (hquiet : w'.is_stopped = true → w'.owner ≠ .waiting → w'.strand = .idle)
    (hempty : w'.is_stopped = true → w'.owner ≠ .waiting → w'.owner ≠ .cancelled →
      ∀ c, w'.session_pool c = .empty) : Table w' where
  entry c a t := by
    have hgone := not_congr (hgone t)
    rw [not_or, not_or, not_or] at hgone
    rw [hfind, h.entry, isLatest_congr haccepted, hgone, and_assoc]
  number_le t ht := (h.number_le t (haccepted ▸ ht)).trans hlast
  number_inj := by rw [haccepted]; exact h.number_inj
  created := by rw [haccepted]; exact hcreated
  closing := by rw [haccepted]; exact hclosing
  gone t ht := by
    rw [haccepted]
    exact ((hgone t).mp ht).elim (h.gone t) (hremoved t)
  stopping := hstopping
  quiet := hquiet
  empty := hempty

/-- Only the table and its histories count. -/
theorem Table.congr {w w' : WebsocketServer} (h : Table w)
    (hpool : ∀ c, w'.session_pool c = w.session_pool c) (haccepted : w'.accepted = w.accepted)
    (hdestroyed : w'.destroyed = w.destroyed) (hdrained : w'.drained = w.drained)
    (hlast : w.last_session_number ≤ w'.last_session_number)
    (hcreated : ∀ s, w'.strand = .created s → s.session_number = w'.last_session_number ∧
      ∀ t ∈ w.accepted, t.session_number < s.session_number)
    (hclosing : ∀ s ∈ w'.closing, s ∈ w.accepted)
    (hstopping : w'.owner ≠ .idle → w'.is_stopped = true)
    (hquiet : w'.is_stopped = true → w'.owner ≠ .waiting → w'.strand = .idle)
    (hempty : w'.is_stopped = true → w'.owner ≠ .waiting → w'.owner ≠ .cancelled →
      ∀ c, w.session_pool c = .empty) : Table w' := by
  refine h.removed [] (fun c a t => by simp [hpool]) haccepted
    (fun t => by simp [hdestroyed, hdrained])
    (by simp) hlast hcreated hclosing hstopping hquiet fun hs ho hc c => ?_
  rw [hpool]
  exact hempty hs ho hc c

/-- A busy strand means that the server is not stopped, or that `Stop` waits for it. -/
theorem Table.not_quiet {w : WebsocketServer} (h : Table w) (hbusy : w.strand ≠ .idle)
    (hs : w.is_stopped = true) : w.owner = .waiting := by
  by_contra ho
  exact hbusy (h.quiet hs ho)

section registerSession

variable {w : WebsocketServer} {s : WebsocketSession}

theorem session_pool_registerSession (w : WebsocketServer) (s : WebsocketSession) (c : Bool) :
    (w.registerSession s).session_pool c =
      if c = s.is_camera then (w.session_pool s.is_camera).insert s.addr s else w.session_pool c :=
  session_pool_setPool w s.is_camera c _

theorem mem_accepted_registerSession {t : WebsocketSession} :
    t ∈ (w.registerSession s).accepted ↔ t ∈ w.accepted ∨ t = s := by
  simp [WebsocketServer.registerSession]

/-- The latest session of its address is the new one; the others are as they were. -/
theorem isLatest_registerSession (hfresh : ∀ t ∈ w.accepted, t.session_number < s.session_number)
    (c : Bool) (a : TcpAddr) (t : WebsocketSession) :
    IsLatest (w.registerSession s) c a t ↔
      if c = s.is_camera ∧ a = s.addr then t = s else IsLatest w c a t := by
  split_ifs with hclass
  · obtain ⟨rfl, rfl⟩ := hclass
    constructor
    · intro ht
      rcases mem_accepted_registerSession.mp ht.accepted with hmem | rfl
      · exact absurd (ht.le s (mem_accepted_registerSession.mpr (Or.inr rfl)) rfl rfl)
          (not_le.mpr (hfresh t hmem))
      · rfl
    · rintro rfl
      refine ⟨mem_accepted_registerSession.mpr (Or.inr rfl), rfl, rfl, fun u hu _ _ => ?_⟩
      rcases mem_accepted_registerSession.mp hu with hmem | rfl
      · exact (hfresh u hmem).le
      · exact le_rfl
  · -- The new session is of another pool or address.
    constructor
    · intro ht
      refine ⟨(mem_accepted_registerSession.mp ht.accepted).resolve_right ?_, ht.pool_eq,
        ht.addr_eq, fun u hu => ht.le u (mem_accepted_registerSession.mpr (Or.inl hu))⟩
      rintro rfl
      exact hclass ⟨ht.pool_eq.symm, ht.addr_eq.symm⟩
    · intro ht
      refine ⟨mem_accepted_registerSession.mpr (Or.inl ht.accepted), ht.pool_eq, ht.addr_eq,
        fun u hu huc hua => ?_⟩
      rcases mem_accepted_registerSession.mp hu with hmem | rfl
      · exact ht.le u hmem huc hua
      · exact absurd ⟨huc.symm, hua.symm⟩ hclass

/-- The new session takes the entry of its address. -/
theorem Table.entry_registerSession (h : Table w) (hs : w.strand = .created s) (c : Bool)
    (a : TcpAddr) (t : WebsocketSession) :
    ((w.registerSession s).session_pool c).find? a = some t ↔
      IsLatest (w.registerSession s) c a t ∧ t ∉ w.destroyed ∧ t ∉ w.drained := by
  obtain ⟨-, hfresh⟩ := h.created s hs
  have hnot : s ∉ w.accepted := fun hmem => lt_irrefl _ (hfresh s hmem)
  rw [isLatest_registerSession hfresh, session_pool_registerSession]
  by_cases hc : c = s.is_camera
  · subst hc
    rw [if_pos rfl, OrdMap.find?_insert]
    by_cases ha : a = s.addr
    · rw [if_pos ha, if_pos ⟨rfl, ha⟩]
      constructor
      · intro heq
        obtain rfl := Option.some.inj heq
        exact ⟨rfl, fun hmem => hnot (h.gone s (Or.inl hmem)),
          fun hmem => hnot (h.gone s (Or.inr hmem))⟩
      · rintro ⟨rfl, -⟩
        rfl
    · rw [if_neg ha, if_neg fun hclass => ha hclass.2]
      exact h.entry s.is_camera a t
  · rw [if_neg hc, if_neg fun hclass => hc hclass.1]
    exact h.entry c a t

theorem Table.registerSession (h : Table w) (hs : w.strand = .created s) :
    Table (w.registerSession s) := by
  obtain ⟨hnumber, hfresh⟩ := h.created s hs
  -- A `Stop` under way waits for the strand.
  have hwaiting := h.not_quiet (by rw [hs]; exact fun h => by cases h)
  refine ⟨h.entry_registerSession hs, fun t ht => ?_, fun t ht u hu htu => ?_, fun t ht => ?_,
    fun t ht => ?_, fun t ht => ?_, h.stopping, fun hstop ho => ?_, fun hstop ho => ?_⟩
  · rcases mem_accepted_registerSession.mp ht with hmem | rfl
    · exact h.number_le t hmem
    · exact hnumber.le
  -- The new number is larger than all others.
  · rcases mem_accepted_registerSession.mp ht with htmem | hts <;>
      rcases mem_accepted_registerSession.mp hu with humem | hus
    · exact h.number_inj t htmem u humem htu
    · exact absurd (hus ▸ htu) (hfresh t htmem).ne
    · exact absurd (hts ▸ htu).symm (hfresh u humem).ne
    · rw [hts, hus]
  · cases ht
  · exact mem_accepted_registerSession.mpr (Or.inl (h.closing t ht))
  · exact mem_accepted_registerSession.mpr (Or.inl (h.gone t ht))
  · exact absurd (hwaiting hstop) ho
  · exact absurd (hwaiting hstop) ho

end registerSession

/-- `destroySession` erases the entry that holds the session, and changes nothing otherwise. -/
theorem Table.find?_destroySession {w : WebsocketServer} (h : Table w) {s : WebsocketSession}
    (hs : s ∈ w.accepted) (c : Bool) (a : TcpAddr) :
    ((w.destroySession s).session_pool c).find? a =
      if (w.session_pool c).find? a = some s then none else (w.session_pool c).find? a := by
  -- The entry of an address holds sessions of that address.
  have hclass : ∀ {c a t}, (w.session_pool c).find? a = some t → t.is_camera = c ∧ t.addr = a :=
    fun ht => ⟨((h.entry _ _ _).mp ht).1.pool_eq, ((h.entry _ _ _).mp ht).1.addr_eq⟩
  have hother : ¬ (c = s.is_camera ∧ a = s.addr) → (w.session_pool c).find? a ≠ some s :=
    fun hne ht => hne ⟨(hclass ht).1.symm, (hclass ht).2.symm⟩
  unfold WebsocketServer.destroySession
  dsimp only
  split
  · rename_i hnone
    by_cases hca : c = s.is_camera ∧ a = s.addr
    · rw [hca.1, hca.2, hnone, if_neg (by simp)]
    · rw [if_neg (hother hca)]
  · rename_i dead hdead
    have hmem := ((h.entry _ _ _).mp hdead).1.accepted
    -- An equal number is the same session.
    by_cases hnumber : dead.session_number = s.session_number
    · obtain rfl := h.number_inj dead hmem s hs hnumber
      rw [if_pos hnumber, session_pool_setPool]
      by_cases hc : c = dead.is_camera
      · subst hc
        rw [if_pos rfl, OrdMap.find?_erase]
        by_cases ha : a = dead.addr
        · rw [if_pos ha, ha, if_pos hdead]
        · rw [if_neg ha, if_neg (hother fun hca => ha hca.2)]
      · rw [if_neg hc, if_neg (hother fun hca => hc hca.1)]
    · rw [if_neg hnumber]
      by_cases hca : c = s.is_camera ∧ a = s.addr
      · rw [hca.1, hca.2, hdead, if_neg]
        exact fun heq => hnumber (by rw [Option.some.inj heq])
      · rw [if_neg (hother hca)]

/-- `destroySession` assigns the pools only. -/
theorem destroySession_eq (w : WebsocketServer) (s : WebsocketSession) :
    w.destroySession s = { w with
      camera_sessions := (w.destroySession s).camera_sessions
      headset_sessions := (w.destroySession s).headset_sessions } := by
  unfold WebsocketServer.destroySession
  dsimp only
  split
  · rfl
  · split_ifs <;> rfl

/-- A session that destroys itself leaves the table. -/
theorem Table.destroySession {w : WebsocketServer} (h : Table w) {s : WebsocketSession}
    (hs : s ∈ w.closing) : Table { (w.close s).destroySession s with
      closing := w.closing.erase s, destroyed := w.destroyed ++ [s] } := by
  have hmem := h.closing s hs
  -- `_is_live` is no part of the table.
  have hclose : Table (w.close s) :=
    h.congr (fun _ => rfl) rfl rfl rfl le_rfl h.created h.closing h.stopping h.quiet h.empty
  -- Of the entries only that of the session is gone.
  have hfind : ∀ c a t, (((w.close s).destroySession s).session_pool c).find? a = some t ↔
      (w.session_pool c).find? a = some t ∧ t ∉ [s] := by
    intro c a t
    rw [hclose.find?_destroySession hmem, List.mem_singleton]
    change (if (w.session_pool c).find? a = some s then none else _) = some t ↔ _
    split_ifs with hes
    · simp [hes, eq_comm]
    · exact ⟨fun ht => ⟨ht, fun hts => hes (hts ▸ ht)⟩, fun ht => ht.1⟩
  rw [destroySession_eq] at hfind ⊢
  refine h.removed [s] hfind rfl (fun t => ?_) (by simpa using hmem) le_rfl h.created
    (fun t ht => h.closing t (List.mem_of_mem_erase ht)) h.stopping h.quiet fun hstop ho hc c => ?_
  · simp only [List.mem_append]
    tauto
  · rw [OrdMap.eq_empty_iff]
    intro a
    rw [Option.eq_none_iff_forall_ne_some]
    intro t ht
    have hold := ((hfind c a t).mp ht).1
    rw [h.empty hstop ho hc c] at hold
    simp at hold

/-- The drain of `Stop` empties the pools. -/
theorem Table.drain {w : WebsocketServer} (h : Table w) (hcancelled : w.owner = .cancelled) :
    Table { w with
      camera_sessions := .empty
      headset_sessions := .empty
      owner := .closing
        (w.camera_sessions.entries.map Prod.snd ++ w.headset_sessions.entries.map Prod.snd)
      drained := w.drained ++
        (w.camera_sessions.entries.map Prod.snd ++ w.headset_sessions.entries.map Prod.snd) } := by
  have hstop : w.is_stopped = true := h.stopping (by rw [hcancelled]; exact fun h => by cases h)
  have hidle : w.strand = .idle := h.quiet hstop (by rw [hcancelled]; exact fun h => by cases h)
  -- What is drained is what the pools held.
  have hmem : ∀ t, t ∈ w.camera_sessions.entries.map Prod.snd ++
      w.headset_sessions.entries.map Prod.snd ↔ ∃ c a, (w.session_pool c).find? a = some t := by
    intro t
    simp only [List.mem_append, List.mem_map, Prod.exists, exists_eq_right, Bool.exists_bool,
      ← OrdMap.find?_eq_some]
    exact or_comm
  refine h.removed
    (w.camera_sessions.entries.map Prod.snd ++ w.headset_sessions.entries.map Prod.snd)
    (fun c a t => ?_) rfl (fun t => ?_) (fun t ht => ?_) le_rfl
    (fun s hs => by rw [hidle] at hs; cases hs) h.closing (fun _ => hstop) (fun _ _ => hidle)
    fun _ _ _ c => by cases c <;> rfl
  · refine iff_of_false (by cases c <;> simp [WebsocketServer.session_pool]) fun ⟨ht, hnot⟩ => ?_
    exact hnot ((hmem t).mpr ⟨c, a, ht⟩)
  · simp only [List.mem_append]
    tauto
  · obtain ⟨c, a, ht⟩ := (hmem t).mp ht
    exact ((h.entry c a t).mp ht).1.accepted

/-- Closing sessions only clears their `_is_live`. -/
theorem foldl_close (removed_sessions : List WebsocketSession) (w : WebsocketServer) :
    ∃ is_live, removed_sessions.foldl WebsocketServer.close w = { w with is_live := is_live } := by
  induction removed_sessions generalizing w with
  | nil => exact ⟨_, rfl⟩
  | cons s removed_sessions ih =>
    obtain ⟨is_live, h⟩ := ih (w.close s)
    exact ⟨is_live, h⟩

theorem Table.step {w w' : WebsocketServer} {e : ServerEvent} (h : Table w)
    (hs : WebsocketServer.step w e = some w') : Table w' := by
  cases e with
  | onAccept socket =>
    simp only [WebsocketServer.step] at hs
    split at hs
    · split_ifs at hs with hstop
      · cases hs
        exact h
      · split at hs
        · cases hs
          exact h
        · split_ifs at hs
          · cases hs
            exact h
          · cases hs
            exact h.congr (fun _ => rfl) rfl rfl rfl le_rfl (fun s hs => by cases hs) h.closing
              h.stopping (fun hs => absurd hs hstop) fun hs => absurd hs hstop
    · cases hs
  | create =>
    simp only [WebsocketServer.step] at hs
    split at hs
    · rename_i hstrand
      cases hs
      have hwaiting := h.not_quiet (by rw [hstrand]; exact fun h => by cases h)
      refine h.congr (fun _ => rfl) rfl rfl rfl (Nat.le_succ _)
        (fun s hs => ?_) h.closing h.stopping
        (fun hs ho => absurd (hwaiting hs) ho) h.empty
      -- The number is larger than those that were given out.
      obtain rfl := AcceptJob.created.inj hs
      exact ⟨rfl, fun t ht => Nat.lt_succ_of_le (h.number_le t ht)⟩
    · cases hs
  | register =>
    simp only [WebsocketServer.step] at hs
    split at hs
    · rename_i hstrand
      cases hs
      exact h.registerSession hstrand
    · cases hs
  | accepted =>
    simp only [WebsocketServer.step] at hs
    split at hs
    · split at hs
      · cases hs
        exact h.congr (fun _ => rfl) rfl rfl rfl le_rfl (fun s hs => by cases hs) h.closing
          h.stopping (fun _ _ => rfl) h.empty
      · cases hs
        exact h.congr (fun _ => rfl) rfl rfl rfl le_rfl (fun s hs => by cases hs) h.closing
          h.stopping (fun _ _ => rfl) h.empty
    · cases hs
  | cancel =>
    simp only [WebsocketServer.step] at hs
    split at hs
    · rename_i hstrand howner
      cases hs
      have hstop := h.stopping (by rw [howner]; exact fun h => by cases h)
      exact h.congr (fun _ => rfl) rfl rfl rfl le_rfl h.created h.closing (fun _ => hstop)
        (fun _ _ => hstrand) fun _ _ hc => absurd rfl hc
    · cases hs
  | tryClose s =>
    simp only [WebsocketServer.step] at hs
    split_ifs at hs with hlive
    cases hs
    refine h.congr (fun _ => rfl) rfl rfl rfl le_rfl h.created (fun t ht => ?_) h.stopping h.quiet
      h.empty
    rcases List.mem_cons.mp ht with rfl | ht
    · exact hlive.1
    · exact h.closing t ht
  | destroySession s =>
    simp only [WebsocketServer.step] at hs
    split_ifs at hs with hclosing
    cases hs
    exact h.destroySession hclosing
  | start =>
    simp only [WebsocketServer.step] at hs
    split at hs
    · rename_i howner
      cases hs
      exact h.congr (fun _ => rfl) rfl rfl rfl le_rfl h.created h.closing
        (fun ho => absurd howner ho) (fun hs => by cases hs) fun hs => by cases hs
    · cases hs
  | stop =>
    simp only [WebsocketServer.step] at hs
    split at hs
    · split_ifs at hs
      · cases hs
        exact h
      · cases hs
        exact h.congr (fun _ => rfl) rfl rfl rfl le_rfl h.created h.closing (fun _ => rfl)
          (fun _ ho => absurd rfl ho) fun _ ho => absurd rfl ho
    · cases hs
  | drain =>
    simp only [WebsocketServer.step] at hs
    split at hs
    · rename_i howner
      cases hs
      exact h.drain howner
    · cases hs
  | stopped =>
    simp only [WebsocketServer.step] at hs
    split at hs
    · rename_i removed_sessions howner
      cases hs
      obtain ⟨is_live, heq⟩ := foldl_close removed_sessions w
      rw [heq]
      have hstop := h.stopping (by rw [howner]; exact fun h => by cases h)
      have hquiet := h.quiet hstop (by rw [howner]; exact fun h => by cases h)
      exact h.congr (fun _ => rfl) rfl rfl rfl le_rfl h.created h.closing (fun ho => absurd rfl ho)
        (fun _ _ => hquiet) fun _ _ _ => h.empty hstop (by rw [howner]; exact fun h => by cases h)
          (by rw [howner]; exact fun h => by cases h)
    · cases hs

/-- In every reachable state the entry of an address is the session with the largest number that was
ever accepted for its pool and address, unless that has destroyed itself or was drained;
`destroySession` of a session that has a later one changes nothing; and from the return of `Stop` to
the next `Start` both pools are empty. -/
theorem session_table {w : WebsocketServer} (h : Reachable WebsocketServer.step .initial w) :
    (∀ is_camera addr s, (w.session_pool is_camera).find? addr = some s ↔
      IsLatest w is_camera addr s ∧ s ∉ w.destroyed ∧ s ∉ w.drained) ∧
    (∀ s, ∀ t ∈ w.accepted, t.is_camera = s.is_camera → t.addr = s.addr →
      s.session_number < t.session_number → w.destroySession s = w) ∧
    (Stopped w → w.camera_sessions = .empty ∧ w.headset_sessions = .empty) := by
  have htable := h.invariant Table (fun _ _ _ h hs => h.step hs) table_initial
  refine ⟨htable.entry, fun s t ht htc hta hlt => ?_, fun ⟨howner, hstop⟩ => ?_⟩
  · unfold WebsocketServer.destroySession
    dsimp only
    split
    · rfl
    · rename_i dead hdead
      have hle := ((htable.entry _ _ _).mp hdead).1.le t ht htc hta
      rw [if_neg (by omega)]
  · have hempty := htable.empty hstop (by rw [howner]; exact fun h => by cases h)
      (by rw [howner]; exact fun h => by cases h)
    exact ⟨hempty true, hempty false⟩

/-- A headset reconnects, and its first session destroys itself afterwards. -/
theorem session_table_reconnect : ∃ w, run WebsocketServer.step .initial
    [.start, .onAccept (some (.HEADSET_CONNECTION, 7)), .create, .register, .accepted,
      .tryClose ⟨.HEADSET_CONNECTION, 7, 1⟩, .onAccept (some (.HEADSET_CONNECTION, 7)), .create,
      .register, .destroySession ⟨.HEADSET_CONNECTION, 7, 1⟩] = some w ∧
    w.headset_sessions.find? 7 = some ⟨.HEADSET_CONNECTION, 7, 2⟩ ∧
    w.destroySession ⟨.HEADSET_CONNECTION, 7, 1⟩ = w := by
  obtain ⟨w, hw, hfind, hmem⟩ : ∃ w, run WebsocketServer.step .initial
      [.start, .onAccept (some (.HEADSET_CONNECTION, 7)), .create, .register, .accepted,
        .tryClose ⟨.HEADSET_CONNECTION, 7, 1⟩, .onAccept (some (.HEADSET_CONNECTION, 7)), .create,
        .register, .destroySession ⟨.HEADSET_CONNECTION, 7, 1⟩] = some w ∧
      w.headset_sessions.find? 7 = some ⟨.HEADSET_CONNECTION, 7, 2⟩ ∧
      ⟨.HEADSET_CONNECTION, 7, 2⟩ ∈ w.accepted := ⟨_, rfl, rfl, by decide⟩
  exact ⟨w, hw, hfind, (session_table ⟨_, hw⟩).2.1 _ _ hmem rfl rfl (by decide)⟩

end AugmentedNormalcy.Websocket
