import AugmentedNormalcy.Server.Gathering
import AugmentedNormalcy.Server.Regions
import Mathlib.Data.List.Induction

/-!
# The strategies of the server

`ServerStreamer::assignStrategies` of `src/internal/service/server/server_streamer.cpp` picks how
the accept handler tells cameras from headsets, and what the worker thread does. Under
`CAMERA_THEN_HEADSET` there is never a second camera or headset, although the counts are read before
the session is registered, as long as `Clear` does not come between the two regions of an
`AddReaderSession` (`throughout_oneEach_iff`). The timer takes the attached headsets round the
cameras together (`automatic_tour`), and the manual entry moves them to the last camera that was
entered and is there (`entered_last`). -/

namespace AugmentedNormalcy.Server.Strategies

open ConnectionManager StepSystem

/-! ## What a client is -/

/-- `tcp::endpoint`. -/
structure Endpoint where
  address : TcpAddr
  port : ℕ
deriving DecidableEq

inductive ClientAssignmentStrategy where
  | CAMERA_THEN_HEADSET
  | IP_BOUNDS
  | ENDPOINT_PORT
deriving DecidableEq

/-- The address with these bytes. -/
def addressOf (a b c d : UInt8) : TcpAddr :=
  ⟨a.toNat * 2 ^ 24 + b.toNat * 2 ^ 16 + c.toNat * 2 ^ 8 + d.toNat, by
    have ha := a.toNat_lt
    have hb := b.toNat_lt
    have hc := c.toNat_lt
    have hd := d.toNat_lt
    omega⟩

/-- `ConnectionAssignCameraThenHeadset`. -/
def connectionAssignCameraThenHeadset (m : ConnectionManager) : ConnectionType :=
  let connection_counts := m.getConnectionCounts
  if connection_counts.1 = 0 ∧ connection_counts.2 = 0 then .CAMERA_CONNECTION
  else if connection_counts.2 = 0 then .HEADSET_CONNECTION
  else .UNKNOWN_CONNECTION

/-- `ConnectionAssignIpBounds`. -/
def connectionAssignIpBounds (endpoint : Endpoint) : ConnectionType :=
  if addressOf 69 4 20 200 ≤ endpoint.address then .CAMERA_CONNECTION
  else if addressOf 69 4 20 190 ≤ endpoint.address then .DISPLAY_CONNECTION
  else if addressOf 69 4 20 100 ≤ endpoint.address then .HEADSET_CONNECTION
  else .UNKNOWN_CONNECTION

/-- `ConnectionAssignEndpointPort`. -/
def connectionAssignEndpointPort (endpoint : Endpoint) : ConnectionType :=
  let port := endpoint.port
  if port = 11111 ∨ port = 12111 then .CAMERA_CONNECTION
  else if port = 21222 ∨ port = 22222 then .HEADSET_CONNECTION
  else if port = 31333 ∨ port = 32333 then .DISPLAY_CONNECTION
  else .UNKNOWN_CONNECTION

/-- `GetConnectionType`. -/
def getConnectionType (strategy : ClientAssignmentStrategy) (m : ConnectionManager)
    (endpoint : Endpoint) : ConnectionType :=
  match strategy with
  | .CAMERA_THEN_HEADSET => connectionAssignCameraThenHeadset m
  | .IP_BOUNDS => connectionAssignIpBounds endpoint
  | .ENDPOINT_PORT => connectionAssignEndpointPort endpoint

/-! ## The accept handler -/

/-- The server, and whether `GetConnectionType` has been called for the connection that the accept
handler has. -/
structure State where
  server : Shutdown.State
  assigned : Bool

inductive Event where
  /-- The accept handler tests `_is_stopped`. -/
  | accept (session : Session)
  /-- It calls `GetConnectionType`. -/
  | assign (port : ℕ)
  /-- Any other step of the server. -/
  | server (ev : Shutdown.Event)

def initial : State := ⟨Shutdown.initial, false⟩

def step (strategy : ClientAssignmentStrategy) (s : State) : Event → Option State
  | .accept session =>
    (Shutdown.step s.server (.accept session .UNKNOWN_CONNECTION)).map fun server => ⟨server, false⟩
  | .assign port =>
    match s.server.handler with
    | .accepted session _ =>
      if s.assigned then none
      else
        let connection_type := getConnectionType strategy s.server.manager ⟨session.addr, port⟩
        some ⟨{ s.server with handler := .accepted session connection_type }, true⟩
    | _ => none
  | .server (.accept _ _) => none
  | .server .register =>
    if s.assigned then (Shutdown.step s.server .register).map fun server => { s with server }
    else none
  -- A headset's session closes itself when it cannot write, and it has to be in a list before.
  | .server (.closeWriter session) =>
    if s.server.handler.addingWriter? = some session then none
    else (Shutdown.step s.server (.closeWriter session)).map fun server => { s with server }
  | .server ev => (Shutdown.step s.server ev).map fun server => { s with server }

/-- What each step finds, and what it leaves. -/
inductive Step (strategy : ClientAssignmentStrategy) (s : State) : Event → State → Prop
  | accept {session : Session} {server : Shutdown.State}
      (hserver : Shutdown.step s.server (.accept session .UNKNOWN_CONNECTION) = some server) :
    Step strategy s (.accept session) ⟨server, false⟩
  | assign {session : Session} {connection_type : ConnectionType} (port : ℕ)
      (hhandler : s.server.handler = .accepted session connection_type) :
    Step strategy s (.assign port) ⟨{ s.server with
      handler := .accepted session
        (getConnectionType strategy s.server.manager ⟨session.addr, port⟩) }, true⟩
  | server {ev : Shutdown.Event} {server : Shutdown.State}
      (haccept : ∀ session connection_type, ev ≠ .accept session connection_type)
      (hclose : ∀ session, ev = .closeWriter session →
        s.server.handler.addingWriter? ≠ some session)
      (hserver : Shutdown.step s.server ev = some server) :
    Step strategy s (.server ev) { s with server }

theorem Step.of_step {strategy : ClientAssignmentStrategy} {s s' : State} {ev : Event}
    (hs : step strategy s ev = some s') : Step strategy s ev s' := by
  cases ev with
  | accept session =>
    obtain ⟨server, hserver, rfl⟩ := Option.map_eq_some_iff.mp hs
    exact .accept hserver
  | assign port =>
    simp only [step] at hs
    split at hs
    · split_ifs at hs
      cases hs
      exact .assign port ‹_›
    · cases hs
  | server ev =>
    cases ev with
    | accept => cases hs
    | register =>
      obtain ⟨-, hs⟩ := Option.ite_none_right_eq_some.mp hs
      obtain ⟨server, hserver, rfl⟩ := Option.map_eq_some_iff.mp hs
      exact .server (fun _ _ => Shutdown.Event.noConfusion) (fun _ => Shutdown.Event.noConfusion)
        hserver
    | closeWriter session =>
      obtain ⟨hadding, hs⟩ := Option.ite_none_left_eq_some.mp hs
      obtain ⟨server, hserver, rfl⟩ := Option.map_eq_some_iff.mp hs
      refine .server (fun _ _ => Shutdown.Event.noConfusion) (fun x heq => ?_) hserver
      cases heq
      exact hadding
    | _ =>
      obtain ⟨server, hserver, rfl⟩ := Option.map_eq_some_iff.mp hs
      exact .server (fun _ _ => Shutdown.Event.noConfusion) (fun _ => Shutdown.Event.noConfusion)
        hserver

/-! ## One camera and one headset -/

/-- The map has at most one key. -/
def AtMostOne {V : Type} (m : OrdMap TcpAddr V) : Prop :=
  ∀ a b, (m.find? a).isSome → (m.find? b).isSome → a = b

theorem AtMostOne.size_le {V : Type} {m : OrdMap TcpAddr V} (h : AtMostOne m) : m.size ≤ 1 := by
  by_cases hempty : m = .empty
  · rw [OrdMap.size_eq_zero.mpr hempty]
    exact Nat.zero_le 1
  · obtain ⟨a, ha⟩ := OrdMap.ne_empty_iff.mp hempty
    exact ((OrdMap.size_eq_one_iff ha).mpr fun b hb => h b a hb ha).le

/-- A map with entries of another one only. -/
theorem AtMostOne.of_sub {V : Type} {m m' : OrdMap TcpAddr V} (h : AtMostOne m)
    (hsub : ∀ {a x}, m'.find? a = some x → m.find? a = some x) : AtMostOne m' := by
  intro a b ha hb
  obtain ⟨x, hx⟩ := Option.isSome_iff_exists.mp ha
  obtain ⟨y, hy⟩ := Option.isSome_iff_exists.mp hb
  exact h a b (by rw [hsub hx]; rfl) (by rw [hsub hy]; rfl)

theorem AtMostOne.insert_empty {V : Type} {m : OrdMap TcpAddr V} (h : m = .empty) (a : TcpAddr)
    (v : V) : AtMostOne (m.insert a v) := by
  have hkey : ∀ b, ((m.insert a v).find? b).isSome → b = a := by
    intro b hb
    rw [OrdMap.find?_insert] at hb
    split_ifs at hb with heq
    · exact heq
    · rw [h] at hb
      cases hb
  intro b c hb hc
  rw [hkey b hb, hkey c hc]

/-- A map whose entries are all entries of an empty one is empty. -/
theorem eq_empty_of_sub {V : Type} {m m' : OrdMap TcpAddr V} (h : m = .empty)
    (hsub : ∀ {a x}, m'.find? a = some x → m.find? a = some x) : m' = .empty := by
  rw [OrdMap.eq_empty_iff] at h ⊢
  intro a
  by_contra hne
  obtain ⟨x, hx⟩ := Option.ne_none_iff_exists'.mp hne
  have hx' := hsub hx
  rw [h a] at hx'
  cases hx'

/-- The lists of the readers are empty together with the readers. -/
theorem reader_connections_eq_empty_iff {m : ConnectionManager} (h : Attachment m) :
    m.reader_connections = .empty ↔ m.reader_sessions = .empty := by
  rw [OrdMap.eq_empty_iff, OrdMap.eq_empty_iff]
  refine forall_congr' fun r => ?_
  rw [← Option.not_isSome_iff_eq_none, ← Option.not_isSome_iff_eq_none, h.reader_keys]

/-- `GetConnectionCounts` counts the attached headsets, and all are attached once there is a
camera. -/
theorem assigned_of_fullyAttached {m : ConnectionManager} (h : FullyAttached m) :
    (connectionAssignCameraThenHeadset m = .CAMERA_CONNECTION → m.reader_sessions = .empty) ∧
      (connectionAssignCameraThenHeadset m = .HEADSET_CONNECTION → m.writer_sessions = .empty) ∧
      connectionAssignCameraThenHeadset m ≠ .DISPLAY_CONNECTION := by
  unfold connectionAssignCameraThenHeadset getConnectionCounts
  dsimp only
  simp only [OrdMap.size_eq_zero]
  split_ifs with hnone hheadset
  · refine ⟨fun _ => ?_, False.elim, ConnectionType.noConfusion⟩
    exact (reader_connections_eq_empty_iff h.toAttachment).mp hnone.1
  · refine ⟨False.elim, fun _ => ?_, ConnectionType.noConfusion⟩
    -- There is a camera, so every headset would be attached.
    have hreaders : m.reader_sessions ≠ .empty := fun hempty =>
      hnone ⟨(reader_connections_eq_empty_iff h.toAttachment).mpr hempty, hheadset⟩
    rw [OrdMap.eq_empty_iff]
    intro w
    by_contra hw
    have hattached := (h.attached_iff (Option.isSome_iff_ne_none.mpr hw)).mpr hreaders
    rw [hheadset] at hattached
    exact Bool.false_ne_true hattached
  · exact ⟨False.elim, False.elim, ConnectionType.noConfusion⟩

/-- Where the accept handler is: it lets a camera in only when there is none, and a headset only
when there is none. So the camera that it adds is the first one, and the headset replaces none. -/
def Admits (s : Shutdown.State) : Prop :=
  match s.handler with
  | .accepted _ .CAMERA_CONNECTION => s.manager.reader_sessions = .empty
  | .accepted _ .HEADSET_CONNECTION => s.manager.writer_sessions = .empty
  | .accepted _ .DISPLAY_CONNECTION => False
  | .registeredReader _ is_first_reader _ => is_first_reader = true
  | .registeredWriter session _ replace_connection =>
    replace_connection = false ∧ session ∉ s.removing_writers
  | .accepted _ .UNKNOWN_CONNECTION | .idle | .connected _ _ => True

theorem Admits.of_handler {s s' : Shutdown.State} (h : Admits s) (hhandler : s'.handler = s.handler)
    (hreaders : ∀ {a x}, s'.manager.reader_sessions.find? a = some x →
      s.manager.reader_sessions.find? a = some x)
    (hwriters : ∀ {a x}, s'.manager.writer_sessions.find? a = some x →
      s.manager.writer_sessions.find? a = some x)
    (hremoving : ∀ session ∈ s'.removing_writers,
      session ∈ s.removing_writers ∨ s.handler.addingWriter? ≠ some session) : Admits s' := by
  unfold Admits at h ⊢
  rw [hhandler]
  split at h
  · exact eq_empty_of_sub h hreaders
  · exact eq_empty_of_sub h hwriters
  · exact h
  · exact h
  · rename_i session old replace_connection heq
    refine ⟨h.1, fun hmem => ?_⟩
    obtain hmem | hne := hremoving session hmem
    · exact h.2 hmem
    · rw [heq] at hne
      exact hne rfl
  · trivial
  · trivial
  · trivial

/-- What holds under `CAMERA_THEN_HEADSET`. -/
structure Inv (s : State) : Prop where
  maps : Shutdown.Maps s.server
  readers : AtMostOne s.server.manager.reader_sessions
  writers : AtMostOne s.server.manager.writer_sessions
  admits : Admits s.server

variable {s s' : State}

/-- Nobody is registered at first. -/
theorem Inv.initial : Inv initial where
  maps := .initial
  readers _ _ h := by cases h
  writers _ _ h := by cases h
  admits := trivial

/-- Between two accepts the readers and the writer are attached. -/
theorem Inv.fullyAttached (h : Inv s) (hidle : s.server.handler.phase = .idle) :
    FullyAttached s.server.manager :=
  have hinvariant := h.maps.invariant hidle
  fullyAttached_iff.mpr ⟨hinvariant.consistent, hinvariant.addressed.writer⟩

/-- The second region of `AddReaderSession` finds its reader registered: `Clear` has not run since
the first one. -/
def FindsReader (s : State) : Event → Prop
  | .server (.connect _) => ∀ session is_first_reader old,
    s.server.handler = .registeredReader session is_first_reader old →
      s.server.manager.reader_sessions.find? session.addr = some session
  | _ => True

/-- Nothing else disturbs an `Add`. -/
theorem Inv.undisturbed (h : Inv s) {ev : Shutdown.Event} {server : Shutdown.State}
    (hfinds : FindsReader s (.server ev)) (hs : Shutdown.step s.server ev = some server) :
    Shutdown.Undisturbed s.server ev := by
  have hadmits := h.admits
  unfold Admits at hadmits
  cases ev with
  | connect read =>
    unfold Shutdown.Undisturbed Shutdown.Handler.Intact
    dsimp only
    cases hhandler : s.server.handler with
    | registeredReader session is_first_reader old =>
      rw [hhandler] at hadmits
      refine ⟨hfinds _ _ _ hhandler, fun hfirst => ?_⟩
      cases hadmits.symm.trans hfirst
    | registeredWriter session old replace_connection =>
      rw [hhandler] at hadmits
      exact fun hreplace => by cases hadmits.1.symm.trans hreplace
    | _ => trivial
  | removeWriterSession session =>
    obtain ⟨hmem, -⟩ := Option.ite_none_right_eq_some.mp hs
    intro hadding
    cases hhandler : s.server.handler with
    | registeredWriter x old replace_connection =>
      rw [hhandler] at hadmits hadding
      cases hadding
      exact absurd hmem hadmits.2
    | _ =>
      rw [hhandler] at hadding
      cases hadding
  | _ => trivial

/-- The first region registers a camera or a headset where there is none. -/
theorem Inv.register (h : Inv s) {session : Session} {connection_type : ConnectionType}
    (hhandler : s.server.handler = .accepted session connection_type) :
    Inv { s with server := s.server.register session connection_type } := by
  have hmaps := h.maps.register hhandler
  have hadmits := h.admits
  unfold Admits at hadmits
  rw [hhandler] at hadmits
  cases connection_type with
  | CAMERA_CONNECTION =>
    refine ⟨hmaps, AtMostOne.insert_empty hadmits _ _, h.writers, ?_⟩
    exact beq_iff_eq.mpr (OrdMap.size_eq_zero.mpr hadmits)
  | HEADSET_CONNECTION =>
    refine ⟨hmaps, h.readers, AtMostOne.insert_empty hadmits _ _, ?_, fun hmem => ?_⟩
    · rw [Bool.eq_false_iff]
      intro hreplace
      obtain ⟨hold, -⟩ := Invariant.addWriterRegister_replace hreplace
      change (s.server.manager.writer_sessions.find? session.addr).isSome at hold
      rw [hadmits] at hold
      cases hold
    · exact (h.maps.fresh hhandler).2 (h.maps.tracks.removing_writers session hmem).1
  | DISPLAY_CONNECTION => exact hadmits.elim
  | UNKNOWN_CONNECTION => exact ⟨hmaps, h.readers, h.writers, trivial⟩

/-- A step of the server that registers nobody. -/
theorem Inv.of_other (h : Inv s) {ev : Shutdown.Event} {server : Shutdown.State}
    (hmaps : Shutdown.Maps server)
    (hregister : ev ≠ .register) (hadmits : Admits server)
    (hs : Shutdown.step s.server ev = some server) : Inv { s with server } := by
  obtain ⟨hreaders, hwriters⟩ := Shutdown.registered_of_step hs hregister
  exact ⟨hmaps, h.readers.of_sub hreaders, h.writers.of_sub hwriters, hadmits⟩

/-- The handler waits, or has gone on to a place where it lets nobody in. -/
theorem Inv.admits_of_step (h : Inv s) {ev : Shutdown.Event} {server : Shutdown.State}
    (haccept : ∀ session connection_type, ev ≠ .accept session connection_type)
    (hregister : ev ≠ .register)
    (hclose : ∀ session, ev = .closeWriter session →
      s.server.handler.addingWriter? ≠ some session)
    (hs : Shutdown.step s.server ev = some server) : Admits server := by
  obtain ⟨hreaders, hwriters⟩ := Shutdown.registered_of_step hs hregister
  cases Shutdown.Step.of_step hs with
  | accept => exact absurd rfl (haccept _ _)
  | register => exact absurd rfl hregister
  | connectReader | connectWriter | finish => trivial
  | @closeWriter session hmem =>
    refine h.admits.of_handler rfl hreaders hwriters fun x hx => ?_
    obtain rfl | hx := List.mem_cons.mp hx
    · exact .inr (hclose x rfl)
    · exact .inl hx
  | removeWriterSession =>
    exact h.admits.of_handler rfl hreaders hwriters fun x hx => .inl (List.mem_of_mem_erase hx)
  | _ => exact h.admits.of_handler rfl hreaders hwriters fun x hx => .inl hx

/-- Every step keeps the invariant. -/
theorem Inv.step (h : Inv s) {ev : Event} (hfinds : FindsReader s ev)
    (hs : Strategies.step .CAMERA_THEN_HEADSET s ev = some s') : Inv s' := by
  cases Step.of_step hs with
  | @accept session server hserver =>
    have hmaps : Shutdown.Maps server := h.maps.step
      (show Shutdown.Undisturbed s.server (.accept session .UNKNOWN_CONNECTION) from trivial)
        hserver
    cases Shutdown.Step.of_step hserver with
    | accept =>
      refine ⟨hmaps, h.readers, h.writers, ?_⟩
      unfold Admits
      dsimp only
      split_ifs <;> trivial
  | @assign session connection_type port hhandler =>
    -- The counts are those of consistent maps.
    obtain ⟨hcamera, hheadset, hdisplay⟩ :=
      assigned_of_fullyAttached (h.fullyAttached (by rw [hhandler]; rfl))
    refine ⟨h.maps.assign hhandler _, h.readers, h.writers, ?_⟩
    unfold Admits getConnectionType
    dsimp only
    cases htype : connectionAssignCameraThenHeadset s.server.manager with
    | CAMERA_CONNECTION => exact hcamera htype
    | HEADSET_CONNECTION => exact hheadset htype
    | DISPLAY_CONNECTION => exact hdisplay htype
    | UNKNOWN_CONNECTION => trivial
  | @server ev server haccept hclose hserver =>
    by_cases hregister : ev = .register
    · subst hregister
      cases Shutdown.Step.of_step hserver with
      | register hhandler => exact h.register hhandler
    · exact h.of_other (h.maps.step (h.undisturbed hfinds hserver) hserver) hregister
        (h.admits_of_step haccept hregister hclose hserver) hserver

/-- There is at most one camera and one headset. Between two `Add`s the maps are consistent, and the
frames of the camera go to the headset, and to no other. -/
structure OneEach (m : ConnectionManager) (idle : Prop) : Prop where
  readers : m.reader_sessions.size ≤ 1
  writers : m.writer_sessions.size ≤ 1
  attached : idle → FullyAttached m
  routed : idle → ∀ camera headset, m.reader_sessions.find? camera.addr = some camera →
    m.writer_sessions.find? headset.addr = some headset → m.postMessage camera.addr = [headset]

/-- The list of the only camera. -/
theorem postMessage_eq_of_atMostOne {m : ConnectionManager} (h : FullyAttached m)
    (hreaders : AtMostOne m.reader_sessions) (hwriters : AtMostOne m.writer_sessions)
    {camera : Reader} {headset : Writer}
    (hcamera : m.reader_sessions.find? camera.addr = some camera)
    (hheadset : m.writer_sessions.find? headset.addr = some headset) :
    m.postMessage camera.addr = [headset] := by
  have hconsistent := (fullyAttached_iff.mp h).1
  have hmem : ∀ {x}, x ∈ m.postMessage camera.addr ↔ _ :=
    hconsistent.mem_postMessage camera.addr _
  -- The headset is attached, and to the only camera.
  have hattached : m.writer_connections.find? headset.addr = some camera.addr := by
    have hne : m.reader_sessions ≠ .empty :=
      OrdMap.ne_empty_iff.mpr ⟨camera.addr, by rw [hcamera]; rfl⟩
    obtain ⟨r, hr⟩ := Option.isSome_iff_exists.mp
      ((h.attached_iff (by rw [hheadset]; rfl)).mpr hne)
    obtain ⟨-, l, -, hl, -⟩ := h.current hr
    have hreg := (h.reader_keys r).mp (by rw [hl]; rfl)
    rw [hr, hreaders r camera.addr hreg (by rw [hcamera]; rfl)]
  have hin : headset ∈ m.postMessage camera.addr := hmem.mpr ⟨hheadset, hattached⟩
  -- Nobody else is registered.
  have honly : ∀ x ∈ m.postMessage camera.addr, x = headset := by
    intro x hx
    have hreg := (hmem.mp hx).1
    have haddr := hwriters x.addr headset.addr (by rw [hreg]; rfl) (by rw [hheadset]; rfl)
    rw [haddr, hheadset] at hreg
    exact (Option.some.inj hreg).symm
  have hnodup : (m.postMessage camera.addr).Nodup := by
    unfold postMessage
    cases hl : m.reader_connections.find? camera.addr with
    | none => exact List.nodup_nil
    | some l => exact h.nodup hl
  exact List.perm_singleton.mp ((List.perm_ext_iff_of_nodup hnodup (List.nodup_singleton _)).mpr
    fun x => ⟨fun hx => List.mem_singleton.mpr (honly x hx),
      fun hx => List.mem_singleton.mp hx ▸ hin⟩)

/-- Which is one reader and one writer at most. -/
theorem Inv.oneEach (h : Inv s) :
    OneEach s.server.manager (s.server.handler.phase = .idle) where
  readers := h.readers.size_le
  writers := h.writers.size_le
  attached := h.fullyAttached
  routed hidle _ _ hcamera hheadset :=
    postMessage_eq_of_atMostOne (h.fullyAttached hidle) h.readers h.writers hcamera hheadset

/-- After a `Clear` between the regions, the second region makes a list for a camera that is not
there. -/
theorem Inv.not_oneEach (h : Inv s) {ev : Event} (hfinds : ¬ FindsReader s ev)
    (hs : Strategies.step .CAMERA_THEN_HEADSET s ev = some s') :
    ¬ OneEach s'.server.manager (s'.server.handler.phase = .idle) := by
  intro hone
  cases Step.of_step hs with
  | @server ev server _ _ hserver =>
    cases Shutdown.Step.of_step hserver with
    | @connectReader _ session is_first_reader old hhandler =>
      have hgone : s.server.manager.reader_sessions.find? session.addr ≠ some session := by
        intro hfound
        refine hfinds fun x b o heq => ?_
        rw [hhandler] at heq
        cases heq
        exact hfound
      -- The reader was registered before, so the maps have been emptied.
      have hcleared : s.server.manager.Cleared := by
        obtain hinvariant | ⟨-, hcleared⟩ := h.maps.phased
        · have hregistered := hinvariant.registered
          rw [hhandler] at hregistered
          exact absurd hregistered.1 hgone
        · exact hcleared
      obtain ⟨-, hreaders, -, hlists⟩ :=
        addReaderConnect_spec s.server.manager session.addr is_first_reader
      have hkeys := (hone.attached rfl).reader_keys session.addr
      dsimp only at hkeys
      rw [hreaders, hcleared.reader_sessions] at hkeys
      have hlist := (hlists session.addr).mpr (.inl rfl)
      cases hkeys.mp hlist
    | connectWriter hhandler =>
      refine hfinds fun x b o heq => ?_
      rw [hhandler] at heq
      cases heq
    | _ => exact hfinds trivial
  | _ => exact hfinds trivial

/-- Under `CAMERA_THEN_HEADSET`, with any steps of the server between any two steps of the accept
handler: there is never a second camera or headset, and between two `Add`s the maps are consistent,
exactly as long as no `Clear` comes between the two regions of an `AddReaderSession`. -/
theorem throughout_oneEach_iff (es : List Event) :
    Throughout (step .CAMERA_THEN_HEADSET)
        (fun s => OneEach s.server.manager (s.server.handler.phase = .idle)) initial es ↔
      Along (step .CAMERA_THEN_HEADSET) FindsReader initial es :=
  throughout_iff_along Inv (fun _ h => h.oneEach) (fun _ _ _ h => h.step)
    (fun _ _ _ h => h.not_oneEach) .initial

/-- `Clear` comes while the first camera is between its two regions. -/
theorem not_throughout_oneEach :
    ¬ Throughout (step .CAMERA_THEN_HEADSET)
        (fun s => OneEach s.server.manager (s.server.handler.phase = .idle)) initial
      [.server .start, .accept ⟨1, 10⟩, .assign 40000, .server .register, .server .clear,
        .server (.connect 10)] := by
  intro h
  have hkeys := ((h.last rfl).attached rfl).reader_keys 10
  cases hkeys.mp rfl

/-! ## Switching by a timer -/

/-- Where `CameraSwitchingAutomaticTimer` is. -/
inductive Place where
  /-- It tests `_work_stop`. -/
  | testing
  /-- It reads the clock. -/
  | reading
  | sleeping
  /-- It calls `RotateAllConnections`, at `now` by the clock. -/
  | rotating (now : ℤ)
  | ended
deriving DecidableEq

/-- Whether the thread may rotate once more without a test of `_work_stop`. -/
def Place.pending : Place → ℕ
  | .reading | .rotating _ => 1
  | .testing | .sleeping | .ended => 0

/-- The worker thread, and the manager. Times are in nanoseconds. -/
structure Timer where
  calls : Sequential.State
  clock : ℤ
  last_timer : ℤ
  work_stop : Bool
  place : Place
  /-- How often `RotateAllConnections` was called by the thread. -/
  rotations : ℕ

inductive TimerEvent where
  /-- The clock goes on. It is the system's clock, so it may also be set back. -/
  | tick (now : ℤ)
  /-- A call of another thread. -/
  | call (c : Sequential.Call)
  /-- `Stop` sets `_work_stop`. -/
  | stop
  | test
  | read
  | wake
  | rotate

namespace Timer

/-- The thread as it starts. -/
def start (calls : Sequential.State) (now : ℤ) : Timer where
  calls := calls
  clock := now
  last_timer := now
  work_stop := false
  place := .testing
  rotations := 0

/-- The seconds of a duration, as `duration_cast` truncates them. -/
def seconds (duration : ℤ) : ℤ := duration.tdiv 1000000000

def step (automatic_timeout : ℤ) (t : Timer) : TimerEvent → Option Timer
  | .tick now => some { t with clock := now }
  | .call c => (Sequential.step t.calls c).map fun calls => { t with calls }
  | .stop => some { t with work_stop := true }
  | .test =>
    if t.place = .testing then some { t with place := if t.work_stop then .ended else .reading }
    else none
  | .read =>
    if t.place = .reading then
      let now := t.clock
      some { t with
        place := if seconds (now - t.last_timer) < automatic_timeout then .sleeping
          else .rotating now }
    else none
  | .wake => if t.place = .sleeping then some { t with place := .testing } else none
  | .rotate =>
    match t.place with
    | .rotating now =>
      some { t with
        calls := { t.calls with manager := t.calls.manager.rotateAllConnections.1 }
        last_timer := now
        place := .testing
        rotations := t.rotations + 1 }
    | _ => none

/-- The event is no call of another thread. -/
def Alone : TimerEvent → Prop
  | .call _ => False
  | _ => True

/-- The event wipes out no list of the manager. -/
def KeepsList (t : Timer) : TimerEvent → Prop
  | .call c => Sequential.KeepsList t.calls c
  | _ => True

instance : DecidablePred Alone
  | .call _ => isFalse id
  | .tick _ | .stop | .test | .read | .wake | .rotate => isTrue trivial

instance (t : Timer) : DecidablePred (KeepsList t)
  | .call c => inferInstanceAs (Decidable (Sequential.KeepsList t.calls c))
  | .tick _ | .stop | .test | .read | .wake | .rotate => isTrue trivial

/-- What each step finds, and what it leaves. -/
inductive Step (automatic_timeout : ℤ) (t : Timer) : TimerEvent → Timer → Prop
  | tick (now : ℤ) : Step automatic_timeout t (.tick now) { t with clock := now }
  | call {c : Sequential.Call} {calls : Sequential.State}
      (hcall : Sequential.step t.calls c = some calls) :
    Step automatic_timeout t (.call c) { t with calls }
  | stop : Step automatic_timeout t .stop { t with work_stop := true }
  | ended (hplace : t.place = .testing) (hstop : t.work_stop = true) :
    Step automatic_timeout t .test { t with place := .ended }
  | goOn (hplace : t.place = .testing) (hstop : t.work_stop = false) :
    Step automatic_timeout t .test { t with place := .reading }
  | sleep (hplace : t.place = .reading) :
    Step automatic_timeout t .read { t with place := .sleeping }
  | due (hplace : t.place = .reading)
      (hdue : automatic_timeout ≤ seconds (t.clock - t.last_timer)) :
    Step automatic_timeout t .read { t with place := .rotating t.clock }
  | wake (hplace : t.place = .sleeping) :
    Step automatic_timeout t .wake { t with place := .testing }
  | rotate {now : ℤ} (hplace : t.place = .rotating now) :
    Step automatic_timeout t .rotate
      { t with
        calls := { t.calls with manager := t.calls.manager.rotateAllConnections.1 }
        last_timer := now
        place := .testing
        rotations := t.rotations + 1 }

theorem Step.of_step {automatic_timeout : ℤ} {t t' : Timer} {ev : TimerEvent}
    (hs : step automatic_timeout t ev = some t') : Step automatic_timeout t ev t' := by
  unfold step at hs
  cases ev with
  | tick now =>
    cases hs
    exact .tick now
  | call c =>
    obtain ⟨calls, hcall, rfl⟩ := Option.map_eq_some_iff.mp hs
    exact .call hcall
  | stop =>
    cases hs
    exact .stop
  | test =>
    obtain ⟨hplace, hs⟩ := Option.ite_none_right_eq_some.mp hs
    cases hs
    split_ifs with hstop
    · exact .ended hplace hstop
    · exact .goOn hplace (Bool.eq_false_iff.mpr hstop)
  | read =>
    obtain ⟨hplace, hs⟩ := Option.ite_none_right_eq_some.mp hs
    cases hs
    split_ifs with hdue
    · exact .sleep hplace
    · exact .due hplace (not_lt.mp hdue)
  | wake =>
    obtain ⟨hplace, ⟨⟩⟩ := Option.ite_none_right_eq_some.mp hs
    exact .wake hplace
  | rotate =>
    dsimp only at hs
    split at hs <;> cases hs
    exact .rotate ‹_›

/-! ### The tour -/

variable {automatic_timeout : ℤ} {t t' : Timer}

/-- Seconds that are over have passed. -/
theorem le_of_le_seconds {duration : ℤ} (hpos : 0 < automatic_timeout)
    (h : automatic_timeout ≤ seconds duration) : automatic_timeout * 1000000000 ≤ duration := by
  unfold seconds at h
  obtain hduration | hduration := Int.le_total 0 duration
  · rw [Int.tdiv_eq_ediv_of_nonneg hduration] at h
    omega
  · obtain ⟨n, rfl⟩ : ∃ n, duration = -n := ⟨-duration, (Int.neg_neg duration).symm⟩
    rw [Int.neg_tdiv, Int.tdiv_eq_ediv_of_nonneg (by omega)] at h
    omega

/-- What is due has waited for its time. -/
def Due (automatic_timeout : ℤ) (t : Timer) : Prop :=
  ∀ now, t.place = .rotating now → t.last_timer + automatic_timeout * 1000000000 ≤ now

/-- The next rotation stays due at its time. -/
theorem Due.step (hpos : 0 < automatic_timeout) (h : Due automatic_timeout t) {ev : TimerEvent}
    (hs : step automatic_timeout t ev = some t') : Due automatic_timeout t' := by
  cases Step.of_step hs with
  | tick | call | stop => exact h
  | ended | goOn | sleep | wake | rotate =>
    intro now heq
    cases heq
  | due hplace hdue =>
    intro now heq
    cases heq
    have hle := le_of_le_seconds hpos hdue
    dsimp only
    omega

/-- From `t₀` on, the thread has rotated `k` times, and nobody else has called the manager. -/
structure Toured (automatic_timeout : ℤ) (t₀ t : Timer) (k : ℕ) : Prop where
  rotations : t.rotations = t₀.rotations + k
  manager : t.calls.manager = (allRotations t₀.calls.manager k).1
  paced : 0 < automatic_timeout →
    t₀.last_timer + k * (automatic_timeout * 1000000000) ≤ t.last_timer
  stopped : t₀.work_stop = true → t.work_stop = true ∧ k + t.place.pending ≤ 1

/-- Before anything happens nothing is rotated. -/
theorem Toured.refl (t₀ : Timer) : Toured automatic_timeout t₀ t₀ 0 := by
  refine ⟨rfl, rfl, fun _ => by omega, fun hstop => ⟨hstop, ?_⟩⟩
  cases t₀.place <;> simp [Place.pending]

/-- A tick rotates once when it is due, and nothing else rotates. -/
theorem Toured.step {t₀ : Timer} {k : ℕ} (h : Toured automatic_timeout t₀ t k)
    (hdue : 0 < automatic_timeout → Due automatic_timeout t) {ev : TimerEvent} (halone : Alone ev)
    (hs : step automatic_timeout t ev = some t') : ∃ k', Toured automatic_timeout t₀ t' k' := by
  obtain ⟨hrotations, hmanager, hpaced, hstopped⟩ := h
  cases Step.of_step hs with
  | call => exact halone.elim
  | tick now => exact ⟨k, hrotations, hmanager, hpaced, hstopped⟩
  | stop =>
    exact ⟨k, hrotations, hmanager, hpaced, fun hstop => ⟨rfl, (hstopped hstop).2⟩⟩
  | ended hplace hstop =>
    refine ⟨k, hrotations, hmanager, hpaced, fun hstop₀ => ⟨hstop, ?_⟩⟩
    have hle := (hstopped hstop₀).2
    exact (Nat.le_add_right _ _).trans hle
  | goOn hplace hstop =>
    -- It does not go on once it is stopped.
    refine ⟨k, hrotations, hmanager, hpaced, fun hstop₀ => ?_⟩
    rw [(hstopped hstop₀).1] at hstop
    cases hstop
  | sleep hplace | wake hplace =>
    refine ⟨k, hrotations, hmanager, hpaced, fun hstop₀ => ⟨(hstopped hstop₀).1, ?_⟩⟩
    have hle := (hstopped hstop₀).2
    exact (Nat.le_add_right _ _).trans hle
  | due hplace hdue =>
    refine ⟨k, hrotations, hmanager, hpaced, fun hstop₀ => ⟨(hstopped hstop₀).1, ?_⟩⟩
    have hle := (hstopped hstop₀).2
    rwa [hplace] at hle
  | @rotate now hplace =>
    refine ⟨k + 1, by dsimp only; omega, by dsimp only; rw [hmanager]; rfl, fun hpos => ?_,
      fun hstop₀ => ⟨(hstopped hstop₀).1, ?_⟩⟩
    · have hle := hpaced hpos
      have hnow := hdue hpos now hplace
      dsimp only
      rw [Int.natCast_add, Int.natCast_one, Int.add_mul, Int.one_mul]
      omega
    · have hle := (hstopped hstop₀).2
      rw [hplace] at hle
      exact hle

/-- The thread alone from `t₀` on. -/
theorem toured {t₀ : Timer} (hdue : 0 < automatic_timeout → Due automatic_timeout t₀)
    {es : List TimerEvent} (halone : ∀ ev ∈ es, Alone ev)
    (hrun : run (step automatic_timeout) t₀ es = some t) :
    ∃ k, Toured automatic_timeout t₀ t k := by
  have hinv := (along_of_forall halone t₀).run_invariant
    (fun t => (0 < automatic_timeout → Due automatic_timeout t) ∧
      ∃ k, Toured automatic_timeout t₀ t k)
    (fun t ev t' ⟨hdue, k, htoured⟩ hev hs =>
      ⟨fun hpos => (hdue hpos).step hpos hs, htoured.step hdue hev hs⟩)
    hrun ⟨hdue, 0, .refl t₀⟩
  exact hinv.2

/-- `k` rotations from the camera at `i` in address order, that of the first attached headset. -/
theorem allRotations_of_begin {m : ConnectionManager} (h : Attachment m) {w c : TcpAddr} {i : ℕ}
    (hw : m.writer_connections.begin? = some (w, c)) (hi : m.reader_sessions.keys[i]? = some c)
    (k : ℕ) : ∃ q, m.reader_sessions.keys[(i + (k + 1)) % m.reader_sessions.size]? = some q ∧
      ∀ x, (allRotations m (k + 1)).1.writer_connections.find? x =
        (m.writer_connections.find? x).map fun _ => q := by
  obtain ⟨q, hq, hreg, heq⟩ := h.rotateAllConnections_eq hw hi
  -- The first rotation brings them together.
  have hfirst : ∀ k, (allRotations m (k + 1)).1 =
      (allRotations m.rotateAllConnections.1 k).1 := by
    intro k
    induction k with
    | zero => rfl
    | succ k ih =>
      change (allRotations m (k + 1)).1.rotateAllConnections.1 = _
      rw [ih]
      rfl
  rw [hfirst, heq]
  split_ifs with hone
  · -- All headsets are on the only camera.
    have hall : ∀ x, (m.writer_connections.find? x).isSome →
        m.writer_connections.find? x = some c := by
      intro x hx
      obtain ⟨r, hr⟩ := Option.isSome_iff_exists.mp hx
      obtain ⟨-, l, -, hl, -⟩ := h.current hr
      have hrreg := (h.reader_keys r).mp (by rw [hl]; rfl)
      rw [hr, (OrdMap.size_eq_one_iff (OrdMap.mem_keys.mp (List.mem_of_getElem? hi))).mp hone r
        hrreg]
    obtain ⟨q', hq', -, -, hmap, -⟩ := h.allRotations_eq hi hall k
    refine ⟨q', ?_, hmap⟩
    rw [hone, Nat.mod_one] at hq' ⊢
    exact hq'
  · have hgathered := h.gathered ((h.reader_keys q).mpr hreg)
    obtain ⟨q', hq', hmap, -⟩ := hgathered.allRotations hq k
    refine ⟨q', ?_, hmap⟩
    rwa [Nat.mod_add_mod, Nat.add_assoc, Nat.add_comm 1 k] at hq'

/-- The thread and the other callers keep the manager consistent, as long as no list is wiped
out. -/
theorem inv_of_step (h : Sequential.Inv t.calls) {ev : TimerEvent} (hkeeps : KeepsList t ev)
    (hs : step automatic_timeout t ev = some t') : Sequential.Inv t'.calls := by
  cases Step.of_step hs with
  | call hcall => exact h.step hkeeps hcall
  | rotate => exact h.step (c := .rotateAllConnections) trivial rfl
  | _ => exact h

/-- The lists stay in step while the timer runs. -/
theorem attachment_of_run {now₀ : ℤ} {es : List TimerEvent}
    (hkeeps : Along (step automatic_timeout) KeepsList (start Sequential.initial now₀) es)
    (hrun : run (step automatic_timeout) (start Sequential.initial now₀) es = some t) :
    Attachment t.calls.manager := by
  have hinv := hkeeps.run_invariant (fun t => Sequential.Inv t.calls)
    (fun _ _ _ h hev hs => inv_of_step h hev hs) hrun Sequential.inv_initial
  exact (fullyAttached_iff.mpr
    ⟨hinv.manager.consistent, hinv.manager.addressed.writer⟩).toAttachment

end Timer

/-- After any run in which no list was wiped out, let the thread go on without a call of anybody
else, for `k` rotations. Each of them comes at least the timeout after the one before it, and at
most one after `_work_stop` is set. The headsets that are attached stay attached, and from the first
rotation on they are all together, on the camera that is `k` after that of the first headset, in
address order and around the end. -/
theorem automatic_tour {automatic_timeout : ℤ} {now₀ : ℤ} {es₀ es : List TimerEvent} {t₀ t : Timer}
    (hrun₀ : run (Timer.step automatic_timeout) (.start Sequential.initial now₀) es₀ = some t₀)
    (hkeeps : Along (Timer.step automatic_timeout) Timer.KeepsList
      (.start Sequential.initial now₀) es₀)
    (hrun : run (Timer.step automatic_timeout) t₀ es = some t)
    (halone : ∀ ev ∈ es, Timer.Alone ev) :
    ∃ k, t.rotations = t₀.rotations + k ∧
      (0 < automatic_timeout →
        t₀.last_timer + k * (automatic_timeout * 1000000000) ≤ t.last_timer) ∧
      (t₀.work_stop = true → k ≤ 1) ∧
      (k = 0 → t.calls.manager = t₀.calls.manager) ∧
      (0 < k → ∀ w c, t₀.calls.manager.writer_connections.begin? = some (w, c) →
        ∃ i q, t₀.calls.manager.reader_sessions.keys[i]? = some c ∧
          t₀.calls.manager.reader_sessions.keys[
            (i + k) % t₀.calls.manager.reader_sessions.size]? = some q ∧
          ∀ x, t.calls.manager.writer_connections.find? x =
            (t₀.calls.manager.writer_connections.find? x).map fun _ => q) := by
  have hdue : 0 < automatic_timeout → Timer.Due automatic_timeout t₀ := by
    intro hpos
    refine run_invariant (Timer.Due automatic_timeout) (fun _ _ _ h hs => h.step hpos hs) hrun₀ ?_
    intro now heq
    cases heq
  have hattachment := Timer.attachment_of_run hkeeps hrun₀
  obtain ⟨k, hrotations, hmanager, hpaced, hstopped⟩ := Timer.toured hdue halone hrun
  refine ⟨k, hrotations, hpaced, fun hstop => (Nat.le_add_right _ _).trans (hstopped hstop).2,
    fun hk => ?_, fun hk w c hw => ?_⟩
  · rw [hmanager, hk]
    rfl
  · obtain ⟨j, rfl⟩ := Nat.exists_eq_add_of_lt hk
    -- The camera of the first headset has a place among the cameras.
    obtain ⟨-, l, -, hl, -⟩ := hattachment.current (OrdMap.begin?_eq_some hw).1
    have hregistered := (hattachment.reader_keys c).mp (by rw [hl]; rfl)
    obtain ⟨i, hi⟩ := List.mem_iff_getElem?.mp (OrdMap.mem_keys.mpr hregistered)
    rw [hmanager, Nat.zero_add]
    obtain ⟨q, hq, hall⟩ := Timer.allRotations_of_begin hattachment hw hi j
    exact ⟨i, q, hi, hq, hall⟩

/-- Two cameras come, and a headset after each of them. -/
def arrivals : List Sequential.Call :=
  [.addReaderSession ⟨1, addressOf 69 4 20 200⟩, .addWriterSession ⟨2, addressOf 69 4 20 100⟩,
    .addReaderSession ⟨3, addressOf 69 4 20 201⟩, .addWriterSession ⟨4, addressOf 69 4 20 101⟩]

/-- The thread rotates twice, and `Stop` is called before the second time. -/
def twoRotations : List TimerEvent :=
  [.test, .read, .wake, .tick 5000000000, .test, .read, .rotate, .test, .tick 12000000000, .read,
    .stop, .rotate, .test]

/-- The server after the arrivals. -/
def arrived : Timer :=
  (run (Timer.step 5) (.start Sequential.initial 0) (arrivals.map .call)).get (by decide +kernel)

/-- And after two rotations. -/
def rotatedTwice : Timer := (run (Timer.step 5) arrived twoRotations).get (by decide +kernel)

theorem run_arrivals :
    run (Timer.step 5) (.start Sequential.initial 0) (arrivals.map .call) = some arrived :=
  (Option.some_get _).symm

theorem run_twoRotations : run (Timer.step 5) arrived twoRotations = some rotatedTwice :=
  (Option.some_get _).symm

/-- The second rotation takes both headsets back to the first camera. -/
theorem automatic_tour_twice : rotatedTwice.place = .ended ∧ rotatedTwice.rotations = 2 ∧
    ∀ x, rotatedTwice.calls.manager.writer_connections.find? x =
      (arrived.calls.manager.writer_connections.find? x).map fun _ => addressOf 69 4 20 200 := by
  have hrotations : rotatedTwice.rotations = arrived.rotations + 2 := by decide +kernel
  obtain ⟨k, hk, -, -, -, htour⟩ := automatic_tour run_arrivals (by decide +kernel)
    run_twoRotations (by decide)
  obtain rfl : k = 2 := Nat.add_left_cancel (hk.symm.trans hrotations)
  obtain ⟨i, q, hi, hq, hall⟩ := htour (by decide) (addressOf 69 4 20 100)
    (addressOf 69 4 20 200) (by decide +kernel)
  have hkeys : arrived.calls.manager.reader_sessions.keys =
      [addressOf 69 4 20 200, addressOf 69 4 20 201] := by decide +kernel
  have hsize : arrived.calls.manager.reader_sessions.size = 2 := by decide +kernel
  rw [hkeys] at hi hq
  rw [hsize] at hq
  -- The camera of the first headset is the first one.
  obtain rfl : i = 0 := by
    match i, hi with
    | 0, _ => rfl
    | 1, hi => exact absurd hi (by decide)
  obtain rfl : q = addressOf 69 4 20 200 := (Option.some.inj hq).symm
  exact ⟨by decide +kernel, by decide +kernel, hall⟩

/-! ## Switching by hand -/

/-- What `CameraSwitchingManualEntry` reads. -/
inductive Entry where
  /-- No number. -/
  | fail
  | value (n : ℤ)

/-- The camera of an entry, if its number is that of one. -/
def Entry.camera : Entry → Option TcpAddr
  | .fail => none
  | .value n => if 200 ≤ n ∧ n ≤ 255 then some (addressOf 69 4 20 (UInt8.ofNat n.toNat)) else none

/-- What `CameraSwitchingManualEntry` does with an entry. -/
def enter (m : ConnectionManager) (entry : Entry) : ConnectionManager :=
  match entry.camera with
  | some use_addr => (m.pointReaderAtWriters use_addr).1
  | none => m

/-- The last entry of a camera that is there. -/
def lastCamera (m : ConnectionManager) (entries : List Entry) : Option TcpAddr :=
  ((entries.filterMap Entry.camera).filter fun a => (m.reader_sessions.find? a).isSome).getLast?

/-- What `m` has become after these entries: the attached headsets are on the last camera that was
entered and is there. -/
structure Entered (m : ConnectionManager) (entries : List Entry) (m' : ConnectionManager) :
    Prop where
  attachment : Attachment m'
  readers : m'.reader_sessions = m.reader_sessions
  writers : m'.writer_sessions = m.writer_sessions
  moved : ∀ x, m'.writer_connections.find? x =
    (m.writer_connections.find? x).map fun r => (lastCamera m entries).getD r
  unchanged : lastCamera m entries = none → m' = m

/-- No entry, no change. -/
theorem Entered.initial {m : ConnectionManager} (h : Attachment m) : Entered m [] m :=
  ⟨h, rfl, rfl, fun x => by simp [lastCamera], fun _ => rfl⟩

/-- One more entry. -/
theorem Entered.enter {m m' : ConnectionManager} {entries : List Entry} (h : Entered m entries m')
    (entry : Entry) : Entered m (entries ++ [entry]) (enter m' entry) := by
  obtain ⟨hattachment, hreaders, hwriters, hmap, hnone⟩ := h
  unfold Strategies.enter
  cases hcamera : entry.camera with
  | none =>
    have hlast : lastCamera m (entries ++ [entry]) = lastCamera m entries := by
      simp [lastCamera, hcamera]
    refine ⟨hattachment, hreaders, hwriters, ?_, ?_⟩
    · rwa [hlast]
    · rwa [hlast]
  | some a =>
    dsimp only
    rw [hattachment.pointReaderAtWriters_eq, hreaders]
    split_ifs with ha
    · have hlast : lastCamera m (entries ++ [entry]) = some a := by
        simp [lastCamera, hcamera, ha]
      have hgathered := hattachment.gathered ((hattachment.reader_keys a).mpr (by rwa [hreaders]))
      refine ⟨hgathered.attachment, hgathered.readers.trans hreaders,
        hgathered.writers.trans hwriters, fun x => ?_, fun hno => ?_⟩
      · rw [hgathered.connections, hmap, Option.map_map, hlast]
        rfl
      · rw [hlast] at hno
        cases hno
    · have hlast : lastCamera m (entries ++ [entry]) = lastCamera m entries := by
        simp [lastCamera, hcamera, ha]
      refine ⟨hattachment, hreaders, hwriters, ?_, ?_⟩
      · rwa [hlast]
      · rwa [hlast]

/-- After any run of calls in which no list was wiped out, let the thread read entries without a
call of anybody else: all attached headsets watch the last camera that was entered and is there, and
with no such entry nothing has changed. -/
theorem entered_last {calls : List Sequential.Call} {s : Sequential.State}
    (hrun : run Sequential.step Sequential.initial calls = some s)
    (hkeeps : Along Sequential.step Sequential.KeepsList Sequential.initial calls)
    (entries : List Entry) : Entered s.manager entries (entries.foldl enter s.manager) := by
  have hattached := Sequential.fullyAttached_of_run hkeeps hrun
  induction entries using List.reverseRecOn with
  | nil => exact .initial hattached.toAttachment
  | append_singleton entries entry ih =>
    rw [List.foldl_concat]
    exact ih.enter entry

/-- There is no camera 202, and 300 is none. -/
theorem entered_last_arrivals : ∃ s, run Sequential.step Sequential.initial arrivals = some s ∧
    ([.value 201, .fail, .value 300, .value 202].foldl enter
      s.manager).writer_connections.find? (addressOf 69 4 20 100) =
        some (addressOf 69 4 20 201) := by
  have hrun : run Sequential.step Sequential.initial arrivals = some _ := rfl
  refine ⟨_, hrun, ?_⟩
  have hentered := entered_last hrun (by decide +kernel) [.value 201, .fail, .value 300, .value 202]
  rw [hentered.moved]
  decide +kernel

end AugmentedNormalcy.Server.Strategies
