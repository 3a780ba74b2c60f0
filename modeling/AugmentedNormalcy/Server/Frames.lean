import AugmentedNormalcy.Server.Streaming

/-!
# The frames that a headset shows

What holds of the streaming system in every run in which the second region of an `Add` finds what
the first one has left. What was written of a camera to a headset, with the frame that is being
written, has been read from the camera in this order (`Inv`). So a headset shows frames that the
camera posted, in the order of posting and unaltered (`shown_in_order`).
-/

namespace AugmentedNormalcy.Server.Streaming

open StepSystem Tcp Bytes

variable {N : Network} {camera camera' : Camera} {headset headset' : Headset}

/-- The frame, while it is still to be written to `writer`. -/
def Camera.pending (camera : Camera) (writer : Writer) : List (List UInt8) :=
  match camera.job with
  | .writing frame writers => if writer ∈ writers then [frame] else []
  | _ => []

/-- The frames that the session has read, and that a `PostMessage` has found the list for. -/
def Camera.taken (camera : Camera) : List (List UInt8) :=
  match camera.job with
  | .called _ => camera.link.receiver.delivered.dropLast
  | _ => camera.link.receiver.delivered

/-- The frames of `reader` that `Write` was called with. -/
def Headset.framesOf (headset : Headset) (reader : Reader) : List (List UInt8) :=
  (headset.routed.filter fun frame => frame.reader = reader).map Frame.content

namespace State

variable (s : State) (reader : Reader) (writer : Writer)

/-- The frame of `reader`, while it is still to be written to `writer`. -/
def pending : List (List UInt8) := (s.cameras reader).elim [] fun camera => camera.pending writer

/-- The frames of `reader` that a `PostMessage` has found the list for. -/
def taken : List (List UInt8) := (s.cameras reader).elim [] Camera.taken

/-- The frames of `reader` that were written to `writer`. -/
def framesOf : List (List UInt8) :=
  (s.headsets writer).elim [] fun headset => headset.framesOf reader

end State

/-- What holds of a camera's connection. A frame that `PostMessage` is called with is the last one
that was read. One that is being written has been read, and the sessions that it is still to be
written to are in the list of the camera, each once. -/
structure Camera.Inv (N : Network) (m : ConnectionManager) (reader : Reader) (camera : Camera) :
    Prop where
  kept : camera.Kept N reader
  called : ∀ {frame}, camera.job = .called frame →
    ∃ frames, camera.link.receiver.delivered = frames ++ [frame]
  read : ∀ {frame writers}, camera.job = .writing frame writers →
    frame ∈ camera.link.receiver.delivered
  nodup : ∀ {frame writers}, camera.job = .writing frame writers → writers.Nodup
  listed : ∀ {frame writers}, camera.job = .writing frame writers →
    ∀ w ∈ writers, w ∈ m.postMessage reader.addr

/-- What holds of the system while the second regions find what the first ones have left. -/
structure Inv (N : Network) (s : State) : Prop where
  maps : Shutdown.Maps s.server
  readers : ∀ {reader camera}, s.cameras reader = some camera → reader ∈ s.server.readers
  writers : ∀ writer, writer ∈ s.server.writers ↔ (s.headsets writer).isSome
  camera : ∀ {reader camera}, s.cameras reader = some camera →
    camera.Inv N s.server.manager reader
  /-- What was written of a camera to a headset, and what is being written, has been read in this
  order. -/
  order : ∀ reader writer,
    (s.framesOf reader writer ++ s.pending reader writer).Sublist (s.taken reader)

/-- Nobody is connected at first. -/
theorem inv_initial (N : Network) : Inv N initial where
  maps := .initial
  readers h := by cases h
  writers w := by simp [initial, Shutdown.initial]
  camera h := by cases h
  order _ _ := List.Sublist.refl _

/-- What a step must meet: the second region of an `Add` finds what the first one has left, and a
camera posts what fits into the buffers. -/
def Regular (N : Network) (s : State) : Event → Prop
  | .server ev => Shutdown.Undisturbed s.server ev
  | .send _ ev => ∀ b, CameraClient.sender.posts ev = some b →
    b.size < 2 ^ 32 ∧ b.size ≤ N.buffer_size
  | _ => True

section

variable {s s' : State} {reader : Reader} {writer : Writer}

/-- The connection that was set. -/
@[simp]
theorem setCamera_self (s : State) (reader : Reader) (camera : Camera) :
    (s.setCamera reader camera).cameras reader = some camera := Function.update_self ..

/-- The other cameras' connections stay. -/
theorem setCamera_of_ne {r : Reader} (s : State) (h : r ≠ reader) (camera : Camera) :
    (s.setCamera reader camera).cameras r = s.cameras r := Function.update_of_ne h ..

/-- The connection that was set. -/
@[simp]
theorem setHeadset_self (s : State) (writer : Writer) (headset : Headset) :
    (s.setHeadset writer headset).headsets writer = some headset := Function.update_self ..

/-- The other headsets' connections stay. -/
theorem setHeadset_of_ne {w : Writer} (s : State) (h : w ≠ writer) (headset : Headset) :
    (s.setHeadset writer headset).headsets w = s.headsets w := Function.update_of_ne h ..

/-- A headset's connection is no camera's. -/
@[simp]
theorem cameras_setHeadset (s : State) (writer : Writer) (headset : Headset) :
    (s.setHeadset writer headset).cameras = s.cameras := rfl

/-- A headset that is there stays, and no other comes. -/
theorem isSome_setHeadset (hheadset : s.headsets writer = some headset) (headset' : Headset)
    (w : Writer) :
    ((s.setHeadset writer headset').headsets w).isSome = (s.headsets w).isSome := by
  by_cases hne : w = writer
  · rw [hne, setHeadset_self, hheadset]
    rfl
  · rw [setHeadset_of_ne s hne]

/-- A frame that was called for is not taken yet. -/
theorem Camera.taken_sublist (camera : Camera) :
    camera.taken.Sublist camera.link.receiver.delivered := by
  unfold Camera.taken
  split
  · exact List.dropLast_sublist _
  · exact List.Sublist.refl _

/-- A step of one camera's connection. -/
theorem Inv.setCamera (h : Inv N s) (hcamera : s.cameras reader = some camera)
    (hinv : camera'.Inv N s.server.manager reader)
    (horder : ∀ writer, (s.framesOf reader writer ++ camera'.pending writer).Sublist
      camera'.taken) : Inv N (s.setCamera reader camera') := by
  refine ⟨h.maps, ?_, h.writers, ?_, ?_⟩
  · intro r c hr
    by_cases hne : r = reader
    · rw [hne]
      exact h.readers hcamera
    · rw [setCamera_of_ne s hne] at hr
      exact h.readers hr
  · intro r c hr
    by_cases hne : r = reader
    · subst hne
      rw [setCamera_self] at hr
      cases hr
      exact hinv
    · rw [setCamera_of_ne s hne] at hr
      exact h.camera hr
  · intro r w
    by_cases hne : r = reader
    · subst hne
      have hself := horder w
      unfold State.pending State.taken
      rw [setCamera_self]
      exact hself
    · have hother := h.order r w
      unfold State.pending State.taken at hother ⊢
      rw [setCamera_of_ne s hne]
      exact hother

/-- A step of one headset's connection. -/
theorem Inv.setHeadset (h : Inv N s) (hheadset : s.headsets writer = some headset)
    (hrouted : headset'.routed = headset.routed) : Inv N (s.setHeadset writer headset') := by
  refine ⟨h.maps, h.readers, fun w => ?_, h.camera, fun r w => ?_⟩
  · rw [isSome_setHeadset hheadset]
    exact h.writers w
  · have hsame : (s.setHeadset writer headset').framesOf r w = s.framesOf r w := by
      unfold State.framesOf
      by_cases hne : w = writer
      · rw [hne, setHeadset_self, hheadset]
        simp only [Option.elim_some, Headset.framesOf, hrouted]
      · rw [setHeadset_of_ne s hne]
    rw [hsame]
    exact h.order r w

/-! ### Steps of a connection -/

/-- The same job, and the same frames. -/
theorem Camera.Inv.of_eq {m : ConnectionManager} (h : camera.Inv N m reader)
    (hkept : camera'.Kept N reader) (hjob : camera'.job = camera.job)
    (hdelivered : camera'.link.receiver.delivered = camera.link.receiver.delivered) :
    camera'.Inv N m reader := by
  refine ⟨hkept, fun hj => ?_, fun hj => ?_, fun hj => ?_, fun hj => ?_⟩
  · rw [hdelivered]
    exact h.called (hjob ▸ hj)
  · rw [hdelivered]
    exact h.read (hjob ▸ hj)
  · exact h.nodup (hjob ▸ hj)
  · exact h.listed (hjob ▸ hj)

/-- A step of the client leaves the frames alone. -/
theorem Camera.Inv.send {m : ConnectionManager} {ev : CameraClient.Event}
    (h : camera.Inv N m reader)
    (hsize : ∀ b, CameraClient.sender.posts ev = some b →
      b.size < 2 ^ 32 ∧ b.size ≤ N.buffer_size)
    (hs : camera.send (N.get reader) ev = some camera') :
    camera'.Inv N m reader ∧ camera'.job = camera.job ∧
      camera'.link.receiver.delivered = camera.link.receiver.delivered := by
  obtain ⟨link, hlink, hundisturbed, hreceiver, rfl⟩ := Camera.send_spec hs
  have hallowed : (LinkEvent.send ev).Allowed CameraClient.sender N.buffer_size :=
    ⟨hundisturbed, hsize⟩
  have hsame : link.receiver.delivered = camera.link.receiver.delivered := by rw [hreceiver]
  exact ⟨h.of_eq (h.kept.next hallowed hlink) rfl hsame, rfl, hsame⟩

/-- What was taken stays, and nothing is written yet. -/
theorem Camera.Inv.receive {m : ConnectionManager} {bytes : List UInt8}
    (h : camera.Inv N m reader) (hs : camera.receive (N.get reader) bytes = some camera') :
    camera'.Inv N m reader ∧ camera'.taken = camera.taken ∧
      ∀ w, camera'.pending w = camera.pending w := by
  obtain ⟨hjob, link, hlink, hcases⟩ := Camera.receive_spec hs
  have hallowed : (LinkEvent.receive bytes).Allowed CameraClient.sender N.buffer_size := trivial
  have hkept := h.kept.next hallowed hlink
  rw [LinkEvent.posts, Option.toList_none, List.append_nil] at hkept
  obtain ⟨hsame, rfl⟩ | ⟨frame, hframe, rfl⟩ := hcases
  · refine ⟨h.of_eq hkept rfl hsame, ?_, fun w => rfl⟩
    unfold Camera.taken
    dsimp only
    rw [hjob, hsame]
  · refine ⟨⟨hkept, ?_, ?_, ?_, ?_⟩, ?_, fun w => ?_⟩
    · intro frame' hj
      cases hj
      exact ⟨_, hframe⟩
    · intro _ _ hj
      cases hj
    · intro _ _ hj
      cases hj
    · intro _ _ hj
      cases hj
    · unfold Camera.taken
      dsimp only
      rw [hjob, hframe, List.dropLast_concat]
    · unfold Camera.pending
      dsimp only
      rw [hjob]

/-- `Write` adds the frame to those that were written. -/
theorem Headset.write_spec {get : ℕ → TcpBuffer} {frame : Frame}
    (hs : headset.write get frame = some headset') :
    headset'.routed = headset.routed ++ [frame] ∧
      Link.step TcpHeadsetSession.sender .tcpClient get headset.link (.send (.write frame.buffer)) =
        some headset'.link := by
  unfold Headset.write Headset.step at hs
  rw [Option.map_map] at hs
  obtain ⟨link, hlink, rfl⟩ := Option.map_eq_some_iff.mp hs
  exact ⟨rfl, hlink⟩

/-- Nothing else does. -/
theorem Headset.step_spec {get : ℕ → TcpBuffer} {ev : LinkEvent TcpHeadsetSession.Event}
    (hs : headset.step get ev = some headset') :
    headset'.routed = headset.routed ∧
      Link.step TcpHeadsetSession.sender .tcpClient get headset.link ev = some headset'.link := by
  obtain ⟨link, hlink, rfl⟩ := Option.map_eq_some_iff.mp hs
  exact ⟨rfl, hlink⟩

/-- After a `Write`, the headset has been given the frame. -/
theorem framesOf_write {frame : Frame} (hheadset : s.headsets writer = some headset)
    (hrouted : headset'.routed = headset.routed ++ [frame]) (c : Camera) (r : Reader) (w : Writer) :
    ((s.setCamera frame.reader c).setHeadset writer headset').framesOf r w =
      s.framesOf r w ++ if r = frame.reader ∧ w = writer then [frame.content] else [] := by
  unfold State.framesOf
  by_cases hw : w = writer
  · rw [hw, setHeadset_self, hheadset]
    simp only [Option.elim_some, Headset.framesOf, hrouted, List.filter_append, List.map_append,
      and_true, List.filter_singleton, eq_comm (a := frame.reader)]
    split_ifs with hr <;> simp [hr]
  · rw [setHeadset_of_ne _ hw]
    simp [hw, State.setCamera]

/-- Before it, the frame was to be written first. -/
theorem pending_write {frame : List UInt8} {writers : List Writer}
    (hcamera : s.cameras reader = some camera)
    (hjob : camera.job = .writing frame (writer :: writers)) (hnot : writer ∉ writers)
    (c : Headset) (r : Reader) (w : Writer) :
    s.pending r w = (if r = reader ∧ w = writer then [frame] else []) ++
      State.pending ((s.setCamera reader { camera with
        job := .writing frame writers }).setHeadset writer c) r w := by
  unfold State.pending
  by_cases hr : r = reader
  · rw [hr, hcamera, cameras_setHeadset, setCamera_self]
    simp only [Option.elim_some, Camera.pending, hjob, List.mem_cons, true_and]
    by_cases hw : w = writer
    · simp [hw, hnot]
    · simp [hw]
  · rw [cameras_setHeadset, setCamera_of_ne s hr]
    simp [hr]

/-- A `Write` takes no other frame. -/
theorem taken_write {frame : List UInt8} {writers writers' : List Writer}
    (hcamera : s.cameras reader = some camera) (hjob : camera.job = .writing frame writers)
    (c : Headset) (r : Reader) :
    State.taken ((s.setCamera reader { camera with
      job := .writing frame writers' }).setHeadset writer c) r = s.taken r := by
  unfold State.taken
  by_cases hr : r = reader
  · rw [hr, hcamera, cameras_setHeadset, setCamera_self]
    simp only [Option.elim_some, Camera.taken, hjob]
  · rw [cameras_setHeadset, setCamera_of_ne s hr]

/-- `Write` moves the frame from those that are being written to those that were. -/
theorem Inv.write (h : Inv N s) {frame : List UInt8} {writers : List Writer}
    (hcamera : s.cameras reader = some camera)
    (hjob : camera.job = .writing frame (writer :: writers))
    (hheadset : s.headsets writer = some headset)
    (hrouted : headset'.routed = headset.routed ++ [⟨reader, frame⟩]) :
    Inv N ((s.setCamera reader { camera with job := .writing frame writers }).setHeadset writer
      headset') := by
  have hinv := h.camera hcamera
  have hnodup := hinv.nodup hjob
  rw [List.nodup_cons] at hnodup
  have hinv' : Camera.Inv N s.server.manager reader
      { camera with job := .writing frame writers } := by
    refine ⟨hinv.kept, ?_, ?_, ?_, ?_⟩
    · intro _ hj
      cases hj
    · intro _ _ hj
      cases hj
      exact hinv.read hjob
    · intro _ _ hj
      cases hj
      exact hnodup.2
    · intro _ _ hj w hw
      cases hj
      exact hinv.listed hjob w (List.mem_cons_of_mem _ hw)
  -- The maps first, and then the order.
  refine ⟨h.maps, ?_, ?_, ?_, ?_⟩
  · intro r c hr
    by_cases hne : r = reader
    · rw [hne]
      exact h.readers hcamera
    · exact h.readers (by rwa [← setCamera_of_ne s hne])
  · intro w
    rw [isSome_setHeadset (s := s.setCamera reader _) hheadset]
    exact h.writers w
  · intro r c hr
    by_cases hne : r = reader
    · subst hne
      have hself := setCamera_self s r { camera with job := .writing frame writers }
      cases hself.symm.trans hr
      exact hinv'
    · exact h.camera (by rwa [← setCamera_of_ne s hne])
  · intro r w
    have horder := h.order r w
    -- The frame goes over from the right part to the left one.
    rw [pending_write hcamera hjob hnodup.1 headset', ← List.append_assoc] at horder
    rwa [framesOf_write hheadset hrouted, taken_write hcamera hjob]

/-! ### Steps of the server -/

/-- Only the regions that lock `_connection_mutex` exclusively change a list. -/
theorem reader_connections_of_step {q q' : Shutdown.State} {ev : Shutdown.Event}
    (hexclusive : isExclusive ev = false) (hs : Shutdown.step q ev = some q') :
    q'.manager.reader_connections = q.manager.reader_connections := by
  cases Shutdown.Step.of_step hs with
  | @register session connection_type hhandler => cases connection_type <;> rfl
  | clear | connectReader | connectWriter | removeReaderSession | removeWriterSession
  | rotateWriterConnection | resetWriterConnection | rotateAllConnections
  | pointReaderAtWriters => cases hexclusive
  | _ => rfl

/-- `PostMessage` reads one map only. -/
theorem postMessage_congr {m m' : ConnectionManager}
    (h : m'.reader_connections = m.reader_connections) (a : TcpAddr) :
    m'.postMessage a = m.postMessage a := by
  unfold ConnectionManager.postMessage
  rw [h]

/-- While no `PostMessage` holds the mutex, nothing is being written. -/
theorem Inv.not_writing (h : Inv N s) (hposting : s.posting = false)
    (hcamera : s.cameras reader = some camera) (frame : List UInt8) (writers : List Writer) :
    camera.job ≠ .writing frame writers := by
  intro hjob
  have htrue : s.posting = true := by
    unfold State.posting
    rw [List.any_eq_true]
    exact ⟨reader, h.readers hcamera, by simp [hcamera, hjob]⟩
  rw [hposting] at htrue
  cases htrue

/-- Then no frame is still to be written. -/
theorem Inv.pending_eq_nil (h : Inv N s) (hposting : s.posting = false) (reader : Reader)
    (writer : Writer) : s.pending reader writer = [] := by
  unfold State.pending
  cases hc : s.cameras reader with
  | none => rfl
  | some camera =>
    rw [Option.elim_some]
    unfold Camera.pending
    split
    · exact absurd ‹_› (h.not_writing hposting hc _ _)
    · rfl

/-- Closing nobody changes nothing. -/
@[simp]
theorem close_nil (s : State) (internal_close : Bool) : s.close internal_close [] = s := by
  simp [State.close]

/-- A camera's session that is closed only stops reading. -/
theorem cameras_close {internal_close : Bool} {sessions : List Session} {c : Camera}
    (hc : (s.close internal_close sessions).cameras reader = some c) :
    ∃ is_live camera, s.cameras reader = some camera ∧
      c = { camera with is_live := is_live } := by
  simp only [State.close] at hc
  split_ifs at hc
  · obtain ⟨camera, hcamera, rfl⟩ := Option.map_eq_some_iff.mp hc
    exact ⟨false, camera, hcamera, rfl⟩
  · exact ⟨c.is_live, c, hc, rfl⟩

/-- `TryClose` leaves the frames alone. -/
theorem framesOf_close (s : State) (internal_close : Bool) (sessions : List Session)
    (reader : Reader) (writer : Writer) :
    (s.close internal_close sessions).framesOf reader writer = s.framesOf reader writer := by
  simp only [State.framesOf, State.close]
  split_ifs <;> cases s.headsets writer <;> rfl

/-- It goes on with the frame that it is writing. -/
theorem pending_close (s : State) (internal_close : Bool) (sessions : List Session)
    (reader : Reader) (writer : Writer) :
    (s.close internal_close sessions).pending reader writer = s.pending reader writer := by
  simp only [State.pending, State.close]
  split_ifs <;> cases s.cameras reader <;> rfl

/-- It has taken what it had taken. -/
theorem taken_close (s : State) (internal_close : Bool) (sessions : List Session)
    (reader : Reader) :
    (s.close internal_close sessions).taken reader = s.taken reader := by
  simp only [State.taken, State.close]
  split_ifs <;> cases s.cameras reader <;> rfl

/-- A close keeps the invariant. -/
theorem Inv.close (h : Inv N s) (internal_close : Bool) (sessions : List Session) :
    Inv N (s.close internal_close sessions) := by
  refine ⟨h.maps, ?_, ?_, ?_, ?_⟩
  · intro r c hr
    obtain ⟨-, camera, hcamera, -⟩ := cameras_close hr
    exact h.readers hcamera
  · intro w
    refine (h.writers w).trans ?_
    simp only [State.close]
    split_ifs <;> simp
  · intro r c hr
    obtain ⟨is_live, camera, hcamera, rfl⟩ := cameras_close hr
    have hinv := h.camera hcamera
    exact hinv.of_eq hinv.kept rfl rfl
  · intro r w
    rw [framesOf_close, pending_close, taken_close]
    exact h.order r w

/-- A step of the server that brings no session, and changes no list that a frame is being written
to. -/
theorem Inv.withServer (h : Inv N s) {server : Shutdown.State} (hmaps : Shutdown.Maps server)
    (hreaders : server.readers = s.server.readers) (hwriters : server.writers = s.server.writers)
    (hlists : ∀ {r c frame writers}, s.cameras r = some c → c.job = .writing frame writers →
      server.manager.reader_connections = s.server.manager.reader_connections) :
    Inv N { s with server := server } := by
  refine ⟨hmaps, fun hr => ?_, fun w => ?_, fun hr => ?_, h.order⟩
  · rw [hreaders]
    exact h.readers hr
  · rw [hwriters]
    exact h.writers w
  · have hinv := h.camera hr
    refine ⟨hinv.kept, hinv.called, hinv.read, hinv.nodup, fun hj w hw => ?_⟩
    rw [postMessage_congr (hlists hr hj)]
    exact hinv.listed hj w hw

/-- The connection of a camera that is registered. -/
theorem Inv.addCamera (h : Inv N s) {server : Shutdown.State} (hmaps : Shutdown.Maps server)
    (hreaders : server.readers = reader :: s.server.readers)
    (hwriters : server.writers = s.server.writers)
    (hlists : server.manager.reader_connections = s.server.manager.reader_connections)
    (hnew : reader ∉ s.server.readers) :
    Inv N { s.setCamera reader (N.camera reader) with server := server } := by
  have hsame : ∀ {r}, r ≠ reader →
      (s.setCamera reader (N.camera reader)).cameras r = s.cameras r := fun hne =>
    setCamera_of_ne s hne _
  have hself := setCamera_self s reader (N.camera reader)
  refine ⟨hmaps, ?_, ?_, ?_, ?_⟩
  · intro r c hr
    rw [hreaders]
    by_cases hne : r = reader
    · rw [hne]
      exact List.mem_cons_self
    · exact List.mem_cons_of_mem _ (h.readers ((hsame hne).symm.trans hr))
  · intro w
    rw [hwriters]
    exact h.writers w
  · intro r c hr
    by_cases hne : r = reader
    · subst hne
      cases hself.symm.trans hr
      refine ⟨Traced.refl _, ?_, ?_, ?_, ?_⟩
      · intro _ hj
        cases hj
      · intro _ _ hj
        cases hj
      · intro _ _ hj
        cases hj
      · intro _ _ hj
        cases hj
    · have hinv := h.camera ((hsame hne).symm.trans hr)
      refine ⟨hinv.kept, hinv.called, hinv.read, hinv.nodup, fun hj w hw => ?_⟩
      rw [postMessage_congr hlists]
      exact hinv.listed hj w hw
  · intro r w
    have horder := h.order r w
    unfold State.pending State.taken at horder ⊢
    dsimp only
    by_cases hne : r = reader
    · -- Nothing was written of a camera that was not there.
      subst hne
      have hnone : s.cameras r = none := by
        by_contra hsome
        obtain ⟨c, hc⟩ := Option.ne_none_iff_exists'.mp hsome
        exact hnew (h.readers hc)
      rw [hnone] at horder
      rw [hself]
      have hnil := List.sublist_nil.mp horder
      rw [Option.elim_none, List.append_nil] at hnil
      change (s.framesOf r w ++ []).Sublist []
      rw [hnil]
      exact List.Sublist.refl _
    · rw [hsame hne]
      exact horder

/-- Nothing is being written to a session that is not registered yet. -/
theorem Inv.pending_of_not_mem (h : Inv N s) (hnew : writer ∉ s.server.writers)
    (reader : Reader) : s.pending reader writer = [] := by
  unfold State.pending
  cases hc : s.cameras reader with
  | none => rfl
  | some camera =>
    rw [Option.elim_some]
    unfold Camera.pending
    split
    · rename_i hjob
      refine if_neg fun hw => hnew ?_
      exact ((h.maps.listed reader.addr).2 writer ((h.camera hc).listed hjob writer hw)).2.2
    · rfl

/-- The connection of a headset that is registered. -/
theorem Inv.addHeadset (h : Inv N s) {server : Shutdown.State} (hmaps : Shutdown.Maps server)
    (hreaders : server.readers = s.server.readers)
    (hwriters : server.writers = writer :: s.server.writers)
    (hlists : server.manager.reader_connections = s.server.manager.reader_connections)
    (hnew : writer ∉ s.server.writers) :
    Inv N { s.setHeadset writer (N.headset writer) with server := server } := by
  have hsame : ∀ {w}, w ≠ writer →
      (s.setHeadset writer (N.headset writer)).headsets w = s.headsets w := fun hne =>
    setHeadset_of_ne s hne _
  have hself := setHeadset_self s writer (N.headset writer)
  refine ⟨hmaps, ?_, ?_, ?_, ?_⟩
  · intro r c hr
    rw [hreaders]
    exact h.readers hr
  · intro w
    rw [hwriters, List.mem_cons]
    dsimp only
    by_cases hne : w = writer
    · rw [hne, hself]
      exact iff_of_true (.inl rfl) rfl
    · rw [hsame hne, or_iff_right hne]
      exact h.writers w
  · intro r c hr
    have hinv := h.camera hr
    refine ⟨hinv.kept, hinv.called, hinv.read, hinv.nodup, fun hj w hw => ?_⟩
    rw [postMessage_congr hlists]
    exact hinv.listed hj w hw
  · intro r w
    have horder := h.order r w
    by_cases hne : w = writer
    · rw [hne] at horder ⊢
      have hpending : State.pending { s.setHeadset writer (N.headset writer) with
          server := server } r writer = [] := h.pending_of_not_mem hnew r
      have hnil : State.framesOf { s.setHeadset writer (N.headset writer) with
          server := server } r writer = [] := by
        unfold State.framesOf
        dsimp only
        rw [hself]
        rfl
      rw [hnil, hpending]
      exact List.nil_sublist _
    · unfold State.framesOf at horder ⊢
      dsimp only
      rw [hsame hne]
      exact horder

/-- A step of the server. -/
theorem Inv.server (h : Inv N s) {ev : Shutdown.Event} {server : Shutdown.State}
    (hposting : isExclusive ev = true → s.posting = false)
    (hundisturbed : Shutdown.Undisturbed s.server ev)
    (hserver : Shutdown.step s.server ev = some server) :
    Inv N { N.register (s.close (isInternal ev) (closed s.server ev)) ev with server } := by
  have hmaps := h.maps.step hundisturbed hserver
  by_cases hregister : ev = .register
  · subst hregister
    have hlists := reader_connections_of_step rfl hserver
    cases Shutdown.Step.of_step hserver with
    | @register session connection_type hhandler =>
      obtain ⟨hreader, hwriter⟩ := h.maps.fresh hhandler
      have hclosed : closed s.server .register = [] := rfl
      rw [hclosed, close_nil, Network.register, hhandler]
      cases connection_type with
      | CAMERA_CONNECTION => exact h.addCamera hmaps rfl rfl hlists hreader
      | HEADSET_CONNECTION => exact h.addHeadset hmaps rfl rfl hlists hwriter
      | DISPLAY_CONNECTION => exact h.addHeadset hmaps rfl rfl hlists hwriter
      | UNKNOWN_CONNECTION => exact h.withServer hmaps rfl rfl fun _ _ => hlists
  · obtain ⟨hreaders, hwriters⟩ := Shutdown.sessions_of_step hserver hregister
    have hnobody : ∀ t : State, N.register t ev = t := by
      intro t
      cases ev with
      | register => exact absurd rfl hregister
      | _ => rfl
    rw [hnobody]
    refine (h.close _ _).withServer hmaps hreaders hwriters fun hr hj => ?_
    -- Only while nothing is being written a list is changed.
    obtain ⟨is_live, camera, hcamera, rfl⟩ := cameras_close hr
    refine reader_connections_of_step (Bool.eq_false_iff.mpr fun hexclusive => ?_) hserver
    exact h.not_writing (hposting hexclusive) hcamera _ _ hj

/-- A step keeps the invariant. -/
theorem Inv.step {ev : Event} (h : Inv N s) (hregular : Regular N s ev)
    (hs : N.step s ev = some s') : Inv N s' := by
  -- A step of a camera's connection after which the same frames are taken and pending.
  have hsame : ∀ {r c}, s.cameras r = some c → ∀ c' : Camera, c'.taken = c.taken →
      (∀ w, c'.pending w = c.pending w) →
      ∀ w, (s.framesOf r w ++ c'.pending w).Sublist c'.taken := by
    intro r c hc c' ht hp w
    have horder := h.order r w
    unfold State.pending State.taken at horder
    rw [hc] at horder
    rw [ht, hp]
    exact horder
  cases Step.of_step hs with
  | server hposting hserver => exact h.server hposting hregular hserver
  | @send r _ c c' hcamera hsend =>
    obtain ⟨hinv, hjob, hdelivered⟩ := (h.camera hcamera).send hregular hsend
    refine h.setCamera hcamera hinv (hsame hcamera _ ?_ fun w => ?_)
    · unfold Camera.taken
      rw [hjob, hdelivered]
    · unfold Camera.pending
      rw [hjob]
  | receive hcamera hreceive =>
    obtain ⟨hinv, htaken, hpending⟩ := (h.camera hcamera).receive hreceive
    exact h.setCamera hcamera hinv (hsame hcamera _ htaken hpending)
  | leave hcamera =>
    have hinv := h.camera hcamera
    exact h.setCamera hcamera (hinv.of_eq hinv.kept rfl rfl) (hsame hcamera _ rfl fun _ => rfl)
  | @lock r c frame hcamera hjob =>
    have hinv := h.camera hcamera
    obtain ⟨frames, hframes⟩ := hinv.called hjob
    obtain ⟨hnodup, -⟩ := h.maps.listed r.addr
    refine h.setCamera hcamera ⟨hinv.kept, ?_, ?_, ?_, ?_⟩ fun w => ?_
    · intro _ hj
      cases hj
    · intro _ _ hj
      cases hj
      rw [hframes]
      exact List.mem_append_right _ (List.mem_singleton.mpr rfl)
    · intro _ _ hj
      cases hj
      exact hnodup
    · intro _ _ hj w hw
      cases hj
      exact hw
    · have horder := h.order r w
      unfold State.pending State.taken at horder
      rw [hcamera] at horder
      simp only [Option.elim_some, Camera.pending, Camera.taken, hjob, hframes,
        List.dropLast_concat, List.append_nil] at horder
      simp only [Camera.pending, Camera.taken, hframes]
      refine horder.append ?_
      split_ifs
      · exact List.Sublist.refl _
      · exact List.nil_sublist _
  | write hcamera hjob hheadset hwrite =>
    exact h.write hcamera hjob hheadset (Headset.write_spec hwrite).1
  | @unlock r c frame hcamera hjob =>
    have hinv := h.camera hcamera
    refine h.setCamera hcamera ⟨hinv.kept, ?_, ?_, ?_, ?_⟩ (hsame hcamera _ ?_ fun w => ?_)
    · intro _ hj
      cases hj
    · intro _ _ hj
      cases hj
    · intro _ _ hj
      cases hj
    · intro _ _ hj
      cases hj
    · simp only [Camera.taken, hjob]
    · simp [Camera.pending, hjob]
  | headset _ hheadset hstep => exact h.setHeadset hheadset (Headset.step_spec hstep).1

/-! ### One headset -/

/-- The step does not disturb the connection of `writer`: it does not close the session, and no send
fails or times out. -/
def Undisturbed (writer : Writer) (s : State) : Event → Prop
  | .server ev => writer ∉ closed s.server ev
  | .headset w (.send ev) => w = writer → TcpHeadsetSession.sender.undisturbed ev
  | _ => True

/-- A step of the server that does not disturb the connection leaves it, or makes it. -/
theorem headsets_server {ev : Shutdown.Event} {server : Shutdown.State}
    (hundisturbed : writer ∉ closed s.server ev)
    (hheadset : State.headsets { N.register (s.close (isInternal ev) (closed s.server ev)) ev with
      server := server } writer = some headset) :
    s.headsets writer = some headset ∨ headset = N.headset writer := by
  have hclosed : (s.close (isInternal ev) (closed s.server ev)).headsets writer =
      s.headsets writer := if_neg hundisturbed
  rw [← hclosed]
  generalize s.close (isInternal ev) (closed s.server ev) = t at hheadset ⊢
  dsimp only at hheadset
  have hset : ∀ session, (t.setHeadset session (N.headset session)).headsets writer =
      some headset → t.headsets writer = some headset ∨ headset = N.headset writer := by
    intro session h
    by_cases hne : writer = session
    · rw [hne, setHeadset_self] at h
      rw [hne]
      exact .inr (Option.some.inj h).symm
    · rw [setHeadset_of_ne t hne] at h
      exact .inl h
  unfold Network.register at hheadset
  split at hheadset
  · split at hheadset
    · exact .inl hheadset
    · exact hset _ hheadset
    · exact hset _ hheadset
    · exact .inl hheadset
  · exact .inl hheadset

/-- A step that does not disturb the connection goes on with it. -/
theorem Inv.kept_step {ev : Event} (h : Inv N s) (hN : N.Fits)
    (hundisturbed : Undisturbed writer s ev)
    (hkept : ∀ headset, s.headsets writer = some headset → headset.Kept N writer)
    (hs : N.step s ev = some s') :
    ∀ headset, s'.headsets writer = some headset → headset.Kept N writer := by
  cases Step.of_step hs with
  | server hposting hserver =>
    intro headset hheadset
    obtain hold | rfl := headsets_server hundisturbed hheadset
    · exact hkept headset hold
    · exact Traced.refl _
  | send | receive | leave | lock | unlock => exact hkept
  | @write reader camera frame w writers headset headset' hcamera hjob hheadset hwrite =>
    intro x hx
    by_cases hne : writer = w
    · subst hne
      rw [setHeadset_self] at hx
      cases hx
      have hinv := h.camera hcamera
      have hsize := hinv.kept.frame_size hN (hinv.read hjob)
      obtain ⟨hrouted, hlink⟩ := Headset.write_spec hwrite
      have hallowed : (LinkEvent.send (.write (Frame.buffer ⟨reader, frame⟩))).Allowed
          TcpHeadsetSession.sender N.buffer_size :=
        ⟨trivial, fun b hb => by cases hb; exact hsize⟩
      have hnext := (hkept headset hheadset).next hallowed hlink
      unfold Headset.Kept
      rw [hrouted, List.map_append]
      exact hnext
    · rw [setHeadset_of_ne _ hne] at hx
      exact hkept x hx
  | @headset w ev headset headset' hposts hheadset hstep =>
    intro x hx
    by_cases hne : writer = w
    · subst hne
      rw [setHeadset_self] at hx
      cases hx
      obtain ⟨hrouted, hlink⟩ := Headset.step_spec hstep
      have hallowed : ev.Allowed TcpHeadsetSession.sender N.buffer_size := by
        cases ev with
        | send ev =>
          refine ⟨hundisturbed rfl, fun b hb => ?_⟩
          rw [LinkEvent.posts, hb] at hposts
          cases hposts
        | receive bytes => trivial
      have hnext := (hkept headset hheadset).next hallowed hlink
      rw [hposts, Option.toList_none, List.append_nil] at hnext
      unfold Headset.Kept
      rw [hrouted]
      exact hnext
    · rw [setHeadset_of_ne s hne] at hx
      exact hkept x hx

end

/-- The buffers that a camera's client posted. -/
def State.posted (s : State) (reader : Reader) : List SizedBuffer :=
  (s.cameras reader).elim [] Camera.posted

/-- What was written of a camera to a headset are frames that its client posted, in this order. -/
theorem Inv.framesOf_sublist {N : Network} {s : State} (h : Inv N s) (hN : N.Fits)
    (reader : Reader) (writer : Writer) :
    (s.framesOf reader writer).Sublist ((s.posted reader).map SizedBuffer.content) := by
  have hread := (List.sublist_append_left ..).trans (h.order reader writer)
  apply hread.trans
  unfold State.taken State.posted
  cases hc : s.cameras reader with
  | none => exact List.Sublist.refl _
  | some camera =>
    exact camera.taken_sublist.trans (delivered_sublist ((h.camera hc).kept.roundTrip hN))

/-- Whatever the other connections do: on a connection that stays up, a headset's client gets a
selection of the frames that were written to its session, and those of one camera are frames that
this camera's client posted, unaltered, in the order of posting, and none twice. -/
theorem shown_in_order (N : Network) (hN : N.Fits) (writer : Writer) {es : List Event} {s : State}
    (hrun : run N.step initial es = some s) (hregular : Along N.step (Regular N) initial es)
    (hundisturbed : Along N.step (Undisturbed writer) initial es) {headset : Headset}
    (hheadset : s.headsets writer = some headset) :
    ∃ shown : List Frame, shown.Sublist headset.routed ∧
      headset.link.receiver.delivered = shown.map Frame.content ∧
      ∀ reader, ((shown.filter fun frame => frame.reader = reader).map Frame.content).Sublist
        ((s.posted reader).map SizedBuffer.content) := by
  have hkept : Inv N s ∧
      ∀ headset, s.headsets writer = some headset → headset.Kept N writer :=
    (hregular.and hundisturbed).run_invariant
      (fun s => Inv N s ∧ ∀ headset, s.headsets writer = some headset → headset.Kept N writer)
      (fun _ _ _ h hev hs => ⟨h.1.step hev.1 hs, h.1.kept_step hN hev.2 h.2 hs⟩) hrun
      ⟨inv_initial N, fun _ hnone => by cases hnone⟩
  -- The client gets a selection of what was written.
  have hgot := delivered_sublist ((hkept.2 headset hheadset).roundTrip hN)
  have hcontents : (headset.routed.map Frame.buffer).map SizedBuffer.content =
      headset.routed.map Frame.content := by
    rw [List.map_map]
    exact List.map_congr_left fun frame _ => frame.content_buffer
  rw [hcontents, List.sublist_map_iff] at hgot
  obtain ⟨shown, hshown, heq⟩ := hgot
  refine ⟨shown, hshown, heq, fun reader => ?_⟩
  -- Of one camera, that is a selection of what its client posted.
  have hposted := hkept.1.framesOf_sublist hN reader writer
  unfold State.framesOf at hposted
  rw [hheadset] at hposted
  exact ((hshown.filter _).map _).trans hposted

instance : DecidablePred TcpHeadsetSession.sender.undisturbed
  | .tryClose | .fail _ _ | .timerExpires | .runTimer => isFalse id
  | .write _ | .runPosted | .transmit _ _ | .handle _ => isTrue trivial

instance (writer : Writer) (s : State) : DecidablePred (Undisturbed writer s)
  | .server ev => inferInstanceAs (Decidable (writer ∉ closed s.server ev))
  | .headset w (.send ev) =>
    inferInstanceAs (Decidable (w = writer → TcpHeadsetSession.sender.undisturbed ev))
  | .headset _ (.receive _) | .send _ _ | .receive _ _ | .leave _ | .lock _ | .write _
  | .unlock _ => isTrue trivial

instance (N : Network) (s : State) : DecidablePred (Regular N s)
  | .server ev => inferInstanceAs (Decidable (Shutdown.Undisturbed s.server ev))
  | .send _ ev =>
    match h : CameraClient.sender.posts ev with
    | none => isTrue fun b hb => by rw [h] at hb; cases hb
    | some b => decidable_of_iff (b.size < 2 ^ 32 ∧ b.size ≤ N.buffer_size)
      ⟨fun hb b' hb' => by rw [h] at hb'; cases hb'; exact hb, fun hb => hb b h⟩
  | .receive _ _ | .leave _ | .lock _ | .write _ | .unlock _ | .headset _ _ => isTrue trivial

/-- A camera and a headset, whose buffers have 16 bytes. -/
def smallNetwork : Network :=
  ⟨fun _ => freshBuffers, fun _ => .initial, fun _ => .initial, fun _ => [fun _ => 0], 16⟩

/-- An event of the camera's connection. -/
def cameraEvent (reader : Reader) : LinkEvent CameraClient.Event → Event
  | .send ev => .send reader ev
  | .receive bytes => .receive reader bytes

/-- The session of the camera. -/
def cameraSession : Reader := ⟨1, ⟨10, by decide⟩⟩

/-- The session of the headset. -/
def headsetSession : Writer := ⟨2, ⟨20, by decide⟩⟩

/-- The accept handler takes a connection in. -/
def acceptEvents (session : Session) (connection_type : ConnectionType) : List Event :=
  [.server (.accept session connection_type), .server .register, .server (.connect session.addr),
    .server .finish]

/-- Both are connected, and the camera's first frame is read. -/
def readTwoBytes : List Event :=
  .server .start :: acceptEvents cameraSession .CAMERA_CONNECTION ++
    acceptEvents headsetSession .HEADSET_CONNECTION ++ postTwoBytes.map (cameraEvent cameraSession)

/-- The frame is written to the headset, and shown. -/
def showTwoBytes : List Event :=
  [.lock cameraSession, .write cameraSession, .unlock cameraSession] ++
    writeTwoBytes.tail.map (.headset headsetSession)

theorem shown_in_order_twoBytes : ∃ s headset,
    run smallNetwork.step initial (readTwoBytes ++ showTwoBytes) = some s ∧
      s.headsets headsetSession = some headset ∧ headset.link.receiver.delivered = [[7, 7]] ∧
      ∃ shown : List Frame, shown.Sublist headset.routed ∧
        headset.link.receiver.delivered = shown.map Frame.content ∧
        ∀ reader, ((shown.filter fun frame => frame.reader = reader).map Frame.content).Sublist
          ((s.posted reader).map SizedBuffer.content) := by
  have hrun : run smallNetwork.step initial (readTwoBytes ++ showTwoBytes) = some _ := rfl
  exact ⟨_, _, hrun, rfl, by decide +kernel, shown_in_order smallNetwork (fun _ _ => le_rfl)
    headsetSession hrun (by decide +kernel) (by decide +kernel) rfl⟩

end AugmentedNormalcy.Server.Streaming
