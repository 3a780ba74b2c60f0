import AugmentedNormalcy.Server.Frames

/-!
# Who a frame is written to

While `PostMessage` writes a frame to the sessions in the list of its camera, the list stays as it
is: the regions that change one lock `_connection_mutex` exclusively. So a frame is written only to
sessions that stay in the list until then (`written_to_attached`), and to all of these
(`routed_between_calls`).
-/

namespace AugmentedNormalcy.Server.Streaming

open StepSystem Tcp Bytes

variable {N : Network} {camera camera' : Camera} {headset headset' : Headset}


/-- The invariant, after a run. -/
theorem inv_of_run {es : List Event} {s : State} (hrun : run N.step initial es = some s)
    (hregular : Along N.step (Regular N) initial es) : Inv N s :=
  hregular.run_invariant (Inv N) (fun _ _ _ h hev hs => h.step hev hs) hrun (inv_initial N)

/-- A frame that is still to be written to a session goes to one that is in the list of the frame's
camera, and has a connection to write it to. It is mapped to this camera, and it is the registered
session of its address, or an `AddWriterSession` has registered the next one and will close it after
the second region. No region that changes a list can come in before the frame is written. -/
theorem written_to_attached (N : Network) {es : List Event} {s : State}
    (hrun : run N.step initial es = some s) (hregular : Along N.step (Regular N) initial es)
    {reader : Reader} {camera : Camera} (hcamera : s.cameras reader = some camera)
    {frame : List UInt8} {writers : List Writer} (hjob : camera.job = .writing frame writers)
    {writer : Writer} (hwriter : writer ∈ writers) :
    writer ∈ s.server.manager.postMessage reader.addr ∧ Shutdown.Current s.server writer ∧
      s.server.manager.writer_connections.find? writer.addr = some reader.addr ∧
      (∃ headset, s.headsets writer = some headset) ∧
      ∀ ev, isExclusive ev = true → N.step s (.server ev) = none := by
  have h := inv_of_run hrun hregular
  have hlisted := (h.camera hcamera).listed hjob writer hwriter
  obtain ⟨hcurrent, hmapped, hmem⟩ := (h.maps.listed reader.addr).2 writer hlisted
  have hheadset := Option.isSome_iff_exists.mp ((h.writers writer).mp hmem)
  refine ⟨hlisted, hcurrent, hmapped, hheadset, fun ev hexclusive => ?_⟩
  -- The frame's `PostMessage` holds the mutex.
  have hposting : s.posting = true := by
    by_contra hnot
    exact h.not_writing (by simpa using hnot) hcamera frame writers hjob
  exact if_pos ⟨hexclusive, hposting⟩

/-- A headset with the same address connects while the frame is being written. -/
def replaceHeadset : List Event :=
  [.lock cameraSession, .server (.accept ⟨3, headsetSession.addr⟩ .HEADSET_CONNECTION),
    .server .register]

theorem written_to_attached_replaced : ∃ s camera,
    run smallNetwork.step initial (readTwoBytes ++ replaceHeadset) = some s ∧
      s.cameras cameraSession = some camera ∧ camera.job = .writing [7, 7] [headsetSession] ∧
      s.server.manager.writer_sessions.find? headsetSession.addr ≠ some headsetSession ∧
      headsetSession ∈ s.server.manager.postMessage cameraSession.addr ∧
      Shutdown.Current s.server headsetSession ∧
      s.server.manager.writer_connections.find? headsetSession.addr = some cameraSession.addr ∧
      (∃ headset, s.headsets headsetSession = some headset) ∧
      ∀ ev, isExclusive ev = true → smallNetwork.step s (.server ev) = none := by
  have hrun : run smallNetwork.step initial (readTwoBytes ++ replaceHeadset) = some _ := rfl
  refine ⟨_, _, hrun, rfl, rfl, by decide +kernel, ?_⟩
  exact written_to_attached smallNetwork hrun (by decide +kernel)
    (show State.cameras _ cameraSession = some _ from rfl)
    (show Camera.job _ = .writing [7, 7] [headsetSession] from rfl) List.mem_cons_self

section

variable {s s' : State} {reader : Reader} {writer : Writer}

/-- The frames of `reader` that were written to `writer`, and the one that is being written. -/
def State.handed (s : State) (reader : Reader) (writer : Writer) : List (List UInt8) :=
  s.framesOf reader writer ++ s.pending reader writer

/-- What a step hands over that changes no list: what a `PostMessage` locks for, to the writers in
the camera's list. -/
structure Hands (s s' : State) (reader : Reader) (writer : Writer) : Prop where
  lists : s'.server.manager.reader_connections = s.server.manager.reader_connections
  handed : ∃ frames, s'.taken reader = s.taken reader ++ frames ∧
    s'.handed reader writer = s.handed reader writer ++
      if writer ∈ s.server.manager.postMessage reader.addr then frames else []

/-- A step that takes nothing hands nothing over. -/
theorem Hands.of_eq
    (hlists : s'.server.manager.reader_connections = s.server.manager.reader_connections)
    (htaken : s'.taken reader = s.taken reader)
    (hhanded : s'.handed reader writer = s.handed reader writer) : Hands s s' reader writer :=
  ⟨hlists, [], by simp [htaken], by simp [hhanded]⟩

/-- A step of another camera's connection hands nothing over. -/
theorem hands_setCamera_of_ne {r : Reader} (h : r ≠ reader) (c : Camera) (writer : Writer) :
    Hands s (s.setCamera reader c) r writer := by
  refine Hands.of_eq rfl ?_ ?_
  · unfold State.taken
    rw [setCamera_of_ne s h]
  · unfold State.handed State.pending
    rw [setCamera_of_ne s h]
    rfl

/-- A step of the camera's connection hands over what it takes, when it puts the writers in the list
down for that. -/
theorem hands_setCamera (hcamera : s.cameras reader = some camera) {frames : List (List UInt8)}
    (htaken : camera'.taken = camera.taken ++ frames)
    (hpending : camera'.pending writer = camera.pending writer ++
      if writer ∈ s.server.manager.postMessage reader.addr then frames else []) :
    Hands s (s.setCamera reader camera') reader writer := by
  refine ⟨rfl, frames, ?_, ?_⟩
  · unfold State.taken
    rw [setCamera_self, hcamera]
    exact htaken
  · unfold State.handed State.pending
    rw [setCamera_self, hcamera, List.append_assoc]
    exact congrArg (s.framesOf reader writer ++ ·) hpending

/-- A step of the server that changes no list hands nothing over. -/
theorem Inv.hands_server (h : Inv N s) {ev : Shutdown.Event} {server : Shutdown.State}
    (hexclusive : isExclusive ev = false) (hserver : Shutdown.step s.server ev = some server)
    (reader : Reader) (writer : Writer) :
    Hands s { N.register (s.close (isInternal ev) (closed s.server ev)) ev with server } reader
      writer := by
  have hlists := reader_connections_of_step hexclusive hserver
  by_cases hregister : ev = .register
  · subst hregister
    cases Shutdown.Step.of_step hserver with
    | @register session connection_type hhandler =>
      obtain ⟨hreader, hwriter⟩ := h.maps.fresh hhandler
      have hclosed : closed s.server .register = [] := rfl
      rw [hclosed, close_nil, Network.register, hhandler]
      -- A session that comes has read nothing, and nothing was written to it.
      have hcamera : s.cameras session = none := by
        by_contra hsome
        obtain ⟨c, hc⟩ := Option.ne_none_iff_exists'.mp hsome
        exact hreader (h.readers hc)
      have hheadset : s.headsets session = none := by
        have hnot := mt (h.writers session).mpr hwriter
        simpa using hnot
      have hcame : Hands s { s.setHeadset session (N.headset session) with
          server := s.server.register session .HEADSET_CONNECTION } reader writer := by
        refine .of_eq rfl rfl ?_
        have hframes : State.framesOf { s.setHeadset session (N.headset session) with
            server := s.server.register session .HEADSET_CONNECTION } reader writer =
              s.framesOf reader writer := by
          unfold State.framesOf
          by_cases hne : writer = session
          · rw [hne, hheadset]
            dsimp only
            rw [setHeadset_self]
            rfl
          · dsimp only
            rw [setHeadset_of_ne s hne]
        exact congrArg (· ++ s.pending reader writer) hframes
      cases connection_type with
      | CAMERA_CONNECTION =>
        by_cases hne : reader = session
        · rw [hne]
          refine .of_eq hlists ?_ ?_
          · unfold State.taken
            dsimp only
            rw [setCamera_self, hcamera]
            rfl
          · unfold State.handed State.pending
            dsimp only
            rw [setCamera_self, hcamera]
            rfl
        · obtain ⟨-, hhanded⟩ := hands_setCamera_of_ne (s := s) hne (N.camera session) writer
          exact ⟨hlists, hhanded⟩
      | HEADSET_CONNECTION => exact hcame
      | DISPLAY_CONNECTION => exact hcame
      | UNKNOWN_CONNECTION => exact .of_eq hlists rfl rfl
  · have hnobody : ∀ t : State, N.register t ev = t := by
      intro t
      cases ev with
      | register => exact absurd rfl hregister
      | _ => rfl
    rw [hnobody]
    have hframes := framesOf_close s (isInternal ev) (closed s.server ev) reader writer
    have hpending := pending_close s (isInternal ev) (closed s.server ev) reader writer
    refine .of_eq hlists (taken_close s (isInternal ev) (closed s.server ev) reader) ?_
    exact congrArg₂ (· ++ ·) hframes hpending

/-- A step that changes no list hands what a `PostMessage` locks for to the writers in the list. -/
theorem Inv.hands {ev : Event} (h : Inv N s) (hregular : Regular N s ev)
    (hs : N.step s ev = some s')
    (hexclusive : ∀ ev', ev = .server ev' → isExclusive ev' = false) (reader : Reader)
    (writer : Writer) : Hands s s' reader writer := by
  -- A step of a camera's connection that takes nothing.
  have hquiet : ∀ {r c} (c' : Camera), s.cameras r = some c → c'.taken = c.taken →
      c'.pending writer = c.pending writer → Hands s (s.setCamera r c') reader writer := by
    intro r c c' hc ht hp
    by_cases hne : reader = r
    · subst hne
      have htaken : c'.taken = c.taken ++ [] := by rw [ht, List.append_nil]
      refine hands_setCamera hc htaken ?_
      rw [ite_self, List.append_nil]
      exact hp
    · exact hands_setCamera_of_ne hne c' writer
  cases Step.of_step hs with
  | server hposting hserver => exact h.hands_server (hexclusive _ rfl) hserver reader writer
  | send hcamera hsend =>
    obtain ⟨-, hjob, hdelivered⟩ := (h.camera hcamera).send hregular hsend
    refine hquiet _ hcamera ?_ ?_
    · unfold Camera.taken
      rw [hjob, hdelivered]
    · unfold Camera.pending
      rw [hjob]
  | receive hcamera hreceive =>
    obtain ⟨-, htaken, hpending⟩ := (h.camera hcamera).receive hreceive
    exact hquiet _ hcamera htaken (hpending writer)
  | leave hcamera => exact hquiet _ hcamera rfl rfl
  | @lock r c frame hcamera hjob =>
    obtain ⟨frames, hframes⟩ := (h.camera hcamera).called hjob
    by_cases hne : reader = r
    · subst hne
      have htaken : Camera.taken { c with
          job := .writing frame (s.server.manager.postMessage reader.addr) } =
            c.taken ++ [frame] := by
        simp only [Camera.taken, hjob, hframes, List.dropLast_concat]
      refine hands_setCamera hcamera htaken ?_
      simp only [Camera.pending, hjob, List.nil_append]
    · exact hands_setCamera_of_ne hne _ writer
  | @write r c frame w ws old new hcamera hjob hheadset hwrite =>
    have hnodup := (h.camera hcamera).nodup hjob
    rw [List.nodup_cons] at hnodup
    have hrouted := (Headset.write_spec hwrite).1
    refine Hands.of_eq rfl (taken_write hcamera hjob new reader) ?_
    -- The frame goes over from the right part to the left one.
    unfold State.handed
    rw [pending_write hcamera hjob hnodup.1 new, framesOf_write hheadset hrouted,
      List.append_assoc]
  | unlock hcamera hjob =>
    refine hquiet _ hcamera ?_ ?_
    · simp only [Camera.taken, hjob]
    · simp [Camera.pending, hjob]
  | @headset w _ old new _ hheadset hstep =>
    have hrouted := (Headset.step_spec hstep).1
    refine Hands.of_eq rfl rfl ?_
    have hsame : (s.setHeadset w new).framesOf reader writer = s.framesOf reader writer := by
      unfold State.framesOf
      by_cases hne : writer = w
      · rw [hne, setHeadset_self, hheadset]
        simp only [Option.elim_some, Headset.framesOf, hrouted]
      · rw [setHeadset_of_ne s hne]
    exact congrArg (· ++ s.pending reader writer) hsame

/-- Nothing happens, and nothing is handed over. -/
theorem Hands.refl (s : State) (reader : Reader) (writer : Writer) : Hands s s reader writer :=
  .of_eq rfl rfl rfl

/-- What two runs hand over, one after the other. -/
theorem Hands.trans {s'' : State} (h : Hands s s' reader writer) (h' : Hands s' s'' reader writer) :
    Hands s s'' reader writer := by
  obtain ⟨frames, htaken, hhanded⟩ := h.handed
  obtain ⟨frames', htaken', hhanded'⟩ := h'.handed
  refine ⟨h'.lists.trans h.lists, frames ++ frames', ?_, ?_⟩
  · rw [htaken', htaken, List.append_assoc]
  · rw [hhanded', hhanded, postMessage_congr h.lists]
    split_ifs <;> simp

/-- Between two moments at which no `PostMessage` holds the mutex, whatever else happens but a
region that changes a list: the frames of a camera that a `PostMessage` has locked for in between
are written to every session in the camera's list, all of them and in this order, and to no other.
These are the attached ones, unless a session is just being registered. -/
theorem routed_between_calls (N : Network) {before es : List Event} {s s' : State}
    (hbefore : run N.step initial before = some s)
    (hregular : Along N.step (Regular N) initial before) (hrun : run N.step s es = some s')
    (hregular' : Along N.step (Regular N) s es)
    (hexclusive : ∀ ev, Event.server ev ∈ es → isExclusive ev = false)
    (hposting : s.posting = false) (hposting' : s'.posting = false) (reader : Reader)
    (writer : Writer) :
    (∃ frames, s'.taken reader = s.taken reader ++ frames ∧
      s'.framesOf reader writer = s.framesOf reader writer ++
        if writer ∈ s.server.manager.postMessage reader.addr then frames else []) ∧
    (s.server.handler.phase = .idle → (writer ∈ s.server.manager.postMessage reader.addr ↔
      s.server.manager.writer_sessions.find? writer.addr = some writer ∧
        s.server.manager.writer_connections.find? writer.addr = some reader.addr)) := by
  have hinv : Inv N s := inv_of_run hbefore hregular
  refine ⟨?_, fun hidle => (hinv.maps.invariant hidle).consistent.mem_postMessage _ _⟩
  have hpair : Inv N s' ∧ Hands s s' reader writer := by
    have hlists : Along N.step (fun _ ev => ∀ ev', ev = .server ev' → isExclusive ev' = false)
        s es := by
      refine along_of_forall
        (P := fun ev => ∀ ev', ev = Event.server ev' → isExclusive ev' = false) ?_ s
      intro ev hev ev' hserver
      exact hexclusive ev' (by rwa [← hserver])
    exact (hregular'.and hlists).run_invariant (fun t => Inv N t ∧ Hands s t reader writer)
      (fun t ev t' ht hev hs => ⟨ht.1.step hev.1 hs,
        ht.2.trans (ht.1.hands hev.1 hs hev.2 reader writer)⟩)
      hrun ⟨hinv, Hands.refl s reader writer⟩
  obtain ⟨hinv', hhands⟩ := hpair
  -- Nothing is being written, before and after.
  obtain ⟨frames, htaken, hhanded⟩ := hhands.handed
  refine ⟨frames, htaken, ?_⟩
  unfold State.handed at hhanded
  rwa [hinv.pending_eq_nil hposting, hinv'.pending_eq_nil hposting', List.append_nil,
    List.append_nil] at hhanded

end

/-- The second byte of the frame is read, which completes it, and the frame is written, while the
next headset is registered. -/
def readAndWrite : List Event :=
  [.receive cameraSession [7], .lock cameraSession,
    .server (.accept ⟨3, headsetSession.addr⟩ .HEADSET_CONNECTION), .server .register,
    .write cameraSession, .unlock cameraSession]

/-- Before that. -/
def oneByteRead : State :=
  (run smallNetwork.step initial readTwoBytes.dropLast).get (by decide +kernel)

theorem routed_between_calls_twoBytes : ∃ s,
    run smallNetwork.step oneByteRead readAndWrite = some s ∧
      s.framesOf cameraSession headsetSession = [[7, 7]] ∧
      (∃ frames, s.taken cameraSession = oneByteRead.taken cameraSession ++ frames ∧
        s.framesOf cameraSession headsetSession =
          oneByteRead.framesOf cameraSession headsetSession ++
            if headsetSession ∈ oneByteRead.server.manager.postMessage cameraSession.addr
            then frames else []) ∧
      (oneByteRead.server.handler.phase = .idle →
        (headsetSession ∈ oneByteRead.server.manager.postMessage cameraSession.addr ↔
          oneByteRead.server.manager.writer_sessions.find? headsetSession.addr =
              some headsetSession ∧
            oneByteRead.server.manager.writer_connections.find? headsetSession.addr =
              some cameraSession.addr)) := by
  have hbefore : run smallNetwork.step initial readTwoBytes.dropLast = some oneByteRead :=
    (Option.some_get _).symm
  have hrun : run smallNetwork.step oneByteRead readAndWrite = some _ := rfl
  refine ⟨_, hrun, ?_, routed_between_calls smallNetwork hbefore ?_ hrun ?_ ?_ ?_ ?_ _ _⟩
  · decide +kernel
  · decide +kernel
  · decide +kernel
  · intro ev hev
    simp only [readAndWrite, List.mem_cons, Event.server.injEq, reduceCtorEq, false_or,
      List.not_mem_nil, or_false] at hev
    obtain rfl | rfl := hev <;> rfl
  · decide +kernel
  · decide +kernel

end AugmentedNormalcy.Server.Streaming
