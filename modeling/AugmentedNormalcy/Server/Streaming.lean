import AugmentedNormalcy.Server.Regions
import AugmentedNormalcy.Tcp.RoundTrip

/-!
# Streaming

Cameras, server, and headsets as one system. Each camera and each headset has a connection to the
server, which is the `Link` of its pair of classes, and the manager routes between them: when a
camera's session has read a frame, `PostMessage` locks `_connection_mutex` shared, and calls `Write`
on the sessions in the list of the camera's address, one after the other.

Every step of the server is a step here (`Shutdown.step`), and so is each receive, the lock of
`PostMessage`, each `Write`, and the unlock. While `PostMessage` holds the mutex, several cameras
may post at the same time, and the regions that do not take it exclusively may run: the first ones
of `AddReaderSession` and `AddWriterSession` among them. Posts and sends of the clients, and
receives may come in between at any time. A client that connects again is a new client here.

What a connection has handed over is the `RoundTrip` of its `Link`, as long as it stays up
(`Camera.Kept.roundTrip`, `Headset.Kept.roundTrip`).
-/

namespace AugmentedNormalcy.Server.Streaming

open StepSystem Tcp Bytes

/-! ## The system -/

/-- What the connections of the sessions find, and how the server was configured. -/
structure Network where
  /-- The buffer that the `n`-th `GetReadBuffer` of a connection returns. -/
  get : Session → ℕ → TcpBuffer
  /-- The headers of the two ends of a connection, before they are reset. -/
  sender_header : Session → PacketHeader
  receiver_header : Session → PacketHeader
  /-- `_copy_buffer_pool` of a headset's session. -/
  pool : Session → List Memory
  /-- `_tcp_session_buffer_size`. -/
  buffer_size : ℕ

/-- A frame, and the session that it was read by. -/
structure Frame where
  reader : Reader
  content : List UInt8

/-- The buffer with the frame. -/
def Frame.buffer (frame : Frame) : SizedBuffer :=
  ⟨overwrite (fun _ => 0) 0 frame.content, frame.content.length⟩

/-- Where a camera's session is with the frame that it has read last. -/
inductive Job where
  | reading
  /-- `PostMessage` is called, and has not locked yet. -/
  | called (frame : List UInt8)
  /-- `PostMessage` holds `_connection_mutex`, and has still to write the frame to these. -/
  | writing (frame : List UInt8) (writers : List Writer)
deriving DecidableEq

/-- The connection of a camera's client with its `TcpCameraSession`. -/
structure Camera where
  link : Link CameraClient.State
  /-- The client is still on this connection. -/
  is_open : Bool
  is_live : Bool
  job : Job
  /-- The buffers that the client's `Post` was called with. -/
  posted : List SizedBuffer

/-- The connection of a `TcpHeadsetSession` with its client. -/
structure Headset where
  link : Link TcpHeadsetSession.State
  /-- The frames that `Write` was called with. -/
  routed : List Frame

/-- The server, and the connections of the sessions. -/
structure State where
  server : Shutdown.State
  cameras : Reader → Option Camera
  headsets : Writer → Option Headset

def initial : State := ⟨Shutdown.initial, fun _ => none, fun _ => none⟩

instance : DecidablePred CameraClient.sender.undisturbed
  | .start | .stop | .connectCompletes _ _ | .fail _ => isFalse id
  | .transmit _ _ | .handle _ | .postCheck _ | .postPush | .postStart => isTrue trivial

/-- A step of the client. -/
def Camera.send (get : ℕ → TcpBuffer) (camera : Camera) (ev : CameraClient.Event) :
    Option Camera :=
  if camera.is_open ∧ CameraClient.sender.undisturbed ev then
    (Link.step CameraClient.sender .tcpCameraSession get camera.link (.send ev)).map fun link =>
      { camera with link := link, posted := camera.posted ++ (CameraClient.sender.posts ev).toList }
  else none

/-- A receive of the session, which hands over a frame that it completes. -/
def Camera.receive (get : ℕ → TcpBuffer) (camera : Camera) (bytes : List UInt8) :
    Option Camera :=
  if camera.is_live ∧ camera.job = .reading then
    (Link.step CameraClient.sender .tcpCameraSession get camera.link (.receive bytes)).map
      fun link =>
        match link.receiver.delivered.drop camera.link.receiver.delivered.length with
        | [] => { camera with link := link }
        | frame :: _ => { camera with link := link, job := .called frame }
  else none

def Headset.step (get : ℕ → TcpBuffer) (headset : Headset)
    (ev : LinkEvent TcpHeadsetSession.Event) : Option Headset :=
  (Link.step TcpHeadsetSession.sender .tcpClient get headset.link ev).map fun link =>
    { headset with link := link }

/-- `Write`. -/
def Headset.write (get : ℕ → TcpBuffer) (headset : Headset) (frame : Frame) : Option Headset :=
  (headset.step get (.send (.write frame.buffer))).map fun headset =>
    { headset with routed := headset.routed ++ [frame] }

/-- `TryClose`. -/
def Headset.tryClose (internal_close : Bool) (headset : Headset) : Headset :=
  { headset with
    link := { headset.link with sender := headset.link.sender.tryClose internal_close } }

/-- The region locks `_connection_mutex` exclusively. -/
def isExclusive : Shutdown.Event → Bool
  | .clear | .connect _ | .removeReaderSession _ | .removeWriterSession _
  | .rotateWriterConnection _ | .resetWriterConnection _ | .rotateAllConnections
  | .pointReaderAtWriters _ => true
  | _ => false

/-- The sessions that `TryClose` is called on. -/
def closed (s : Shutdown.State) : Shutdown.Event → List Session
  | .tryClose =>
    match s.progress with
    | .clearing (session :: _) => [session]
    | _ => []
  | .finish =>
    match s.handler with
    | .connected _ to_remove => to_remove.toList
    | _ => []
  | .closeReader session | .closeWriter session => [session]
  | _ => []

/-- A session closes itself. -/
def isInternal : Shutdown.Event → Bool
  | .closeReader _ | .closeWriter _ => true
  | _ => false

namespace State

variable (s : State)

/-- Some `PostMessage` holds `_connection_mutex`. -/
def posting : Bool :=
  s.server.readers.any fun reader => (s.cameras reader).any fun camera =>
    match camera.job with
    | .writing _ _ => true
    | _ => false

def setCamera (reader : Reader) (camera : Camera) : State :=
  { s with cameras := Function.update s.cameras reader (some camera) }

def setHeadset (writer : Writer) (headset : Headset) : State :=
  { s with headsets := Function.update s.headsets writer (some headset) }

/-- `TryClose` of these sessions. -/
def close (internal_close : Bool) (sessions : List Session) : State :=
  { s with
    cameras := fun reader =>
      if reader ∈ sessions then
        (s.cameras reader).map fun camera => { camera with is_live := false }
      else s.cameras reader
    headsets := fun writer =>
      if writer ∈ sessions then (s.headsets writer).map (Headset.tryClose internal_close)
      else s.headsets writer }

end State

/-- The connection of a camera that was just accepted. -/
def Network.camera (N : Network) (reader : Reader) : Camera where
  link := ⟨CameraClient.connected (N.sender_header reader), [],
    .initial (N.receiver_header reader)⟩
  is_open := true
  is_live := true
  job := .reading
  posted := []

/-- The connection of a headset that was just accepted. -/
def Network.headset (N : Network) (writer : Writer) : Headset where
  link := ⟨TcpHeadsetSession.initial (N.sender_header writer) (N.pool writer) N.buffer_size, [],
    .initial (N.receiver_header writer)⟩
  routed := []

/-- The connection of a session that is registered. -/
def Network.register (N : Network) (s : State) : Shutdown.Event → State
  | .register =>
    match s.server.handler with
    | .accepted session .CAMERA_CONNECTION => s.setCamera session (N.camera session)
    | .accepted session .HEADSET_CONNECTION | .accepted session .DISPLAY_CONNECTION =>
      s.setHeadset session (N.headset session)
    | _ => s
  | _ => s

inductive Event where
  | server (ev : Shutdown.Event)
  | send (reader : Reader) (ev : CameraClient.Event)
  | receive (reader : Reader) (bytes : List UInt8)
  /-- A camera's client leaves its connection. -/
  | leave (reader : Reader)
  /-- The session's `PostMessage` locks, and finds the list. -/
  | lock (reader : Reader)
  /-- Its next `Write`. -/
  | write (reader : Reader)
  /-- It returns. -/
  | unlock (reader : Reader)
  | headset (writer : Writer) (ev : LinkEvent TcpHeadsetSession.Event)

def Network.step (N : Network) (s : State) : Event → Option State
  | .server ev =>
    if isExclusive ev ∧ s.posting then none
    else
      (Shutdown.step s.server ev).map fun server =>
        { N.register (s.close (isInternal ev) (closed s.server ev)) ev with server }
  | .send reader ev => do
    let camera ← s.cameras reader
    let camera ← camera.send (N.get reader) ev
    return s.setCamera reader camera
  | .receive reader bytes =>
    -- A session reads once its `Add` has returned.
    if s.server.handler.session? = some reader then none
    else do
      let camera ← s.cameras reader
      let camera ← camera.receive (N.get reader) bytes
      return s.setCamera reader camera
  | .leave reader => do
    let camera ← s.cameras reader
    return s.setCamera reader { camera with is_open := false }
  | .lock reader => do
    let camera ← s.cameras reader
    match camera.job with
    | .called frame =>
      let writers := s.server.manager.postMessage reader.addr
      return s.setCamera reader { camera with job := .writing frame writers }
    | _ => none
  | .write reader => do
    let camera ← s.cameras reader
    match camera.job with
    | .writing frame (writer :: writers) =>
      let headset ← s.headsets writer
      let headset ← headset.write (N.get writer) ⟨reader, frame⟩
      return (s.setCamera reader { camera with job := .writing frame writers }).setHeadset writer
        headset
    | _ => none
  | .unlock reader => do
    let camera ← s.cameras reader
    match camera.job with
    | .writing _ [] => return s.setCamera reader { camera with job := .reading }
    | _ => none
  | .headset writer ev => do
    if (ev.posts TcpHeadsetSession.sender).isSome then none
    else
      let headset ← s.headsets writer
      let headset ← headset.step (N.get writer) ev
      return s.setHeadset writer headset

/-- What each step finds, and what it leaves. -/
inductive Step (N : Network) (s : State) : Event → State → Prop
  | server {ev : Shutdown.Event} {server : Shutdown.State}
      (hposting : isExclusive ev = true → s.posting = false)
      (hserver : Shutdown.step s.server ev = some server) :
    Step N s (.server ev)
      { N.register (s.close (isInternal ev) (closed s.server ev)) ev with server }
  | send {reader : Reader} {ev : CameraClient.Event} {camera camera' : Camera}
      (hcamera : s.cameras reader = some camera)
      (hsend : camera.send (N.get reader) ev = some camera') :
    Step N s (.send reader ev) (s.setCamera reader camera')
  | receive {reader : Reader} {bytes : List UInt8} {camera camera' : Camera}
      (hcamera : s.cameras reader = some camera)
      (hreceive : camera.receive (N.get reader) bytes = some camera') :
    Step N s (.receive reader bytes) (s.setCamera reader camera')
  | leave {reader : Reader} {camera : Camera} (hcamera : s.cameras reader = some camera) :
    Step N s (.leave reader) (s.setCamera reader { camera with is_open := false })
  | lock {reader : Reader} {camera : Camera} {frame : List UInt8}
      (hcamera : s.cameras reader = some camera) (hjob : camera.job = .called frame) :
    Step N s (.lock reader) (s.setCamera reader
      { camera with job := .writing frame (s.server.manager.postMessage reader.addr) })
  | write {reader : Reader} {camera : Camera} {frame : List UInt8} {writer : Writer}
      {writers : List Writer} {headset headset' : Headset}
      (hcamera : s.cameras reader = some camera)
      (hjob : camera.job = .writing frame (writer :: writers))
      (hheadset : s.headsets writer = some headset)
      (hwrite : headset.write (N.get writer) ⟨reader, frame⟩ = some headset') :
    Step N s (.write reader)
      ((s.setCamera reader { camera with job := .writing frame writers }).setHeadset writer
        headset')
  | unlock {reader : Reader} {camera : Camera} {frame : List UInt8}
      (hcamera : s.cameras reader = some camera) (hjob : camera.job = .writing frame []) :
    Step N s (.unlock reader) (s.setCamera reader { camera with job := .reading })
  | headset {writer : Writer} {ev : LinkEvent TcpHeadsetSession.Event} {headset headset' : Headset}
      (hposts : ev.posts TcpHeadsetSession.sender = none)
      (hheadset : s.headsets writer = some headset)
      (hstep : headset.step (N.get writer) ev = some headset') :
    Step N s (.headset writer ev) (s.setHeadset writer headset')

theorem Step.of_step {N : Network} {s s' : State} {ev : Event} (hs : N.step s ev = some s') :
    Step N s ev s' := by
  unfold Network.step at hs
  cases ev with
  | server ev =>
    obtain ⟨hposting, hs⟩ := Option.ite_none_left_eq_some.mp hs
    obtain ⟨server, hserver, rfl⟩ := Option.map_eq_some_iff.mp hs
    refine .server (fun hexclusive => ?_) hserver
    exact Bool.eq_false_iff.mpr fun htrue => hposting ⟨hexclusive, htrue⟩
  | send reader ev =>
    obtain ⟨camera, hcamera, hs⟩ := Option.bind_eq_some_iff.mp hs
    obtain ⟨camera', hsend, ⟨⟩⟩ := Option.bind_eq_some_iff.mp hs
    exact .send hcamera hsend
  | receive reader bytes =>
    obtain ⟨-, hs⟩ := Option.ite_none_left_eq_some.mp hs
    obtain ⟨camera, hcamera, hs⟩ := Option.bind_eq_some_iff.mp hs
    obtain ⟨camera', hreceive, ⟨⟩⟩ := Option.bind_eq_some_iff.mp hs
    exact .receive hcamera hreceive
  | leave reader =>
    obtain ⟨camera, hcamera, ⟨⟩⟩ := Option.bind_eq_some_iff.mp hs
    exact .leave hcamera
  | lock reader =>
    obtain ⟨camera, hcamera, hs⟩ := Option.bind_eq_some_iff.mp hs
    split at hs <;> cases hs
    exact .lock hcamera ‹_›
  | write reader =>
    obtain ⟨camera, hcamera, hs⟩ := Option.bind_eq_some_iff.mp hs
    split at hs
    · rename_i frame writer writers hjob
      obtain ⟨headset, hheadset, hs⟩ := Option.bind_eq_some_iff.mp hs
      obtain ⟨headset', hwrite, ⟨⟩⟩ := Option.bind_eq_some_iff.mp hs
      exact .write hcamera hjob hheadset hwrite
    · cases hs
  | unlock reader =>
    obtain ⟨camera, hcamera, hs⟩ := Option.bind_eq_some_iff.mp hs
    split at hs <;> cases hs
    exact .unlock hcamera ‹_›
  | headset writer ev =>
    dsimp only at hs
    split_ifs at hs with hposts
    obtain ⟨headset, hheadset, hs⟩ := Option.bind_eq_some_iff.mp hs
    obtain ⟨headset', hstep, ⟨⟩⟩ := Option.bind_eq_some_iff.mp hs
    exact .headset (by simpa using hposts) hheadset hstep

/-! ## The connections -/

variable {N : Network} {camera camera' : Camera} {headset headset' : Headset}

theorem Camera.send_spec {get : ℕ → TcpBuffer} {ev : CameraClient.Event}
    (hs : camera.send get ev = some camera') :
    ∃ link, Link.step CameraClient.sender .tcpCameraSession get camera.link (.send ev) =
        some link ∧ CameraClient.sender.undisturbed ev ∧
      link.receiver = camera.link.receiver ∧
      camera' = { camera with
        link := link
        posted := camera.posted ++ (CameraClient.sender.posts ev).toList } := by
  unfold Camera.send at hs
  split_ifs at hs with hopen
  obtain ⟨link, hlink, rfl⟩ := Option.map_eq_some_iff.mp hs
  refine ⟨link, hlink, hopen.2, ?_, rfl⟩
  obtain ⟨sender, -, rfl⟩ := Option.map_eq_some_iff.mp hlink
  rfl

/-- A receive hands over the frame that it completes, if it does, and nothing else. -/
theorem Camera.receive_spec {get : ℕ → TcpBuffer} {bytes : List UInt8}
    (hs : camera.receive get bytes = some camera') :
    camera.job = .reading ∧
      ∃ link, Link.step CameraClient.sender .tcpCameraSession get camera.link (.receive bytes) =
        some link ∧
      ((link.receiver.delivered = camera.link.receiver.delivered ∧
          camera' = { camera with link := link }) ∨
        ∃ frame, link.receiver.delivered = camera.link.receiver.delivered ++ [frame] ∧
          camera' = { camera with link := link, job := .called frame }) := by
  unfold Camera.receive at hs
  split_ifs at hs with hlive
  obtain ⟨link, hlink, hs⟩ := Option.map_eq_some_iff.mp hs
  refine ⟨hlive.2, link, hlink, ?_⟩
  have hreceived : ∃ r,
      Receiver.step .tcpCameraSession get camera.link.receiver bytes = some r ∧
        link.receiver = r := by
    unfold Link.step at hlink
    dsimp only at hlink
    split_ifs at hlink
    obtain ⟨r, hr, rfl⟩ := Option.map_eq_some_iff.mp hlink
    exact ⟨r, hr, rfl⟩
  obtain ⟨r, hr, hreceiver⟩ := hreceived
  obtain hsame | ⟨frame, hframe⟩ := Receiver.delivered_of_step hr
  · refine .inl ⟨by rw [hreceiver, hsame], ?_⟩
    simp only [hreceiver, hsame, List.drop_length] at hs
    exact hs.symm
  · refine .inr ⟨frame, by rw [hreceiver, hframe], ?_⟩
    simp only [hreceiver, hframe, List.drop_left] at hs
    exact hs.symm

/-! ## What a connection hands over -/

/-- The connection of the camera's client, as it has come about. -/
def Camera.Kept (N : Network) (reader : Reader) (camera : Camera) : Prop :=
  Traced CameraClient.sender .tcpCameraSession (N.get reader) N.buffer_size (N.camera reader).link
    camera.posted camera.link

/-- The connection of the headset, as it has come about. -/
def Headset.Kept (N : Network) (writer : Writer) (headset : Headset) : Prop :=
  Traced TcpHeadsetSession.sender .tcpClient (N.get writer) N.buffer_size (N.headset writer).link
    (headset.routed.map Frame.buffer) headset.link

/-- No buffer that a frame is read into is smaller than the server's. -/
def Network.Fits (N : Network) : Prop := ∀ session n, N.buffer_size ≤ (N.get session n).max_size

theorem Camera.Kept.roundTrip {reader : Reader} (hN : N.Fits) (h : camera.Kept N reader) :
    RoundTrip CameraClient.sender .tcpCameraSession (N.get reader) camera.posted camera.link := by
  obtain ⟨es, hrun, hposted, hes⟩ := h
  have hcap : min N.buffer_size (2 ^ 32 - 1) < 2 ^ 32 := by omega
  have hget : ∀ n, min N.buffer_size (2 ^ 32 - 1) ≤ (N.get reader n).max_size :=
    fun n => (min_le_left _ _).trans (hN reader n)
  have hposting : CameraClient.Posting (min N.buffer_size (2 ^ 32 - 1))
      (CameraClient.connected (N.sender_header reader)) :=
    ⟨rfl, rfl, by simp [CameraClient.connected], by simp [CameraClient.connected],
      fun _ _ => rfl, by simp [CameraClient.connected]⟩
  rw [← hposted]
  exact (CameraClient.sound hcap).roundTrip hcap hget (fun n h32 hle => by omega) hposting rfl rfl
    rfl hes hrun

theorem Headset.Kept.roundTrip {writer : Writer} (hN : N.Fits) (h : headset.Kept N writer) :
    RoundTrip TcpHeadsetSession.sender .tcpClient (N.get writer)
      (headset.routed.map Frame.buffer) headset.link := by
  obtain ⟨es, hrun, hposted, hes⟩ := h
  have hcap : min N.buffer_size (2 ^ 32 - 1) < 2 ^ 32 := by omega
  have hget : ∀ n, min N.buffer_size (2 ^ 32 - 1) ≤ (N.get writer n).max_size :=
    fun n => (min_le_left _ _).trans (hN writer n)
  have hwriting : TcpHeadsetSession.Writing (min N.buffer_size (2 ^ 32 - 1))
      (TcpHeadsetSession.initial (N.sender_header writer) (N.pool writer) N.buffer_size) :=
    ⟨rfl, rfl, by simp [TcpHeadsetSession.initial], by simp [TcpHeadsetSession.initial],
      fun _ => rfl, min_le_left _ _, rfl⟩
  rw [← hposted]
  exact (TcpHeadsetSession.sound hcap).roundTrip hcap hget (fun n h32 hle => by omega) hwriting rfl
    rfl rfl hes hrun

/-- What a receiver has got are contents of posted buffers, in their order. -/
theorem delivered_sublist {σ ε : Type} {S : Sender σ ε} {e : Endpoint} {get : ℕ → TcpBuffer}
    {posted : List SizedBuffer} {l : Link σ} (h : RoundTrip S e get posted l) :
    l.receiver.delivered.Sublist (posted.map SizedBuffer.content) := by
  have hsurvive := survivors_sublist (fun n => (get n).is_leaky) (S.accepted l.sender)
  exact (h.delivered.sublist.trans hsurvive).trans h.accepted

@[simp]
theorem Frame.content_buffer (frame : Frame) : frame.buffer.content = frame.content :=
  slice_overwrite_self _ 0 frame.content

/-- A frame that a camera's session has read fits into the buffers. -/
theorem Camera.Kept.frame_size {reader : Reader} (hN : N.Fits) (h : camera.Kept N reader)
    {frame : List UInt8} (hframe : frame ∈ camera.link.receiver.delivered) :
    frame.length < 2 ^ 32 ∧ frame.length ≤ N.buffer_size := by
  obtain ⟨b, hb, rfl⟩ := List.mem_map.mp ((delivered_sublist (h.roundTrip hN)).subset hframe)
  have hsize := h.size_le hb
  rwa [SizedBuffer.content, length_slice]

end AugmentedNormalcy.Server.Streaming
