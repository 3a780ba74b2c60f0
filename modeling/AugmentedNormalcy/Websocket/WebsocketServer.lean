import AugmentedNormalcy.Server.ConnectionManager

/-!
# The websocket server

`WebsocketServer` of `src/internal/infrastructure/websocket/websocket_server.cpp`: the sessions of
the cameras and of the headsets, by address. The acceptor strand runs one job at a time, an accept
handler or the cancel that `Stop` posts; an accept handler takes several steps, of which its
insertion into a pool is one. The owner calls `Start` and `Stop`, and `Stop` waits for the cancel
before it drains the pools. Sessions close themselves from threads of their own: between the test of
`_is_live` in `TryClose(true)` and the call of `destroySession` anything may happen.

Three histories stand beside the members: the sessions that were accepted, those whose
`destroySession` has run, and those that a `Stop` has drained.
-/

namespace AugmentedNormalcy.Websocket

open Server (TcpAddr ConnectionType)

/-- The members of a `WebsocketSession` that the server reads. -/
structure WebsocketSession where
  connection_type : ConnectionType
  addr : TcpAddr
  session_number : ℕ
deriving DecidableEq

/-- Is the session in `_camera_sessions`, or in `_headset_sessions`? -/
def WebsocketSession.is_camera (s : WebsocketSession) : Bool :=
  s.connection_type = .CAMERA_CONNECTION

/-- The job that the acceptor strand runs. -/
inductive AcceptJob where
  | idle
  /-- `onAccept` has a socket, and has found `_is_stopped` clear. -/
  | accepting (connection_type : ConnectionType) (addr : TcpAddr)
  /-- `handleConnection` has made the session. -/
  | created (session : WebsocketSession)
  /-- The session is in its pool, and `session_to_remove` is to be closed. -/
  | registered (session_to_remove : Option WebsocketSession)

/-- Where the owner is. -/
inductive Owner where
  /-- Between calls. -/
  | idle
  /-- `Stop` has posted the cancel and waits for it. -/
  | waiting
  /-- The cancel has run. -/
  | cancelled
  /-- The pools are drained, and the sessions are to be closed. -/
  | closing (removed_sessions : List WebsocketSession)

/-- The members of the class, what the threads are at, and the histories. -/
structure WebsocketServer where
  is_stopped : Bool
  last_session_number : ℕ
  camera_sessions : OrdMap TcpAddr WebsocketSession
  headset_sessions : OrdMap TcpAddr WebsocketSession
  strand : AcceptJob
  owner : Owner
  /-- `_is_live`, by session number. -/
  is_live : ℕ → Bool
  /-- The sessions in `TryClose(true)`, past the test of `_is_live`. -/
  closing : List WebsocketSession
  accepted : List WebsocketSession
  destroyed : List WebsocketSession
  drained : List WebsocketSession

/-- What happens next. -/
inductive ServerEvent where
  /-- An accept handler starts, with a socket unless the accept failed. -/
  | onAccept (socket : Option (ConnectionType × TcpAddr))
  /-- `handleConnection` makes the session. -/
  | create
  /-- The locked region of `handleConnection`. -/
  | register
  /-- The end of `handleConnection`. -/
  | accepted
  /-- The cancel that `Stop` has posted runs. -/
  | cancel
  /-- `TryClose(true)` tests `_is_live`. -/
  | tryClose (session : WebsocketSession)
  /-- `TryClose(true)` goes on to `destroySession`. -/
  | destroySession (session : WebsocketSession)
  | start
  /-- `Stop` sets `_is_stopped` and posts the cancel. -/
  | stop
  /-- `Stop` drains the pools. -/
  | drain
  /-- `Stop` closes the drained sessions and returns. -/
  | stopped

namespace WebsocketServer

/-- The server as it is constructed. -/
def initial : WebsocketServer :=
  { is_stopped := true
    last_session_number := 0
    camera_sessions := .empty
    headset_sessions := .empty
    strand := .idle
    owner := .idle
    is_live := fun _ => true
    closing := []
    accepted := []
    destroyed := []
    drained := [] }

/-- `session_pool`. -/
def session_pool (w : WebsocketServer) (is_camera : Bool) : OrdMap TcpAddr WebsocketSession :=
  if is_camera then w.camera_sessions else w.headset_sessions

/-- Assigns `session_pool`. -/
def setPool (w : WebsocketServer) (is_camera : Bool)
    (session_pool : OrdMap TcpAddr WebsocketSession) : WebsocketServer :=
  { w with
    camera_sessions := if is_camera then session_pool else w.camera_sessions
    headset_sessions := if is_camera then w.headset_sessions else session_pool }

/-- `TryClose(false)`. -/
def close (w : WebsocketServer) (session : WebsocketSession) : WebsocketServer :=
  { w with is_live := Function.update w.is_live session.session_number false }

/-- The locked region of `handleConnection`. -/
def registerSession (w : WebsocketServer) (session : WebsocketSession) : WebsocketServer :=
  let session_pool := w.session_pool session.is_camera
  { w.setPool session.is_camera (session_pool.insert session.addr session) with
    strand := .registered (session_pool.find? session.addr)
    accepted := w.accepted ++ [session] }

/-- `destroySession`: the pools after it. -/
def destroySession (w : WebsocketServer) (session : WebsocketSession) : WebsocketServer :=
  let session_pool := w.session_pool session.is_camera
  match session_pool.find? session.addr with
  | none => w
  | some dead_session =>
    if dead_session.session_number = session.session_number then
      w.setPool session.is_camera (session_pool.erase session.addr)
    else w

/-- One step. -/
def step (w : WebsocketServer) : ServerEvent → Option WebsocketServer
  | .onAccept socket =>
    match w.strand with
    | .idle =>
      if w.is_stopped then some w
      else
        match socket with
        | none => some w
        | some (connection_type, addr) =>
          if connection_type = .UNKNOWN_CONNECTION then some w
          else some { w with strand := .accepting connection_type addr }
    | _ => none
  | .create =>
    match w.strand with
    | .accepting connection_type addr =>
      some { w with
        last_session_number := w.last_session_number + 1
        strand := .created ⟨connection_type, addr, w.last_session_number + 1⟩ }
    | _ => none
  | .register =>
    match w.strand with
    | .created session => some (w.registerSession session)
    | _ => none
  | .accepted =>
    match w.strand with
    | .registered session_to_remove =>
      match session_to_remove with
      | some session => some { w.close session with strand := .idle }
      | none => some { w with strand := .idle }
    | _ => none
  | .cancel =>
    match w.strand, w.owner with
    | .idle, .waiting => some { w with owner := .cancelled }
    | _, _ => none
  | .tryClose session =>
    if session ∈ w.accepted ∧ w.is_live session.session_number then
      some { w with closing := session :: w.closing }
    else none
  | .destroySession session =>
    if session ∈ w.closing then
      some { (w.close session).destroySession session with
        closing := w.closing.erase session
        destroyed := w.destroyed ++ [session] }
    else none
  | .start =>
    match w.owner with
    | .idle => some { w with is_stopped := false }
    | _ => none
  | .stop =>
    match w.owner with
    | .idle =>
      if w.is_stopped then some w else some { w with is_stopped := true, owner := .waiting }
    | _ => none
  | .drain =>
    match w.owner with
    | .cancelled =>
      let removed_sessions :=
        w.camera_sessions.entries.map Prod.snd ++ w.headset_sessions.entries.map Prod.snd
      some { w with
        camera_sessions := .empty
        headset_sessions := .empty
        owner := .closing removed_sessions
        drained := w.drained ++ removed_sessions }
    | _ => none
  | .stopped =>
    match w.owner with
    | .closing removed_sessions => some { removed_sessions.foldl close w with owner := .idle }
    | _ => none

end WebsocketServer

end AugmentedNormalcy.Websocket
