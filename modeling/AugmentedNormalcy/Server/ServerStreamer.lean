import Mathlib.Logic.Function.Basic
import AugmentedNormalcy.Foundation.Run
import AugmentedNormalcy.Server.ConnectionManager

/-!
# Starting and stopping the server

`ServerStreamer::Stop` clears the manager, joins the worker, stops the websocket server, stops the
tcp server and stops the asio context, while the accept handler and the sessions go on in the
threads of that context. Each locked region of the manager is one step, and so is each `TryClose`
and each test or change of `_is_stopped`.

The accept handler runs on the acceptor's strand, so one at a time; what it holds between two of its
steps is its `Handler`. `AddWriterSession` follows a pointer that it got in its first region. The
entry may be gone by then, so the step names what the pointer reads, and may name any address.

A session is live as long as `TryClose` has not been called on it, which `closed` records.
`readers` and `writers` record every session that was registered.
-/

namespace AugmentedNormalcy.Server.Shutdown

/-- How far the last `Stop` has come. -/
inductive Progress where
  /-- Not started, or `Stop` has returned. -/
  | stopped
  | running
  /-- `Clear` has left its locked region, and closes the sessions that it took out. -/
  | clearing (sessions : List Session)
  | workerJoined
  | websocketStopped
  /-- `TcpServer::Stop` has set `_is_stopped`. -/
  | tcpStopping
  /-- The handler that `TcpServer::Stop` posted to the acceptor's strand has run. -/
  | tcpStopped
deriving DecidableEq

/-- The place of the accept handler. -/
inductive Handler where
  | idle
  /-- Past the test of `_is_stopped`. -/
  | accepted (session : Session) (connection_type : ConnectionType)
  | registeredReader (session : Reader) (is_first_reader : Bool) (reader_to_remove : Option Reader)
  | registeredWriter (session : Writer) (writer_to_remove : Option Writer)
      (replace_connection : Bool)
  /-- Past both regions. -/
  | connected (session : Session) (to_remove : Option Session)
deriving DecidableEq

/-- The session that is being registered. -/
def Handler.session? : Handler → Option Session
  | idle | accepted _ _ => none
  | registeredReader session _ _ | registeredWriter session _ _ | connected session _ =>
    some session

/-- The session that it replaces. -/
def Handler.replaced? : Handler → Option Session
  | idle | accepted _ _ => none
  | registeredReader _ _ to_remove | registeredWriter _ to_remove _ | connected _ to_remove =>
    to_remove

structure State where
  manager : ConnectionManager
  session_id : Session → ℕ
  progress : Progress
  /-- `TcpServer::_is_stopped`. -/
  is_stopped : Bool
  handler : Handler
  /-- The sessions between the two steps of `TryClose(true)`. -/
  removing_readers : List Reader
  removing_writers : List Writer
  readers : List Reader
  writers : List Writer
  closed : List Session

/-- The server was never started. -/
def initial : State where
  manager := .initial
  session_id := fun _ => 0
  progress := .stopped
  is_stopped := true
  handler := .idle
  removing_readers := []
  removing_writers := []
  readers := []
  writers := []
  closed := []

inductive Event where
  | start
  /-- `Stop` calls `Clear`. -/
  | clear
  /-- `Clear` calls `TryClose` on the next of the sessions that it took out. -/
  | tryClose
  | joinWorker
  | stopWebsocketServer
  /-- `TcpServer::Stop` sets `_is_stopped`. -/
  | setStopped
  /-- `TcpServer::Stop` has waited for the acceptor's strand. -/
  | cancelAcceptor
  /-- `Stop` joins the asio context and returns. -/
  | stopContext
  /-- The accept handler starts with a new connection. -/
  | accept (session : Session) (connection_type : ConnectionType)
  /-- The first locked region of the handler's `Add`. -/
  | register
  /-- The second one; `read` is what the pointer to an entry reads. -/
  | connect (read : TcpAddr)
  /-- The `Add` closes the session that it replaced, and returns. -/
  | finish
  /-- A session calls `TryClose(true)` on itself. -/
  | closeReader (session : Reader)
  | closeWriter (session : Writer)
  /-- The rest of that `TryClose`. -/
  | removeReaderSession (session : Reader)
  | removeWriterSession (session : Writer)
  | rotateWriterConnection (writer_addr : TcpAddr)
  | resetWriterConnection (writer_addr : TcpAddr)
  | rotateAllConnections
  | pointReaderAtWriters (addr : TcpAddr)

/-- What the accept handler does with a connection of a type: its first locked region. -/
def State.register (s : State) (session : Session) : ConnectionType → State
  | .CAMERA_CONNECTION =>
    let (m, is_first_reader, reader_to_remove) := s.manager.addReaderRegister session
    { s with
      manager := m
      handler := .registeredReader session is_first_reader reader_to_remove
      readers := session :: s.readers }
  | .HEADSET_CONNECTION | .DISPLAY_CONNECTION =>
    let (m, writer_to_remove, replace_connection) := s.manager.addWriterRegister session
    { s with
      manager := m
      handler := .registeredWriter session writer_to_remove replace_connection
      writers := session :: s.writers }
  -- The socket is shut down.
  | .UNKNOWN_CONNECTION => { s with handler := .idle }

/-- The threads of the asio context run. -/
def Progress.serves : Progress → Bool
  | stopped => false
  | _ => true

/-- The worker thread runs. -/
def Progress.works : Progress → Bool
  | running | clearing _ => true
  | _ => false

def step (s : State) : Event → Option State
  | .start =>
    if s.progress = .stopped then some { s with progress := .running, is_stopped := false }
    else none
  | .clear =>
    if s.progress = .running then
      let (m, removed) := s.manager.clear
      some { s with manager := m, progress := .clearing removed }
    else none
  | .tryClose =>
    match s.progress with
    | .clearing (session :: sessions) =>
      some { s with progress := .clearing sessions, closed := session :: s.closed }
    | _ => none
  | .joinWorker =>
    if s.progress = .clearing [] then some { s with progress := .workerJoined } else none
  | .stopWebsocketServer =>
    if s.progress = .workerJoined then some { s with progress := .websocketStopped } else none
  | .setStopped =>
    if s.progress = .websocketStopped then
      some { s with progress := .tcpStopping, is_stopped := true }
    else none
  | .cancelAcceptor =>
    -- The strand runs this after the handler that it is in.
    if s.progress = .tcpStopping ∧ s.handler = .idle then some { s with progress := .tcpStopped }
    else none
  | .stopContext =>
    if s.progress = .tcpStopped ∧ s.removing_readers = [] ∧ s.removing_writers = [] then
      some { s with progress := .stopped }
    else none
  | .accept session connection_type =>
    if s.progress.serves ∧ s.handler = .idle ∧ session ∉ s.readers ∧ session ∉ s.writers then
      some { s with handler := if s.is_stopped then .idle else .accepted session connection_type }
    else none
  | .register =>
    match s.handler with
    | .accepted session connection_type => some (s.register session connection_type)
    | _ => none
  | .connect read =>
    match s.handler with
    | .registeredReader session is_first_reader reader_to_remove =>
      some { s with
        manager := s.manager.addReaderConnect session.addr is_first_reader
        handler := .connected session reader_to_remove }
    | .registeredWriter session writer_to_remove replace_connection =>
      some { s with
        manager := s.manager.addWriterConnect session writer_to_remove
          (if replace_connection then some read else none)
        handler := .connected session writer_to_remove }
    | _ => none
  | .finish =>
    match s.handler with
    | .connected session to_remove =>
      let (m, number) := s.manager.nextSessionNumber
      some { s with
        manager := m
        session_id := Function.update s.session_id session number
        handler := .idle
        closed := to_remove.toList ++ s.closed }
    | _ => none
  | .closeReader session =>
    -- A reader runs once its `Add` has returned.
    if s.progress.serves ∧ session ∈ s.readers ∧ session ∉ s.closed ∧
        s.handler.session? ≠ some session then
      some { s with
        closed := session :: s.closed, removing_readers := session :: s.removing_readers }
    else none
  | .closeWriter session =>
    if s.progress.serves ∧ session ∈ s.writers ∧ session ∉ s.closed then
      some { s with
        closed := session :: s.closed, removing_writers := session :: s.removing_writers }
    else none
  | .removeReaderSession session =>
    if session ∈ s.removing_readers then
      some { s with
        manager := s.manager.removeReaderSession s.session_id session
        removing_readers := s.removing_readers.erase session }
    else none
  | .removeWriterSession session =>
    if session ∈ s.removing_writers then
      some { s with
        manager := s.manager.removeWriterSession s.session_id session
        removing_writers := s.removing_writers.erase session }
    else none
  | .rotateWriterConnection writer_addr =>
    if s.progress.serves then
      some { s with manager := (s.manager.rotateWriterConnection writer_addr).1 }
    else none
  | .resetWriterConnection writer_addr =>
    if s.progress.serves then
      some { s with manager := (s.manager.resetWriterConnection writer_addr).1 }
    else none
  | .rotateAllConnections =>
    if s.progress.works then some { s with manager := s.manager.rotateAllConnections.1 } else none
  | .pointReaderAtWriters addr =>
    if s.progress.works then
      some { s with manager := (s.manager.pointReaderAtWriters addr).1 }
    else none

/-- What each step finds, and what it leaves. -/
inductive Step (s : State) : Event → State → Prop
  | start (hp : s.progress = .stopped) :
    Step s .start { s with progress := .running, is_stopped := false }
  | clear (hp : s.progress = .running) :
    Step s .clear { s with
      manager := s.manager.clear.1, progress := .clearing s.manager.clear.2 }
  | tryClose {session : Session} {sessions : List Session}
      (hp : s.progress = .clearing (session :: sessions)) :
    Step s .tryClose { s with progress := .clearing sessions, closed := session :: s.closed }
  | joinWorker (hp : s.progress = .clearing []) :
    Step s .joinWorker { s with progress := .workerJoined }
  | stopWebsocketServer (hp : s.progress = .workerJoined) :
    Step s .stopWebsocketServer { s with progress := .websocketStopped }
  | setStopped (hp : s.progress = .websocketStopped) :
    Step s .setStopped { s with progress := .tcpStopping, is_stopped := true }
  | cancelAcceptor (hp : s.progress = .tcpStopping) (hidle : s.handler = .idle) :
    Step s .cancelAcceptor { s with progress := .tcpStopped }
  | stopContext (hp : s.progress = .tcpStopped) :
    Step s .stopContext { s with progress := .stopped }
  | accept {session : Session} {connection_type : ConnectionType} (hidle : s.handler = .idle)
      (hreaders : session ∉ s.readers) (hwriters : session ∉ s.writers) :
    Step s (.accept session connection_type) { s with
      handler := if s.is_stopped then .idle else .accepted session connection_type }
  | register {session : Session} {connection_type : ConnectionType}
      (hhandler : s.handler = .accepted session connection_type) :
    Step s .register (s.register session connection_type)
  | connectReader {read : TcpAddr} {session : Reader} {is_first_reader : Bool}
      {reader_to_remove : Option Reader}
      (hhandler : s.handler = .registeredReader session is_first_reader reader_to_remove) :
    Step s (.connect read) { s with
      manager := s.manager.addReaderConnect session.addr is_first_reader
      handler := .connected session reader_to_remove }
  | connectWriter {read : TcpAddr} {session : Writer} {writer_to_remove : Option Writer}
      {replace_connection : Bool}
      (hhandler : s.handler = .registeredWriter session writer_to_remove replace_connection) :
    Step s (.connect read) { s with
      manager := s.manager.addWriterConnect session writer_to_remove
        (if replace_connection then some read else none)
      handler := .connected session writer_to_remove }
  | finish {session : Session} {to_remove : Option Session}
      (hhandler : s.handler = .connected session to_remove) :
    Step s .finish { s with
      manager := s.manager.nextSessionNumber.1
      session_id := Function.update s.session_id session s.manager.nextSessionNumber.2
      handler := .idle
      closed := to_remove.toList ++ s.closed }
  | closeReader {session : Reader} (hmem : session ∈ s.readers)
      (hrun : s.handler.session? ≠ some session) :
    Step s (.closeReader session) { s with
      closed := session :: s.closed, removing_readers := session :: s.removing_readers }
  | closeWriter {session : Writer} (hmem : session ∈ s.writers) :
    Step s (.closeWriter session) { s with
      closed := session :: s.closed, removing_writers := session :: s.removing_writers }
  | removeReaderSession {session : Reader} (hmem : session ∈ s.removing_readers) :
    Step s (.removeReaderSession session) { s with
      manager := s.manager.removeReaderSession s.session_id session
      removing_readers := s.removing_readers.erase session }
  | removeWriterSession {session : Writer} (hmem : session ∈ s.removing_writers) :
    Step s (.removeWriterSession session) { s with
      manager := s.manager.removeWriterSession s.session_id session
      removing_writers := s.removing_writers.erase session }
  | rotateWriterConnection (w : TcpAddr) :
    Step s (.rotateWriterConnection w) { s with manager := (s.manager.rotateWriterConnection w).1 }
  | resetWriterConnection (w : TcpAddr) :
    Step s (.resetWriterConnection w) { s with manager := (s.manager.resetWriterConnection w).1 }
  | rotateAllConnections :
    Step s .rotateAllConnections { s with manager := s.manager.rotateAllConnections.1 }
  | pointReaderAtWriters (r : TcpAddr) :
    Step s (.pointReaderAtWriters r) { s with manager := (s.manager.pointReaderAtWriters r).1 }

theorem Step.of_step {s s' : State} {e : Event} (hs : step s e = some s') : Step s e s' := by
  cases e with
  | start | clear | joinWorker | stopWebsocketServer | setStopped | removeReaderSession
  | removeWriterSession =>
    obtain ⟨h, ⟨⟩⟩ := Option.ite_none_right_eq_some.mp hs
    constructor
    exact h
  | tryClose =>
    simp only [step] at hs
    split at hs <;> cases hs
    exact .tryClose ‹_›
  | cancelAcceptor =>
    obtain ⟨⟨hp, hidle⟩, ⟨⟩⟩ := Option.ite_none_right_eq_some.mp hs
    exact .cancelAcceptor hp hidle
  | stopContext =>
    obtain ⟨⟨hp, -, -⟩, ⟨⟩⟩ := Option.ite_none_right_eq_some.mp hs
    exact .stopContext hp
  | accept =>
    obtain ⟨⟨-, hidle, hreaders, hwriters⟩, ⟨⟩⟩ := Option.ite_none_right_eq_some.mp hs
    exact .accept hidle hreaders hwriters
  | register =>
    simp only [step] at hs
    split at hs <;> cases hs
    exact .register ‹_›
  | connect =>
    simp only [step] at hs
    split at hs <;> cases hs
    · exact .connectReader ‹_›
    · exact .connectWriter ‹_›
  | finish =>
    simp only [step] at hs
    split at hs <;> cases hs
    exact .finish ‹_›
  | closeReader =>
    obtain ⟨⟨-, hmem, -, hrun⟩, ⟨⟩⟩ := Option.ite_none_right_eq_some.mp hs
    exact .closeReader hmem hrun
  | closeWriter =>
    obtain ⟨⟨-, hmem, -⟩, ⟨⟩⟩ := Option.ite_none_right_eq_some.mp hs
    exact .closeWriter hmem
  | rotateWriterConnection | resetWriterConnection | rotateAllConnections | pointReaderAtWriters =>
    obtain ⟨-, ⟨⟩⟩ := Option.ite_none_right_eq_some.mp hs
    constructor

end AugmentedNormalcy.Server.Shutdown
