import Mathlib.Algebra.Group.Nat.Defs
import AugmentedNormalcy.Foundation.OrdMap

/-!
# The connection manager

`ConnectionManager` of `src/internal/service/server/connection_manager.cpp`: the sessions of the
cameras (readers) and of the headsets (writers), and the two maps that say which writers watch
which reader. Each locked region of the source is one function here. `AddReaderSession` and
`AddWriterSession` have two locked regions each, so they come in two parts, and the complete calls
are their compositions.

A session is a shared pointer, compared by identity. `GetSessionId()` reads a field that the session
sets after its registration returns, so the operations that call it take the current ids as an
argument. `TryClose` calls are returned as the list of the sessions they are made on.
-/

namespace AugmentedNormalcy.Server

/-- `boost::asio::ip::address_v4`, ordered as its 32-bit number. -/
abbrev TcpAddr := Fin (2 ^ 32)

/-- What `GetConnectionType` takes a remote endpoint for. -/
inductive ConnectionType where
  | CAMERA_CONNECTION
  | HEADSET_CONNECTION
  | DISPLAY_CONNECTION
  | UNKNOWN_CONNECTION
deriving DecidableEq, Repr

/-- A session object: its identity, and the address that it was built with. -/
structure Session where
  /-- The identity of the object. -/
  ptr : ℕ
  /-- `GetAddr()`. -/
  addr : TcpAddr
deriving DecidableEq, Repr

/-- `std::shared_ptr<infrastructure::TcpSession>`. -/
abbrev Reader := Session

/-- `std::shared_ptr<infrastructure::WritableTcpSession>`. -/
abbrev Writer := Session

/-- The members of the class. The session number is an `unsigned long`, which no number of
registrations exhausts. -/
structure ConnectionManager where
  last_session_number : ℕ
  reader_sessions : OrdMap TcpAddr Reader
  writer_sessions : OrdMap TcpAddr Writer
  reader_connections : OrdMap TcpAddr (List Writer)
  writer_connections : OrdMap TcpAddr TcpAddr
deriving DecidableEq

namespace ConnectionManager

/-- The sessions and the lookups of the connection maps make up a manager. -/
theorem ext_find? {m m' : ConnectionManager}
    (hnumber : m.last_session_number = m'.last_session_number)
    (hreaders : m.reader_sessions = m'.reader_sessions)
    (hwriters : m.writer_sessions = m'.writer_sessions)
    (hlists : ∀ r, m.reader_connections.find? r = m'.reader_connections.find? r)
    (hmap : ∀ w, m.writer_connections.find? w = m'.writer_connections.find? w) : m = m' := by
  cases m
  cases m'
  obtain rfl := hnumber
  obtain rfl := hreaders
  obtain rfl := hwriters
  obtain rfl := OrdMap.ext_find? hlists
  obtain rfl := OrdMap.ext_find? hmap
  rfl

/-- The manager as it is constructed. -/
def initial : ConnectionManager := ⟨0, .empty, .empty, .empty, .empty⟩

/-! ## Connection registration -/

/-- The first locked region of `AddReaderSession`: registers the session, and returns
`is_first_reader` and `reader_to_remove`. -/
def addReaderRegister (m : ConnectionManager) (session : Reader) :
    ConnectionManager × Bool × Option Reader :=
  ({ m with reader_sessions := m.reader_sessions.insert session.addr session },
    m.reader_sessions.size == 0, m.reader_sessions.find? session.addr)

/-- The second locked region of `AddReaderSession`: the first reader takes every writer, a later one
starts with an empty list. -/
def addReaderConnect (m : ConnectionManager) (reader_addr : TcpAddr) (is_first_reader : Bool) :
    ConnectionManager :=
  if is_first_reader then
    let (writer_connections, new_reader_connections) :=
      m.writer_sessions.entries.foldl
        (fun (acc : OrdMap TcpAddr TcpAddr × List Writer) e =>
          (acc.1.insert e.1 reader_addr, acc.2 ++ [e.2]))
        (m.writer_connections, [])
    { m with
      writer_connections := writer_connections
      reader_connections := m.reader_connections.insert reader_addr new_reader_connections }
  else
    { m with reader_connections := m.reader_connections.insert reader_addr [] }

/-- `return ++_last_session_number`. -/
def nextSessionNumber (m : ConnectionManager) : ConnectionManager × ℕ :=
  ({ m with last_session_number := m.last_session_number + 1 }, m.last_session_number + 1)

/-- `AddReaderSession`: the manager after it, the sessions that it closes, and the session number
that it returns. -/
def addReaderSession (m : ConnectionManager) (session : Reader) :
    ConnectionManager × List Session × ℕ :=
  let (m, is_first_reader, reader_to_remove) := m.addReaderRegister session
  let m := m.addReaderConnect session.addr is_first_reader
  let (m, number) := m.nextSessionNumber
  (m, reader_to_remove.toList, number)

/-- The loop of `RemoveReaderSession` that moves the dead reader's writers, one by one, to the back
of the replacement's list, and points each at the replacement. -/
def moveConnections (replacement_addr : TcpAddr) (dead_connections : List Writer)
    (replacement_connections : List Writer) (writer_connections : OrdMap TcpAddr TcpAddr) :
    List Writer × OrdMap TcpAddr TcpAddr :=
  dead_connections.foldl
    (fun acc writer => (acc.1 ++ [writer], acc.2.insert writer.addr replacement_addr))
    (replacement_connections, writer_connections)

/-- `RemoveReaderSession`. -/
def removeReaderSession (session_id : Session → ℕ) (m : ConnectionManager) (session : Reader) :
    ConnectionManager :=
  let dead_addr := session.addr
  match m.reader_sessions.find? dead_addr with
  | none => m
  | some dead_reader =>
    if session_id dead_reader ≠ session_id session then m
    else if m.reader_sessions.size = 1 then
      { m with
        writer_connections := .empty
        reader_connections := .empty
        reader_sessions := .empty }
    else
      match m.reader_connections.find? dead_addr with
      | none => { m with reader_sessions := m.reader_sessions.erase dead_addr }
      | some [] =>
        { m with
          reader_connections := m.reader_connections.erase dead_addr
          reader_sessions := m.reader_sessions.erase dead_addr }
      | some dead_connections =>
        match m.reader_sessions.cyclicNext? dead_addr with
        -- The map holds the dead reader, so it has a first entry.
        | none => m
        | some (replacement_addr, _) =>
          let replacement_connections := (m.reader_connections.find? replacement_addr).getD []
          let (replacement_connections, writer_connections) :=
            moveConnections replacement_addr dead_connections replacement_connections
              m.writer_connections
          { m with
            writer_connections := writer_connections
            reader_connections :=
              (m.reader_connections.insert replacement_addr replacement_connections).erase dead_addr
            reader_sessions := m.reader_sessions.erase dead_addr }

/-- The first locked region of `AddWriterSession`: registers the session, and returns
`writer_to_remove` and whether `replace_connection` points at the writer's entry of
`_writer_connections`. -/
def addWriterRegister (m : ConnectionManager) (session : Writer) :
    ConnectionManager × Option Writer × Bool :=
  let writer_to_remove := m.writer_sessions.find? session.addr
  ({ m with writer_sessions := m.writer_sessions.insert session.addr session },
    writer_to_remove, writer_to_remove.isSome && m.writer_connections.contains session.addr)

/-- The second locked region of `AddWriterSession`, given what `replace_connection` points at, or
`none` when it is null: a new writer is attached to the first reader, a replaced one is swapped in
its list. -/
def addWriterConnect (m : ConnectionManager) (session : Writer) (writer_to_remove : Option Writer)
    (replace_connection : Option TcpAddr) : ConnectionManager :=
  match replace_connection with
  | none =>
    match m.reader_sessions.begin? with
    | none => m
    | some (reader_addr, _) =>
      match m.reader_connections.find? reader_addr with
      | none => m
      | some connections =>
        { m with
          reader_connections := m.reader_connections.insert reader_addr (connections ++ [session])
          writer_connections := m.writer_connections.insert session.addr reader_addr }
  | some reader_addr =>
    match m.reader_connections.find? reader_addr, writer_to_remove with
    | some connections, some old =>
      { m with
        reader_connections :=
          m.reader_connections.insert reader_addr (connections.replace old session) }
    | _, _ => m

/-- `AddWriterSession`: the manager after it, the sessions that it closes, and the session number
that it returns. -/
def addWriterSession (m : ConnectionManager) (session : Writer) :
    ConnectionManager × List Session × ℕ :=
  let (m, writer_to_remove, replace_connection) := m.addWriterRegister session
  let m := m.addWriterConnect session writer_to_remove
    (if replace_connection then m.writer_connections.find? session.addr else none)
  let (m, number) := m.nextSessionNumber
  (m, writer_to_remove.toList, number)

/-- `RemoveWriterSession`. -/
def removeWriterSession (session_id : Session → ℕ) (m : ConnectionManager) (session : Writer) :
    ConnectionManager :=
  let dead_addr := session.addr
  match m.writer_sessions.find? dead_addr with
  | none => m
  | some dead_writer =>
    if session_id dead_writer ≠ session_id session then m
    else if m.writer_sessions.size = 1 then
      { m with
        writer_connections := .empty
        reader_connections := m.reader_connections.mapVal fun _ _ => []
        writer_sessions := .empty }
    else
      match m.writer_connections.find? dead_addr with
      | none => { m with writer_sessions := m.writer_sessions.erase dead_addr }
      | some reader_addr =>
        let unlinked : ConnectionManager :=
          { m with
            writer_connections := m.writer_connections.erase dead_addr
            writer_sessions := m.writer_sessions.erase dead_addr }
        match m.reader_connections.find? reader_addr with
        | none => unlinked
        | some connections =>
          if session ∈ connections then
            { unlinked with
              reader_connections :=
                m.reader_connections.insert reader_addr (connections.erase session) }
          else unlinked

/-! ## Connection -/

/-- `PostMessage`: the sessions that `Write` is called on. -/
def postMessage (m : ConnectionManager) (addr : TcpAddr) : List Writer :=
  (m.reader_connections.find? addr).getD []

/-- `GetConnectionCounts`. -/
def getConnectionCounts (m : ConnectionManager) : ℕ × ℕ :=
  (m.reader_connections.size, m.writer_connections.size)

/-! ## Connection management -/

/-- Moves the connection of `writer_addr` from the list of `current_addr` to the back of the list of
`next_addr`, as `RotateWriterConnection` and `ResetWriterConnection` do once they have found both
lists. -/
def moveConnection (m : ConnectionManager) (writer_addr current_addr next_addr : TcpAddr)
    (current_connection next_connection : List Writer) : ConnectionManager × Bool :=
  match current_connection.find? fun writer => writer.addr = writer_addr with
  | none => (m, false)
  | some writer =>
    ({ m with
        reader_connections :=
          (m.reader_connections.insert next_addr (next_connection ++ [writer])).insert current_addr
            (current_connection.eraseP fun writer => writer.addr = writer_addr)
        writer_connections := m.writer_connections.insert writer_addr next_addr }, true)

/-- `RotateWriterConnection`. -/
def rotateWriterConnection (m : ConnectionManager) (writer_addr : TcpAddr) :
    ConnectionManager × Bool :=
  match m.writer_connections.find? writer_addr with
  | none => (m, false)
  | some current_reader_addr =>
    if m.reader_sessions.find? current_reader_addr = none then (m, false)
    else if m.reader_sessions.size = 1 then (m, true)
    else
      match m.reader_connections.find? current_reader_addr with
      | none | some [] => (m, false)
      | some current_connection =>
        match m.reader_sessions.cyclicNext? current_reader_addr with
        | none => (m, false)
        | some (next_reader_addr, _) =>
          match m.reader_connections.find? next_reader_addr with
          | none => (m, false)
          | some next_connection =>
            m.moveConnection writer_addr current_reader_addr next_reader_addr current_connection
              next_connection

/-- `ResetWriterConnection`. -/
def resetWriterConnection (m : ConnectionManager) (writer_addr : TcpAddr) :
    ConnectionManager × Bool :=
  match m.writer_connections.find? writer_addr with
  | none => (m, false)
  | some current_reader_addr =>
    match m.reader_sessions.find? current_reader_addr, m.reader_sessions.begin? with
    | none, _ | _, none => (m, false)
    | some _, some (first_reader_addr, _) =>
      if m.reader_sessions.size = 1 ∨ current_reader_addr = first_reader_addr then (m, true)
      else
        match m.reader_connections.find? current_reader_addr with
        | none | some [] => (m, false)
        | some current_connection =>
          match m.reader_connections.find? first_reader_addr with
          | none => (m, false)
          | some first_connection =>
            m.moveConnection writer_addr current_reader_addr first_reader_addr current_connection
              first_connection

/-- One iteration of the loop over `_reader_connections` in `RotateAllConnections` and
`PointReaderAtWriters`: the list of `reader_addr` goes to the back of the list of `new_addr`. -/
def moveListTo (new_addr : TcpAddr) (reader_connections : OrdMap TcpAddr (List Writer))
    (reader_addr : TcpAddr) : OrdMap TcpAddr (List Writer) :=
  if reader_addr = new_addr then reader_connections
  else
    let connections := (reader_connections.find? reader_addr).getD []
    let new_connections := (reader_connections.find? new_addr).getD []
    if connections.isEmpty then reader_connections
    else (reader_connections.insert new_addr (new_connections ++ connections)).insert reader_addr []

/-- Both loops of `RotateAllConnections` and `PointReaderAtWriters`: every list is moved to
`new_addr`, and every writer is pointed at it. -/
def moveAllTo (m : ConnectionManager) (new_addr : TcpAddr) : ConnectionManager :=
  { m with
    reader_connections := m.reader_connections.keys.foldl (moveListTo new_addr) m.reader_connections
    writer_connections := m.writer_connections.mapVal fun _ _ => new_addr }

/-- `RotateAllConnections`. -/
def rotateAllConnections (m : ConnectionManager) : ConnectionManager × Bool :=
  match m.writer_connections.begin? with
  | none => (m, false)
  | some (_, old_addr) =>
    if m.reader_sessions.size ≤ 1 then (m, false)
    else if m.reader_sessions.find? old_addr = none then (m, false)
    else
      match m.reader_sessions.cyclicNext? old_addr with
      | none => (m, false)
      | some (new_addr, _) =>
        if m.reader_connections.contains new_addr then (m.moveAllTo new_addr, true) else (m, false)

/-- `PointReaderAtWriters`. -/
def pointReaderAtWriters (m : ConnectionManager) (addr : TcpAddr) : ConnectionManager × Bool :=
  if m.reader_sessions.find? addr = none then (m, false)
  else if m.reader_connections.contains addr then (m.moveAllTo addr, true)
  else (m, false)

/-- `Clear`: the manager after it, and the sessions that it closes. -/
def clear (m : ConnectionManager) : ConnectionManager × List Session :=
  ({ m with
      reader_connections := .empty
      writer_connections := .empty
      reader_sessions := .empty
      writer_sessions := .empty },
    m.reader_sessions.entries.map Prod.snd ++ m.writer_sessions.entries.map Prod.snd)

end ConnectionManager

end AugmentedNormalcy.Server
