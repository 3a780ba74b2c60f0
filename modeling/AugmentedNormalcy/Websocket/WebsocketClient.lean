import AugmentedNormalcy.Foundation.Run

/-!
# `WebsocketClient`

The client of `websocket_client.cpp` with each strand handler as one step. An asynchronous operation
is an entry of `pending`, with the session number that its handler is bound to and the stream that
it was started on; `step` delivers the completions in any order and with any result. What Beast
promises about the order and the results is `Beast`, a condition on steps: a result about every
completion whatsoever does not mention it.

`_session_number` is a natural number: an `unsigned long` is not exhausted by reconnecting once a
second. The one-second sleep before a reconnect is part of the handler that sleeps.
-/

namespace AugmentedNormalcy.Websocket

/-- A posted message, numbered in the order of posting. -/
structure Message where
  serial : ℕ
  data : List UInt8
deriving DecidableEq

/-- What `_ws` was asked to do. A write remembers whether the handshake of the stream had completed
when it was started. -/
inductive OperationKind where
  | connect
  | handshake
  | read
  | write (message : Message) (handshaken : Bool)
  | close
deriving DecidableEq

/-- An operation whose completion handler has not run. -/
structure Operation where
  kind : OperationKind
  session_number : ℕ
  stream : ℕ
deriving DecidableEq

/-- The client. `_ws` is a pointer to the last stream that was constructed, if there is one. -/
structure WebsocketClient where
  is_stopped : Bool
  session_number : ℕ
  /-- The stream that `_ws` points to. -/
  ws : Option ℕ
  read_buffer : List UInt8
  send_queue : List Message
  /-- What the manager was told last. -/
  connected : Bool
  /-- How many streams were constructed: the next one gets this number. -/
  streams : ℕ
  /-- The session and the stream of each handshake that succeeded. -/
  handshakes : List (ℕ × ℕ)
  /-- The messages whose `write` waits on the strand. -/
  posted : List Message
  pending : List Operation
  /-- Every message posted while the client was running. -/
  accepted : List Message
  /-- Every message that left the queue. -/
  written : List Message
  /-- A null stream was used, or the front of an empty queue. -/
  fault : Bool

namespace WebsocketClient

variable (s : WebsocketClient)

/-- The handshake of the stream has completed. -/
def handshaken (stream : ℕ) : Bool := s.handshakes.any fun h => h.2 = stream

/-- The operation has completed: what is left is its handler. -/
def finish (operation : Operation) : WebsocketClient :=
  { s with pending := s.pending.erase operation }

/-- Starts an operation on `*_ws`. -/
def startOperation (kind : OperationKind) (session_number : ℕ) : WebsocketClient :=
  match s.ws with
  | none => { s with fault := true }
  | some stream => { s with pending := ⟨kind, session_number, stream⟩ :: s.pending }

/-- With a stream, the operation is pending on it. -/
theorem startOperation_of_some {s : WebsocketClient} {stream : ℕ} (hws : s.ws = some stream)
    (kind : OperationKind) (session_number : ℕ) : s.startOperation kind session_number =
      { s with pending := ⟨kind, session_number, stream⟩ :: s.pending } := by
  unfold startOperation
  split
  · simp_all
  · simp_all

/-- Constructs a stream, and connects it. -/
def startConnection (session_number : ℕ) : WebsocketClient :=
  if s.is_stopped ∨ session_number ≠ s.session_number then s
  else
    { s with ws := some s.streams, streams := s.streams + 1 }.startOperation .connect session_number

/-- Goes on to the next session: closes the stream if it is open, and connects otherwise. -/
def disconnect (session_number : ℕ) (is_open : Bool) : WebsocketClient :=
  if s.is_stopped ∨ s.session_number ≠ session_number then s
  else
    let next_session_number := s.session_number + 1
    let s := { s with session_number := next_session_number, connected := false }
    if s.ws.isSome ∧ is_open then s.startOperation .close next_session_number
    else s.startConnection next_session_number

/-- The handler of the close connects again. -/
def onDisconnect (session_number : ℕ) : WebsocketClient :=
  if s.is_stopped = false ∧ session_number = s.session_number then s.startConnection session_number
  else s

/-- The handler of the connect tries again, or does the handshake. -/
def onConnection (session_number : ℕ) (ec : Bool) : WebsocketClient :=
  if s.is_stopped ∨ session_number ≠ s.session_number then s
  else if ec then s.startConnection session_number
  else s.startOperation .handshake session_number

/-- Reads the next message of the session. -/
def read (session_number : ℕ) : WebsocketClient :=
  if s.is_stopped ∨ session_number ≠ s.session_number then s
  else s.startOperation .read session_number

/-- Writes the front of the queue. -/
def doWrite (session_number : ℕ) : WebsocketClient :=
  if s.is_stopped ∨ session_number ≠ s.session_number then s
  else
    match s.ws, s.send_queue with
    | none, _ => s
    | some _, [] => { s with fault := true }
    | some stream, message :: _ =>
      s.startOperation (.write message (s.handshaken stream)) session_number

/-- The handler of the handshake reads, and writes what was posted before. -/
def onHandshake (session_number : ℕ) (ec is_open : Bool) : WebsocketClient :=
  if s.is_stopped ∨ session_number ≠ s.session_number then s
  else if ec then s.disconnect session_number is_open
  else
    let s := { s with connected := true }.read session_number
    if s.send_queue ≠ [] then s.doWrite session_number else s

/-- `accepted` says that the message parses and that the manager takes it. -/
def onRead (session_number : ℕ) (ec : Bool) (bytes_transferred : ℕ) (accepted is_open : Bool) :
    WebsocketClient :=
  if s.is_stopped ∨ session_number ≠ s.session_number then s
  else if ec then s.disconnect session_number is_open
  else if bytes_transferred = 0 then s.read session_number
  else if accepted then
    { s with read_buffer := s.read_buffer.drop bytes_transferred }.read session_number
  else s.disconnect session_number is_open

/-- The handler of a write pops the message, and writes the next one if its session is still the
current one. -/
def onWrite (session_number : ℕ) (ec : Bool) (bytes_transferred : ℕ) (is_open : Bool) :
    WebsocketClient :=
  if s.is_stopped then s
  else if ec then
    if session_number ≠ s.session_number then s else s.disconnect session_number is_open
  else
    match s.send_queue with
    | [] => { s with fault := true }
    | message :: queue =>
      if bytes_transferred = message.data.length then
        let s := { s with send_queue := queue, written := s.written ++ [message] }
        if session_number = s.session_number ∧ queue ≠ [] then s.doWrite session_number else s
      else if session_number ≠ s.session_number then s
      else s.disconnect session_number is_open

/-- The handler that `PostWebsocketClientMessage` puts on the strand. -/
def write (message : Message) : WebsocketClient :=
  let s := { s with send_queue := s.send_queue ++ [message] }
  if s.send_queue.length = 1 then s.doWrite s.session_number else s

/-- `PostWebsocketClientMessage` tests `_is_stopped`, and posts `write` to the strand. -/
def postWebsocketClientMessage (data : List UInt8) : WebsocketClient :=
  if s.is_stopped then s
  else
    let message : Message := ⟨s.accepted.length, data⟩
    { s with accepted := s.accepted ++ [message], posted := s.posted ++ [message] }

/-- `Start`. -/
def start : WebsocketClient :=
  if s.is_stopped then { s with is_stopped := false }.startConnection s.session_number else s

/-- `Stop` and the handler it waits for. `shutdown` throws when the socket is not connected, and the
handler ends there. -/
def stop (shutdown_throws : Bool) : WebsocketClient :=
  if s.is_stopped then s
  else
    let s := { s with is_stopped := true, session_number := s.session_number + 1 }
    if s.ws.isSome ∧ shutdown_throws then s else { s with ws := none, connected := false }

end WebsocketClient

/-- The client was never started. -/
def initial : WebsocketClient where
  is_stopped := true
  session_number := 0
  ws := none
  read_buffer := []
  send_queue := []
  connected := false
  streams := 0
  handshakes := []
  posted := []
  pending := []
  accepted := []
  written := []
  fault := false

/-- How an operation ends: `received` is what a read appends to `_read_buffer`, `is_open` what
`_ws->is_open()` answers if the handler asks. -/
structure Completion where
  ec : Bool
  bytes_transferred : ℕ
  received : List UInt8
  accepted : Bool
  is_open : Bool

/-- A step of the owner, of the strand, or of Beast. -/
inductive Event where
  | start
  | stop (shutdown_throws : Bool)
  | post (data : List UInt8)
  | write
  | complete (operation : Operation) (completion : Completion)

open WebsocketClient in
/-- The completion handler that `operation` is bound to. -/
def complete (s : WebsocketClient) (operation : Operation) (c : Completion) : WebsocketClient :=
  match operation.kind with
  | .connect => onConnection s operation.session_number c.ec
  | .handshake =>
    let s := if c.ec then s else
      { s with handshakes := (operation.session_number, operation.stream) :: s.handshakes }
    onHandshake s operation.session_number c.ec c.is_open
  | .read =>
    onRead { s with read_buffer := s.read_buffer ++ c.received } operation.session_number c.ec
      c.received.length c.accepted c.is_open
  | .write _ _ => onWrite s operation.session_number c.ec c.bytes_transferred c.is_open
  | .close => onDisconnect s operation.session_number

section Complete

variable (s : WebsocketClient) (n stream : ℕ) (c : Completion)

/-- A connect completes with its handler. -/
theorem complete_connect : complete s ⟨.connect, n, stream⟩ c = s.onConnection n c.ec := rfl

/-- A handshake that succeeds makes the stream ready before its handler runs. -/
theorem complete_handshake : complete s ⟨.handshake, n, stream⟩ c =
    (if c.ec then s else { s with handshakes := (n, stream) :: s.handshakes }).onHandshake
      n c.ec c.is_open := rfl

/-- A read appends what it has received before its handler runs. -/
theorem complete_read : complete s ⟨.read, n, stream⟩ c =
    { s with read_buffer := s.read_buffer ++ c.received }.onRead
      n c.ec c.received.length c.accepted c.is_open := rfl

/-- A write completes with its handler. -/
theorem complete_write (message : Message) (handshaken : Bool) :
    complete s ⟨.write message handshaken, n, stream⟩ c =
      s.onWrite n c.ec c.bytes_transferred c.is_open := rfl

/-- A close completes with its handler, whatever its result is. -/
theorem complete_close : complete s ⟨.close, n, stream⟩ c = s.onDisconnect n := rfl

end Complete

/-- One handler, or one call of the owner. Nothing is said about what follows a fault. -/
def step (s : WebsocketClient) (e : Event) : Option WebsocketClient :=
  if s.fault then none
  else
    match e with
    | .start => some s.start
    | .stop shutdown_throws => some (s.stop shutdown_throws)
    | .post data => some (s.postWebsocketClientMessage data)
    | .write =>
      match s.posted with
      | [] => none
      | message :: posted => some ({ s with posted := posted }.write message)
    | .complete operation c =>
      if operation ∈ s.pending then
        some (complete (s.finish operation) operation c)
      else none

/-- What each step finds, and what it leaves. -/
inductive Step (s : WebsocketClient) : Event → WebsocketClient → Prop
  | start : Step s .start s.start
  | stop (shutdown_throws : Bool) : Step s (.stop shutdown_throws) (s.stop shutdown_throws)
  | post (data : List UInt8) : Step s (.post data) (s.postWebsocketClientMessage data)
  | write {message : Message} {posted : List Message} (hposted : s.posted = message :: posted) :
    Step s .write ({ s with posted := posted }.write message)
  | complete {op : Operation} (hop : op ∈ s.pending) (c : Completion) :
    Step s (.complete op c) (complete (s.finish op) op c)

/-- `step` does nothing else. -/
theorem Step.of_step {s s' : WebsocketClient} {e : Event} (hs : step s e = some s') :
    Step s e s' := by
  unfold step at hs
  split_ifs at hs
  cases e with
  | start =>
    cases hs
    exact .start
  | stop shutdown_throws =>
    cases hs
    exact .stop shutdown_throws
  | post data =>
    cases hs
    exact .post data
  | write =>
    dsimp only at hs
    split at hs <;> cases hs
    exact .write ‹_›
  | complete op c =>
    obtain ⟨hop, ⟨⟩⟩ := Option.ite_none_right_eq_some.mp hs
    exact .complete hop c

/-- What Beast promises: a write fails when the handshake of its stream had not completed, and the
operations on a stream complete before the handshake of a later stream does. -/
def Beast (s : WebsocketClient) : Event → Prop
  | .complete ⟨.write _ handshaken, _, _⟩ c => c.ec = false → handshaken = true
  | .complete ⟨.handshake, _, stream⟩ c => c.ec = false → ∀ op ∈ s.pending, stream ≤ op.stream
  | _ => True

instance (s : WebsocketClient) : ∀ e, Decidable (Beast s e)
  | .complete ⟨.write _ handshaken, _, _⟩ c =>
    inferInstanceAs (Decidable (c.ec = false → handshaken = true))
  | .complete ⟨.handshake, _, stream⟩ c =>
    inferInstanceAs (Decidable (c.ec = false → ∀ op ∈ s.pending, stream ≤ op.stream))
  | .complete ⟨.connect, _, _⟩ _ | .complete ⟨.read, _, _⟩ _ | .complete ⟨.close, _, _⟩ _ =>
    isTrue trivial
  | .start | .stop _ | .post _ | .write => isTrue trivial

end AugmentedNormalcy.Websocket
