import AugmentedNormalcy.Tcp.PacketHeader

/-!
# The write chain

`TcpClient` and `TcpHeadsetSession` send the messages of a queue with the same code: `writeHeader`
and `writeBody` start an `async_send`, and its completion handler starts the next one. A
`WriteChain` is the state of that code, and each function here is the part that the two classes
share, without the checks that only one of them makes.

A send keeps the bytes it was started with and the number of the message they belong to. The front
of an empty queue is a `fault`.
-/

namespace AugmentedNormalcy.Tcp

open Bytes

/-- `SizedBuffer`: `GetMemory()` and `GetSize()`. -/
structure SizedBuffer where
  memory : Memory
  size : ℕ

/-- A buffer in the queue, and which one of those that were ever put there. -/
structure Message where
  serial : ℕ
  memory : Memory
  size : ℕ

/-- The bytes of a message. -/
def Message.content (m : Message) : List UInt8 := slice m.memory 0 m.size

/-- What an `async_send` sends, with what its handler captures. -/
inductive SendKind where
  | writeHeader (last_bytes : ℕ)
  | writeBody
deriving DecidableEq

/-- The arguments of a completion handler. `aborted` is the error `operation_aborted`. -/
inductive SendResult where
  | ok (bytes_written : ℕ)
  | error
  | aborted
deriving DecidableEq

/-- An `async_send` whose completion handler has not run, with the result once it is known. -/
structure Send where
  kind : SendKind
  socket : ℕ
  serial : ℕ
  bytes : List UInt8
  result : Option SendResult
deriving DecidableEq

/-- What a send can complete with: at least one byte and at most all, or none when there are
none. -/
def Send.Transmits (send : Send) (n : ℕ) : Prop :=
  n ≤ send.bytes.length ∧ (n = 0 → send.bytes = [])

instance (send : Send) (n : ℕ) : Decidable (send.Transmits n) :=
  inferInstanceAs (Decidable (_ ∧ _))

/-- The write side of a connection. -/
structure WriteChain where
  header : PacketHeader
  queue : List Message
  /-- The buffers that left the queue, in order. -/
  released : List Memory
  sends : List Send
  /-- The message that `SetupHeader` was called for. -/
  current : ℕ
  fault : Bool

namespace WriteChain

variable (w : WriteChain)

/-- `_header.SetupHeader(queue.front()->GetSize())`. -/
def setupHeader : WriteChain :=
  match w.queue with
  | [] => { w with fault := true }
  | message :: _ =>
    { w with header := w.header.setupHeader message.size, current := message.serial }

/-- The `async_send` of `writeHeader`. -/
def writeHeader (socket last_bytes : ℕ) : WriteChain :=
  { w with sends :=
      ⟨.writeHeader last_bytes, socket, w.current,
        slice w.header.data last_bytes (PacketHeader.size - last_bytes), none⟩ :: w.sends }

/-- The `async_send` of `writeBody`. -/
def writeBody (socket : ℕ) : WriteChain :=
  match w.queue with
  | [] => { w with fault := true }
  | message :: _ =>
    { w with sends :=
        ⟨.writeBody, socket, message.serial,
          slice message.memory w.header.bytesWritten w.header.dataLength, none⟩ :: w.sends }

/-- Queues a message. -/
def push (message : Message) : WriteChain := { w with queue := w.queue ++ [message] }

/-- Starts to send the front. -/
def start (socket : ℕ) : WriteChain := w.setupHeader.writeHeader socket 0

/-- The completion handler of `writeHeader` after `bytes_written` bytes, or `none` when it ends in
its error branch. -/
def onHeader (socket last_bytes bytes_written : ℕ) : Option WriteChain :=
  let total_bytes := last_bytes + bytes_written
  if total_bytes = PacketHeader.size then some (w.writeBody socket)
  else if total_bytes < PacketHeader.size then some (w.writeHeader socket total_bytes)
  else none

/-- The completion handler of `writeBody` after `bytes_written` bytes. -/
def onBody (socket bytes_written : ℕ) : WriteChain :=
  if bytes_written ≠ w.header.dataLength then
    { w with header := w.header.offsetPacket bytes_written }.writeBody socket
  else
    let (header, finished) := w.header.isFinished
    if finished then
      match w.queue with
      | [] => { w with header := header, fault := true }
      | message :: queue =>
        let w := { w with
          header := header, queue := queue, released := w.released ++ [message.memory] }
        if queue = [] then w else w.start socket
    else { w with header := header.setupNextHeader }.writeHeader socket 0

/-- Empties the queue. -/
def clear : WriteChain :=
  { w with queue := [], released := w.released ++ w.queue.map Message.memory }

/-- The outcome of an outstanding send is known. -/
def settle (send : Send) (result : SendResult) : WriteChain :=
  { w with sends := { send with result := some result } :: w.sends.erase send }

/-- The socket is gone: what was not sent on it is aborted. -/
def abort (socket : ℕ) : WriteChain :=
  { w with sends := w.sends.map fun send =>
      if send.socket = socket ∧ send.result = none then { send with result := some .aborted }
      else send }

/-- The handler of a send runs. -/
def finish (send : Send) : WriteChain := { w with sends := w.sends.erase send }

/-! ## What a handler does -/

/-- The header in use is that of the front. -/
def Ready : Prop := w.fault = false ∧ w.queue.head?.map Message.serial = some w.current

/-- From `w` to `w'` one more send was started, for the front, or the queue has run empty. -/
def Continues (socket : ℕ) (w w' : WriteChain) : Prop :=
  (w'.Ready ∧ ∃ send, w'.sends = send :: w.sends ∧ send.socket = socket ∧
    send.serial = w'.current ∧ send.result = none) ∨
  (w'.fault = false ∧ w'.queue = [] ∧ w'.sends = w.sends)

variable {w}

theorem Ready.queue_ne_nil (h : w.Ready) : w.queue ≠ [] := by
  obtain ⟨-, hhead⟩ := h
  rintro hnil
  simp [hnil] at hhead

/-- The front of a chain that is ready. -/
theorem Ready.exists_cons (h : w.Ready) :
    ∃ message queue, w.queue = message :: queue ∧ message.serial = w.current := by
  obtain ⟨message, queue, hq⟩ := List.exists_cons_of_ne_nil h.queue_ne_nil
  obtain ⟨-, hhead⟩ := h
  rw [hq] at hhead
  exact ⟨message, queue, hq, Option.some.inj hhead⟩

theorem Ready.push (h : w.Ready) (message : Message) : (w.push message).Ready := by
  obtain ⟨front, queue, hq, hserial⟩ := h.exists_cons
  refine ⟨h.1, ?_⟩
  simp only [WriteChain.push, hq]
  exact congrArg some hserial

theorem writeHeader_continues (h : w.Ready) (socket last_bytes : ℕ) :
    Continues socket w (w.writeHeader socket last_bytes) :=
  .inl ⟨h, _, rfl, rfl, rfl, rfl⟩

theorem writeBody_of_cons {message : Message} {queue : List Message}
    (hq : w.queue = message :: queue) (socket : ℕ) :
    w.writeBody socket = { w with sends :=
      ⟨.writeBody, socket, message.serial,
        slice message.memory w.header.bytesWritten w.header.dataLength, none⟩ :: w.sends } := by
  simp only [writeBody, hq]

theorem sends_writeBody_ne_nil {message : Message} {queue : List Message}
    (hq : w.queue = message :: queue) (socket : ℕ) : (w.writeBody socket).sends ≠ [] := by
  rw [writeBody_of_cons hq]
  exact List.cons_ne_nil _ _

theorem writeBody_of_nil (hq : w.queue = []) (socket : ℕ) :
    w.writeBody socket = { w with fault := true } := by
  simp only [writeBody, hq]

theorem writeBody_continues (h : w.Ready) (socket : ℕ) :
    Continues socket w (w.writeBody socket) := by
  obtain ⟨message, queue, hq, hserial⟩ := h.exists_cons
  rw [writeBody_of_cons hq]
  exact .inl ⟨h, _, rfl, rfl, hserial, rfl⟩

theorem setupHeader_of_cons {message : Message} {queue : List Message}
    (hq : w.queue = message :: queue) : w.setupHeader =
      { w with header := w.header.setupHeader message.size, current := message.serial } := by
  simp only [setupHeader, hq]

theorem start_continues (hf : w.fault = false) (hq : w.queue ≠ []) (socket : ℕ) :
    Continues socket w (w.start socket) := by
  obtain ⟨message, queue, hcons⟩ := List.exists_cons_of_ne_nil hq
  rw [start, setupHeader_of_cons hcons]
  refine .inl ⟨⟨hf, ?_⟩, _, rfl, rfl, rfl, rfl⟩
  exact congrArg (fun q => q.head?.map Message.serial) hcons

/-- The first message of an empty queue is started. -/
theorem pushStart_continues (hf : w.fault = false) (message : Message) (socket : ℕ) :
    Continues socket w ((w.push message).start socket) := by
  have hq : (w.push message).queue ≠ [] := by simp [push]
  exact start_continues (w := w.push message) hf hq socket

theorem onHeader_continues (h : w.Ready) {socket last_bytes bytes_written : ℕ} {w' : WriteChain}
    (hs : w.onHeader socket last_bytes bytes_written = some w') : Continues socket w w' := by
  unfold onHeader at hs
  dsimp only at hs
  split_ifs at hs
  · cases hs
    exact writeBody_continues h socket
  · cases hs
    exact writeHeader_continues h socket _

/-- A part of a packet goes on behind its bytes. -/
theorem onBody_of_ne {bytes_written : ℕ} (hn : bytes_written ≠ w.header.dataLength)
    (socket : ℕ) : w.onBody socket bytes_written =
      { w with header := w.header.offsetPacket bytes_written }.writeBody socket := by
  unfold onBody
  rw [if_pos hn]

/-- A packet ends and its message does not. -/
theorem onBody_of_unfinished {bytes_written : ℕ} (hn : bytes_written = w.header.dataLength)
    (hf : w.header.isFinished.2 = false) (socket : ℕ) : w.onBody socket bytes_written =
      { w with header := w.header.isFinished.1.setupNextHeader }.writeHeader socket 0 := by
  unfold onBody
  rw [if_neg (not_not.mpr hn)]
  dsimp only
  rw [if_neg (by rw [hf]; exact Bool.false_ne_true)]

/-- A packet ends and its message, too: the message leaves the queue. -/
theorem onBody_of_finished {bytes_written : ℕ} (hn : bytes_written = w.header.dataLength)
    (hf : w.header.isFinished.2 = true) {message : Message} {queue : List Message}
    (hq : w.queue = message :: queue) (socket : ℕ) : w.onBody socket bytes_written =
      let w := { w with
        header := w.header.isFinished.1
        queue := queue
        released := w.released ++ [message.memory] }
      if queue = [] then w else w.start socket := by
  unfold onBody
  rw [if_neg (not_not.mpr hn)]
  dsimp only
  rw [if_pos hf]
  simp only [hq]

theorem onBody_continues (h : w.Ready) (socket bytes_written : ℕ) :
    Continues socket w (w.onBody socket bytes_written) := by
  have hready (header : PacketHeader) : { w with header := header }.Ready := h
  obtain ⟨message, queue, hq, -⟩ := h.exists_cons
  by_cases hn : bytes_written = w.header.dataLength
  · cases hf : w.header.isFinished.2 with
    | false =>
      rw [onBody_of_unfinished hn hf]
      exact writeHeader_continues (hready _) socket 0
    | true =>
      rw [onBody_of_finished hn hf hq]
      dsimp only
      split
      · exact .inr ⟨h.1, ‹_›, rfl⟩
      · exact start_continues (w := { w with
          header := w.header.isFinished.1
          queue := queue
          released := w.released ++ [message.memory] }) h.1 ‹_› socket
  · rw [onBody_of_ne hn]
    exact writeBody_continues (hready _) socket

/-! ## Handlers that need no front -/

theorem onHeader_of_ne {socket last_bytes bytes_written : ℕ}
    (hne : last_bytes + bytes_written ≠ PacketHeader.size) {w' : WriteChain}
    (hs : w.onHeader socket last_bytes bytes_written = some w') :
    w' = w.writeHeader socket (last_bytes + bytes_written) := by
  unfold onHeader at hs
  dsimp only at hs
  rw [if_neg hne] at hs
  split_ifs at hs
  exact (Option.some.inj hs).symm

/-- A header that was sent needs the front. -/
theorem onHeader_of_nil (hq : w.queue = []) {socket last_bytes bytes_written : ℕ}
    (heq : last_bytes + bytes_written = PacketHeader.size) :
    w.onHeader socket last_bytes bytes_written = some { w with fault := true } := by
  unfold onHeader
  dsimp only
  rw [if_pos heq, writeBody_of_nil hq]

/-- A body needs the front, unless its packet ends and its message does not. -/
theorem onBody_fault_of_nil (hq : w.queue = []) {bytes_written : ℕ}
    (hneeds : ¬ (bytes_written = w.header.dataLength ∧ w.header.isFinished.2 = false))
    (socket : ℕ) : (w.onBody socket bytes_written).fault = true := by
  unfold onBody
  split
  · have hq' : { w with header := w.header.offsetPacket bytes_written }.queue = [] := hq
    rw [writeBody_of_nil hq']
  · rename_i hn
    have hn : bytes_written = w.header.dataLength := not_not.mp hn
    have hf : w.header.isFinished.2 = true := by
      rw [← Bool.not_eq_false]
      exact fun hf => hneeds ⟨hn, hf⟩
    dsimp only
    rw [if_pos hf]
    simp only [hq]

end WriteChain

end AugmentedNormalcy.Tcp
