import AugmentedNormalcy.Foundation.Run
import AugmentedNormalcy.Tcp.PacketHeader

/-!
# The two receivers

`readHeader` and `readBody` of `TcpCameraSession` (`tcp_server.cpp`) and of `TcpClient`
(`tcp_client.cpp`), on a connection that stays up: an event is one completion of the outstanding
`async_receive` with the bytes that it delivers. The bodies are read by the same code in both
classes; the headers are not, so each class has its own completion handler. Where a receiver gives
up, `TcpCameraSession` closes the session and `TcpClient` reconnects; here its reads just end.

`get n` is the buffer that the `n`-th `GetReadBuffer` returns, with whatever bytes it holds. The
windows of the body receives and the sizes that are set are logged.
-/

namespace AugmentedNormalcy.Tcp

open Bytes StepSystem

/-- `TcpBuffer`. -/
structure TcpBuffer where
  max_size : ℕ
  is_leaky : Bool
  memory : Memory
  size : ℕ

/-- An outstanding `async_receive`, with what its handler captures. -/
inductive Receive where
  | readHeader (last_bytes : ℕ)
  | readBody
deriving DecidableEq, Repr

/-- The part of a buffer that a body receive writes to. -/
structure Window where
  offset : ℕ
  length : ℕ
  max_size : ℕ

/-- The read side of a connection. -/
structure Receiver where
  header : PacketHeader
  receive_buffer : Option TcpBuffer
  /-- The outstanding receive. -/
  pending : Option Receive
  /-- How often `GetReadBuffer` was called. -/
  reads : ℕ
  /-- The messages that were handed to the manager. -/
  delivered : List (List UInt8)
  /-- How many bytes were received. -/
  consumed : ℕ
  /-- The windows of the body receives, and the sizes set with the buffers' `_max_size`. -/
  windows : List Window
  sizes : List (ℕ × ℕ)

namespace Receiver

/-- `readHeader`. -/
def readHeader (last_bytes : ℕ) (r : Receiver) : Receiver :=
  { r with pending := some (.readHeader last_bytes) }

/-- `readBody`. -/
def readBody (get : ℕ → TcpBuffer) (r : Receiver) : Receiver :=
  let (buffer, reads) :=
    match r.receive_buffer with
    | some buffer => (buffer, r.reads)
    | none => (get r.reads, r.reads + 1)
  { r with
    receive_buffer := some buffer
    reads := reads
    pending := some .readBody
    windows := r.windows ++ [⟨r.header.bytesWritten, r.header.dataLength, buffer.max_size⟩] }

/-- The receiver gives up. -/
def reject (r : Receiver) : Receiver := { r with pending := none }

/-- The bytes of a header receive are in place. -/
def storeHeader (last_bytes : ℕ) (bytes : List UInt8) (r : Receiver) : Receiver :=
  { r with
    header := { r.header with data := overwrite r.header.data last_bytes bytes }
    consumed := r.consumed + bytes.length }

/-- The bytes of a body receive are in place. -/
def storeBody (bytes : List UInt8) (r : Receiver) : Receiver :=
  { r with
    receive_buffer := r.receive_buffer.map fun buffer =>
      { buffer with memory := overwrite buffer.memory r.header.bytesWritten bytes }
    consumed := r.consumed + bytes.length }

/-- Hands a finished message to the manager, unless its buffer is the leaky one. -/
def deliver (r : Receiver) : Receiver :=
  match r.receive_buffer with
  | none => r
  | some buffer =>
    if buffer.is_leaky then r
    else
      let size := r.header.bytesWritten
      { r with
        delivered := r.delivered ++ [slice buffer.memory 0 size]
        sizes := r.sizes ++ [(size, buffer.max_size)] }

/-- The completion handler of `readBody`. -/
def onBody (get : ℕ → TcpBuffer) (bytes : List UInt8) (r : Receiver) : Receiver :=
  let r := r.storeBody bytes
  if bytes.length ≠ r.header.dataLength then
    readBody get { r with header := r.header.offsetPacket bytes.length }
  else
    let (header, finished) := r.header.isFinished
    let r := { r with header := header }
    let r :=
      if finished then
        { r.deliver with receive_buffer := none, header := r.header.resetHeader }
      else r
    readHeader 0 r

end Receiver

/-- The completion handler of `TcpCameraSession::readHeader`. -/
def TcpCameraSession.onHeader (get : ℕ → TcpBuffer) (last_bytes : ℕ) (bytes : List UInt8)
    (r : Receiver) : Receiver :=
  let r := r.storeHeader last_bytes bytes
  let total_bytes := last_bytes + bytes.length
  if total_bytes = PacketHeader.size ∧ r.header.ok then r.readBody get
  else if total_bytes ≠ PacketHeader.size then r.readHeader total_bytes
  else r.reject

/-- The completion handler of `TcpClient::readHeader`. -/
def TcpClient.onHeader (get : ℕ → TcpBuffer) (last_bytes : ℕ) (bytes : List UInt8)
    (r : Receiver) : Receiver :=
  let r := r.storeHeader last_bytes bytes
  let total_bytes := last_bytes + bytes.length
  if total_bytes = PacketHeader.size ∧ r.header.ok then r.readBody get
  else if total_bytes < PacketHeader.size then r.readHeader total_bytes
  else r.reject

/-- The two classes with a read side. -/
inductive Endpoint where
  | tcpCameraSession
  | tcpClient
deriving DecidableEq

def Endpoint.onHeader : Endpoint → (ℕ → TcpBuffer) → ℕ → List UInt8 → Receiver → Receiver
  | tcpCameraSession => TcpCameraSession.onHeader
  | tcpClient => TcpClient.onHeader

namespace Receiver

/-- How many bytes a receive asks for. -/
def requested (r : Receiver) : Receive → ℕ
  | .readHeader last_bytes => PacketHeader.size - last_bytes
  | .readBody => r.header.dataLength

/-- What a receive can complete with: at least one byte and at most those asked for, or none when
none are asked for. -/
def Completes (requested : ℕ) (bytes : List UInt8) : Prop :=
  bytes.length ≤ requested ∧ (bytes = [] → requested = 0)

instance (requested : ℕ) (bytes : List UInt8) : Decidable (Completes requested bytes) :=
  inferInstanceAs (Decidable (_ ∧ _))

/-- One completion of the outstanding receive. -/
def step (e : Endpoint) (get : ℕ → TcpBuffer) (r : Receiver) (bytes : List UInt8) :
    Option Receiver :=
  match r.pending with
  | none => none
  | some receive =>
    if Completes (r.requested receive) bytes then
      match receive with
      | .readHeader last_bytes => some (e.onHeader get last_bytes bytes r)
      | .readBody => some (r.onBody get bytes)
    else none

/-- The read side of a connection that has just been made: the first header receive is outstanding,
over a header that was reset. -/
def initial (header : PacketHeader) : Receiver where
  header := header.resetHeader
  receive_buffer := none
  pending := some (.readHeader 0)
  reads := 0
  delivered := []
  consumed := 0
  windows := []
  sizes := []

/-- No receive of zero bytes is outstanding. -/
def Settled (r : Receiver) : Prop := r.pending = some .readBody → r.header.dataLength ≠ 0

instance (r : Receiver) : Decidable r.Settled := inferInstanceAs (Decidable (_ → _))

/-- From `r` the stream `S` is received in some pieces, and leads to `r'`: all of `S`, or the part
after which the receiver gives up. -/
def Reads (e : Endpoint) (get : ℕ → TcpBuffer) (r : Receiver) (S : List UInt8) (r' : Receiver) :
    Prop :=
  ∃ chunks rest, run (step e get) r chunks = some r' ∧ S = chunks.flatten ++ rest ∧
    (r'.pending = none ∨ rest = [] ∧ r'.Settled)

/-- The two header handlers do the same with every completion that can happen. -/
theorem onHeader_eq (e : Endpoint) (get : ℕ → TcpBuffer) {last_bytes : ℕ} {bytes : List UInt8}
    (r : Receiver) (h : last_bytes + bytes.length ≤ PacketHeader.size) :
    e.onHeader get last_bytes bytes r = TcpCameraSession.onHeader get last_bytes bytes r := by
  cases e with
  | tcpCameraSession => rfl
  | tcpClient =>
    have hiff : last_bytes + bytes.length < PacketHeader.size ↔
        last_bytes + bytes.length ≠ PacketHeader.size := by omega
    simp only [Endpoint.onHeader, TcpClient.onHeader, TcpCameraSession.onHeader, hiff]

/-- A header receive that does not complete the header goes on behind its bytes. -/
theorem onHeader_of_lt (e : Endpoint) (get : ℕ → TcpBuffer) {last_bytes : ℕ} {bytes : List UInt8}
    (r : Receiver) (h : last_bytes + bytes.length < PacketHeader.size) :
    e.onHeader get last_bytes bytes r =
      (r.storeHeader last_bytes bytes).readHeader (last_bytes + bytes.length) := by
  rw [onHeader_eq e get r h.le]
  have hne : last_bytes + bytes.length ≠ PacketHeader.size := by omega
  simp [TcpCameraSession.onHeader, hne]

/-- A header receive that completes the header starts the body, or ends the reads. -/
theorem onHeader_of_eq (e : Endpoint) (get : ℕ → TcpBuffer) {last_bytes : ℕ} {bytes : List UInt8}
    (r : Receiver) (h : last_bytes + bytes.length = PacketHeader.size) :
    e.onHeader get last_bytes bytes r =
      if (r.storeHeader last_bytes bytes).header.ok then
        (r.storeHeader last_bytes bytes).readBody get
      else (r.storeHeader last_bytes bytes).reject := by
  rw [onHeader_eq e get r h.le]
  simp [TcpCameraSession.onHeader, h]

/-- `readBody` goes on with the buffer that it has, or gets one. -/
theorem readBody_of_some {get : ℕ → TcpBuffer} {r : Receiver} {buffer : TcpBuffer}
    (hb : r.receive_buffer = some buffer) :
    r.readBody get =
      { r with
        pending := some .readBody
        windows :=
          r.windows ++ [⟨r.header.bytesWritten, r.header.dataLength, buffer.max_size⟩] } := by
  simp only [readBody, hb]

theorem readBody_of_none {get : ℕ → TcpBuffer} {r : Receiver} (hb : r.receive_buffer = none) :
    r.readBody get =
      { r with
        receive_buffer := some (get r.reads)
        reads := r.reads + 1
        pending := some .readBody
        windows :=
          r.windows ++
            [⟨r.header.bytesWritten, r.header.dataLength, (get r.reads).max_size⟩] } := by
  simp only [readBody, hb]

/-- A buffer after a body receive with `bytes`. -/
def stored (r : Receiver) (buffer : TcpBuffer) (bytes : List UInt8) : TcpBuffer :=
  { buffer with memory := overwrite buffer.memory r.header.bytesWritten bytes }

/-- A body receive that does not complete the packet goes on behind its bytes. -/
theorem onBody_of_ne {get : ℕ → TcpBuffer} {r : Receiver} {buffer : TcpBuffer}
    {bytes : List UInt8} (hb : r.receive_buffer = some buffer)
    (hne : bytes.length ≠ r.header.dataLength) :
    r.onBody get bytes =
      { r with
        header := r.header.offsetPacket bytes.length
        receive_buffer := some (r.stored buffer bytes)
        pending := some .readBody
        consumed := r.consumed + bytes.length
        windows := r.windows ++ [⟨(r.header.offsetPacket bytes.length).bytesWritten,
          (r.header.offsetPacket bytes.length).dataLength, buffer.max_size⟩] } := by
  simp only [onBody, storeBody, hb, Option.map_some, ne_eq, hne, not_false_eq_true, if_true,
    readBody]
  rfl

/-- A body receive that completes the packet ends the message, or goes on to its next packet. -/
theorem onBody_of_eq {get : ℕ → TcpBuffer} {r : Receiver} {buffer : TcpBuffer}
    {bytes : List UInt8} (hb : r.receive_buffer = some buffer)
    (heq : bytes.length = r.header.dataLength) :
    r.onBody get bytes =
      if r.header.isFinished.2 then
        { r with
          header := r.header.isFinished.1.resetHeader
          receive_buffer := none
          pending := some (.readHeader 0)
          consumed := r.consumed + bytes.length
          delivered :=
            if buffer.is_leaky then r.delivered
            else r.delivered ++
              [slice (r.stored buffer bytes).memory 0 r.header.isFinished.1.bytesWritten]
          sizes :=
            if buffer.is_leaky then r.sizes
            else r.sizes ++ [(r.header.isFinished.1.bytesWritten, buffer.max_size)] }
      else
        { r with
          header := r.header.isFinished.1
          receive_buffer := some (r.stored buffer bytes)
          pending := some (.readHeader 0)
          consumed := r.consumed + bytes.length } := by
  simp only [onBody, storeBody, hb, Option.map_some, heq, ne_eq, not_true_eq_false, if_false,
    deliver]
  split_ifs <;> rfl

/-! ## What is handed to the manager -/

theorem delivered_onHeader (e : Endpoint) (get : ℕ → TcpBuffer) (last_bytes : ℕ)
    (bytes : List UInt8) (r : Receiver) :
    (e.onHeader get last_bytes bytes r).delivered = r.delivered := by
  cases e with
  | tcpCameraSession =>
    simp only [Endpoint.onHeader, TcpCameraSession.onHeader]
    split_ifs <;> rfl
  | tcpClient =>
    simp only [Endpoint.onHeader, TcpClient.onHeader]
    split_ifs <;> rfl

theorem delivered_deliver (r : Receiver) :
    r.deliver.delivered = r.delivered ∨ ∃ frame, r.deliver.delivered = r.delivered ++ [frame] := by
  unfold deliver
  split
  · exact .inl rfl
  split_ifs
  · exact .inl rfl
  · exact .inr ⟨_, rfl⟩

theorem delivered_onBody (get : ℕ → TcpBuffer) (bytes : List UInt8) (r : Receiver) :
    (r.onBody get bytes).delivered = r.delivered ∨
      ∃ frame, (r.onBody get bytes).delivered = r.delivered ++ [frame] := by
  simp only [onBody]
  split_ifs
  · exact .inl rfl
  · exact delivered_deliver _
  · exact .inl rfl

/-- A receive completes at most one frame. -/
theorem delivered_of_step {bytes : List UInt8} {e : Endpoint} {get : ℕ → TcpBuffer}
    {r r' : Receiver}
    (hs : step e get r bytes = some r') :
    r'.delivered = r.delivered ∨ ∃ frame, r'.delivered = r.delivered ++ [frame] := by
  unfold step at hs
  split at hs
  · cases hs
  split_ifs at hs
  split at hs <;> cases hs
  · exact .inl (delivered_onHeader ..)
  · exact delivered_onBody ..

end Receiver

end AugmentedNormalcy.Tcp
