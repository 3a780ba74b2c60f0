import AugmentedNormalcy.Foundation.Run
import AugmentedNormalcy.Foundation.SharedPtr
import AugmentedNormalcy.Server.ConnectionManager
import AugmentedNormalcy.Tcp.Receiver

/-!
# From the camera's buffer to the headsets' copies

`TcpCameraSession::readBody` fills a buffer of its `TcpReadBufferPool`,
`ConnectionManager::PostMessage` hands one shared pointer to it to every headset of the camera, and
the lambda of each `TcpHeadsetSession::Write` copies it on the strand of its session, whenever that
gets to run. The camera's strand runs a receive handler to its end, `PostMessage` included, but the
lambdas that are already posted run in between.

The reference to a pool buffer is the number of its control block (`SharedPtr`). The leaky buffer
has a control block of its own, whose deleter gives nothing back, and the pool itself holds a
reference to it: it is not counted. Each buffer is a memory of its own; what a receive does that is
longer than its buffer is not the subject here. -/

namespace AugmentedNormalcy.Tcp

open Bytes

/-- A `TcpBuffer *` of one pool. -/
inductive BufferId where
  | pool (index : ℕ)
  | leaky
deriving DecidableEq, Repr

instance : Inhabited BufferId := ⟨.leaky⟩

/-- A `std::shared_ptr<TcpBuffer>`. -/
inductive BufferPtr where
  | leaky
  | counted (block : ℕ)
deriving DecidableEq, Repr

/-- The control block that is counted. -/
def BufferPtr.block? : BufferPtr → Option ℕ
  | leaky => none
  | counted block => some block

/-- The buffers that the constructor of the pool puts into its queue. -/
def poolBuffers (buffer_count : ℕ) : List BufferId := (List.range buffer_count).map .pool

namespace FanOut

/-- `PostMessage`, between the calls of `Write`. -/
structure Posting where
  buffer : BufferPtr
  /-- The writers to come. -/
  connections : List Server.Writer
  /-- The buffer as it was when `PostMessage` was called. -/
  posted : TcpBuffer

/-- A posted lambda of `TcpHeadsetSession::Write`. -/
structure WriteLambda where
  session : Server.Writer
  copy_buffer : BufferPtr
  posted : TcpBuffer

/-- What `CopyToWriteBuffer` has made: the bytes, and the size that it sets. -/
structure WriteCopy where
  session : Server.Writer
  bytes : List UInt8
  size : ℕ
  posted : TcpBuffer

structure State where
  /-- `_receive_buffer_pool`. -/
  pool : SharedPtr.Heap BufferId
  buffers : BufferId → TcpBuffer
  /-- `_receive_buffer`. -/
  receive_buffer : Option BufferPtr
  posting : Option Posting
  lambdas : List WriteLambda
  copies : List WriteCopy
  /-- `doClose` has reset the pool pointer of the session. -/
  closed : Bool

/-- A new camera session. The buffers hold what they hold. -/
def initial (buffer_count max_size : ℕ) (memory : BufferId → Memory) (size : BufferId → ℕ) :
    State where
  pool := .initial (poolBuffers buffer_count)
  buffers := fun id =>
    { max_size := max_size, is_leaky := decide (id = .leaky), memory := memory id, size := size id }
  receive_buffer := none
  posting := none
  lambdas := []
  copies := []
  closed := false

inductive Event where
  /-- `readBody` without a buffer calls `GetReadBuffer`. -/
  | getReadBuffer
  /-- Bytes of the body arrive. -/
  | receive (offset : ℕ) (bytes : List UInt8)
  /-- The header is finished: `SetSize` and the call of `PostMessage`, which finds `connections`. -/
  | finish (bytes_written : ℕ) (connections : List Server.Writer)
  /-- `PostMessage` calls `Write` on the next writer. -/
  | write
  /-- `PostMessage` resets its buffer. -/
  | reset
  /-- The lambda at `index` runs and copies. -/
  | copy (index : ℕ)
  /-- The lambda at `index` is done without a copy: its session is dead, its pool is empty, or it is
  destroyed. -/
  | drop (index : ℕ)
  /-- The camera session is closed and destroyed. -/
  | close

namespace State

/-- The buffer that a shared pointer points at. -/
def get (s : State) : BufferPtr → BufferId
  | .leaky => .leaky
  | .counted block => s.pool.ptr block

/-- A shared pointer is copied. -/
def retain (s : State) (p : BufferPtr) : State :=
  match p with
  | .leaky => s
  | .counted block => { s with pool := s.pool.retain block }

/-- A shared pointer is destroyed or reset. -/
def release (s : State) (p : BufferPtr) : State :=
  match p with
  | .leaky => s
  | .counted block => { s with pool := s.pool.release block }

/-- `GetReadBuffer`. -/
def getReadBuffer (s : State) : State :=
  match s.pool.take with
  | none => { s with receive_buffer := some .leaky }
  | some (pool, block) => { s with pool := pool, receive_buffer := some (.counted block) }

/-- A buffer's new contents. -/
def setBuffer (s : State) (id : BufferId) (buffer : TcpBuffer) : State :=
  { s with buffers := Function.update s.buffers id buffer }

end State

def step (s : State) : Event → Option State
  | .getReadBuffer =>
    if s.closed = false ∧ s.posting.isNone ∧ s.receive_buffer = none then some s.getReadBuffer
    else none
  | .receive offset bytes =>
    match s.receive_buffer, s.posting with
    | some p, none =>
      let buffer := s.buffers (s.get p)
      some (s.setBuffer (s.get p) { buffer with memory := overwrite buffer.memory offset bytes })
    | _, _ => none
  | .finish bytes_written connections =>
    match s.receive_buffer, s.posting with
    | some p, none =>
      let buffer := s.buffers (s.get p)
      if buffer.is_leaky then some { s.release p with receive_buffer := none }
      else
        let sized := { buffer with size := bytes_written }
        some { s.setBuffer (s.get p) sized with
          receive_buffer := none
          posting := some ⟨p, connections, sized⟩ }
    | _, _ => none
  | .write =>
    match s.posting with
    | some ⟨p, session :: connections, posted⟩ =>
      some { s.retain p with
        posting := some ⟨p, connections, posted⟩
        lambdas := s.lambdas ++ [⟨session, p, posted⟩] }
    | _ => none
  | .reset =>
    match s.posting with
    | some ⟨p, [], _⟩ => some { s.release p with posting := none }
    | _ => none
  | .copy index =>
    match s.lambdas[index]? with
    | some l =>
      let buffer := s.buffers (s.get l.copy_buffer)
      some { s.release l.copy_buffer with
        lambdas := s.lambdas.eraseIdx index
        copies := ⟨l.session, slice buffer.memory 0 buffer.size, buffer.size, l.posted⟩ ::
          s.copies }
    | none => none
  | .drop index =>
    match s.lambdas[index]? with
    | some l => some { s.release l.copy_buffer with lambdas := s.lambdas.eraseIdx index }
    | none => none
  | .close =>
    if s.posting.isNone then
      let released := match s.receive_buffer with
        | some p => s.release p
        | none => s
      some { released with receive_buffer := none, closed := true }
    else none

end FanOut

end AugmentedNormalcy.Tcp
