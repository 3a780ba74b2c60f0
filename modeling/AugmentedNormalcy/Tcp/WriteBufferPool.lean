import AugmentedNormalcy.Foundation.Pool
import AugmentedNormalcy.Tcp.HeadsetSession
import AugmentedNormalcy.Tcp.Receiver

/-!
# The headset session and its buffers

`TcpHeadsetSession` once more, with the pointers: the queue holds buffers of a `TcpWriteBufferPool`,
and a send is a view into one of them, or into `_header`, that is read whenever the bytes leave. A
buffer of the pool is its index. Only the queue has a shared pointer to a buffer, so the deleter
that gives it back runs when it is popped.

A run ends with the close of the session. The members `serial` to `finished` are not the program's:
they number the frames and say what was sent of them.
-/

namespace AugmentedNormalcy.Tcp

open Bytes StepSystem

/-- A message as its receiver sees it. -/
def Message.frame (m : Message) : ℕ × List UInt8 := (m.serial, m.content)

namespace PooledSession

open TcpHeadsetSession (Posted)

/-- A `net::buffer`. -/
inductive View where
  | header (offset size : ℕ)
  | body (buffer offset size : ℕ)
deriving DecidableEq

def View.size : View → ℕ
  | header _ size => size
  | body _ _ size => size

/-- An `async_send` whose handler has not run, with the result once it is known. The handler of
`writeHeader` has captured the offset. -/
structure ViewSend where
  view : View
  result : Option SendResult
deriving DecidableEq

structure State where
  buffers : ℕ → TcpBuffer
  /-- `_buffers` of the pool. -/
  free : List ℕ
  message_queue : List ℕ
  header : PacketHeader
  sends : List ViewSend
  is_live : Bool
  is_shut_down : Bool
  posted : List Posted
  timer_armed : Bool
  /-- The handlers of timers that have expired. -/
  timers_fired : ℕ
  /-- The front of an empty queue was taken. -/
  fault : Bool
  /-- The number of the frame in a buffer. -/
  serial : ℕ → ℕ
  /-- The number of the frame that `SetupHeader` was called for. -/
  current : ℕ
  /-- The frames that `Write` put into the queue. -/
  accepted : List Message
  /-- What was sent of the frame whose last byte has not been sent. -/
  sent : List UInt8
  /-- The frames whose last byte has been sent, as they were sent. -/
  finished : List (ℕ × List UInt8)

/-- A session with `buffer_count` buffers of `buffer_size` bytes. They hold what they hold. -/
def initial (header : PacketHeader) (buffer_count buffer_size : ℕ) (memory : ℕ → Memory)
    (size : ℕ → ℕ) : State where
  buffers := fun buffer =>
    { max_size := buffer_size, is_leaky := false, memory := memory buffer, size := size buffer }
  free := List.range buffer_count
  message_queue := []
  header := header
  sends := []
  is_live := true
  is_shut_down := false
  posted := []
  timer_armed := false
  timers_fired := 0
  fault := false
  serial := fun _ => 0
  current := 0
  accepted := []
  sent := []
  finished := []

namespace State

variable (s : State)

/-- The bytes that a view shows. -/
def read : View → List UInt8
  | .header offset size => slice s.header.data offset size
  | .body buffer offset size => slice (s.buffers buffer).memory offset size

/-- What is in a buffer. -/
def message (buffer : ℕ) : Message :=
  ⟨s.serial buffer, (s.buffers buffer).memory, (s.buffers buffer).size⟩

/-- `CopyToWriteBuffer`, with the buffer that it returns. -/
def copyToWriteBuffer (copy_buffer : SizedBuffer) : Option (State × ℕ) :=
  match s.free with
  | [] => none
  | buffer :: free =>
    let copied : TcpBuffer := { s.buffers buffer with
      memory := overwrite (s.buffers buffer).memory 0 (slice copy_buffer.memory 0 copy_buffer.size)
      size := copy_buffer.size }
    some ({ s with free := free, buffers := Function.update s.buffers buffer copied }, buffer)

/-- `_message_queue.push`, which numbers the frame. -/
def push (buffer : ℕ) : State :=
  let s := { s with serial := Function.update s.serial buffer s.accepted.length }
  { s with
    message_queue := s.message_queue ++ [buffer]
    accepted := s.accepted ++ [s.message buffer] }

/-- `_message_queue.pop()`. The deleter of the shared pointer gives the buffer back. -/
def pop : State :=
  match s.message_queue with
  | [] => { s with fault := true }
  | buffer :: queue => { s with message_queue := queue, free := s.free ++ [buffer] }

def writeHeader (last_bytes : ℕ) : State :=
  { s with
    timer_armed := true
    sends := ⟨.header last_bytes (PacketHeader.size - last_bytes), none⟩ :: s.sends }

def writeBody : State :=
  match s.message_queue with
  | [] => { s with fault := true }
  | buffer :: _ =>
    { s with
      timer_armed := true
      sends := ⟨.body buffer s.header.bytesWritten s.header.dataLength, none⟩ :: s.sends }

/-- `_header.SetupHeader(_message_queue.front()->GetSize())`. -/
def setupHeader : State :=
  match s.message_queue with
  | [] => { s with fault := true }
  | buffer :: _ =>
    { s with
      header := s.header.setupHeader (s.buffers buffer).size
      current := s.serial buffer }

/-- Starts to send the front. -/
def start : State := s.setupHeader.writeHeader 0

/-- `doClose` pops until the queue is empty. -/
def doClose : State :=
  { s with is_shut_down := true, message_queue := [], free := s.free ++ s.message_queue }

def tryClose (internal_close : Bool) : State :=
  if s.is_live = false then s
  else
    let s := { s with is_live := false }
    if internal_close then s.doClose else { s with posted := s.posted ++ [.doClose] }

/-- The lambda of `Write`. -/
def write (copy_buffer : SizedBuffer) : State :=
  if s.is_live = false then s
  else
    match s.copyToWriteBuffer copy_buffer with
    | none => s
    | some (s, out_buffer) =>
      let write_in_progress := !s.message_queue.isEmpty
      let s := s.push out_buffer
      if write_in_progress then s else s.start

/-- The completion handler of `writeHeader` after `bytes_written` bytes. -/
def onHeader (last_bytes bytes_written : ℕ) : State :=
  let total_bytes := last_bytes + bytes_written
  if total_bytes = PacketHeader.size then s.writeBody
  else if total_bytes < PacketHeader.size then s.writeHeader total_bytes
  else s.tryClose true

/-- The completion handler of `writeBody` after `bytes_written` bytes. -/
def onBody (bytes_written : ℕ) : State :=
  if bytes_written ≠ s.header.dataLength then
    { s with header := s.header.offsetPacket bytes_written }.writeBody
  else
    let (header, finished) := s.header.isFinished
    if finished then
      let s := { s with header := header }.pop
      if s.message_queue = [] then s else s.start
    else { s with header := header.setupNextHeader }.writeHeader 0

/-- The completion handler of a send. -/
def onSend (send : ViewSend) (result : SendResult) : State :=
  let s := { s with sends := s.sends.erase send }
  match result with
  | .aborted => s
  | .error => { s with timer_armed := false }.tryClose true
  | .ok bytes_written =>
    let s := { s with timer_armed := false }
    match send.view with
    | .header last_bytes _ => s.onHeader last_bytes bytes_written
    | .body _ _ _ => s.onBody bytes_written

/-- The outcome of an outstanding send is known. -/
def settle (send : ViewSend) (result : SendResult) : State :=
  { s with sends := { send with result := some result } :: s.sends.erase send }

/-- Bytes of a frame are read from where the view is, and sent. -/
def count (n : ℕ) : View → State
  | .header _ _ => s
  | .body buffer offset size =>
    let sent := s.sent ++ (s.read (.body buffer offset size)).take n
    if offset + n = (s.buffers buffer).size then
      { s with sent := [], finished := s.finished ++ [(s.serial buffer, sent)] }
    else { s with sent := sent }

end State

inductive Event where
  /-- `Write` is called, on another thread. -/
  | write (buffer : SizedBuffer)
  /-- `TryClose(false)` is called, on another thread. -/
  | tryClose
  | runPosted
  | transmit (send : ViewSend) (bytes_written : ℕ)
  | fail (send : ViewSend) (aborted : Bool)
  | handle (send : ViewSend)
  | timerExpires
  | runTimer

/-- Nothing is said about what follows a fault, or the close. -/
def step (s : State) (e : Event) : Option State :=
  if s.fault || s.is_shut_down then none
  else
    match e with
    | .write buffer => some { s with posted := s.posted ++ [.write buffer] }
    | .tryClose => some (s.tryClose false)
    | .runPosted =>
      match s.posted with
      | [] => none
      | .write copy_buffer :: posted => some ({ s with posted := posted }.write copy_buffer)
      | .doClose :: posted => some { s with posted := posted }.doClose
    | .transmit send n =>
      if send ∈ s.sends ∧ send.result = none ∧ n ≤ send.view.size ∧
        (n = 0 → send.view.size = 0) then
        some ((s.count n send.view).settle send (.ok n))
      else none
    | .fail send aborted =>
      if send ∈ s.sends ∧ send.result = none then
        some (s.settle send (if aborted then .aborted else .error))
      else none
    | .handle send =>
      match send.result with
      | none => none
      | some result => if send ∈ s.sends then some (s.onSend send result) else none
    | .timerExpires =>
      if s.timer_armed then
        some { s with timer_armed := false, timers_fired := s.timers_fired + 1 }
      else none
    | .runTimer =>
      if 0 < s.timers_fired then
        some ({ s with timers_fired := s.timers_fired - 1 }.tryClose true)
      else none

/-- What each step finds, and what it leaves. -/
inductive Step (s : State) : Event → State → Prop
  | write (buffer : SizedBuffer) :
    Step s (.write buffer) { s with posted := s.posted ++ [.write buffer] }
  | tryClose : Step s .tryClose (s.tryClose false)
  | runWrite {copy_buffer : SizedBuffer} {posted : List Posted}
      (hposted : s.posted = .write copy_buffer :: posted) :
    Step s .runPosted ({ s with posted := posted }.write copy_buffer)
  | runClose {posted : List Posted} (hposted : s.posted = .doClose :: posted) :
    Step s .runPosted { s with posted := posted }.doClose
  | transmit {send : ViewSend} {n : ℕ} (hmem : send ∈ s.sends) (hresult : send.result = none)
      (hn : n ≤ send.view.size) (hzero : n = 0 → send.view.size = 0) :
    Step s (.transmit send n) ((s.count n send.view).settle send (.ok n))
  | fail {send : ViewSend} {aborted : Bool} (hmem : send ∈ s.sends) (hresult : send.result = none) :
    Step s (.fail send aborted) (s.settle send (if aborted then .aborted else .error))
  | handle {send : ViewSend} {result : SendResult} (hmem : send ∈ s.sends)
      (hresult : send.result = some result) :
    Step s (.handle send) (s.onSend send result)
  | timerExpires (harmed : s.timer_armed = true) :
    Step s .timerExpires { s with timer_armed := false, timers_fired := s.timers_fired + 1 }
  | runTimer (hfired : 0 < s.timers_fired) :
    Step s .runTimer ({ s with timers_fired := s.timers_fired - 1 }.tryClose true)

theorem Step.of_step {s s' : State} {e : Event} (hs : step s e = some s') :
    s.fault = false ∧ s.is_shut_down = false ∧ Step s e s' := by
  unfold step at hs
  split at hs
  · cases hs
  rename_i hopen
  simp only [Bool.or_eq_true, not_or, Bool.not_eq_true] at hopen
  refine ⟨hopen.1, hopen.2, ?_⟩
  cases e with
  | write buffer =>
    cases hs
    exact .write buffer
  | tryClose =>
    cases hs
    exact .tryClose
  | runPosted =>
    dsimp only at hs
    split at hs <;> cases hs
    · exact .runWrite ‹_›
    · exact .runClose ‹_›
  | transmit send n =>
    obtain ⟨⟨hmem, hresult, hn, hzero⟩, ⟨⟩⟩ := Option.ite_none_right_eq_some.mp hs
    exact .transmit hmem hresult hn hzero
  | fail send aborted =>
    obtain ⟨⟨hmem, hresult⟩, ⟨⟩⟩ := Option.ite_none_right_eq_some.mp hs
    exact .fail hmem hresult
  | handle send =>
    dsimp only at hs
    split at hs
    · cases hs
    · rename_i result hresult
      obtain ⟨hmem, ⟨⟩⟩ := Option.ite_none_right_eq_some.mp hs
      exact .handle hmem hresult
  | timerExpires =>
    obtain ⟨harmed, ⟨⟩⟩ := Option.ite_none_right_eq_some.mp hs
    exact .timerExpires harmed
  | runTimer =>
    obtain ⟨hfired, ⟨⟩⟩ := Option.ite_none_right_eq_some.mp hs
    exact .runTimer hfired

end PooledSession

end AugmentedNormalcy.Tcp
