import AugmentedNormalcy.Tcp.WriteBufferPool

/-!
# Backpressure

A buffer is in the pool or in the queue, never in both, so `CopyToWriteBuffer` writes into none that
is queued, and finds one as long as fewer than all are queued. The front of the queue is what is
being sent, from the place where the header says (`Sending`), and it is popped when its last byte
has been sent. So a slow headset drops the newest frames, and the others arrive whole and in order
(`backpressure`). -/

namespace AugmentedNormalcy.Tcp

open Bytes StepSystem

namespace PooledSession

open TcpHeadsetSession (Posted)

/-- What holds at the end of every handler, up to the close. -/
structure Backpressure (buffer_count : ℕ) (s : State) : Prop where
  noFault : s.fault = false
  conserved : s.free.length + s.message_queue.length = buffer_count
  /-- The frames whose last byte has been sent come first, with all their bytes. -/
  finished : s.finished <+: s.accepted.map Message.frame
  /-- The queue holds the frames that were accepted last, as they were accepted. -/
  queued : s.is_shut_down = false → s.message_queue.map s.message <:+ s.accepted
  /-- `Write` queues a copy of its frame exactly when a buffer is not queued. -/
  accepts : s.is_live = true → ∀ copy_buffer : SizedBuffer,
    (s.message_queue.length < buffer_count ↔ ∃ buffer,
      (s.write copy_buffer).message_queue = s.message_queue ++ [buffer] ∧
      (s.write copy_buffer).accepted = s.accepted ++ [(s.write copy_buffer).message buffer] ∧
      ((s.write copy_buffer).message buffer).content = slice copy_buffer.memory 0 copy_buffer.size)
  /-- Otherwise it does nothing. -/
  drops : s.is_live = true → buffer_count ≤ s.message_queue.length →
    ∀ copy_buffer, s.write copy_buffer = s
  /-- It overwrites no frame in the queue. -/
  preserves : ∀ buffer ∈ s.message_queue, ∀ copy_buffer,
    (s.write copy_buffer).message buffer = s.message buffer

/-! ## Queueing a frame -/

/-- The buffer is taken from the pool, filled, and queued. -/
def State.enqueue (s : State) (buffer : ℕ) (free : List ℕ) (copy_buffer : SizedBuffer) : State :=
  let copied : TcpBuffer := { s.buffers buffer with
    memory := overwrite (s.buffers buffer).memory 0 (slice copy_buffer.memory 0 copy_buffer.size)
    size := copy_buffer.size }
  { s with free := free, buffers := Function.update s.buffers buffer copied }.push buffer

section Enqueue

variable {s : State} {buffer : ℕ} {free : List ℕ} {copy_buffer : SizedBuffer}

/-- A session that is not live drops the frame. -/
theorem write_of_not_live (hlive : s.is_live = false) (copy_buffer : SizedBuffer) :
    s.write copy_buffer = s := if_pos hlive

/-- So does a session without a free buffer. -/
theorem write_of_nil (hfree : s.free = []) (copy_buffer : SizedBuffer) :
    s.write copy_buffer = s := by
  unfold State.write State.copyToWriteBuffer
  rw [hfree]
  exact ite_self s

/-- A live session with a free buffer queues the frame, and starts the chain on an empty queue. -/
theorem write_of_cons (hlive : s.is_live = true) (hfree : s.free = buffer :: free)
    (copy_buffer : SizedBuffer) :
    s.write copy_buffer =
      if s.message_queue = [] then (s.enqueue buffer free copy_buffer).start
      else s.enqueue buffer free copy_buffer := by
  unfold State.write State.copyToWriteBuffer
  rw [if_neg (by rw [hlive]; exact Bool.noConfusion), hfree]
  cases hq : s.message_queue with
  | nil => simp [State.enqueue, hq]
  | cons front queue => simp [State.enqueue, hq]

/-- A queued frame is the last of the queue. -/
@[simp]
theorem message_queue_enqueue :
    (s.enqueue buffer free copy_buffer).message_queue = s.message_queue ++ [buffer] := rfl

/-- A queued frame is the last of the accepted messages. -/
theorem accepted_enqueue : (s.enqueue buffer free copy_buffer).accepted =
    s.accepted ++ [(s.enqueue buffer free copy_buffer).message buffer] := rfl

/-- The buffer that was taken holds the frame as its message. -/
theorem message_enqueue_self : (s.enqueue buffer free copy_buffer).message buffer =
    ⟨s.accepted.length,
      overwrite (s.buffers buffer).memory 0 (slice copy_buffer.memory 0 copy_buffer.size),
      copy_buffer.size⟩ := by
  simp [State.enqueue, State.push, State.message]

/-- Queueing a frame writes into the buffer that it takes only. -/
theorem buffers_enqueue_of_ne {other : ℕ} (hne : other ≠ buffer) :
    (s.enqueue buffer free copy_buffer).buffers other = s.buffers other :=
  Function.update_of_ne hne _ _

/-- So the messages of the other buffers stay. -/
theorem message_enqueue_of_ne {other : ℕ} (hne : other ≠ buffer) :
    (s.enqueue buffer free copy_buffer).message other = s.message other := by
  have hserial : (s.enqueue buffer free copy_buffer).serial other = s.serial other :=
    Function.update_of_ne hne _ _
  unfold State.message
  rw [hserial, buffers_enqueue_of_ne hne]

/-- What will be sent of the buffer is the content of the frame. -/
theorem content_enqueue_self : ((s.enqueue buffer free copy_buffer).message buffer).content =
    slice copy_buffer.memory 0 copy_buffer.size := by
  have hcopy := slice_overwrite_self (s.buffers buffer).memory 0
    (slice copy_buffer.memory 0 copy_buffer.size)
  rw [length_slice] at hcopy
  rw [message_enqueue_self]
  exact hcopy

end Enqueue

/-! ## Starting a send -/

section Start

variable {s : State} {buffer : ℕ} {queue : List ℕ}

/-- The chain starts with the header of the front buffer. -/
theorem start_of_cons (hq : s.message_queue = buffer :: queue) :
    s.start = State.writeHeader
      { s with
        header := s.header.setupHeader (s.buffers buffer).size
        current := s.serial buffer } 0 := by
  unfold State.start State.setupHeader
  rw [hq]

/-- The body that follows is the front buffer's. -/
theorem writeBody_of_cons (hq : s.message_queue = buffer :: queue) :
    s.writeBody =
      { s with
        timer_armed := true
        sends := ⟨.body buffer s.header.bytesWritten s.header.dataLength, none⟩ :: s.sends } := by
  unfold State.writeBody
  rw [hq]

/-- The front buffer goes back to the pool. -/
theorem pop_of_cons (hq : s.message_queue = buffer :: queue) :
    s.pop = { s with message_queue := queue, free := s.free ++ [buffer] } := by
  unfold State.pop
  rw [hq]

/-- Starting the chain leaves the messages alone. -/
theorem start_message (s : State) (buffer : ℕ) : s.start.message buffer = s.message buffer := by
  unfold State.start State.setupHeader
  split <;> rfl

/-- It leaves the queue alone. -/
theorem start_message_queue (s : State) : s.start.message_queue = s.message_queue := by
  unfold State.start State.setupHeader
  split <;> rfl

/-- And it accepts nothing. -/
theorem start_accepted (s : State) : s.start.accepted = s.accepted := by
  unfold State.start State.setupHeader
  split <;> rfl

end Start

/-! ## What is being sent -/

/-- What the session does with the front of the queue, when the messages `popped` have left it. -/
inductive Sending (s : State) (popped : List Message) : Prop
  /-- No send is outstanding. After an aborted one, there may be a front. -/
  | idle (sends : s.sends = []) (sent : s.message_queue = [] → s.sent = [])
      (finished : s.finished = popped.map Message.frame)
  | header {buffer : ℕ} {queue : List ℕ} {offset size : ℕ} {result : Option SendResult}
      (front : s.message_queue = buffer :: queue)
      (sends : s.sends = [⟨.header offset size, result⟩])
      (counts : s.header.Counts (s.buffers buffer).size)
      (sent : s.sent = slice (s.buffers buffer).memory 0 s.header.bytes_written)
      (finished : s.finished = popped.map Message.frame)
  /-- No byte of the packet has been sent. -/
  | body {buffer : ℕ} {queue : List ℕ} {result : Option SendResult}
      (front : s.message_queue = buffer :: queue)
      (sends : s.sends = [⟨.body buffer s.header.bytesWritten s.header.dataLength, result⟩])
      (waiting : ∀ n, result ≠ some (.ok n))
      (counts : s.header.Counts (s.buffers buffer).size)
      (sent : s.sent = slice (s.buffers buffer).memory 0 s.header.bytes_written)
      (finished : s.finished = popped.map Message.frame)
  /-- Bytes of the packet have been sent, and the header does not count them yet. -/
  | transmitted {buffer : ℕ} {queue : List ℕ} {n : ℕ}
      (front : s.message_queue = buffer :: queue)
      (sends : s.sends = [⟨.body buffer s.header.bytesWritten s.header.dataLength, some (.ok n)⟩])
      (counts : s.header.Counts (s.buffers buffer).size)
      (hn : n ≤ s.header.dataLength)
      (part : s.header.bytes_written + n ≠ (s.buffers buffer).size →
        s.sent = slice (s.buffers buffer).memory 0 (s.header.bytes_written + n) ∧
          s.finished = popped.map Message.frame)
      (last : s.header.bytes_written + n = (s.buffers buffer).size →
        s.sent = [] ∧ s.finished = (popped ++ [s.message buffer]).map Message.frame)

namespace Sending

variable {s s' : State} {popped : List Message}

/-- Only these fields matter. -/
theorem congr (h : Sending s popped)
    (hs : s' = { s' with
      buffers := s.buffers
      message_queue := s.message_queue
      header := s.header
      sends := s.sends
      serial := s.serial
      sent := s.sent
      finished := s.finished }) : Sending s' popped := by
  rw [hs]
  cases h with
  | idle sends sent finished => exact .idle sends sent finished
  | header front sends counts sent finished => exact .header front sends counts sent finished
  | body front sends waiting counts sent finished =>
    exact .body front sends waiting counts sent finished
  | transmitted front sends counts hn part last =>
    exact .transmitted front sends counts hn part last

/-- What was finished comes first among the messages. -/
theorem finished_isPrefix (h : Sending s popped) :
    s.finished <+: (popped ++ s.message_queue.map s.message).map Message.frame := by
  rw [List.map_append]
  cases h with
  | idle _ _ finished | header _ _ _ _ finished | body _ _ _ _ _ finished =>
    rw [finished]
    exact List.prefix_append _ _
  | @transmitted buffer queue n front _ _ _ part last =>
    by_cases hlast : s.header.bytes_written + n = (s.buffers buffer).size
    · rw [(last hlast).2, List.map_append, front, List.prefix_append_right_inj]
      exact ⟨_, rfl⟩
    · rw [(part hlast).2]
      exact List.prefix_append _ _

/-- The header of a packet is sent next. -/
theorem writeHeader {buffer : ℕ} {queue : List ℕ} (front : s.message_queue = buffer :: queue)
    (sends : s.sends = []) (counts : s.header.Counts (s.buffers buffer).size)
    (sent : s.sent = slice (s.buffers buffer).memory 0 s.header.bytes_written)
    (finished : s.finished = popped.map Message.frame) (last_bytes : ℕ) :
    Sending (s.writeHeader last_bytes) popped := by
  have hsends : (s.writeHeader last_bytes).sends =
      [⟨.header last_bytes (PacketHeader.size - last_bytes), none⟩] := congrArg (List.cons _) sends
  exact .header front hsends counts sent finished

/-- The bytes of a packet are sent next. -/
theorem writeBody {buffer : ℕ} {queue : List ℕ} (front : s.message_queue = buffer :: queue)
    (sends : s.sends = []) (counts : s.header.Counts (s.buffers buffer).size)
    (sent : s.sent = slice (s.buffers buffer).memory 0 s.header.bytes_written)
    (finished : s.finished = popped.map Message.frame) : Sending s.writeBody popped := by
  rw [writeBody_of_cons front]
  have hsends : (⟨.body buffer s.header.bytesWritten s.header.dataLength, none⟩ :: s.sends :
      List ViewSend) = [⟨.body buffer s.header.bytesWritten s.header.dataLength, none⟩] :=
    congrArg (List.cons _) sends
  exact .body front hsends (fun _ => (Option.some_ne_none _).symm) counts sent finished

/-- The front is started. -/
theorem start {buffer : ℕ} {queue : List ℕ} (front : s.message_queue = buffer :: queue)
    (sends : s.sends = []) (hsize : (s.buffers buffer).size < 2 ^ 32) (sent : s.sent = [])
    (finished : s.finished = popped.map Message.frame) : Sending s.start popped := by
  rw [start_of_cons front]
  have hcounts := PacketHeader.Counts.setupHeader s.header hsize
  exact writeHeader
    (s := { s with
      header := s.header.setupHeader (s.buffers buffer).size
      current := s.serial buffer }) front sends hcounts sent finished 0

/-- Another frame joins the queue. -/
theorem enqueue (h : Sending s popped) {buffer : ℕ}
    (hne : ∀ other ∈ s.message_queue, other ≠ buffer) (free : List ℕ)
    (copy_buffer : SizedBuffer) : Sending (s.enqueue buffer free copy_buffer) popped := by
  -- The front stays, and its buffer is another one.
  have hfront {front : ℕ} {queue : List ℕ} (hq : s.message_queue = front :: queue) :
      (s.enqueue buffer free copy_buffer).message_queue = front :: (queue ++ [buffer]) ∧
        (s.enqueue buffer free copy_buffer).buffers front = s.buffers front ∧
        (s.enqueue buffer free copy_buffer).message front = s.message front := by
    have hother : front ≠ buffer := hne front (by rw [hq]; exact List.mem_cons_self)
    refine ⟨?_, buffers_enqueue_of_ne hother, message_enqueue_of_ne hother⟩
    rw [message_queue_enqueue, hq, List.cons_append]
  cases h with
  | idle sends sent finished =>
    refine .idle sends (fun hnil => ?_) finished
    exact absurd hnil (List.append_ne_nil_of_right_ne_nil _ (List.cons_ne_nil _ _))
  | header front sends counts sent finished =>
    obtain ⟨hq, hbuffers, -⟩ := hfront front
    rw [← hbuffers] at counts sent
    exact .header hq sends counts sent finished
  | body front sends waiting counts sent finished =>
    obtain ⟨hq, hbuffers, -⟩ := hfront front
    rw [← hbuffers] at counts sent
    exact .body hq sends waiting counts sent finished
  | transmitted front sends counts hn part last =>
    obtain ⟨hq, hbuffers, hmessage⟩ := hfront front
    rw [← hmessage] at last
    rw [← hbuffers] at counts part last
    exact .transmitted hq sends counts hn part last

end Sending

/-! ## Sending bytes -/

section Transmit

variable {s : State}

/-- There is one send at most: settling it leaves it the only one. -/
theorem settle_sends {send : ViewSend} (sends : s.sends = [send]) (result : SendResult) :
    (s.settle send result).sends = [{ send with result := some result }] := by
  simp [State.settle, sends]

/-- The bytes that are sent of a packet follow those of the packets before. -/
theorem count_body {buffer n : ℕ} (counts : s.header.Counts (s.buffers buffer).size)
    (sent : s.sent = slice (s.buffers buffer).memory 0 s.header.bytes_written)
    (hn : n ≤ s.header.dataLength) :
    s.count n (.body buffer s.header.bytesWritten s.header.dataLength) =
      if s.header.bytes_written + n = (s.buffers buffer).size then
        { s with
          sent := []
          finished := s.finished ++ [(s.serial buffer,
            slice (s.buffers buffer).memory 0 (s.header.bytes_written + n))] }
      else
        { s with sent := slice (s.buffers buffer).memory 0 (s.header.bytes_written + n) } := by
  have hsent : s.sent ++
      (s.read (.body buffer s.header.bytes_written s.header.dataLength)).take n =
      slice (s.buffers buffer).memory 0 (s.header.bytes_written + n) := by
    rw [State.read, take_slice hn, sent, slice_append, Nat.zero_add]
  rw [counts.bytesWritten]
  simp only [State.count, hsent]

/-- The handler of the only send leaves none. -/
theorem erase_sends {send : ViewSend} (sends : s.sends = [send]) : s.sends.erase send = [] := by
  simp [sends]

/-- The handler of an aborted send does nothing more. -/
theorem onSend_aborted {send : ViewSend} (sends : s.sends = [send]) :
    s.onSend send .aborted = { s with sends := [] } := by
  simp only [State.onSend, erase_sends sends]

/-- The handler of a failed send closes the session. -/
theorem onSend_error {send : ViewSend} (sends : s.sends = [send]) :
    s.onSend send .error = { s with sends := [], timer_armed := false }.tryClose true := by
  simp only [State.onSend, erase_sends sends]

/-- The handler of a header that was sent in full or in part. -/
theorem onSend_header {offset size : ℕ} {result : Option SendResult}
    (sends : s.sends = [⟨.header offset size, result⟩]) (n : ℕ) :
    s.onSend ⟨.header offset size, result⟩ (.ok n) =
      { s with sends := [], timer_armed := false }.onHeader offset n := by
  simp only [State.onSend, erase_sends sends]

/-- The handler of a body that was sent in full or in part. -/
theorem onSend_body {buffer offset size : ℕ} {result : Option SendResult}
    (sends : s.sends = [⟨.body buffer offset size, result⟩]) (n : ℕ) :
    s.onSend ⟨.body buffer offset size, result⟩ (.ok n) =
      { s with sends := [], timer_armed := false }.onBody n := by
  simp only [State.onSend, erase_sends sends]

end Transmit

/-! ## The invariant -/

/-- The pool and the queue share the buffers, and the front is what is being sent. -/
structure Inv (buffer_count : ℕ) (s : State) : Prop where
  whole : Pool.Whole (List.range buffer_count) s.free s.message_queue
  noFault : s.fault = false
  posted : ∀ copy_buffer, Posted.write copy_buffer ∈ s.posted → copy_buffer.size < 2 ^ 32
  sizes : ∀ message ∈ s.accepted, message.size < 2 ^ 32
  finished : s.finished <+: s.accepted.map Message.frame
  sending : s.is_shut_down = false → ∃ popped,
    s.accepted = popped ++ s.message_queue.map s.message ∧ Sending s popped

namespace Inv

variable {buffer_count : ℕ} {s s' : State}

/-- A session starts with every buffer in the pool. -/
theorem initial (header : PacketHeader) (buffer_count buffer_size : ℕ) (memory : ℕ → Memory)
    (size : ℕ → ℕ) :
    Inv buffer_count (initial header buffer_count buffer_size memory size) where
  whole := .initial _
  noFault := rfl
  posted := fun _ hmem => by cases hmem
  sizes := fun _ hmem => by cases hmem
  finished := List.prefix_refl _
  sending := fun _ => ⟨[], rfl, .idle rfl (fun _ => rfl) rfl⟩

/-- From what the front is doing, the frames that were finished follow. -/
theorem of_sending {popped : List Message}
    (whole : Pool.Whole (List.range buffer_count) s.free s.message_queue)
    (noFault : s.fault = false)
    (posted : ∀ copy_buffer, Posted.write copy_buffer ∈ s.posted → copy_buffer.size < 2 ^ 32)
    (sizes : ∀ message ∈ s.accepted, message.size < 2 ^ 32)
    (haccepted : s.accepted = popped ++ s.message_queue.map s.message)
    (hsending : Sending s popped) : Inv buffer_count s where
  whole := whole
  noFault := noFault
  posted := posted
  sizes := sizes
  finished := haccepted ▸ hsending.finished_isPrefix
  sending := fun _ => ⟨popped, haccepted, hsending⟩

/-- A step that touches neither the buffers nor the sends. -/
theorem of_eq (h : Inv buffer_count s)
    (hposted : ∀ copy_buffer, Posted.write copy_buffer ∈ s'.posted → copy_buffer.size < 2 ^ 32)
    (hs : s' = { s with
      is_live := s'.is_live
      posted := s'.posted
      timer_armed := s'.timer_armed
      timers_fired := s'.timers_fired }) : Inv buffer_count s' := by
  rw [hs]
  refine ⟨h.whole, h.noFault, hposted, h.sizes, h.finished, fun hopen => ?_⟩
  obtain ⟨popped, haccepted, hsending⟩ := h.sending hopen
  exact ⟨popped, haccepted, hsending.congr rfl⟩

/-- The queue is emptied into the pool. -/
theorem doClose (h : Inv buffer_count s) : Inv buffer_count s.doClose where
  whole := by
    show Pool.Whole _ (s.free ++ s.message_queue) []
    unfold Pool.Whole
    rw [List.append_nil]
    exact h.whole
  noFault := h.noFault
  posted := h.posted
  sizes := h.sizes
  finished := h.finished
  sending := fun hopen => by cases hopen

/-- Closing keeps the invariant. -/
theorem tryClose (h : Inv buffer_count s) (internal_close : Bool) :
    Inv buffer_count (s.tryClose internal_close) := by
  have hdead : Inv buffer_count { s with is_live := false } := h.of_eq h.posted rfl
  unfold State.tryClose
  dsimp only
  split_ifs
  · exact h
  · exact hdead.doClose
  · refine hdead.of_eq (fun copy_buffer hmem => ?_) rfl
    exact h.posted copy_buffer (by simpa using hmem)

/-- A buffer in the queue is not the next one of the pool. -/
theorem ne_of_mem (h : Inv buffer_count s) {buffer : ℕ} {free : List ℕ}
    (hfree : s.free = buffer :: free) {other : ℕ} (hmem : other ∈ s.message_queue) :
    other ≠ buffer := by
  have hnodup := h.whole.nodup List.nodup_range
  rw [hfree, List.cons_append, List.nodup_cons] at hnodup
  rintro rfl
  exact hnodup.1 (List.mem_append_right _ hmem)

/-- An outstanding send is the only one, and there is a front. -/
theorem sends_eq (h : Inv buffer_count s) (hopen : s.is_shut_down = false) {send : ViewSend}
    (hmem : send ∈ s.sends) :
    s.sends = [send] ∧ ∃ buffer queue, s.message_queue = buffer :: queue := by
  obtain ⟨popped, -, hsending⟩ := h.sending hopen
  cases hsending with
  | idle sends =>
    rw [sends] at hmem
    cases hmem
  | header front sends | body front sends | transmitted front sends =>
    rw [sends, List.mem_singleton] at hmem
    rw [sends, hmem]
    exact ⟨rfl, _, _, front⟩

/-- When nothing is being sent, the frames that were finished are those that left the queue. -/
theorem between (h : Inv buffer_count s) (hopen : s.is_shut_down = false) (sends : s.sends = []) :
    ∃ popped, s.accepted = popped ++ s.message_queue.map s.message ∧
      s.finished = popped.map Message.frame := by
  obtain ⟨popped, haccepted, hsending⟩ := h.sending hopen
  refine ⟨popped, haccepted, ?_⟩
  cases hsending with
  | idle _ _ finished => exact finished
  | header _ hsends | body _ hsends | transmitted _ hsends =>
    rw [sends] at hsends
    cases hsends

/-- The front is started when nothing is being sent. -/
theorem start (h : Inv buffer_count s) (hopen : s.is_shut_down = false) (sends : s.sends = [])
    (sent : s.sent = []) (hq : s.message_queue ≠ []) : Inv buffer_count s.start := by
  obtain ⟨popped, haccepted, finished⟩ := h.between hopen sends
  obtain ⟨buffer, queue, front⟩ := List.exists_cons_of_ne_nil hq
  have hsize : (s.buffers buffer).size < 2 ^ 32 := by
    refine h.sizes (s.message buffer) ?_
    rw [haccepted, front]
    exact List.mem_append_right _ List.mem_cons_self
  have hstart : Sending s.start popped := .start front sends hsize sent finished
  rw [start_of_cons front] at hstart ⊢
  exact of_sending h.whole h.noFault h.posted h.sizes haccepted hstart

/-- The header goes on with the front. -/
theorem writeHeader (h : Inv buffer_count s) (hopen : s.is_shut_down = false)
    (sends : s.sends = []) {buffer : ℕ} {queue : List ℕ}
    (front : s.message_queue = buffer :: queue) {header : PacketHeader}
    (counts : header.Counts (s.buffers buffer).size)
    (sent : s.sent = slice (s.buffers buffer).memory 0 header.bytes_written) (last_bytes : ℕ) :
    Inv buffer_count (State.writeHeader { s with header := header } last_bytes) := by
  obtain ⟨popped, haccepted, finished⟩ := h.between hopen sends
  have hheader : Sending (State.writeHeader { s with header := header } last_bytes) popped :=
    .writeHeader (s := { s with header := header }) front sends counts sent finished last_bytes
  exact of_sending h.whole h.noFault h.posted h.sizes haccepted hheader

/-- The body goes on with the front. -/
theorem writeBody (h : Inv buffer_count s) (hopen : s.is_shut_down = false)
    (sends : s.sends = []) {buffer : ℕ} {queue : List ℕ}
    (front : s.message_queue = buffer :: queue) {header : PacketHeader}
    (counts : header.Counts (s.buffers buffer).size)
    (sent : s.sent = slice (s.buffers buffer).memory 0 header.bytes_written) :
    Inv buffer_count (State.writeBody { s with header := header }) := by
  obtain ⟨popped, haccepted, finished⟩ := h.between hopen sends
  have hbody : Sending (State.writeBody { s with header := header }) popped :=
    .writeBody (s := { s with header := header }) front sends counts sent finished
  rw [writeBody_of_cons (s := { s with header := header }) front] at hbody ⊢
  exact of_sending h.whole h.noFault h.posted h.sizes haccepted hbody

/-- Queueing a frame keeps it. -/
theorem enqueue (h : Inv buffer_count s) (hopen : s.is_shut_down = false) {buffer : ℕ}
    {free : List ℕ} (hfree : s.free = buffer :: free) {copy_buffer : SizedBuffer}
    (hsize : copy_buffer.size < 2 ^ 32) :
    Inv buffer_count (s.enqueue buffer free copy_buffer) := by
  obtain ⟨popped, haccepted, hsending⟩ := h.sending hopen
  have hne : ∀ other ∈ s.message_queue, other ≠ buffer := fun other => h.ne_of_mem hfree
  refine of_sending ?_ h.noFault h.posted ?_ ?_ (hsending.enqueue hne free _)
  · have hwhole := h.whole
    rw [hfree] at hwhole
    exact hwhole.take.perm_out (List.perm_append_singleton buffer s.message_queue).symm
  · intro message hmem
    rw [accepted_enqueue] at hmem
    rcases List.mem_append.mp hmem with hold | hnew
    · exact h.sizes message hold
    · rw [List.mem_singleton.mp hnew, message_enqueue_self]
      exact hsize
  · rw [accepted_enqueue, haccepted, message_queue_enqueue, List.map_append, List.append_assoc]
    congr 2
    exact List.map_congr_left fun other hmem => (message_enqueue_of_ne (hne other hmem)).symm

/-- The lambda of `Write`. -/
theorem write (h : Inv buffer_count s) (hopen : s.is_shut_down = false) {copy_buffer : SizedBuffer}
    (hsize : copy_buffer.size < 2 ^ 32) : Inv buffer_count (s.write copy_buffer) := by
  cases hlive : s.is_live with
  | false =>
    rw [write_of_not_live hlive]
    exact h
  | true =>
    cases hfree : s.free with
    | nil =>
      rw [write_of_nil hfree]
      exact h
    | cons buffer free =>
      have henqueue := h.enqueue hopen hfree hsize
      rw [write_of_cons hlive hfree]
      split_ifs with hq
      · -- The queue was empty, so nothing is being sent, and the frame is the front.
        obtain ⟨popped, -, hsending⟩ := h.sending hopen
        cases hsending with
        | idle sends sent _ =>
          refine henqueue.start hopen sends (sent hq) ?_
          rw [message_queue_enqueue]
          exact List.append_ne_nil_of_right_ne_nil _ (List.cons_ne_nil _ _)
        | header front | body front | transmitted front =>
          rw [hq] at front
          cases front
      · exact henqueue

/-- Bytes leave. -/
theorem transmit (h : Inv buffer_count s) (hopen : s.is_shut_down = false) {send : ViewSend}
    (hmem : send ∈ s.sends) (hresult : send.result = none) {n : ℕ} (hn : n ≤ send.view.size) :
    Inv buffer_count ((s.count n send.view).settle send (.ok n)) := by
  obtain ⟨popped, haccepted, hsending⟩ := h.sending hopen
  obtain ⟨view, _⟩ := send
  cases hresult
  cases hsending with
  | idle sends =>
    rw [sends] at hmem
    cases hmem
  | header front sends counts sent finished =>
    rw [sends, List.mem_singleton] at hmem
    cases hmem
    have hsends := settle_sends sends (.ok n)
    exact of_sending h.whole h.noFault h.posted h.sizes haccepted
      (.header front hsends counts sent finished)
  | @body buffer queue _ front sends waiting counts sent finished =>
    rw [sends, List.mem_singleton] at hmem
    cases hmem
    have hsends := settle_sends sends (.ok n)
    dsimp only
    rw [count_body counts sent hn]
    split_ifs with hlast
    · refine of_sending h.whole h.noFault h.posted h.sizes haccepted
        (.transmitted front hsends counts hn (absurd hlast) fun _ => ⟨rfl, ?_⟩)
      rw [List.map_append, ← finished, hlast]
      rfl
    · exact of_sending h.whole h.noFault h.posted h.sizes haccepted
        (.transmitted front hsends counts hn (fun _ => ⟨rfl, finished⟩) (absurd · hlast))
  | transmitted front sends =>
    rw [sends, List.mem_singleton] at hmem
    cases hmem

/-- A send fails, and has sent nothing. -/
theorem fail (h : Inv buffer_count s) (hopen : s.is_shut_down = false) {send : ViewSend}
    (hmem : send ∈ s.sends) (hresult : send.result = none) {result : SendResult}
    (hfail : ∀ n, result ≠ .ok n) : Inv buffer_count (s.settle send result) := by
  obtain ⟨popped, haccepted, hsending⟩ := h.sending hopen
  obtain ⟨view, _⟩ := send
  cases hresult
  cases hsending with
  | idle sends =>
    rw [sends] at hmem
    cases hmem
  | header front sends counts sent finished =>
    rw [sends, List.mem_singleton] at hmem
    cases hmem
    have hsends := settle_sends sends result
    exact of_sending h.whole h.noFault h.posted h.sizes haccepted
      (.header front hsends counts sent finished)
  | body front sends waiting counts sent finished =>
    rw [sends, List.mem_singleton] at hmem
    cases hmem
    have hsends := settle_sends sends result
    have hwaiting : ∀ n, some result ≠ some (.ok n) := fun n heq => hfail n (Option.some.inj heq)
    exact of_sending h.whole h.noFault h.posted h.sizes haccepted
      (.body front hsends hwaiting counts sent finished)
  | transmitted front sends =>
    rw [sends, List.mem_singleton] at hmem
    cases hmem

/-- The handler of a header goes on with it, with the body, or closes the session. -/
theorem onHeader (h : Inv buffer_count s) (hopen : s.is_shut_down = false) (sends : s.sends = [])
    {buffer : ℕ} {queue : List ℕ} (front : s.message_queue = buffer :: queue)
    (counts : s.header.Counts (s.buffers buffer).size)
    (sent : s.sent = slice (s.buffers buffer).memory 0 s.header.bytes_written)
    (last_bytes bytes_written : ℕ) : Inv buffer_count (s.onHeader last_bytes bytes_written) := by
  unfold State.onHeader
  dsimp only
  split_ifs
  · exact h.writeBody hopen sends front counts sent
  · exact h.writeHeader hopen sends front counts sent _
  · exact h.tryClose true

/-- The handler of a body after a part of the frame. -/
theorem onBody_part (h : Inv buffer_count s) (hopen : s.is_shut_down = false)
    (sends : s.sends = []) {buffer : ℕ} {queue : List ℕ} {n : ℕ}
    (front : s.message_queue = buffer :: queue) (counts : s.header.Counts (s.buffers buffer).size)
    (hn : n ≤ s.header.dataLength) (hpart : s.header.bytes_written + n ≠ (s.buffers buffer).size)
    (sent : s.sent = slice (s.buffers buffer).memory 0 (s.header.bytes_written + n)) :
    Inv buffer_count (s.onBody n) := by
  unfold State.onBody
  split_ifs with hne
  · -- A part of the packet was sent.
    obtain ⟨counts', hwritten⟩ := counts.offsetPacket hn
    rw [← hwritten] at sent
    exact h.writeBody hopen sends front counts' sent
  · -- The packet was sent, and the frame goes on in the next one.
    obtain rfl : n = s.header.dataLength := not_not.mp hne
    have hfinished : s.header.isFinished.2 = false := by
      rw [← Bool.not_eq_true, counts.isFinished.2]
      exact fun heq => hpart heq.symm
    obtain ⟨counts', hwritten⟩ := counts.setupNextHeader
    dsimp only
    rw [hfinished, if_neg Bool.false_ne_true]
    refine h.writeHeader hopen sends front counts' ?_ 0
    rw [hwritten]
    exact sent

/-- The handler of a body after the last byte of the frame. -/
theorem onBody_last (h : Inv buffer_count s) (hopen : s.is_shut_down = false)
    {popped : List Message} {buffer : ℕ} {queue : List ℕ} {n : ℕ}
    (haccepted : s.accepted = popped ++ s.message_queue.map s.message)
    (front : s.message_queue = buffer :: queue) (counts : s.header.Counts (s.buffers buffer).size)
    (hn : n ≤ s.header.dataLength) (hlast : s.header.bytes_written + n = (s.buffers buffer).size)
    (sent : s.sent = [])
    (finished : s.finished = (popped ++ [s.message buffer]).map Message.frame) :
    Inv buffer_count (State.onBody { s with sends := [], timer_armed := false } n) := by
  have hfits := counts.fits
  obtain rfl : n = s.header.dataLength := by
    unfold PacketHeader.dataLength at hn ⊢
    omega
  have hfinished : s.header.isFinished.2 = true := counts.isFinished.2.mpr hlast.symm
  -- The front leaves the queue, and its buffer goes back to the pool.
  have hpop : Inv buffer_count { s with
      header := s.header.isFinished.1
      sends := []
      timer_armed := false
      message_queue := queue
      free := s.free ++ [buffer] } := by
    have hidle : Sending { s with
        header := s.header.isFinished.1
        sends := []
        timer_armed := false
        message_queue := queue
        free := s.free ++ [buffer] } (popped ++ [s.message buffer]) :=
      .idle rfl (fun _ => sent) finished
    refine of_sending ?_ h.noFault h.posted h.sizes ?_ hidle
    · exact h.whole.give (by rw [front])
    · rw [haccepted, front, List.map_cons, List.append_assoc]
      rfl
  unfold State.onBody
  rw [if_neg (not_not_intro rfl)]
  dsimp only
  rw [if_pos hfinished, pop_of_cons (s := { s with
    header := s.header.isFinished.1
    sends := []
    timer_armed := false }) front]
  split_ifs with hq
  · exact hpop
  · exact hpop.start hopen rfl sent hq

/-- The completion handler of a send. -/
theorem onSend (h : Inv buffer_count s) (hopen : s.is_shut_down = false) {send : ViewSend}
    (hmem : send ∈ s.sends) {result : SendResult} (hresult : send.result = some result) :
    Inv buffer_count (s.onSend send result) := by
  obtain ⟨popped, haccepted, hsending⟩ := h.sending hopen
  obtain ⟨view, _⟩ := send
  cases hresult
  -- Without the send, nothing is being sent.
  have hidle {buffer : ℕ} {queue : List ℕ} (front : s.message_queue = buffer :: queue)
      (finished : s.finished = popped.map Message.frame) (timer_armed : Bool) :
      Inv buffer_count { s with sends := [], timer_armed := timer_armed } :=
    of_sending h.whole h.noFault h.posted h.sizes haccepted
      (.idle rfl (fun hnil => by rw [front] at hnil; cases hnil) finished)
  cases hsending with
  | idle sends =>
    rw [sends] at hmem
    cases hmem
  | header front sends counts sent finished =>
    rw [sends, List.mem_singleton] at hmem
    cases hmem
    cases result with
    | aborted =>
      rw [onSend_aborted sends]
      exact hidle front finished _
    | error =>
      rw [onSend_error sends]
      exact (hidle front finished _).tryClose true
    | ok n =>
      rw [onSend_header sends]
      exact (hidle front finished _).onHeader hopen rfl front counts sent _ n
  | body front sends waiting counts sent finished =>
    rw [sends, List.mem_singleton] at hmem
    cases hmem
    cases result with
    | aborted =>
      rw [onSend_aborted sends]
      exact hidle front finished _
    | error =>
      rw [onSend_error sends]
      exact (hidle front finished _).tryClose true
    | ok n => exact absurd rfl (waiting n)
  | @transmitted buffer queue n front sends counts hn part last =>
    rw [sends, List.mem_singleton] at hmem
    cases hmem
    rw [onSend_body sends]
    by_cases hlast : s.header.bytes_written + n = (s.buffers buffer).size
    · obtain ⟨sent, finished⟩ := last hlast
      exact h.onBody_last hopen haccepted front counts hn hlast sent finished
    · obtain ⟨sent, finished⟩ := part hlast
      exact (hidle front finished _).onBody_part hopen rfl front counts hn hlast sent

/-- There is room in the queue exactly when the pool has a buffer. -/
theorem length_lt_iff (h : Inv buffer_count s) :
    s.message_queue.length < buffer_count ↔ s.free ≠ [] := by
  have hlength := h.whole.length_eq
  rw [List.length_range] at hlength
  rw [← List.length_pos_iff]
  omega

/-- The first handler that was posted is taken. -/
theorem dropPosted (h : Inv buffer_count s) {first : Posted} {posted : List Posted}
    (hposted : s.posted = first :: posted) : Inv buffer_count { s with posted := posted } := by
  refine h.of_eq (fun copy_buffer hmem => h.posted copy_buffer ?_) rfl
  rw [hposted]
  exact List.mem_cons_of_mem _ hmem

/-- Every step keeps the invariant. -/
theorem step (h : Inv buffer_count s) {e : Event}
    (hsize : ∀ buffer, e = .write buffer → buffer.size < 2 ^ 32) (hs : step s e = some s') :
    Inv buffer_count s' := by
  obtain ⟨-, hopen, hstep⟩ := Step.of_step hs
  cases hstep with
  | write buffer =>
    refine h.of_eq (fun copy_buffer hmem => ?_) rfl
    rcases List.mem_append.mp hmem with hold | hnew
    · exact h.posted copy_buffer hold
    · cases List.mem_singleton.mp hnew
      exact hsize buffer rfl
  | tryClose => exact h.tryClose false
  | @runWrite copy_buffer posted hposted =>
    refine (h.dropPosted hposted).write hopen (h.posted copy_buffer ?_)
    rw [hposted]
    exact List.mem_cons_self
  | runClose hposted => exact (h.dropPosted hposted).doClose
  | transmit hmem hresult hn => exact h.transmit hopen hmem hresult hn
  | @fail send aborted hmem hresult =>
    refine h.fail hopen hmem hresult fun n heq => ?_
    cases aborted <;> cases heq
  | handle hmem hresult => exact h.onSend hopen hmem hresult
  | timerExpires => exact h.of_eq h.posted rfl
  | runTimer =>
    have hrest : Inv buffer_count { s with timers_fired := s.timers_fired - 1 } :=
      h.of_eq h.posted rfl
    exact hrest.tryClose true

/-- What the invariant says of the pool, the queue and `Write`. -/
theorem holds (h : Inv buffer_count s) : Backpressure buffer_count s where
  noFault := h.noFault
  conserved := by
    rw [h.whole.length_eq, List.length_range]
  finished := h.finished
  queued := by
    intro hopen
    obtain ⟨popped, haccepted, -⟩ := h.sending hopen
    rw [haccepted]
    exact List.suffix_append _ _
  accepts := by
    intro hlive copy_buffer
    rw [h.length_lt_iff]
    constructor
    · intro hne
      obtain ⟨buffer, free, hfree⟩ := List.exists_cons_of_ne_nil hne
      refine ⟨buffer, ?_⟩
      rw [write_of_cons hlive hfree]
      split_ifs
      · rw [start_message_queue, start_accepted, start_message]
        exact ⟨rfl, rfl, content_enqueue_self⟩
      · exact ⟨rfl, rfl, content_enqueue_self⟩
    · rintro ⟨buffer, hqueue, -⟩ hnil
      rw [write_of_nil hnil] at hqueue
      simp at hqueue
  drops := by
    intro _ hfull copy_buffer
    have hnil : s.free = [] := by
      by_contra hne
      have := h.length_lt_iff.mpr hne
      omega
    exact write_of_nil hnil copy_buffer
  preserves := by
    intro buffer hmem copy_buffer
    cases hlive : s.is_live with
    | false => rw [write_of_not_live hlive]
    | true =>
      cases hfree : s.free with
      | nil => rw [write_of_nil hfree]
      | cons other free =>
        have hne : buffer ≠ other := h.ne_of_mem hfree hmem
        rw [write_of_cons hlive hfree]
        split_ifs
        · rw [start_message, message_enqueue_of_ne hne]
        · exact message_enqueue_of_ne hne

end Inv

/-- The frames that fit into a buffer have a size that the header can hold. -/
theorem along_fits {buffer_size : ℕ} (hsize : buffer_size < 2 ^ 31) {es : List Event}
    (hfits : ∀ buffer, Event.write buffer ∈ es → buffer.size ≤ buffer_size) (s : State) :
    Along step (fun _ e => ∀ buffer, e = .write buffer → buffer.size < 2 ^ 32) s es := by
  refine along_of_forall (fun e he buffer heq => ?_) s
  have := hfits buffer (heq ▸ he)
  omega

/-- At the end of every handler, up to the close, the buffers are in the pool or in the queue, the
frames that were sent are the first ones, and `Write` drops its frame only when all buffers are
queued. -/
theorem backpressure (header : PacketHeader) (buffer_count buffer_size : ℕ) (memory : ℕ → Memory)
    (size : ℕ → ℕ) (hsize : buffer_size < 2 ^ 31) {es : List Event}
    (hfits : ∀ buffer, Event.write buffer ∈ es → buffer.size ≤ buffer_size) {s : State}
    (hrun : run step (initial header buffer_count buffer_size memory size) es = some s) :
    Backpressure buffer_count s := by
  have hinv : Inv buffer_count s :=
    (along_fits hsize hfits _).run_invariant (Inv buffer_count)
      (fun s e s' hI he hs => hI.step he hs) hrun
      (.initial header buffer_count buffer_size memory size)
  exact hinv.holds

/-- With one buffer, the second frame is dropped while the first one is sent. -/
def stalledRun : List Event :=
  [.write ⟨fun _ => 7, 1⟩,
   .write ⟨fun _ => 8, 1⟩,
   .runPosted,
   .runPosted,
   .transmit ⟨.header 0 24, none⟩ 24,
   .handle ⟨.header 0 24, some (.ok 24)⟩,
   .transmit ⟨.body 0 0 1, none⟩ 1]

theorem backpressure_stalledRun :
    ∃ s, run step (initial .initial 1 8 (fun _ _ => 0) fun _ => 0) stalledRun = some s ∧
      s.message_queue = [0] ∧ s.finished = [(0, [7])] ∧ Backpressure 1 s := by
  have hfits : ∀ buffer, Event.write buffer ∈ stalledRun → buffer.size ≤ 8 := by
    intro buffer hmem
    simp only [stalledRun, List.mem_cons, List.not_mem_nil, Event.write.injEq, reduceCtorEq,
      or_false] at hmem
    rcases hmem with rfl | rfl <;> decide
  refine ⟨_, rfl, rfl, by decide, ?_⟩
  exact backpressure .initial 1 8 (fun _ _ => 0) (fun _ => 0) (by decide) hfits rfl

end PooledSession

end AugmentedNormalcy.Tcp
