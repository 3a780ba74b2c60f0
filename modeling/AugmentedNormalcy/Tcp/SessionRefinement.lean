import AugmentedNormalcy.Tcp.Backpressure

/-!
# The pointers of the session

The session with its buffers is the session that keeps messages (`step_refines`): what a view shows
is what the send was started with, because no buffer in the queue is written and the header stays
while a send is outstanding. So what is known of the runs of the one holds along those of the
other. -/

namespace AugmentedNormalcy.Tcp

open Bytes StepSystem

namespace PooledSession

/-! ## The messages behind the pointers -/

namespace State

variable (s : State)

/-- A send with the bytes that its view shows. -/
def send (v : ViewSend) : Send :=
  match v.view with
  | .header offset _ => ⟨.writeHeader offset, 0, s.current, s.read v.view, v.result⟩
  | .body buffer _ _ => ⟨.writeBody, 0, s.serial buffer, s.read v.view, v.result⟩

def chain : WriteChain where
  header := s.header
  queue := s.message_queue.map s.message
  released := s.free.map fun buffer => (s.buffers buffer).memory
  sends := s.sends.map s.send
  current := s.current
  fault := s.fault

def session (buffer_size : ℕ) : TcpHeadsetSession.State where
  chain := s.chain
  is_live := s.is_live
  is_shut_down := s.is_shut_down
  buffer_size := buffer_size
  posted := s.posted
  timer_armed := s.timer_armed
  timers_fired := s.timers_fired
  accepted := s.accepted
  overrun := s.accepted.any fun message => decide (buffer_size < message.size)

end State

/-- An event, with the send that a view stands for. -/
def Event.session (s : State) : Event → TcpHeadsetSession.Event
  | .write buffer => .write buffer
  | .tryClose => .tryClose
  | .runPosted => .runPosted
  | .transmit v n => .transmit (s.send v) n
  | .fail v aborted => .fail (s.send v) aborted
  | .handle v => .handle (s.send v)
  | .timerExpires => .timerExpires
  | .runTimer => .runTimer

/-! ## The functions of the session -/

section Functions

variable {s : State} {buffer_size : ℕ}

/-- Closing the views closes the session. -/
theorem session_doClose : s.doClose.session buffer_size = (s.session buffer_size).doClose := by
  have hreleased : (s.free ++ s.message_queue).map (fun buffer => (s.buffers buffer).memory) =
      s.free.map (fun buffer => (s.buffers buffer).memory) ++
        (s.message_queue.map s.message).map Message.memory := by
    rw [List.map_append, List.map_map]
    rfl
  unfold State.session TcpHeadsetSession.State.doClose WriteChain.clear
  simp only [State.chain, State.doClose, hreleased, List.map_nil]
  rfl

/-- So does asking for it. -/
theorem session_tryClose (internal_close : Bool) :
    (s.tryClose internal_close).session buffer_size =
      (s.session buffer_size).tryClose internal_close := by
  unfold State.tryClose TcpHeadsetSession.State.tryClose
  have hlive : (s.session buffer_size).is_live = s.is_live := rfl
  rw [hlive]
  dsimp only
  split_ifs
  · rfl
  · exact session_doClose
  · rfl

/-- A state that differs from `s` in what belongs to the chain. -/
theorem session_withChain {t : State} {w : WriteChain} (hchain : t.chain = w)
    (htimer : t.timer_armed = (s.timer_armed || decide (s.chain.sends.length < w.sends.length)))
    (ht : t = { t with
      is_live := s.is_live
      is_shut_down := s.is_shut_down
      posted := s.posted
      timers_fired := s.timers_fired
      accepted := s.accepted }) :
    t.session buffer_size = (s.session buffer_size).withChain w := by
  have hsession : t.session buffer_size =
      { s.session buffer_size with chain := t.chain, timer_armed := t.timer_armed } := by
    rw [ht]
    rfl
  rw [hsession, hchain, htimer]
  rfl

/-- No view, no send. -/
theorem chain_sends_of_nil (sends : s.sends = []) : s.chain.sends = [] := by
  rw [State.chain, sends, List.map_nil]

/-- The timer is started with the send. -/
theorem timer_of_ne_nil {w : WriteChain} (sends : s.sends = []) (hw : w.sends ≠ []) :
    true = (s.timer_armed || decide (s.chain.sends.length < w.sends.length)) := by
  rw [chain_sends_of_nil sends, List.length_nil, decide_eq_true (List.length_pos_iff.mpr hw),
    Bool.or_true]

/-- Sending the view of a header sends the header. -/
theorem session_writeHeader (sends : s.sends = []) (header : PacketHeader) (last_bytes : ℕ) :
    (State.writeHeader { s with header := header } last_bytes).session buffer_size =
      (s.session buffer_size).withChain
        (WriteChain.writeHeader { s.chain with header := header } 0 last_bytes) := by
  refine session_withChain ?_ (timer_of_ne_nil sends (List.cons_ne_nil _ _)) rfl
  unfold State.chain State.writeHeader WriteChain.writeHeader
  simp only [sends, List.map_cons, List.map_nil]
  rfl

/-- Sending the view of a body sends the body. -/
theorem session_writeBody (sends : s.sends = []) {buffer : ℕ} {queue : List ℕ}
    (front : s.message_queue = buffer :: queue) (header : PacketHeader) :
    (State.writeBody { s with header := header }).session buffer_size =
      (s.session buffer_size).withChain
        (WriteChain.writeBody { s.chain with header := header } 0) := by
  have hqueue : s.chain.queue = s.message buffer :: queue.map s.message := by
    rw [State.chain, front, List.map_cons]
  rw [writeBody_of_cons (s := { s with header := header }) front,
    WriteChain.writeBody_of_cons (w := { s.chain with header := header }) hqueue]
  refine session_withChain ?_ (timer_of_ne_nil sends (List.cons_ne_nil _ _)) rfl
  unfold State.chain
  simp only [sends, List.map_cons, List.map_nil]
  rfl

/-- Starting the views starts the chain. -/
theorem session_start (sends : s.sends = []) {buffer : ℕ} {queue : List ℕ}
    (front : s.message_queue = buffer :: queue) :
    s.start.session buffer_size = (s.session buffer_size).withChain (s.chain.start 0) := by
  have hqueue : s.chain.queue = s.message buffer :: queue.map s.message := by
    rw [State.chain, front, List.map_cons]
  rw [start_of_cons front, WriteChain.start, WriteChain.setupHeader_of_cons hqueue]
  refine session_withChain ?_ (timer_of_ne_nil sends (List.cons_ne_nil _ _)) rfl
  unfold State.chain State.writeHeader WriteChain.writeHeader
  simp only [sends, List.map_cons, List.map_nil]
  rfl

/-- A state that differs from `q` in the chain, but not in its sends. -/
theorem session_of_eq {q : TcpHeadsetSession.State}
    (hsession : s.session buffer_size = { q with chain := s.chain })
    (hsends : s.chain.sends = q.chain.sends) :
    s.session buffer_size = q.withChain s.chain := by
  rw [hsession, TcpHeadsetSession.State.withChain, hsends]
  simp

/-- From such a state, the front is started. -/
theorem session_start_of_eq {q : TcpHeadsetSession.State} (sends : s.sends = []) {buffer : ℕ}
    {queue : List ℕ} (front : s.message_queue = buffer :: queue)
    (hsession : s.session buffer_size = { q with chain := s.chain })
    (hsends : s.chain.sends = q.chain.sends) :
    s.start.session buffer_size = q.withChain (s.chain.start 0) := by
  rw [session_start sends front, hsession]
  unfold TcpHeadsetSession.State.withChain
  dsimp only
  rw [hsends]

/-! ## The handlers -/

/-- The handler of a header is the chain's. -/
theorem session_onHeader (sends : s.sends = []) {buffer : ℕ} {queue : List ℕ}
    (front : s.message_queue = buffer :: queue) (last_bytes bytes_written : ℕ) :
    (s.onHeader last_bytes bytes_written).session buffer_size =
      match s.chain.onHeader 0 last_bytes bytes_written with
      | some w => (s.session buffer_size).withChain w
      | none => (s.session buffer_size).tryClose true := by
  unfold State.onHeader WriteChain.onHeader
  dsimp only
  split_ifs
  · exact session_writeBody sends front s.header
  · exact session_writeHeader sends s.header _
  · exact session_tryClose true

/-- The buffer of the front is given back with its memory. -/
theorem chain_pop (sends : s.sends = []) (header : PacketHeader) (buffer : ℕ) (queue : List ℕ) :
    State.chain { s with
      header := header, message_queue := queue, free := s.free ++ [buffer] } =
    { s.chain with
      header := header
      queue := queue.map s.message
      released := s.chain.released ++ [(s.message buffer).memory] } := by
  unfold State.chain
  simp only [sends, List.map_append, List.map_cons, List.map_nil]
  rfl

/-- The next frame is started, if there is one. -/
theorem session_next {t : State} (hs : s.sends = []) (ht : t.sends = [])
    (heq : t = { t with
      is_live := s.is_live
      is_shut_down := s.is_shut_down
      posted := s.posted
      timer_armed := s.timer_armed
      timers_fired := s.timers_fired
      accepted := s.accepted }) :
    (if t.message_queue = [] then t else t.start).session buffer_size =
      (s.session buffer_size).withChain
        (if t.chain.queue = [] then t.chain else t.chain.start 0) := by
  have hsession : t.session buffer_size = { s.session buffer_size with chain := t.chain } := by
    rw [heq]
    rfl
  have hsends : t.chain.sends = (s.session buffer_size).chain.sends :=
    (chain_sends_of_nil ht).trans (chain_sends_of_nil hs).symm
  cases hq : t.message_queue with
  | nil =>
    rw [if_pos rfl, if_pos (by rw [State.chain, hq, List.map_nil])]
    exact session_of_eq hsession hsends
  | cons buffer queue =>
    rw [if_neg (List.cons_ne_nil _ _), if_neg (by rw [State.chain, hq]; exact List.cons_ne_nil _ _)]
    exact session_start_of_eq ht hq hsession hsends

/-- And so is the handler of a body. -/
theorem session_onBody (sends : s.sends = []) {buffer : ℕ} {queue : List ℕ}
    (front : s.message_queue = buffer :: queue) (n : ℕ) :
    (s.onBody n).session buffer_size =
      (s.session buffer_size).withChain (s.chain.onBody 0 n) := by
  have hqueue : s.chain.queue = s.message buffer :: queue.map s.message := by
    rw [State.chain, front, List.map_cons]
  by_cases hn : n = s.header.dataLength
  swap
  · rw [WriteChain.onBody_of_ne (w := s.chain) hn, State.onBody, if_pos hn]
    exact session_writeBody sends front _
  unfold State.onBody
  rw [if_neg (not_not_intro hn)]
  dsimp only
  cases hfinished : s.header.isFinished.2 with
  | false =>
    rw [WriteChain.onBody_of_unfinished (w := s.chain) hn hfinished, if_neg Bool.false_ne_true]
    exact session_writeHeader sends _ 0
  | true =>
    rw [WriteChain.onBody_of_finished (w := s.chain) hn hfinished hqueue, if_pos rfl,
      pop_of_cons (s := { s with header := s.header.isFinished.1 }) front]
    refine (session_next (s := s) (t := { s with
      header := s.header.isFinished.1
      message_queue := queue
      free := s.free ++ [buffer] }) sends sends rfl).trans ?_
    rw [chain_pop sends]
    rfl

/-! ## A frame is copied -/

/-- What a send shows is not in a buffer that is free. -/
theorem send_enqueue {buffer_count : ℕ} (h : Inv buffer_count s) (hopen : s.is_shut_down = false)
    {buffer : ℕ} {free : List ℕ} (hfree : s.free = buffer :: free) (copy_buffer : SizedBuffer)
    {v : ViewSend} (hmem : v ∈ s.sends) :
    (s.enqueue buffer free copy_buffer).send v = s.send v := by
  obtain ⟨popped, -, hsending⟩ := h.sending hopen
  have hbody {front : ℕ} {queue : List ℕ} (hq : s.message_queue = front :: queue)
      (offset size : ℕ) (result : Option SendResult) :
      (s.enqueue buffer free copy_buffer).send ⟨.body front offset size, result⟩ =
        s.send ⟨.body front offset size, result⟩ := by
    have hne : front ≠ buffer := h.ne_of_mem hfree (by rw [hq]; exact List.mem_cons_self)
    have hserial : (s.enqueue buffer free copy_buffer).serial front = s.serial front :=
      congrArg Message.serial (message_enqueue_of_ne hne)
    simp only [State.send, State.read, buffers_enqueue_of_ne hne, hserial]
  cases hsending with
  | idle sends =>
    rw [sends] at hmem
    cases hmem
  | header _ sends =>
    rw [sends, List.mem_singleton] at hmem
    rw [hmem]
    rfl
  | body front sends | transmitted front sends =>
    rw [sends, List.mem_singleton] at hmem
    rw [hmem]
    exact hbody front _ _ _

/-- Queueing a buffer pushes its message. -/
theorem chain_enqueue {buffer_count : ℕ} (h : Inv buffer_count s) (hopen : s.is_shut_down = false)
    {buffer : ℕ} {free : List ℕ} (hfree : s.free = buffer :: free) (copy_buffer : SizedBuffer) :
    (s.enqueue buffer free copy_buffer).chain =
      WriteChain.push { s.chain with released := free.map fun buffer => (s.buffers buffer).memory }
        ((s.enqueue buffer free copy_buffer).message buffer) := by
  have hqueue : (s.message_queue ++ [buffer]).map (s.enqueue buffer free copy_buffer).message =
      s.message_queue.map s.message ++ [(s.enqueue buffer free copy_buffer).message buffer] := by
    rw [List.map_append]
    congr 1
    exact List.map_congr_left fun other hmem => message_enqueue_of_ne (h.ne_of_mem hfree hmem)
  have hreleased : free.map (fun b => ((s.enqueue buffer free copy_buffer).buffers b).memory) =
      free.map fun b => (s.buffers b).memory := by
    refine List.map_congr_left fun other hmem => ?_
    have hnodup := h.whole.nodup List.nodup_range
    rw [hfree, List.cons_append, List.nodup_cons] at hnodup
    have hne : other ≠ buffer := by
      rintro rfl
      exact hnodup.1 (List.mem_append_left _ hmem)
    rw [buffers_enqueue_of_ne hne]
  have hsends : s.sends.map (s.enqueue buffer free copy_buffer).send = s.sends.map s.send :=
    List.map_congr_left fun v hmem => send_enqueue h hopen hfree copy_buffer hmem
  unfold WriteChain.push State.chain
  rw [message_queue_enqueue, hqueue, ← hreleased, ← hsends]
  rfl

/-- The copy joins the accepted messages, with the number and the memory of its buffer. -/
theorem session_enqueue (s : State) (buffer_size buffer : ℕ) (free : List ℕ)
    (copy_buffer : SizedBuffer) :
    (s.enqueue buffer free copy_buffer).session buffer_size =
      { s.session buffer_size with
        chain := (s.enqueue buffer free copy_buffer).chain
        accepted := s.accepted ++ [(s.enqueue buffer free copy_buffer).message buffer]
        overrun :=
          (s.session buffer_size).overrun || decide (buffer_size < copy_buffer.size) } := by
  unfold State.session
  rw [accepted_enqueue, List.any_append, List.any_cons, List.any_nil, Bool.or_false,
    message_enqueue_self]
  rfl

/-- The message gets the memory of a buffer that was free. -/
theorem session_write {buffer_count : ℕ} (h : Inv buffer_count s) (hopen : s.is_shut_down = false)
    (copy_buffer : SizedBuffer) :
    (s.write copy_buffer).session buffer_size = (s.session buffer_size).write copy_buffer := by
  cases hlive : s.is_live with
  | false =>
    rw [write_of_not_live hlive, TcpHeadsetSession.State.write, if_pos]
    exact hlive
  | true =>
    have hlive' : ¬ (s.session buffer_size).is_live = false := by
      show ¬ s.is_live = false
      rw [hlive]
      exact Bool.noConfusion
    cases hfree : s.free with
    | nil =>
      have hreleased : (s.session buffer_size).chain.released = [] := by
        show s.free.map _ = []
        rw [hfree, List.map_nil]
      rw [write_of_nil hfree, TcpHeadsetSession.State.write, if_neg hlive', hreleased]
    | cons buffer free =>
      have hreleased : (s.session buffer_size).chain.released =
          (s.buffers buffer).memory :: free.map fun buffer => (s.buffers buffer).memory := by
        show s.free.map _ = _
        rw [hfree, List.map_cons]
      have hchain := chain_enqueue h hopen hfree copy_buffer
      have hsession := session_enqueue s buffer_size buffer free copy_buffer
      have hwrite : (s.session buffer_size).write copy_buffer =
          TcpHeadsetSession.State.withChain { s.session buffer_size with
            accepted := s.accepted ++ [(s.enqueue buffer free copy_buffer).message buffer]
            overrun := (s.session buffer_size).overrun ||
              decide (buffer_size < copy_buffer.size) }
            (if s.chain.queue = [] then (s.enqueue buffer free copy_buffer).chain.start 0
              else (s.enqueue buffer free copy_buffer).chain) := by
        rw [TcpHeadsetSession.write_of_cons (s := s.session buffer_size) hlive hreleased, hchain,
          message_enqueue_self]
        rfl
      have hsends : (s.enqueue buffer free copy_buffer).chain.sends = s.chain.sends := by
        rw [hchain]
        rfl
      rw [write_of_cons hlive hfree, hwrite]
      by_cases hq : s.message_queue = []
      · obtain ⟨popped, -, hsending⟩ := h.sending hopen
        have sends : s.sends = [] := by
          cases hsending with
          | idle sends => exact sends
          | header front | body front | transmitted front =>
            rw [hq] at front
            cases front
        have front : (s.enqueue buffer free copy_buffer).message_queue = [buffer] := by
          rw [message_queue_enqueue, hq, List.nil_append]
        rw [if_pos hq, if_pos (by rw [State.chain, hq, List.map_nil])]
        exact session_start_of_eq sends front hsession hsends
      · rw [if_neg hq, if_neg (by rw [State.chain]; simpa using hq)]
        exact session_of_eq hsession hsends

/-! ## Sends -/

/-- A view and its send have one result. -/
theorem send_result (s : State) (v : ViewSend) : (s.send v).result = v.result := by
  obtain ⟨view, result⟩ := v
  cases view <;> rfl

/-- A view and its send have one size. -/
theorem length_bytes_send (s : State) (v : ViewSend) :
    (s.send v).bytes.length = v.view.size := by
  obtain ⟨view, result⟩ := v
  cases view <;> exact length_slice _ _ _

/-- What goes over the wire is read when it is sent, from the view. -/
theorem send_transmits {v : ViewSend} {n : ℕ} (hn : n ≤ v.view.size)
    (hzero : n = 0 → v.view.size = 0) : (s.send v).Transmits n := by
  refine ⟨?_, fun h => ?_⟩
  · rw [length_bytes_send]
    exact hn
  · rw [← List.length_eq_zero_iff, length_bytes_send]
    exact hzero h

/-- What was sent of the frames is not part of the session. -/
theorem session_count_settle (n : ℕ) (view : View) (v : ViewSend) (result : SendResult) :
    ((s.count n view).settle v result).session buffer_size =
      (s.settle v result).session buffer_size := by
  cases view with
  | header offset size => rfl
  | body buffer offset size =>
    unfold State.count
    dsimp only
    split_ifs <;> rfl

/-- The view shows the same bytes, whatever is known of the send. -/
theorem session_settle {v : ViewSend} (sends : s.sends = [v]) (result : SendResult) :
    (s.settle v result).session buffer_size =
      { s.session buffer_size with chain := s.chain.settle (s.send v) result } := by
  have hsends : s.chain.settle (s.send v) result =
      { s.chain with sends := [s.send { v with result := some result }] } := by
    have hone : s.chain.sends = [s.send v] := by rw [State.chain, sends, List.map_singleton]
    unfold WriteChain.settle
    rw [hone]
    simp only [List.erase_cons_head]
    obtain ⟨view, _⟩ := v
    cases view <;> rfl
  rw [hsends]
  unfold State.session State.chain
  rw [settle_sends sends]
  rfl

/-- A view that ends is a send that ends. -/
theorem session_finish {v : ViewSend} (sends : s.sends = [v]) (timer_armed : Bool) :
    State.session { s with sends := [], timer_armed := timer_armed } buffer_size =
      { s.session buffer_size with
        chain := s.chain.finish (s.send v)
        timer_armed := timer_armed } := by
  have hone : s.chain.sends = [s.send v] := by rw [State.chain, sends, List.map_singleton]
  unfold WriteChain.finish
  rw [hone]
  simp only [List.erase_cons_head]
  rfl

/-- The handler of a send does with the pointers what it does with the messages. -/
theorem session_onSend {buffer_count : ℕ} (h : Inv buffer_count s) (hopen : s.is_shut_down = false)
    {v : ViewSend} (hmem : v ∈ s.sends) {result : SendResult} (hresult : v.result = some result) :
    (s.onSend v result).session buffer_size =
      (s.session buffer_size).onSend (s.send v) result := by
  obtain ⟨sends, buffer, queue, front⟩ := h.sends_eq hopen hmem
  obtain ⟨view, _⟩ := v
  cases hresult
  cases result with
  | aborted =>
    rw [onSend_aborted sends]
    exact session_finish sends s.timer_armed
  | error =>
    rw [onSend_error sends, session_tryClose, session_finish sends false]
    rfl
  | ok n =>
    -- The state in which the handler goes on.
    obtain ⟨t, ht⟩ : ∃ t : State, t = { s with sends := [], timer_armed := false } := ⟨_, rfl⟩
    have tsends : t.sends = [] := by rw [ht]
    have tfront : t.message_queue = buffer :: queue := by rw [ht, front]
    have tsession : t.session buffer_size = _ := ht ▸ session_finish sends false
    have tchain : t.chain = s.chain.finish _ := congrArg TcpHeadsetSession.State.chain tsession
    cases view with
    | header offset size =>
      have honSend : s.onSend _ _ = t.onHeader offset n := ht ▸ onSend_header sends n
      rw [honSend, session_onHeader tsends tfront, tsession, tchain]
      rfl
    | body _ offset size =>
      have honSend : s.onSend _ _ = t.onBody n := ht ▸ onSend_body sends n
      rw [honSend, session_onBody tsends tfront, tsession, tchain]
      rfl

/-! ## Every run -/

/-- A step of the session with its buffers is one of the session with its messages. -/
theorem step_refines {buffer_count : ℕ} (h : Inv buffer_count s) {e : Event} {s' : State}
    (hs : step s e = some s') :
    TcpHeadsetSession.step (s.session buffer_size) (e.session s) =
      some (s'.session buffer_size) := by
  obtain ⟨hfault, hopen, hstep⟩ := Step.of_step hs
  have hnofault : ¬ (s.session buffer_size).chain.fault = true := by
    show ¬ s.fault = true
    rw [hfault]
    exact Bool.noConfusion
  unfold TcpHeadsetSession.step
  rw [if_neg hnofault]
  cases hstep with
  | write buffer => rfl
  | tryClose => exact congrArg some (session_tryClose false).symm
  | @runWrite copy_buffer posted hposted =>
    have hposted' : (s.session buffer_size).posted = .write copy_buffer :: posted := hposted
    simp only [Event.session, hposted']
    exact congrArg some (session_write (h.dropPosted hposted) hopen copy_buffer).symm
  | @runClose posted hposted =>
    have hposted' : (s.session buffer_size).posted = .doClose :: posted := hposted
    simp only [Event.session, hposted']
    exact congrArg some (session_doClose (s := { s with posted := posted })).symm
  | @transmit v n hmem hresult hn hzero =>
    obtain ⟨sends, -⟩ := h.sends_eq hopen hmem
    have hresult' : (s.send v).result = none := (send_result s v).trans hresult
    refine (if_pos ⟨List.mem_map_of_mem hmem, hresult', send_transmits hn hzero, hopen⟩).trans ?_
    rw [session_count_settle, session_settle sends]
    rfl
  | @fail v aborted hmem hresult =>
    obtain ⟨sends, -⟩ := h.sends_eq hopen hmem
    refine (if_pos ⟨List.mem_map_of_mem hmem, (send_result s v).trans hresult⟩).trans ?_
    exact congrArg some (session_settle sends _).symm
  | @handle v result hmem hresult =>
    have hresult' : (s.send v).result = some result := (send_result s v).trans hresult
    simp only [Event.session, hresult']
    refine (if_pos (List.mem_map_of_mem hmem)).trans ?_
    exact congrArg some (session_onSend h hopen hmem hresult).symm
  | timerExpires harmed => exact if_pos harmed
  | runTimer hfired =>
    refine (if_pos hfired).trans ?_
    exact congrArg some (session_tryClose (s := { s with timers_fired := s.timers_fired - 1 })
      true).symm

end Functions

/-- Every run of the session with its buffers is one of the session with its messages. -/
theorem run_refines (header : PacketHeader) (buffer_count buffer_size : ℕ) (memory : ℕ → Memory)
    (size : ℕ → ℕ) (hsize : buffer_size < 2 ^ 31) {es : List Event}
    (hfits : ∀ buffer, Event.write buffer ∈ es → buffer.size ≤ buffer_size) {s : State}
    (hrun : run step (initial header buffer_count buffer_size memory size) es = some s) :
    ∃ es', run TcpHeadsetSession.step
      (TcpHeadsetSession.initial header ((List.range buffer_count).map memory) buffer_size) es' =
        some (s.session buffer_size) := by
  refine (along_fits hsize hfits _).run_simulation (Inv buffer_count)
    (fun s => s.session buffer_size) (fun s e s' hI he hs => ?_) hrun
    (.initial header buffer_count buffer_size memory size)
  exact ⟨hI.step he hs, e.session s, step_refines hI hs⟩

end PooledSession

end AugmentedNormalcy.Tcp
