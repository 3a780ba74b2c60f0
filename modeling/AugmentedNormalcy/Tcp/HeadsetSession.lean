import AugmentedNormalcy.Foundation.Run
import AugmentedNormalcy.Tcp.WriteChain

/-!
# `TcpHeadsetSession`

The session of `tcp_server.cpp` that sends frames to a headset. Its strand runs one handler at a
time: the lambdas that `Write` and `TryClose(false)` post, in the order of posting, and in any order
between them the completion handlers of sends and the handlers of the write timer. When the result
of a send is known is a step of its own, so a successful completion can wait behind a close.

`doClose` empties the queue and leaves the send outstanding, and the completion handlers do not look
at `_is_live`. The session is safe in exactly the runs in which no completion handler needs the
front of the queue after that (`throughout_frontSent_iff`).
-/

namespace AugmentedNormalcy.Tcp

open Bytes StepSystem

namespace TcpHeadsetSession

/-- A handler that was posted to the strand. -/
inductive Posted where
  | write (copy_buffer : SizedBuffer)
  | doClose

/-- `_copy_buffer_pool` has the buffers that `chain` has released. -/
structure State where
  chain : WriteChain
  is_live : Bool
  is_shut_down : Bool
  /-- The size of the buffers in the pool. -/
  buffer_size : ℕ
  posted : List Posted
  timer_armed : Bool
  /-- The handlers of timers that have expired. -/
  timers_fired : ℕ
  /-- The messages that `Write` put into the queue. -/
  accepted : List Message
  /-- A frame was copied into a buffer that is too small for it. -/
  overrun : Bool

/-- A session with `pool` as its free buffers, each of `buffer_size` bytes. -/
def initial (header : PacketHeader) (pool : List Memory) (buffer_size : ℕ) : State where
  chain := ⟨header, [], pool, [], 0, false⟩
  is_live := true
  is_shut_down := false
  buffer_size := buffer_size
  posted := []
  timer_armed := false
  timers_fired := 0
  accepted := []
  overrun := false

namespace State

variable (s : State)

/-- The state after the write chain went on to `w`. `writeHeader` and `writeBody` start the timer
before they send. -/
def withChain (w : WriteChain) : State :=
  { s with
    chain := w
    timer_armed := s.timer_armed || decide (s.chain.sends.length < w.sends.length) }

/-- `doClose`: the socket is shut down and the queue cleared. -/
def doClose : State := { s with is_shut_down := true, chain := s.chain.clear }

/-- `TryClose`. -/
def tryClose (internal_close : Bool) : State :=
  if s.is_live = false then s
  else
    let s := { s with is_live := false }
    if internal_close then s.doClose else { s with posted := s.posted ++ [.doClose] }

/-- The lambda of `Write`. -/
def write (copy_buffer : SizedBuffer) : State :=
  if s.is_live = false then s
  else
    -- `CopyToWriteBuffer`.
    match s.chain.released with
    | [] => s
    | memory :: released =>
      let message : Message :=
        ⟨s.accepted.length, overwrite memory 0 (slice copy_buffer.memory 0 copy_buffer.size),
          copy_buffer.size⟩
      let write_in_progress := !s.chain.queue.isEmpty
      let w := { s.chain with released := released }.push message
      let s := { s with
        accepted := s.accepted ++ [message]
        overrun := s.overrun || decide (s.buffer_size < copy_buffer.size) }
      s.withChain (if write_in_progress then w else w.start 0)

/-- The completion handler of a send. -/
def onSend (send : Send) (result : SendResult) : State :=
  let s := { s with chain := s.chain.finish send }
  match result with
  | .aborted => s
  | .error => { s with timer_armed := false }.tryClose true
  | .ok bytes_written =>
    let s := { s with timer_armed := false }
    match send.kind with
    | .writeHeader last_bytes =>
      match s.chain.onHeader 0 last_bytes bytes_written with
      | some w => s.withChain w
      | none => s.tryClose true
    | .writeBody => s.withChain (s.chain.onBody 0 bytes_written)

end State

inductive Event where
  /-- `Write` is called, on another thread. -/
  | write (buffer : SizedBuffer)
  /-- `TryClose(false)` is called, on another thread. -/
  | tryClose
  | runPosted
  | transmit (send : Send) (bytes_written : ℕ)
  | fail (send : Send) (aborted : Bool)
  | handle (send : Send)
  | timerExpires
  | runTimer

/-- Nothing is said about what follows a fault. -/
def step (s : State) (e : Event) : Option State :=
  if s.chain.fault then none
  else
    match e with
    | .write buffer => some { s with posted := s.posted ++ [.write buffer] }
    | .tryClose => some (s.tryClose false)
    | .runPosted =>
      match s.posted with
      | [] => none
      | .write copy_buffer :: posted => some ({ s with posted := posted }.write copy_buffer)
      | .doClose :: posted => some { s with posted := posted }.doClose
    | .transmit send n =>
      if send ∈ s.chain.sends ∧ send.result = none ∧ send.Transmits n ∧ s.is_shut_down = false then
        some { s with chain := s.chain.settle send (.ok n) }
      else none
    | .fail send aborted =>
      if send ∈ s.chain.sends ∧ send.result = none then
        some { s with chain := s.chain.settle send (if aborted then .aborted else .error) }
      else none
    | .handle send =>
      match send.result with
      | none => none
      | some result => if send ∈ s.chain.sends then some (s.onSend send result) else none
    | .timerExpires =>
      if s.timer_armed then
        some { s with timer_armed := false, timers_fired := s.timers_fired + 1 }
      else none
    | .runTimer =>
      if 0 < s.timers_fired then
        some ({ s with timers_fired := s.timers_fired - 1 }.tryClose true)
      else none

/-- What each step finds, and what it leaves. -/
inductive Step (s : State) : Event → State → Prop
  | write (buffer : SizedBuffer) :
    Step s (.write buffer) { s with posted := s.posted ++ [.write buffer] }
  | tryClose : Step s .tryClose (s.tryClose false)
  | runWrite {copy_buffer : SizedBuffer} {posted : List Posted}
      (hposted : s.posted = .write copy_buffer :: posted) :
    Step s .runPosted ({ s with posted := posted }.write copy_buffer)
  | runClose {posted : List Posted} (hposted : s.posted = .doClose :: posted) :
    Step s .runPosted { s with posted := posted }.doClose
  | transmit {send : Send} {n : ℕ} (hmem : send ∈ s.chain.sends) (hresult : send.result = none)
      (hn : send.Transmits n) :
    Step s (.transmit send n) { s with chain := s.chain.settle send (.ok n) }
  | fail {send : Send} {aborted : Bool} (hmem : send ∈ s.chain.sends) :
    Step s (.fail send aborted)
      { s with chain := s.chain.settle send (if aborted then .aborted else .error) }
  | handle {send : Send} {result : SendResult} (hmem : send ∈ s.chain.sends)
      (hresult : send.result = some result) :
    Step s (.handle send) (s.onSend send result)
  | timerExpires :
    Step s .timerExpires { s with timer_armed := false, timers_fired := s.timers_fired + 1 }
  | runTimer : Step s .runTimer ({ s with timers_fired := s.timers_fired - 1 }.tryClose true)

theorem Step.of_step {s s' : State} {e : Event} (hs : step s e = some s') : Step s e s' := by
  unfold step at hs
  split at hs
  · cases hs
  cases e with
  | write buffer =>
    cases hs
    exact .write buffer
  | tryClose =>
    cases hs
    exact .tryClose
  | runPosted =>
    dsimp only at hs
    split at hs <;> cases hs
    · exact .runWrite ‹_›
    · exact .runClose ‹_›
  | transmit send n =>
    obtain ⟨⟨hmem, hresult, hn, -⟩, ⟨⟩⟩ := Option.ite_none_right_eq_some.mp hs
    exact .transmit hmem hresult hn
  | fail send aborted =>
    obtain ⟨⟨hmem, -⟩, ⟨⟩⟩ := Option.ite_none_right_eq_some.mp hs
    exact .fail hmem
  | handle send =>
    dsimp only at hs
    split at hs
    · cases hs
    · rename_i result hresult
      obtain ⟨hmem, ⟨⟩⟩ := Option.ite_none_right_eq_some.mp hs
      exact .handle hmem hresult
  | timerExpires =>
    obtain ⟨-, ⟨⟩⟩ := Option.ite_none_right_eq_some.mp hs
    exact .timerExpires
  | runTimer =>
    obtain ⟨-, ⟨⟩⟩ := Option.ite_none_right_eq_some.mp hs
    exact .runTimer

/-- A live session whose pool has a buffer copies the frame into it. -/
theorem write_of_cons {s : State} (hlive : s.is_live = true) {memory : Memory}
    {released : List Memory} (hreleased : s.chain.released = memory :: released)
    (copy_buffer : SizedBuffer) :
    s.write copy_buffer =
      let message : Message :=
        ⟨s.accepted.length, overwrite memory 0 (slice copy_buffer.memory 0 copy_buffer.size),
          copy_buffer.size⟩
      let w := { s.chain with released := released }.push message
      { s with
        accepted := s.accepted ++ [message]
        overrun := s.overrun || decide (s.buffer_size < copy_buffer.size) }.withChain
        (if s.chain.queue = [] then w.start 0 else w) := by
  unfold State.write
  rw [if_neg (by rw [hlive]; exact Bool.noConfusion), hreleased]
  cases hq : s.chain.queue with
  | nil => simp [hq]
  | cons message queue => simp [hq]

/-- No front was taken of an empty queue, and on a live session the front is what is being sent. -/
def FrontSent (s : State) : Prop :=
  s.chain.fault = false ∧ (s.is_live = true →
    ∀ send ∈ s.chain.sends, s.chain.queue.head?.map Message.serial = some send.serial)

/-- The step is not the handler of a successful send that needs the front of an empty queue. -/
def NeedsNoFront (s : State) : Event → Prop
  | .handle ⟨.writeHeader last_bytes, _, _, _, some (.ok n)⟩ =>
    s.chain.queue ≠ [] ∨ last_bytes + n ≠ PacketHeader.size
  | .handle ⟨.writeBody, _, _, _, some (.ok n)⟩ =>
    s.chain.queue ≠ [] ∨ n = s.chain.header.dataLength ∧ s.chain.header.isFinished.2 = false
  | _ => True

/-! ## The invariant -/

/-- A close is posted by a session that is no longer live. -/
def Closing (s : State) : Prop := Posted.doClose ∈ s.posted → s.is_live = false

/-- At most one send is outstanding, and it belongs to the front of the queue, unless the session
was closed under it. -/
structure Invariant (s : State) : Prop where
  noFault : s.chain.fault = false
  sending : s.chain.sends = [] ∨ ∃ send, s.chain.sends = [send] ∧ send.serial = s.chain.current ∧
    (s.chain.Ready ∨ s.is_live = false ∧ s.chain.queue = [])

namespace Invariant

variable {s s' : State}

/-- A new session sends nothing. -/
theorem initial (header : PacketHeader) (pool : List Memory) (buffer_size : ℕ) :
    Invariant (initial header pool buffer_size) := ⟨rfl, .inl rfl⟩

/-- The invariant says that what is sent is the front. -/
theorem frontSent (h : Invariant s) : FrontSent s := by
  refine ⟨h.noFault, fun hlive send hmem => ?_⟩
  obtain hnil | ⟨x, hone, hserial, hready | ⟨hdead, -⟩⟩ := h.sending
  · rw [hnil] at hmem
    cases hmem
  · rw [hone, List.mem_singleton] at hmem
    rw [hmem, hserial]
    exact hready.2
  · rw [hlive] at hdead
    cases hdead

/-- A step that leaves the chain alone. -/
theorem of_chain (h : Invariant s) (hc : s'.chain = s.chain)
    (hlive : s.is_live = false → s'.is_live = false) : Invariant s' := by
  refine ⟨by rw [hc]; exact h.noFault, ?_⟩
  rw [hc]
  exact h.sending.imp_right fun ⟨send, hone, hserial, hfront⟩ =>
    ⟨send, hone, hserial, hfront.imp_right fun ⟨hdead, hq⟩ => ⟨hlive hdead, hq⟩⟩

/-- The chain went on after a send was handled. -/
theorem of_continues {w w' : WriteChain} (hnone : w.sends = [])
    (hc : w.Continues 0 w') (hs : s'.chain = w') : Invariant s' := by
  subst hs
  obtain ⟨hready, send, hsends, -, hserial, -⟩ | ⟨hfault, -, hsends⟩ := hc
  · rw [hnone] at hsends
    exact ⟨hready.1, .inr ⟨send, hsends, hserial, .inl hready⟩⟩
  · exact ⟨hfault, .inl (hsends.trans hnone)⟩

theorem doClose (h : Invariant s) (hdead : s.is_live = false) : Invariant s.doClose :=
  ⟨h.noFault, h.sending.imp_right fun ⟨send, hone, hserial, _⟩ =>
    ⟨send, hone, hserial, .inr ⟨hdead, rfl⟩⟩⟩

theorem tryClose (h : Invariant s) (internal_close : Bool) :
    Invariant (s.tryClose internal_close) := by
  have hdead : Invariant { s with is_live := false } := h.of_chain rfl fun _ => rfl
  unfold State.tryClose
  dsimp only
  split_ifs
  · exact h
  · exact hdead.doClose rfl
  · exact hdead.of_chain rfl id

/-- A message joins a queue that is being sent. -/
theorem push (h : Invariant s) (hlive : s.is_live = true) {message : Message}
    {released : List Memory} (hs : s'.chain = { s.chain with released := released }.push message) :
    Invariant s' := by
  refine ⟨by rw [hs]; exact h.noFault, ?_⟩
  rw [hs]
  refine h.sending.imp_right fun ⟨send, hone, hserial, hfront⟩ => ⟨send, hone, hserial, .inl ?_⟩
  obtain hready | ⟨hdead, -⟩ := hfront
  · exact WriteChain.Ready.push (w := { s.chain with released := released }) hready message
  · rw [hlive] at hdead
    cases hdead

theorem write (h : Invariant s) (copy_buffer : SizedBuffer) : Invariant (s.write copy_buffer) := by
  unfold State.write
  split_ifs with hlive
  · exact h
  split
  · exact h
  rename_i memory released _
  dsimp only
  split
  · exact h.push (by simpa using hlive) rfl
  · -- The queue was empty, so nothing is being sent on a live session.
    rename_i hprogress
    have hq : s.chain.queue = [] := by simpa using hprogress
    have hnone : s.chain.sends = [] := by
      obtain hnil | ⟨send, -, -, hready | ⟨hdead, -⟩⟩ := h.sending
      · exact hnil
      · exact absurd hq hready.queue_ne_nil
      · exact absurd hdead hlive
    have hfault : { s.chain with released := released }.fault = false := h.noFault
    exact of_continues hnone (WriteChain.pushStart_continues hfault _ 0) rfl

/-- A send that is given a result is the same send. -/
theorem settle (h : Invariant s) {send : Send} (hmem : send ∈ s.chain.sends) (result : SendResult) :
    Invariant { s with chain := s.chain.settle send result } := by
  refine ⟨h.noFault, ?_⟩
  obtain hnil | ⟨x, hone, hserial, hfront⟩ := h.sending
  · rw [hnil] at hmem
    cases hmem
  · rw [hone, List.mem_singleton] at hmem
    subst hmem
    refine .inr ⟨{ send with result := some result }, ?_, hserial, hfront⟩
    simp [WriteChain.settle, hone]

/-- One more header is sent on a session that was closed. -/
theorem of_closed {w : WriteChain} {header : PacketHeader} {last_bytes : ℕ} (hnone : w.sends = [])
    (hfault : w.fault = false) (hq : w.queue = [])
    (hs : s'.chain = { w with header := header }.writeHeader 0 last_bytes)
    (hdead : s'.is_live = false) : Invariant s' := by
  refine ⟨by rw [hs]; exact hfault, .inr ?_⟩
  rw [hs, WriteChain.writeHeader, hnone]
  exact ⟨_, rfl, rfl, .inr ⟨hdead, hq⟩⟩

/-- The handler of a send that needs no front of an empty queue. -/
theorem onSend (h : Invariant s) {send : Send} (hmem : send ∈ s.chain.sends)
    {result : SendResult} (hresult : send.result = some result)
    (hneeds : NeedsNoFront s (.handle send)) : Invariant (s.onSend send result) := by
  obtain ⟨hfront, hnone⟩ : (s.chain.Ready ∨ s.is_live = false ∧ s.chain.queue = []) ∧
      (s.chain.finish send).sends = [] := by
    obtain hnil | ⟨x, hone, -, hfront⟩ := h.sending
    · rw [hnil] at hmem
      cases hmem
    · rw [hone, List.mem_singleton] at hmem
      subst hmem
      exact ⟨hfront, by simp [WriteChain.finish, hone]⟩
  have hrest : ∀ t : State, t.chain = s.chain.finish send → Invariant t := fun t ht =>
    ⟨by rw [ht]; exact h.noFault, .inl (by rw [ht]; exact hnone)⟩
  have hready (hr : s.chain.Ready) : (s.chain.finish send).Ready := hr
  have hfault : (s.chain.finish send).fault = false := h.noFault
  unfold State.onSend
  cases result with
  | aborted => exact hrest _ rfl
  | error => exact (hrest _ rfl).tryClose true
  | ok n =>
    cases hk : send.kind with
    | writeHeader last_bytes =>
      dsimp only
      cases hw : (s.chain.finish send).onHeader 0 last_bytes n with
      | none => exact (hrest _ rfl).tryClose true
      | some w =>
        obtain hr | ⟨hdead, hq⟩ := hfront
        · exact of_continues hnone (WriteChain.onHeader_continues (hready hr) hw) rfl
        · have hne : last_bytes + n ≠ PacketHeader.size := by
            obtain ⟨kind, socket, serial, bytes, result⟩ := send
            cases hresult
            cases hk
            exact hneeds.resolve_left fun h => h hq
          exact of_closed hnone hfault hq (WriteChain.onHeader_of_ne hne hw) hdead
    | writeBody =>
      obtain hr | ⟨hdead, hq⟩ := hfront
      · exact of_continues hnone (WriteChain.onBody_continues (hready hr) 0 n) rfl
      · obtain ⟨hn, hf⟩ : n = s.chain.header.dataLength ∧
            s.chain.header.isFinished.2 = false := by
          obtain ⟨kind, socket, serial, bytes, result⟩ := send
          cases hresult
          cases hk
          exact hneeds.resolve_left fun h => h hq
        have hw := WriteChain.onBody_of_unfinished (w := s.chain.finish send) hn hf 0
        exact of_closed hnone hfault hq hw hdead

/-- Every step that needs no front, or has one, keeps the invariant. -/
theorem step (h : Invariant s) (hclosing : Closing s) {e : Event} (hneeds : NeedsNoFront s e)
    (hs : step s e = some s') : Invariant s' := by
  cases Step.of_step hs with
  | write | timerExpires => exact h.of_chain rfl id
  | tryClose => exact h.tryClose false
  | @runWrite copy_buffer posted _ =>
    have h' : Invariant { s with posted := posted } := h.of_chain rfl id
    exact h'.write copy_buffer
  | @runClose posted hposted =>
    -- The close was posted by a session that is no longer live.
    have h' : Invariant { s with posted := posted } := h.of_chain rfl id
    exact h'.doClose (hclosing (by rw [hposted]; exact List.mem_cons_self))
  | transmit hmem | fail hmem => exact h.settle hmem _
  | handle hmem hresult => exact h.onSend hmem hresult hneeds
  | runTimer =>
    have h' : Invariant { s with timers_fired := s.timers_fired - 1 } := h.of_chain rfl id
    exact h'.tryClose true

end Invariant

namespace Closing

variable {s s' : State}

/-- What leaves the posted handlers and the liveness alone keeps it. -/
theorem of_eq (h : Closing s) (hp : s'.posted = s.posted) (hl : s'.is_live = s.is_live) :
    Closing s' := by
  unfold Closing
  rw [hp, hl]
  exact h

theorem tryClose (s : State) (internal_close : Bool) :
    (s.tryClose internal_close).is_live = false := by
  unfold State.tryClose
  dsimp only
  split_ifs with hlive
  · exact hlive
  · rfl
  · rfl

theorem write (h : Closing s) (copy_buffer : SizedBuffer) : Closing (s.write copy_buffer) := by
  unfold State.write
  split_ifs
  · exact h
  split
  · exact h
  · exact h.of_eq rfl rfl

theorem onSend (h : Closing s) (send : Send) (result : SendResult) :
    Closing (s.onSend send result) := by
  have hclose (t : State) : Closing (t.tryClose true) := fun _ => tryClose t true
  unfold State.onSend
  cases result with
  | aborted => exact h.of_eq rfl rfl
  | error => exact hclose _
  | ok n =>
    dsimp only
    split
    · split
      · exact h.of_eq rfl rfl
      · exact hclose _
    · exact h.of_eq rfl rfl

theorem step (h : Closing s) {e : Event} (hs : step s e = some s') : Closing s' := by
  cases Step.of_step hs with
  | write => exact fun hmem => h (by simpa using hmem)
  | tryClose => exact fun _ => tryClose s false
  | @runWrite copy_buffer posted hposted =>
    have h' : Closing { s with posted := posted } := fun hmem =>
      h (by rw [hposted]; exact List.mem_cons_of_mem _ hmem)
    exact h'.write copy_buffer
  | runClose hposted => exact fun _ => h (by rw [hposted]; exact List.mem_cons_self)
  | transmit | fail | timerExpires => exact h.of_eq rfl rfl
  | handle => exact h.onSend _ _
  | runTimer => exact fun _ => tryClose _ true

end Closing

/-! ## Every run -/

/-- The handler that needs the front of an empty queue takes it. -/
theorem fault_of_needs {s s' : State} {e : Event} (hneeds : ¬ NeedsNoFront s e)
    (hs : step s e = some s') : s'.chain.fault = true := by
  cases Step.of_step hs with
  | @handle send result hmem hresult =>
    obtain ⟨kind, socket, serial, bytes, _⟩ := send
    cases hresult
    match kind, result with
    | .writeHeader last_bytes, .ok n =>
      simp only [NeedsNoFront, not_or, not_not] at hneeds
      obtain ⟨hq, hlast⟩ := hneeds
      simp only [State.onSend, WriteChain.onHeader_of_nil (w := s.chain.finish _) hq hlast]
      rfl
    | .writeBody, .ok n =>
      simp only [NeedsNoFront, not_or, not_not] at hneeds
      obtain ⟨hq, hbody⟩ := hneeds
      exact WriteChain.onBody_fault_of_nil (w := s.chain.finish _) hq hbody 0
    | .writeHeader _, .error | .writeHeader _, .aborted | .writeBody, .error
    | .writeBody, .aborted => exact absurd trivial hneeds
  | _ => exact absurd trivial hneeds

/-- The front is what is being sent, and never taken of an empty queue, in exactly the runs in which
no handler of a successful send needs the front after a close has emptied the queue. -/
theorem throughout_frontSent_iff (header : PacketHeader) (pool : List Memory) (buffer_size : ℕ)
    (es : List Event) :
    Throughout step FrontSent (initial header pool buffer_size) es ↔
      Along step NeedsNoFront (initial header pool buffer_size) es := by
  refine throughout_iff_along (fun s => Invariant s ∧ Closing s) (fun s h => h.1.frontSent)
    (fun s e s' h hneeds hs => ⟨h.1.step h.2 hneeds hs, h.2.step hs⟩) ?_
    ⟨.initial header pool buffer_size, fun hmem => by cases hmem⟩
  intro s e s' _ hneeds hs hfront
  have hfault := fault_of_needs hneeds hs
  rw [hfront.1] at hfault
  cases hfault

/-- The first send of a message of one byte. -/
def firstSend (result : Option SendResult) : Send :=
  ⟨.writeHeader 0, 0, 0, slice (PacketHeader.initial.setupHeader 1).data 0 PacketHeader.size,
    result⟩

/-- The header has been sent when the session is closed, and its handler runs after the close. -/
def closedRun : List Event :=
  [.write ⟨fun _ => 0, 1⟩,
   .runPosted,
   .transmit (firstSend none) 24,
   .tryClose,
   .runPosted,
   .handle (firstSend (some (.ok 24)))]

theorem closedRun_fault :
    ∃ s, run step (initial .initial [fun _ => 0] 8) closedRun = some s ∧ ¬ FrontSent s := by
  refine ⟨_, rfl, fun h => ?_⟩
  cases h.1

end TcpHeadsetSession

end AugmentedNormalcy.Tcp
