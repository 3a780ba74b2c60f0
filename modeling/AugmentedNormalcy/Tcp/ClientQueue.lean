import Mathlib.Data.List.Infix
import AugmentedNormalcy.Tcp.RoundTrip

/-!
# The queue of a camera's client

A message is put at the end of the queue by the second step of a `Post`, and leaves it at the front:
when it has been sent, or with all the others when the client disconnects. So every other step
leaves an end of the queue (`queue_suffix_of_step`), and neither accepts a message nor takes one
from the `Post` that is in progress (`quiet_of_step`). -/

namespace AugmentedNormalcy.Tcp

open StepSystem

/-- The buffer that a message was made of. -/
def Message.buffer (m : Message) : SizedBuffer := ⟨m.memory, m.size⟩

namespace WriteChain

variable (w : WriteChain)

/-- The header is set up for the front of the queue, which stays. -/
@[simp]
theorem queue_setupHeader : w.setupHeader.queue = w.queue := by
  unfold setupHeader
  split <;> rfl

/-- A send of the header leaves the queue alone. -/
@[simp]
theorem queue_writeHeader (socket last_bytes : ℕ) :
    (w.writeHeader socket last_bytes).queue = w.queue := rfl

/-- So does a send of the body. -/
@[simp]
theorem queue_writeBody (socket : ℕ) : (w.writeBody socket).queue = w.queue := by
  unfold writeBody
  split <;> rfl

/-- So does the start of a message. -/
@[simp]
theorem queue_start (socket : ℕ) : (w.start socket).queue = w.queue := by
  unfold start
  rw [queue_writeHeader, queue_setupHeader]

/-- The handler of a header leaves the queue alone. -/
theorem queue_onHeader {w w' : WriteChain} {socket last_bytes bytes_written : ℕ}
    (hs : w.onHeader socket last_bytes bytes_written = some w') : w'.queue = w.queue := by
  unfold onHeader at hs
  dsimp only at hs
  split_ifs at hs
  · cases hs
    exact queue_writeBody w socket
  · cases hs
    rfl

/-- The front leaves the queue when its message ends. -/
theorem queue_onBody_suffix (socket bytes_written : ℕ) :
    (w.onBody socket bytes_written).queue <:+ w.queue := by
  unfold onBody
  split
  · rw [queue_writeBody]
  dsimp only
  split
  · split
    · exact List.suffix_rfl
    · rename_i message queue hqueue
      have htail : queue <:+ w.queue := by
        rw [hqueue]
        exact List.suffix_cons message queue
      split
      · exact htail
      · rw [queue_start]
        exact htail
  · exact List.suffix_rfl

end WriteChain

namespace CameraClient

/-- So does a connect. -/
theorem queue_startConnection (s : State) : s.startConnection.chain.queue = s.chain.queue := by
  unfold State.startConnection
  split
  · rfl
  · dsimp only
    split <;> rfl

/-- A reconnect empties the queue. -/
theorem queue_reconnect_suffix (s : State) : s.reconnect.chain.queue <:+ s.chain.queue := by
  unfold State.reconnect
  rw [queue_startConnection]
  exact List.nil_suffix

/-- The handler of a send pops at most the front. -/
theorem queue_onSend_suffix (s : State) (send : Send) (result : SendResult) :
    (s.onSend send result).chain.queue <:+ s.chain.queue := by
  unfold State.onSend
  split
  · exact List.suffix_rfl
  split
  · exact List.suffix_rfl
  split
  · exact queue_reconnect_suffix s
  · exact queue_reconnect_suffix s
  split
  · split
    · rename_i hheader
      rw [WriteChain.queue_onHeader hheader]
    · exact queue_reconnect_suffix s
  · exact s.chain.queue_onBody_suffix _ _

/-- A step other than the push leaves an end of the queue. -/
theorem queue_suffix_of_step {s s' : State} {ev : Event} (hs : step s ev = some s')
    (hpush : ev ≠ .postPush) : s'.chain.queue <:+ s.chain.queue := by
  cases Step.of_step hs with
  | start =>
    unfold State.start
    split
    · rw [queue_startConnection]
    · exact List.suffix_rfl
  | stop =>
    unfold State.stop
    split
    · exact List.suffix_rfl
    · exact List.nil_suffix
  | connectCompletes =>
    unfold State.onConnect
    split
    · exact List.suffix_rfl
    split
    · rw [queue_startConnection]
    · split <;> exact List.suffix_rfl
  | transmit | fail => exact List.suffix_rfl
  | handle => exact queue_onSend_suffix _ _ _
  | postCheck =>
    unfold State.postCheck
    split <;> exact List.suffix_rfl
  | postPush => exact absurd rfl hpush
  | postStart =>
    unfold State.postStart
    dsimp only
    split
    · rw [WriteChain.queue_setupHeader]
    · split
      · rw [WriteChain.queue_setupHeader]
      · rw [WriteChain.queue_writeHeader, WriteChain.queue_setupHeader]

/-- A connect leaves the post alone. -/
theorem startConnection_post (s : State) :
    s.startConnection.accepted = s.accepted ∧ s.startConnection.post = s.post := by
  unfold State.startConnection
  split
  · exact ⟨rfl, rfl⟩
  · dsimp only
    split <;> exact ⟨rfl, rfl⟩

/-- So does its handler. -/
theorem onConnect_post (s : State) (ec : Bool) :
    (s.onConnect ec).accepted = s.accepted ∧ (s.onConnect ec).post = s.post := by
  unfold State.onConnect
  split
  · exact ⟨rfl, rfl⟩
  split
  · exact startConnection_post s
  · split <;> exact ⟨rfl, rfl⟩

/-- What a step other than the first two of a `Post` leaves alone. -/
structure Quiet (s s' : State) : Prop where
  accepted : s'.accepted = s.accepted
  offered : sender.offered s' = sender.offered s
  returned : s.post = .returned → s'.post = .returned

/-- A step that leaves the post alone is quiet. -/
theorem Quiet.of_post {s s' : State} (h : s'.accepted = s.accepted ∧ s'.post = s.post) :
    Quiet s s' := by
  obtain ⟨haccepted, hpost⟩ := h
  refine ⟨haccepted, ?_, fun hreturned => ?_⟩
  · simp only [sender, hpost]
  · rw [hpost, hreturned]

/-- A step other than the first two of a `Post` accepts nothing, and leaves what is offered. -/
theorem quiet_of_step {s s' : State} {ev : Event} (hs : step s ev = some s')
    (hpush : ev ≠ .postPush) (hcheck : ∀ buffer, ev ≠ .postCheck buffer) : Quiet s s' := by
  cases Step.of_step hs with
  | start =>
    unfold State.start
    split
    · exact .of_post (startConnection_post { s with is_stopped := false })
    · exact .of_post ⟨rfl, rfl⟩
  | stop =>
    unfold State.stop
    split <;> exact .of_post ⟨rfl, rfl⟩
  | @connectCompletes socket ec =>
    exact .of_post (onConnect_post { s with connects := s.connects.erase socket } ec)
  | transmit | fail => exact .of_post ⟨rfl, rfl⟩
  | @handle send result =>
    exact .of_post (onSend_post { s with chain := s.chain.finish send } send result)
  | postCheck => exact absurd rfl (hcheck _)
  | postPush => exact absurd rfl hpush
  | postStart hpost =>
    have hnone : sender.offered s = [] := by simp only [sender, hpost]
    have hreturned : s.post = .returned → s.postStart.post = .returned := by
      intro hreturned
      rw [hpost] at hreturned
      cases hreturned
    refine ⟨?_, ?_, hreturned⟩
    · unfold State.postStart
      dsimp only
      split
      · rfl
      · split <;> rfl
    · rw [hnone]
      unfold State.postStart
      dsimp only
      split
      · rfl
      · split <;> rfl

end CameraClient

end AugmentedNormalcy.Tcp
