import AugmentedNormalcy.Websocket.WebsocketClient

/-!
# What `onRead` parses

`_read_buffer` outlives the connections of a client. Beast appends each message to it, `onRead`
parses all of it, and takes the message out again only when the manager has accepted it: every other
exit of `onRead` leaves the bytes there, and `startConnection` does not clear them. So the messages
of a run are parsed alone exactly when none is parsed after a read that left its bytes behind
(`along_parsesAlone_iff`). -/

namespace AugmentedNormalcy.Websocket

open StepSystem

/-- `onRead` parses the buffer. -/
def Parses (s : WebsocketClient) : Event → Prop
  | .complete op c => op.kind = .read ∧ s.is_stopped = false ∧
    op.session_number = s.session_number ∧
      c.ec = false ∧ c.received ≠ []
  | _ => False

/-- When `onRead` parses the buffer, it holds the message that was just received. -/
def ParsesAlone (s : WebsocketClient) : Event → Prop
  | .complete op c => Parses s (.complete op c) → s.read_buffer ++ c.received = c.received
  | _ => True

/-- A read ends with bytes that `onRead` does not take out of the buffer: the read has failed, the
session is over, or the message is not JSON or is refused. -/
def Leaves (s : WebsocketClient) : Event → Prop
  | .complete op c => op.kind = .read ∧ c.received ≠ [] ∧
      (s.is_stopped = true ∨ op.session_number ≠ s.session_number ∨ c.ec = true ∨
        c.accepted = false)
  | _ => False

instance (s : WebsocketClient) : ∀ e, Decidable (Parses s e)
  | .complete op c => inferInstanceAs (Decidable (op.kind = .read ∧ s.is_stopped = false ∧
      op.session_number = s.session_number ∧ c.ec = false ∧ c.received ≠ []))
  | .start | .stop _ | .post _ | .write => isFalse id

instance (s : WebsocketClient) : ∀ e, Decidable (ParsesAlone s e)
  | .complete op c => inferInstanceAs
      (Decidable (Parses s (.complete op c) → s.read_buffer ++ c.received = c.received))
  | .start | .stop _ | .post _ | .write => isTrue trivial

/-- From the first read on that leaves its bytes behind, no message is parsed. -/
def QuietAfterLeaving (s : WebsocketClient) : List Event → Prop
  | [] => True
  | e :: es => ∀ s', step s e = some s' →
      (Leaves s e → Along step (fun s e => ¬ Parses s e) s' es) ∧
        (¬ Leaves s e → QuietAfterLeaving s' es)

/-! ## What the handlers do to the buffer -/

namespace WebsocketClient

variable (s : WebsocketClient) (n : ℕ)

/-- Only a read that ends touches the buffer: starting an operation does not. -/
@[simp]
theorem read_buffer_startOperation (kind : OperationKind) :
    (s.startOperation kind n).read_buffer = s.read_buffer := by
  unfold startOperation
  split <;> rfl

/-- Nor does a connect. -/
@[simp]
theorem read_buffer_startConnection : (s.startConnection n).read_buffer = s.read_buffer := by
  unfold startConnection
  split_ifs <;> simp

/-- Nor a disconnect. -/
@[simp]
theorem read_buffer_disconnect (is_open : Bool) :
    (s.disconnect n is_open).read_buffer = s.read_buffer := by
  unfold disconnect
  dsimp only
  split_ifs <;> simp

/-- Nor the handler of a close. -/
@[simp]
theorem read_buffer_onDisconnect : (s.onDisconnect n).read_buffer = s.read_buffer := by
  unfold onDisconnect
  split_ifs <;> simp

/-- Nor the handler of a connect. -/
@[simp]
theorem read_buffer_onConnection (ec : Bool) :
    (s.onConnection n ec).read_buffer = s.read_buffer := by
  unfold onConnection
  split_ifs <;> simp

/-- Nor asking for a message. -/
@[simp]
theorem read_buffer_read : (s.read n).read_buffer = s.read_buffer := by
  unfold read
  split_ifs <;> simp

/-- Nor a write. -/
@[simp]
theorem read_buffer_doWrite : (s.doWrite n).read_buffer = s.read_buffer := by
  unfold doWrite
  split_ifs
  · rfl
  · split <;> simp

/-- Nor the handler of a handshake. -/
@[simp]
theorem read_buffer_onHandshake (ec is_open : Bool) :
    (s.onHandshake n ec is_open).read_buffer = s.read_buffer := by
  unfold onHandshake
  dsimp only
  split_ifs <;> simp

/-- Nor the handler of a write. -/
@[simp]
theorem read_buffer_onWrite (ec : Bool) (bytes_transferred : ℕ) (is_open : Bool) :
    (s.onWrite n ec bytes_transferred is_open).read_buffer = s.read_buffer := by
  unfold onWrite
  dsimp only
  split_ifs
  all_goals try split
  all_goals try split_ifs
  all_goals simp

/-- Nor the posted write. -/
@[simp]
theorem read_buffer_write (message : Message) : (s.write message).read_buffer = s.read_buffer := by
  unfold write
  dsimp only
  split_ifs <;> simp

/-- Nor `Start`. -/
@[simp]
theorem read_buffer_start : s.start.read_buffer = s.read_buffer := by
  unfold start
  split_ifs <;> simp

/-- Nor `Stop`. -/
@[simp]
theorem read_buffer_stop (shutdown_throws : Bool) :
    (s.stop shutdown_throws).read_buffer = s.read_buffer := by
  unfold stop
  dsimp only
  split_ifs <;> rfl

/-- Nor a post. -/
@[simp]
theorem read_buffer_postWebsocketClientMessage (data : List UInt8) :
    (s.postWebsocketClientMessage data).read_buffer = s.read_buffer := by
  unfold postWebsocketClientMessage
  split_ifs <;> rfl

/-- `onRead` takes the message out when it gets as far as having it accepted. -/
theorem read_buffer_onRead (ec : Bool) (bytes_transferred : ℕ) (accepted is_open : Bool) :
    (s.onRead n ec bytes_transferred accepted is_open).read_buffer =
      if s.is_stopped = false ∧ n = s.session_number ∧ ec = false ∧ accepted = true then
        s.read_buffer.drop bytes_transferred
      else s.read_buffer := by
  unfold onRead
  split_ifs <;> simp_all

end WebsocketClient

/-! ## The buffer along a run -/

variable {s s' : WebsocketClient} {e : Event}

/-- A step appends what it receives, if anything, and takes as many bytes out again unless it leaves
them. -/
theorem read_buffer_step (hs : step s e = some s') : ∃ received : List UInt8,
    (Leaves s e ∧ received ≠ [] ∧ s'.read_buffer = s.read_buffer ++ received) ∨
      (¬ Leaves s e ∧ s'.read_buffer = (s.read_buffer ++ received).drop received.length) := by
  have hnone : ¬ Leaves s e → s'.read_buffer = s.read_buffer → ∃ received : List UInt8,
      (Leaves s e ∧ received ≠ [] ∧ s'.read_buffer = s.read_buffer ++ received) ∨
        (¬ Leaves s e ∧ s'.read_buffer = (s.read_buffer ++ received).drop received.length) :=
    fun hleaves heq => ⟨[], .inr ⟨hleaves, by simpa using heq⟩⟩
  cases Step.of_step hs with
  | start => exact hnone id (by simp)
  | stop => exact hnone id (by simp)
  | post => exact hnone id (by simp)
  | write => exact hnone id (by simp)
  | @complete op hop c =>
    obtain ⟨kind, n, stream⟩ := op
    cases kind with
    | connect => exact hnone (by simp [Leaves]) (by simp [complete_connect, WebsocketClient.finish])
    | handshake =>
      refine hnone (by simp [Leaves]) ?_
      rw [complete_handshake]
      split_ifs <;> simp [WebsocketClient.finish]
    | write message handshaken =>
      exact hnone (by simp [Leaves]) (by simp [complete_write, WebsocketClient.finish])
    | close => exact hnone (by simp [Leaves]) (by simp [complete_close, WebsocketClient.finish])
    | read =>
      refine ⟨c.received, ?_⟩
      rw [complete_read, WebsocketClient.read_buffer_onRead]
      by_cases hgood : s.is_stopped = false ∧ n = s.session_number ∧ c.ec = false ∧
          c.accepted = true
      · -- The message is accepted, and `onRead` consumes it.
        refine .inr ⟨?_, if_pos hgood⟩
        simp [Leaves, hgood]
      · rw [if_neg (by exact hgood)]
        by_cases hreceived : c.received = []
        · exact .inr ⟨by simp [Leaves, hreceived], by simp [hreceived, WebsocketClient.finish]⟩
        · refine .inl ⟨⟨rfl, hreceived, ?_⟩, hreceived, rfl⟩
          -- Some test of `onRead` fails.
          dsimp only
          by_contra hnot
          simp only [not_or, Bool.not_eq_true, not_not, Bool.not_eq_false] at hnot
          exact hgood hnot

/-- Nothing that was in the buffer before a message gets out without another message coming in. -/
theorem read_buffer_ne_nil (h : s.read_buffer ≠ []) (hs : step s e = some s') :
    s'.read_buffer ≠ [] := by
  obtain ⟨received, ⟨-, -, heq⟩ | ⟨-, heq⟩⟩ := read_buffer_step hs
  · simp [heq, h]
  · have hpos := List.length_pos_of_ne_nil h
    apply List.ne_nil_of_length_pos
    rw [heq, List.length_drop, List.length_append]
    omega

/-- A message that is left behind is in the buffer afterwards. -/
theorem read_buffer_ne_nil_of_leaves (h : Leaves s e) (hs : step s e = some s') :
    s'.read_buffer ≠ [] := by
  obtain ⟨received, ⟨-, hne, heq⟩ | ⟨hnot, -⟩⟩ := read_buffer_step hs
  · simp [heq, hne]
  · exact absurd h hnot

/-- And an empty buffer stays empty when none is left. -/
theorem read_buffer_eq_nil (h : s.read_buffer = []) (hleaves : ¬ Leaves s e)
    (hs : step s e = some s') : s'.read_buffer = [] := by
  obtain ⟨received, ⟨hnot, -⟩ | ⟨-, heq⟩⟩ := read_buffer_step hs
  · exact absurd hnot hleaves
  · simp [heq, h]

/-- With an empty buffer, the next message is parsed alone. -/
theorem parsesAlone_of_nil (h : s.read_buffer = []) : ParsesAlone s e := by
  cases e with
  | complete op c =>
    intro _
    rw [h, List.nil_append]
  | _ => trivial

/-- With bytes left in the buffer, no message is. -/
theorem parsesAlone_iff_of_ne_nil (h : s.read_buffer ≠ []) : ParsesAlone s e ↔ ¬ Parses s e := by
  cases e with
  | complete op c =>
    have hne : s.read_buffer ++ c.received ≠ c.received := by simpa using h
    simp [ParsesAlone, hne]
  | _ => exact ⟨fun _ => id, fun _ => trivial⟩

/-- Bytes in the buffer stay, so from there on the messages are parsed alone only if none is. -/
theorem along_parsesAlone_iff_of_ne_nil (es : List Event) : ∀ {s : WebsocketClient},
    s.read_buffer ≠ [] →
      (Along step ParsesAlone s es ↔ Along step (fun s e => ¬ Parses s e) s es) := by
  induction es with
  | nil => exact fun _ => Iff.rfl
  | cons e es ih =>
    intro s h
    refine forall_congr' fun s' => imp_congr_right fun hs => ?_
    rw [parsesAlone_iff_of_ne_nil h, ih (read_buffer_ne_nil h hs)]

/-- From an empty buffer, every message is parsed alone exactly when none is parsed after one that
was left. -/
theorem along_parsesAlone_iff_of_nil (es : List Event) : ∀ {s : WebsocketClient},
    s.read_buffer = [] → (Along step ParsesAlone s es ↔ QuietAfterLeaving s es) := by
  induction es with
  | nil => exact fun _ => Iff.rfl
  | cons e es ih =>
    intro s h
    refine forall_congr' fun s' => imp_congr_right fun hs => ?_
    simp only [parsesAlone_of_nil h, true_and]
    by_cases hleaves : Leaves s e
    · rw [along_parsesAlone_iff_of_ne_nil es (read_buffer_ne_nil_of_leaves hleaves hs)]
      simp [hleaves]
    · rw [ih (read_buffer_eq_nil h hleaves hs)]
      simp [hleaves]

/-- In a run, every message is parsed alone exactly when none is parsed after a read that left its
bytes in the buffer: a read that failed with some bytes, that ended after its session, or whose
message was not JSON or was refused. -/
theorem along_parsesAlone_iff (es : List Event) :
    Along step ParsesAlone initial es ↔ QuietAfterLeaving initial es :=
  along_parsesAlone_iff_of_nil es rfl

/-- A message that is not JSON, a reconnect, and a message that is. -/
def refusedRun : List Event :=
  [.start, .complete ⟨.connect, 0, 0⟩ ⟨false, 0, [], false, true⟩,
    .complete ⟨.handshake, 0, 0⟩ ⟨false, 0, [], false, true⟩,
    .complete ⟨.read, 0, 0⟩ ⟨false, 0, [0x7b], false, true⟩,
    .complete ⟨.close, 1, 0⟩ ⟨false, 0, [], false, false⟩,
    .complete ⟨.connect, 1, 1⟩ ⟨false, 0, [], false, true⟩,
    .complete ⟨.handshake, 1, 1⟩ ⟨false, 0, [], false, true⟩,
    .complete ⟨.read, 1, 1⟩ ⟨false, 0, [0x7b, 0x7d], false, true⟩]

/-- The second message is parsed with the first one before it. -/
theorem not_along_parsesAlone : ¬ ∀ es, Along step Beast initial es →
    Along step ParsesAlone initial es := by
  intro h
  exact absurd (h refusedRun (by decide)) (by decide)

end AugmentedNormalcy.Websocket
