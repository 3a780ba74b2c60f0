import AugmentedNormalcy.Websocket.WebsocketServer

/-!
# The reads of a websocket session

`WebsocketSession` of `src/internal/infrastructure/websocket/websocket_server.cpp`, from `Start` to
the last read. Its strand runs one handler at a time; `TryClose(false)` clears `_is_live` from
another thread at any time, also while `onRead` runs. Beast appends a message to `_read_buffer`, and
`onRead` parses all that is there and takes it out again once the manager has accepted it.

The session closes itself whenever bytes stay behind, so each message is parsed alone, and those
that the manager accepts are the first ones that have come in (`Answers`). `PostMessage` and
`onWrite` have no caller, and are left out. -/

namespace AugmentedNormalcy.Websocket

namespace WebsocketSession

/-- The handler that runs, or the operation that is outstanding. -/
inductive Job where
  /-- `Start` has dispatched `onStart`. -/
  | starting
  | accepting
  | reading
  /-- `onRead` has a message, and has found `_is_live` set. -/
  | parsing (bytes_transferred : ℕ)
  /-- `PostWebsocketMessage` has returned true. -/
  | answered (bytes_transferred : ℕ)
  | ended
deriving DecidableEq

/-- The members that the handlers use. -/
structure State where
  is_live : Bool
  job : Job
  read_buffer : List UInt8
deriving DecidableEq

namespace State

/-- A session that `handleConnection` has started. -/
def initial : State := ⟨true, .starting, []⟩

variable (s : State)

/-- Nothing more is started. -/
def ended : State := { s with job := .ended }

/-- `TryClose`, without the close of the stream and the call of `destroySession`. -/
def tryClose : State := { s with is_live := false }

def onStart : State := if s.is_live then { s with job := .accepting } else s.ended

def read : State := if s.is_live then { s with job := .reading } else s.ended

def onAccept (ec : Bool) : State :=
  if s.is_live = false then s.ended else if ec then s.tryClose.ended else s.read

/-- `onRead`, up to the parse. -/
def onRead (ec : Bool) (received : List UInt8) : State :=
  let s := { s with read_buffer := s.read_buffer ++ received }
  if s.is_live = false then s.ended
  else if ec then s.tryClose.ended
  else if received = [] then s.read
  else { s with job := .parsing received.length }

/-- `onRead`, once `PostWebsocketMessage` has returned `success`, or the parse has thrown. -/
def onPosted (bytes_transferred : ℕ) (success : Bool) : State :=
  if success then { s with job := .answered bytes_transferred } else s.tryClose.ended

/-- The end of `onRead`, for a message that was accepted. -/
def consume (bytes_transferred : ℕ) : State :=
  { s with read_buffer := s.read_buffer.drop bytes_transferred }.read

end State

/-- A session, and the messages of its client. -/
structure Connection where
  state : State
  /-- The messages that have not been read. -/
  wire : List (List UInt8)
  /-- The messages that were read. -/
  taken : List (List UInt8)

/-- A connection that was just accepted. -/
def Connection.initial : Connection := ⟨.initial, [], []⟩

/-- What may happen on a connection, apart from the call of `PostWebsocketMessage`. -/
inductive Event where
  /-- The client writes a message. One without content would be read as a ping is. -/
  | writes (message : List UInt8)
  | onStart
  | onAccept (ec : Bool)
  /-- `async_read` completes: with the next message, with no bytes (a ping), or with an error and
  some bytes. -/
  | onRead (ec : Bool) (received : List UInt8)
  /-- The end of `onRead`. -/
  | consume
  /-- `TryClose(false)`, on another thread. -/
  | tryClose

namespace Connection

def step (c : Connection) : Event → Option Connection
  | .writes message => if message = [] then none else some { c with wire := c.wire ++ [message] }
  | .onStart =>
    match c.state.job with
    | .starting => some { c with state := c.state.onStart }
    | _ => none
  | .onAccept ec =>
    match c.state.job with
    | .accepting => some { c with state := c.state.onAccept ec }
    | _ => none
  | .onRead ec received =>
    match c.state.job with
    | .reading =>
      if ec ∨ received = [] then some { c with state := c.state.onRead ec received }
      else
        match c.wire with
        | [] => none
        | message :: wire =>
          if received = message then some ⟨c.state.onRead ec message, wire, c.taken ++ [message]⟩
          else none
    | _ => none
  | .consume =>
    match c.state.job with
    | .answered bytes_transferred => some { c with state := c.state.consume bytes_transferred }
    | _ => none
  | .tryClose => some { c with state := c.state.tryClose }

/-- The call of `PostWebsocketMessage` in `onRead`, with the answer of `accepts` to the bytes in the
buffer. -/
def post (accepts : List UInt8 → Bool) (c : Connection) : Option Connection :=
  match c.state.job with
  | .parsing bytes_transferred =>
    some { c with state := c.state.onPosted bytes_transferred (accepts c.state.read_buffer) }
  | _ => none

/-- What each step finds, and what it leaves. -/
inductive Step (c : Connection) : Event → Connection → Prop
  | writes {message : List UInt8} (hmessage : message ≠ []) :
    Step c (.writes message) { c with wire := c.wire ++ [message] }
  | onStart (hjob : c.state.job = .starting) : Step c .onStart { c with state := c.state.onStart }
  | onAccept {ec : Bool} (hjob : c.state.job = .accepting) :
    Step c (.onAccept ec) { c with state := c.state.onAccept ec }
  | onReadNothing {ec : Bool} {received : List UInt8} (hjob : c.state.job = .reading)
      (hnothing : ec = true ∨ received = []) :
    Step c (.onRead ec received) { c with state := c.state.onRead ec received }
  | onReadMessage {message : List UInt8} {wire : List (List UInt8)} (hjob : c.state.job = .reading)
      (hmessage : message ≠ []) (hwire : c.wire = message :: wire) :
    Step c (.onRead false message) ⟨c.state.onRead false message, wire, c.taken ++ [message]⟩
  | consume {bytes_transferred : ℕ} (hjob : c.state.job = .answered bytes_transferred) :
    Step c .consume { c with state := c.state.consume bytes_transferred }
  | tryClose : Step c .tryClose { c with state := c.state.tryClose }

theorem Step.of_step {c c' : Connection} {ev : Event} (hs : c.step ev = some c') :
    Step c ev c' := by
  unfold Connection.step at hs
  cases ev with
  | writes message =>
    obtain ⟨hmessage, ⟨⟩⟩ := Option.ite_none_left_eq_some.mp hs
    exact .writes hmessage
  | onStart =>
    dsimp only at hs
    split at hs <;> cases hs
    exact .onStart ‹_›
  | onAccept ec =>
    dsimp only at hs
    split at hs <;> cases hs
    exact .onAccept ‹_›
  | onRead ec received =>
    dsimp only at hs
    split at hs
    · rename_i hjob
      split_ifs at hs with hnothing
      · cases hs
        exact .onReadNothing hjob hnothing
      · obtain ⟨hec, hreceived⟩ := not_or.mp hnothing
        split at hs
        · cases hs
        · rename_i message wire hwire
          obtain ⟨rfl, ⟨⟩⟩ := Option.ite_none_right_eq_some.mp hs
          cases ec with
          | true => exact absurd rfl hec
          | false => exact .onReadMessage hjob hreceived hwire
    · cases hs
  | consume =>
    dsimp only at hs
    split at hs <;> cases hs
    exact .consume ‹_›
  | tryClose =>
    cases hs
    exact .tryClose

end Connection

/-! ## The messages that are answered -/

/-- How far a session has got when the manager has accepted the messages `accepted`: these are the
first ones that were read, and while the session reads, all of them; then the buffer is empty. -/
def Answers (accepted : List (List UInt8)) (c : Connection) : Prop :=
  match c.state.job with
  | .starting | .accepting | .reading => c.state.read_buffer = [] ∧ accepted = c.taken
  | .parsing bytes_transferred => c.state.read_buffer.length = bytes_transferred ∧
    accepted ++ [c.state.read_buffer] = c.taken
  | .answered bytes_transferred => c.state.read_buffer.length = bytes_transferred ∧
    accepted = c.taken
  | .ended => accepted <+: c.taken

namespace Answers

variable {accepted : List (List UInt8)} {c c' : Connection}

theorem initial : Answers [] .initial := ⟨rfl, rfl⟩

/-- What was accepted has been read. -/
theorem isPrefix (h : Answers accepted c) : accepted <+: c.taken := by
  unfold Answers at h
  cases hjob : c.state.job with
  | starting | accepting | reading =>
    rw [hjob] at h
    exact h.2 ▸ List.prefix_rfl
  | parsing n =>
    rw [hjob] at h
    exact ⟨_, h.2⟩
  | answered n =>
    rw [hjob] at h
    exact h.2 ▸ List.prefix_rfl
  | ended =>
    rw [hjob] at h
    exact h

theorem ended (h : accepted <+: c.taken) (hjob : c.state.job = .ended) : Answers accepted c := by
  unfold Answers
  rw [hjob]
  exact h

/-- The session goes on to read, or ends. -/
theorem read {s : State} {wire taken : List (List UInt8)} (hbuffer : s.read_buffer = [])
    (haccepted : accepted = taken) : Answers accepted ⟨s.read, wire, taken⟩ := by
  unfold State.read
  split_ifs
  · exact ⟨hbuffer, haccepted⟩
  · exact ended (haccepted ▸ List.prefix_rfl) rfl

/-- A step accepts nothing, and loses no message. -/
theorem step {ev : Event} (h : Answers accepted c) (hs : c.step ev = some c') :
    Answers accepted c' := by
  have hinitial := h.isPrefix
  unfold Answers at h
  cases Connection.Step.of_step hs with
  | writes => exact h
  | onStart hjob =>
    rw [hjob] at h
    unfold State.onStart
    split_ifs
    · exact h
    · exact ended hinitial rfl
  | onAccept hjob =>
    rw [hjob] at h
    unfold State.onAccept
    split_ifs
    · exact ended hinitial rfl
    · exact ended hinitial rfl
    · exact read h.1 h.2
  | onReadNothing hjob hnothing =>
    rw [hjob] at h
    unfold State.onRead
    dsimp only
    split_ifs with hlive hec hreceived
    · exact ended hinitial rfl
    · exact ended hinitial rfl
    · refine read ?_ h.2
      rw [hreceived, List.append_nil]
      exact h.1
    · exact absurd (hnothing.resolve_left hec) hreceived
  | @onReadMessage message wire hjob hmessage hwire =>
    rw [hjob] at h
    have htaken : accepted <+: c.taken ++ [message] := hinitial.trans (List.prefix_append ..)
    unfold State.onRead
    dsimp only
    rw [if_neg Bool.false_ne_true, if_neg hmessage]
    split_ifs
    · exact ended htaken rfl
    · -- The buffer was empty, so the message is alone in it.
      refine ⟨?_, ?_⟩
      · dsimp only
        rw [h.1, List.nil_append]
      · dsimp only
        rw [h.1, List.nil_append, h.2]
  | consume hjob =>
    rw [hjob] at h
    refine read ?_ h.2
    rw [← h.1, List.drop_length]
  | tryClose => exact h

/-- `PostWebsocketMessage` gets the message that was read last, alone, and after all before it were
accepted. -/
theorem post {accepts : List UInt8 → Bool} (h : Answers accepted c)
    (hs : c.post accepts = some c') :
    accepted ++ [c.state.read_buffer] = c.taken ∧ c'.taken = c.taken ∧ c'.wire = c.wire ∧
      Answers (if accepts c.state.read_buffer then accepted ++ [c.state.read_buffer]
        else accepted) c' := by
  unfold Connection.post at hs
  split at hs
  · rename_i n hjob
    cases hs
    unfold Answers at h
    rw [hjob] at h
    refine ⟨h.2, rfl, rfl, ?_⟩
    unfold State.onPosted
    split_ifs
    · exact ⟨h.1, h.2⟩
    · exact ended ⟨_, h.2⟩ rfl
  · cases hs

end Answers

/-! ## After the close -/

/-- The session has been closed, and hands nothing over any more. -/
def Silent (c : Connection) : Prop :=
  c.state.is_live = false ∧ ∀ bytes_transferred, c.state.job ≠ .parsing bytes_transferred

theorem Silent.post_eq_none {c : Connection} (h : Silent c) (accepts : List UInt8 → Bool) :
    c.post accepts = none := by
  unfold Connection.post
  split
  · exact absurd ‹_› (h.2 _)
  · rfl

theorem is_live_step {c c' : Connection} {ev : Event} (h : c.state.is_live = false)
    (hs : c.step ev = some c') : c'.state.is_live = false := by
  have hread : ∀ s : State, s.is_live = false → s.read.is_live = false := by
    intro s hs
    unfold State.read
    split_ifs
    · exact hs
    · exact hs
  cases Connection.Step.of_step hs with
  | writes => exact h
  | onStart =>
    unfold State.onStart
    rw [h, if_neg Bool.false_ne_true]
    exact h
  | onAccept =>
    unfold State.onAccept
    rw [if_pos h]
    exact h
  | onReadNothing | onReadMessage =>
    unfold State.onRead
    dsimp only
    rw [if_pos h]
    exact h
  | consume => exact hread _ h
  | tryClose => rfl

/-- The answer to a message is the last of a session that was closed. -/
theorem Silent.of_post {c c' : Connection} {accepts : List UInt8 → Bool}
    (h : c.state.is_live = false) (hs : c.post accepts = some c') : Silent c' := by
  unfold Connection.post at hs
  split at hs
  · cases hs
    unfold State.onPosted
    split_ifs
    · exact ⟨h, nofun⟩
    · exact ⟨rfl, nofun⟩
  · cases hs

/-- `PostWebsocketMessage` is called while `onRead` parses. -/
theorem parsing_of_post {c c' : Connection} {accepts : List UInt8 → Bool}
    (hs : c.post accepts = some c') :
    ∃ bytes_transferred, c.state.job = .parsing bytes_transferred := by
  unfold Connection.post at hs
  split at hs
  · exact ⟨_, ‹_›⟩
  · cases hs

/-- A closed session starts to parse nothing: what it parses after a step, it has parsed before. -/
theorem parsing_of_step {c c' : Connection} {ev : Event} {bytes_transferred : ℕ}
    (h : c.state.is_live = false) (hs : c.step ev = some c')
    (hjob : c'.state.job = .parsing bytes_transferred) :
    c.state.job = .parsing bytes_transferred ∧ c'.state.read_buffer = c.state.read_buffer := by
  have hended : ∀ s : State, s.is_live = false → s.read.job ≠ .parsing bytes_transferred := by
    intro s hs
    unfold State.read
    rw [hs, if_neg Bool.false_ne_true]
    exact Job.noConfusion
  cases Connection.Step.of_step hs with
  | writes => exact ⟨hjob, rfl⟩
  | onStart =>
    unfold State.onStart at hjob
    rw [h, if_neg Bool.false_ne_true] at hjob
    cases hjob
  | onAccept =>
    unfold State.onAccept at hjob
    rw [if_pos h] at hjob
    cases hjob
  | onReadNothing | onReadMessage =>
    unfold State.onRead at hjob
    dsimp only at hjob
    rw [if_pos h] at hjob
    cases hjob
  | consume => exact absurd hjob (hended _ h)
  | tryClose => exact ⟨hjob, rfl⟩

theorem Silent.step {c c' : Connection} {ev : Event} (h : Silent c) (hs : c.step ev = some c') :
    Silent c' :=
  ⟨is_live_step h.1 hs, fun n hjob => h.2 n (parsing_of_step h.1 hs hjob).1⟩

end WebsocketSession

end AugmentedNormalcy.Websocket
