import AugmentedNormalcy.Foundation.Run
import AugmentedNormalcy.Tcp.Receiver

/-!
# `TcpClient` on a headset or a display

The connection and the read side of `tcp_client.cpp`, after the one call of `Start`. The steps are
the handlers of the strand: those of `async_connect` and `async_receive`, that of the read timer
with success, and the one that `Stop` posts. Handlers that are queued run in any order. An operation
has its result before its handler runs; a disconnect aborts the operations of its socket that have
no result yet. Cancelling the timer or setting it again does not retract a handler that is already
queued.

No handler carries a tag of the connection it belongs to. A timer that expired just before a read
error was handled disconnects the client a second time, while it is connecting: the attempt is
aborted and a new one is made, and the handler of the aborted one makes another.
-/

namespace AugmentedNormalcy.Tcp

open Bytes StepSystem

namespace HeadsetClient

inductive ErrorCode where
  | success
  | failure
  | operation_aborted
deriving DecidableEq

/-- An `async_connect` whose handler has not run, with the result once it is known. -/
structure Connect where
  socket : ℕ
  result : Option ErrorCode
deriving DecidableEq

/-- An `async_receive` whose handler has not run, with how many bytes it asks for, and its result
once it is known: the error code and the bytes received. -/
structure Read where
  receive : Receive
  socket : ℕ
  length : ℕ
  result : Option (ErrorCode × ℕ)
deriving DecidableEq

structure State where
  header : PacketHeader
  /-- `_receive_buffer` is not null. What is in it makes no difference here. -/
  receive_buffer : Bool
  is_stopped : Bool
  is_connected : Bool
  /-- The socket that `_socket` points to. -/
  socket : Option ℕ
  /-- How many sockets were constructed: the next one gets this number. -/
  sockets : ℕ
  connects : List Connect
  reads : List Read
  /-- The read timer is waiting. -/
  timer_armed : Bool
  /-- How many handlers of the read timer are queued with success. -/
  timers_fired : ℕ
  /-- The handler that `Stop` posted has not run. -/
  stopping : Bool
  /-- `_is_connected` at each `async_connect`. -/
  attempts : List Bool
  /-- A null pointer was dereferenced. -/
  fault : Bool

namespace State

variable (s : State)

/-- The client has not been stopped and is connected. -/
def running : Bool := !s.is_stopped && s.is_connected

/-- `_timer.expires_after` and `async_wait`. -/
def startTimer : State := { s with timer_armed := true }

/-- `readHeader`. -/
def readHeader (last_bytes : ℕ) : State :=
  if s.running = false then s
  else
    match s.socket with
    | none => { s with fault := true }
    | some socket =>
      let s := s.startTimer
      { s with reads :=
          ⟨.readHeader last_bytes, socket, PacketHeader.size - last_bytes, none⟩ :: s.reads }

/-- `readBody`. -/
def readBody : State :=
  if s.running = false then s
  else
    match s.socket with
    | none => { s with fault := true }
    | some socket =>
      let s := { s with receive_buffer := true }.startTimer
      { s with reads := ⟨.readBody, socket, s.header.dataLength, none⟩ :: s.reads }

def startConnection : State :=
  if s.is_stopped then s
  else
    let s := { s with header := s.header.resetHeader, attempts := s.is_connected :: s.attempts }
    match s.socket with
    | some socket => { s with connects := ⟨socket, none⟩ :: s.connects }
    | none =>
      { s with
        socket := some s.sockets
        sockets := s.sockets + 1
        connects := ⟨s.sockets, none⟩ :: s.connects }

/-- The socket is reset: what it has not completed is aborted. -/
def abort (socket : ℕ) : State :=
  { s with
    connects := s.connects.map fun c =>
      if c.socket = socket ∧ c.result = none then { c with result := some .operation_aborted }
      else c
    reads := s.reads.map fun r =>
      if r.socket = socket ∧ r.result = none then
        { r with result := some (.operation_aborted, 0) }
      else r }

def disconnect : State :=
  let s := { s with is_connected := false }
  let s :=
    match s.socket with
    | some socket => { s.abort socket with socket := none }
    | none => s
  { s with receive_buffer := false }

def reconnect : State := s.disconnect.startConnection

/-- The completion handler of `async_connect`, with `startRead`. -/
def onConnect (ec : ErrorCode) : State :=
  if ec = .success ∧ s.is_stopped = false then
    match s.socket with
    | none => { s with fault := true }
    | some _ => { s with is_connected := true }.readHeader 0
  else if s.is_stopped = false then s.startConnection
  else s

/-- `_read_timer.cancel()`. -/
def cancelTimer : State := { s with timer_armed := false }

/-- The completion handler of `readHeader`. -/
def onHeader (last_bytes : ℕ) (ec : ErrorCode) (bytes_written : ℕ) : State :=
  if ec = .operation_aborted then s
  else
    let s := s.cancelTimer
    if s.running = false then s
    else
      let total_bytes := last_bytes + bytes_written
      if ec = .success ∧ total_bytes = PacketHeader.size ∧ s.header.ok then s.readBody
      else if ec = .success ∧ total_bytes < PacketHeader.size then s.readHeader total_bytes
      else s.reconnect

/-- The completion handler of `readBody`. -/
def onBody (ec : ErrorCode) (bytes_written : ℕ) : State :=
  if ec = .operation_aborted then s
  else
    let s := s.cancelTimer
    if s.running = false then s
    else if ec ≠ .success then s.reconnect
    else if bytes_written ≠ s.header.dataLength then
      { s with header := s.header.offsetPacket bytes_written }.readBody
    else
      let (header, finished) := s.header.isFinished
      let s := { s with header := header }
      if finished then
        if s.receive_buffer then
          { s with receive_buffer := false, header := s.header.resetHeader }.readHeader 0
        else { s with fault := true }
      else s.readHeader 0

/-- The completion handler of a receive. -/
def onRead (receive : Receive) (ec : ErrorCode) (bytes_written : ℕ) : State :=
  match receive with
  | .readHeader last_bytes => s.onHeader last_bytes ec bytes_written
  | .readBody => s.onBody ec bytes_written

/-- The bytes of a header go to `_header` when they are received. -/
def store (receive : Receive) (bytes : List UInt8) : State :=
  match receive with
  | .readHeader last_bytes =>
    { s with header := { s.header with data := overwrite s.header.data last_bytes bytes } }
  | .readBody => s

end State

/-- The client that `Start` has just been called on. -/
def initial (header : PacketHeader) : State :=
  State.startConnection
    { header := header
      receive_buffer := false
      is_stopped := false
      is_connected := false
      socket := none
      sockets := 0
      connects := []
      reads := []
      timer_armed := false
      timers_fired := 0
      stopping := false
      attempts := []
      fault := false }

inductive Event where
  | connect (c : Connect) (ec : ErrorCode)
  | receive (r : Read) (bytes : List UInt8)
  | fail (r : Read)
  | handleConnect (c : Connect)
  | handleRead (r : Read)
  | timerExpires
  | runTimer
  | stop
  | runStop

/-- Nothing is said about what follows a fault. -/
def step (s : State) (e : Event) : Option State :=
  if s.fault then none
  else
    match e with
    | .connect c ec =>
      if c ∈ s.connects ∧ c.result = none ∧ ec ≠ .operation_aborted then
        some { s with connects := { c with result := some ec } :: s.connects.erase c }
      else none
    | .receive r bytes =>
      if r ∈ s.reads ∧ r.result = none ∧ Receiver.Completes r.length bytes then
        let s := s.store r.receive bytes
        some { s with reads :=
          { r with result := some (.success, bytes.length) } :: s.reads.erase r }
      else none
    | .fail r =>
      if r ∈ s.reads ∧ r.result = none then
        some { s with reads := { r with result := some (.failure, 0) } :: s.reads.erase r }
      else none
    | .handleConnect c =>
      match c.result with
      | none => none
      | some ec =>
        if c ∈ s.connects then some ({ s with connects := s.connects.erase c }.onConnect ec)
        else none
    | .handleRead r =>
      match r.result with
      | none => none
      | some (ec, bytes_written) =>
        if r ∈ s.reads then
          some ({ s with reads := s.reads.erase r }.onRead r.receive ec bytes_written)
        else none
    | .timerExpires =>
      if s.timer_armed then
        some { s with timer_armed := false, timers_fired := s.timers_fired + 1 }
      else none
    | .runTimer =>
      if 0 < s.timers_fired then
        some { s with timers_fired := s.timers_fired - 1 }.reconnect
      else none
    | .stop => if s.is_stopped then none else some { s with is_stopped := true, stopping := true }
    | .runStop => if s.stopping then some { s with stopping := false }.disconnect else none

/-- At most one attempt is outstanding, and none was made while the client was connected. -/
def SingleAttempt (s : State) : Prop := s.connects.length ≤ 1 ∧ true ∉ s.attempts

/-- The handler of the read timer does not run while the client is between two connections. -/
def TimerInTime (s : State) : Event → Prop
  | .runTimer => s.is_stopped = true ∨ s.is_connected = true
  | _ => True

instance (s : State) : ∀ e, Decidable (TimerInTime s e)
  | .runTimer => inferInstanceAs (Decidable (_ ∨ _))
  | .connect _ _ | .receive _ _ | .fail _ | .handleConnect _ | .handleRead _ | .timerExpires
  | .stop | .runStop => isTrue trivial

/-! ## What the steps change -/

namespace State

variable {s : State}

/-- A disconnect does not stop the client. -/
@[simp]
theorem disconnect_is_stopped (s : State) : s.disconnect.is_stopped = s.is_stopped := by
  unfold disconnect
  dsimp only
  split <;> rfl

/-- It does end the connection. -/
@[simp]
theorem disconnect_is_connected (s : State) : s.disconnect.is_connected = false := by
  unfold disconnect
  dsimp only
  split <;> rfl

/-- It leaves a `Stop` where it is. -/
@[simp]
theorem disconnect_stopping (s : State) : s.disconnect.stopping = s.stopping := by
  unfold disconnect
  dsimp only
  split <;> rfl

/-- And it leaves the attempts to connect alone. -/
@[simp]
theorem disconnect_attempts (s : State) : s.disconnect.attempts = s.attempts := by
  unfold disconnect
  dsimp only
  split <;> rfl

/-- The handlers of attempts that are aborted are still to run. -/
@[simp]
theorem length_disconnect_connects (s : State) :
    s.disconnect.connects.length = s.connects.length := by
  unfold disconnect
  dsimp only
  split
  · exact List.length_map _
  · rfl

/-- A client that was stopped stays as it is. -/
theorem startConnection_of_stopped (hs : s.is_stopped = true) : s.startConnection = s := by
  unfold startConnection
  rw [if_pos hs]

/-- A client that was not stopped makes an attempt. -/
theorem startConnection_spec (hs : s.is_stopped = false) :
    s.startConnection.is_stopped = false ∧ s.startConnection.is_connected = s.is_connected ∧
      s.startConnection.stopping = s.stopping ∧ s.startConnection.socket ≠ none ∧
      s.startConnection.connects.length = s.connects.length + 1 ∧
      s.startConnection.attempts = s.is_connected :: s.attempts := by
  unfold startConnection
  rw [if_neg (by simp [hs])]
  dsimp only
  split
  · exact ⟨hs, rfl, rfl, by simp [*], rfl, rfl⟩
  · exact ⟨hs, rfl, rfl, by simp, rfl, rfl⟩

end State

/-- The two states agree on the connection and on the attempts to make it. -/
structure SameConnection (s s' : State) : Prop where
  is_stopped : s'.is_stopped = s.is_stopped
  is_connected : s'.is_connected = s.is_connected
  socket : s'.socket = s.socket
  connects : s'.connects = s.connects
  stopping : s'.stopping = s.stopping
  attempts : s'.attempts = s.attempts

namespace SameConnection

variable {s s' s'' : State}

/-- Doing nothing leaves the connection alone. -/
theorem refl (s : State) : SameConnection s s := ⟨rfl, rfl, rfl, rfl, rfl, rfl⟩

/-- So do two things one after the other that each do. -/
theorem trans (h : SameConnection s s') (h' : SameConnection s' s'') : SameConnection s s'' :=
  ⟨h'.1.trans h.1, h'.2.trans h.2, h'.3.trans h.3, h'.4.trans h.4, h'.5.trans h.5, h'.6.trans h.6⟩

/-- Asking for a header leaves the connection alone. -/
theorem readHeader (s : State) (last_bytes : ℕ) : SameConnection s (s.readHeader last_bytes) := by
  unfold State.readHeader
  split
  · exact refl s
  · split <;> exact ⟨rfl, rfl, rfl, rfl, rfl, rfl⟩

/-- So does asking for a body. -/
theorem readBody (s : State) : SameConnection s s.readBody := by
  unfold State.readBody
  split
  · exact refl s
  · split <;> exact ⟨rfl, rfl, rfl, rfl, rfl, rfl⟩

/-- So does storing what arrives. -/
theorem store (s : State) (receive : Receive) (bytes : List UInt8) :
    SameConnection s (s.store receive bytes) := by
  cases receive with
  | readHeader last_bytes => exact ⟨rfl, rfl, rfl, rfl, rfl, rfl⟩
  | readBody => exact refl s

end SameConnection

/-- The handler of a receive leaves the connection alone, or the client was running and
reconnects. -/
theorem onRead_cases (s : State) (receive : Receive) (ec : ErrorCode) (bytes_written : ℕ) :
    SameConnection s (s.onRead receive ec bytes_written) ∨
      s.running = true ∧ s.onRead receive ec bytes_written = s.cancelTimer.reconnect := by
  have hcancel : SameConnection s s.cancelTimer := ⟨rfl, rfl, rfl, rfl, rfl, rfl⟩
  have hrunning_eq : s.cancelTimer.running = s.running := rfl
  cases receive with
  | readHeader last_bytes =>
    simp only [State.onRead, State.onHeader, hrunning_eq]
    split_ifs with haborted hrunning hok hmore
    · exact .inl (.refl s)
    · exact .inl hcancel
    · exact .inl (hcancel.trans (.readBody _))
    · exact .inl (hcancel.trans (.readHeader _ _))
    · exact .inr ⟨by simpa using hrunning, rfl⟩
  | readBody =>
    have hheader (header : PacketHeader) (buffer : Bool) :
        SameConnection s { s.cancelTimer with header := header, receive_buffer := buffer } :=
      ⟨rfl, rfl, rfl, rfl, rfl, rfl⟩
    simp only [State.onRead, State.onBody, hrunning_eq]
    split_ifs with haborted hrunning hok hne hfinished hbuffer
    · exact .inl (.refl s)
    · exact .inl hcancel
    · exact .inr ⟨by simpa using hrunning, rfl⟩
    · exact .inl ((hheader _ _).trans (.readBody _))
    · exact .inl ((hheader _ _).trans (.readHeader _ _))
    · exact .inl ⟨rfl, rfl, rfl, rfl, rfl, rfl⟩
    · exact .inl ((hheader _ _).trans (.readHeader _ _))

/-! ## The invariant -/

structure Invariant (s : State) : Prop where
  /-- No attempt was made while the client was connected. -/
  disconnected : true ∉ s.attempts
  /-- A client that runs or wants to has a socket. -/
  opened : s.is_stopped = false → s.socket ≠ none
  /-- A client that was not stopped is connected or makes one attempt to be. -/
  attempting : s.is_stopped = false → s.connects.length = if s.is_connected then 0 else 1
  stopped : s.connects.length ≤ 1
  stopping : s.stopping = true → s.is_stopped = true

namespace Invariant

variable {s s' : State}

/-- The invariant says that there is one attempt at most. -/
theorem singleAttempt (h : Invariant s) : SingleAttempt s := ⟨h.stopped, h.disconnected⟩

/-- What leaves the connection alone keeps the invariant. -/
theorem of_same (h : Invariant s) (hs : SameConnection s s') : Invariant s' := by
  refine ⟨?_, ?_, ?_, ?_, ?_⟩
  · rw [hs.attempts]
    exact h.disconnected
  · rw [hs.is_stopped, hs.socket]
    exact h.opened
  · rw [hs.is_stopped, hs.connects, hs.is_connected]
    exact h.attempting
  · rw [hs.connects]
    exact h.stopped
  · rw [hs.stopping, hs.is_stopped]
    exact h.stopping

/-- An attempt is made while no other is. -/
theorem startConnection (hd : true ∉ s.attempts) (hs : s.is_stopped = false)
    (hstopping : s.stopping = true → s.is_stopped = true) (hc : s.is_connected = false)
    (hconnects : s.connects.length = 0) : Invariant s.startConnection := by
  obtain ⟨hstopped, hconnected, hstopping', hsocket, hlength, hattempts⟩ :=
    State.startConnection_spec hs
  rw [hc] at hconnected hattempts
  rw [hconnects] at hlength
  refine ⟨?_, fun _ => hsocket, fun _ => ?_, hlength.le, fun h => ?_⟩
  · rw [hattempts]
    simpa using hd
  · rw [hlength, hconnected]
    rfl
  · rw [hstopping'] at h
    simp [hstopping h] at hs

/-- A client that was stopped may be left with an attempt. -/
theorem of_stopped (hd : true ∉ s.attempts) (hs : s.is_stopped = true)
    (hconnects : s.connects.length ≤ 1) : Invariant s where
  disconnected := hd
  opened hf := by simp [hs] at hf
  attempting hf := by simp [hs] at hf
  stopped := hconnects
  stopping _ := hs

/-- A new client has made no attempt. -/
theorem initial (header : PacketHeader) : Invariant (initial header) :=
  startConnection (by simp) rfl (by simp) rfl rfl

/-- A disconnect of a client that was stopped. -/
theorem disconnect (h : Invariant s) (hs : s.is_stopped = true) : Invariant s.disconnect :=
  of_stopped (by simpa using h.disconnected) (by simpa using hs) (by simpa using h.stopped)

/-- A client that is connected, or was stopped, may reconnect. -/
theorem reconnect (h : Invariant s) (hc : s.is_stopped = true ∨ s.is_connected = true) :
    Invariant s.reconnect := by
  unfold State.reconnect
  cases hs : s.is_stopped with
  | true =>
    rw [State.startConnection_of_stopped (by simpa using hs)]
    exact h.disconnect hs
  | false =>
    have hconnected : s.is_connected = true := hc.resolve_left (by simp [hs])
    have hnone : s.connects.length = 0 := by
      rw [h.attempting hs, if_pos hconnected]
    refine startConnection ?_ ?_ ?_ (by simp) ?_
    · simpa using h.disconnected
    · simpa using hs
    · simpa using h.stopping
    · simpa using hnone

/-- A client that reconnects in the middle of an attempt makes two. -/
theorem reconnect_break (h : Invariant s) (hs : s.is_stopped = false)
    (hc : s.is_connected = false) : ¬ SingleAttempt s.reconnect := by
  have hone : s.connects.length = 1 := by
    rw [h.attempting hs, hc]
    rfl
  have hs' : s.disconnect.is_stopped = false := by simpa using hs
  obtain ⟨-, -, -, -, hlength, -⟩ := State.startConnection_spec hs'
  rintro ⟨hle, -⟩
  rw [State.reconnect, hlength, State.length_disconnect_connects, hone] at hle
  omega

/-- The handler of the one attempt runs: the client is connected, or makes the next attempt. -/
theorem onConnect (h : Invariant s) {c : Connect} (hmem : c ∈ s.connects) (ec : ErrorCode) :
    Invariant ({ s with connects := s.connects.erase c }.onConnect ec) := by
  have hle := h.stopped
  have hnone : (s.connects.erase c).length = 0 := by
    rw [List.length_erase_of_mem hmem]
    omega
  unfold State.onConnect
  by_cases hs : s.is_stopped = false
  · have hc : s.is_connected = false := by
      rw [← Bool.not_eq_true]
      intro hc
      have hzero := h.attempting hs
      rw [if_pos hc] at hzero
      exact List.ne_nil_of_mem hmem (List.length_eq_zero_iff.mp hzero)
    split
    · split
      · exact absurd ‹_› (h.opened hs)
      · have hconnected :
            Invariant { s with connects := s.connects.erase c, is_connected := true } :=
          ⟨h.disconnected, h.opened, fun _ => hnone, by simp only [hnone]; omega, h.stopping⟩
        exact hconnected.of_same (.readHeader _ 0)
    · exact startConnection h.disconnected hs h.stopping hc hnone
  · rw [if_neg fun hf => hs hf.2, if_neg hs]
    exact of_stopped h.disconnected (by simpa using hs) (by simp only [hnone]; omega)

/-- Every step with a timer in time keeps the invariant. -/
theorem step (h : Invariant s) {e : Event} (hcond : TimerInTime s e) (hs : step s e = some s') :
    Invariant s' := by
  unfold HeadsetClient.step at hs
  split at hs
  · cases hs
  cases e with
  | connect c ec =>
    dsimp only at hs
    split_ifs at hs with hc
    cases hs
    -- The attempt is the same one, with its outcome.
    have hlength :
        ({ c with result := some ec } :: s.connects.erase c).length = s.connects.length := by
      have := List.length_pos_of_mem hc.1
      rw [List.length_cons, List.length_erase_of_mem hc.1]
      omega
    exact ⟨h.disconnected, h.opened, fun hf => hlength.trans (h.attempting hf),
      hlength.trans_le h.stopped, h.stopping⟩
  | receive r bytes =>
    dsimp only at hs
    split_ifs at hs
    cases hs
    exact h.of_same ((SameConnection.store s r.receive bytes).trans ⟨rfl, rfl, rfl, rfl, rfl, rfl⟩)
  | fail r =>
    dsimp only at hs
    split_ifs at hs
    cases hs
    exact h.of_same ⟨rfl, rfl, rfl, rfl, rfl, rfl⟩
  | handleConnect c =>
    dsimp only at hs
    split at hs
    · cases hs
    split_ifs at hs with hmem
    cases hs
    exact h.onConnect hmem _
  | handleRead r =>
    dsimp only at hs
    split at hs
    · cases hs
    rename_i ec bytes_written hresult
    split_ifs at hs
    cases hs
    have h' : Invariant { s with reads := s.reads.erase r } :=
      h.of_same ⟨rfl, rfl, rfl, rfl, rfl, rfl⟩
    -- The handler goes on reading, or it reconnects a client that was connected.
    obtain hsame | ⟨hrunning, heq⟩ :=
      onRead_cases { s with reads := s.reads.erase r } r.receive ec bytes_written
    · exact h'.of_same hsame
    · rw [heq]
      refine reconnect (h'.of_same ⟨rfl, rfl, rfl, rfl, rfl, rfl⟩) (.inr ?_)
      simp only [State.running, Bool.and_eq_true] at hrunning
      exact hrunning.2
  | timerExpires =>
    dsimp only at hs
    split_ifs at hs
    cases hs
    exact h.of_same ⟨rfl, rfl, rfl, rfl, rfl, rfl⟩
  | runTimer =>
    dsimp only at hs
    split_ifs at hs
    cases hs
    exact reconnect (h.of_same ⟨rfl, rfl, rfl, rfl, rfl, rfl⟩) hcond
  | stop =>
    dsimp only at hs
    split_ifs at hs
    cases hs
    exact of_stopped h.disconnected rfl h.stopped
  | runStop =>
    dsimp only at hs
    split_ifs at hs with hstopping
    cases hs
    have h' : Invariant { s with stopping := false } :=
      ⟨h.disconnected, h.opened, h.attempting, h.stopped, fun hf => by cases hf⟩
    exact h'.disconnect (h.stopping hstopping)

/-- A handler of the timer that comes too late breaks the property at once. -/
theorem break_of_not (h : Invariant s) {e : Event} (hcond : ¬ TimerInTime s e)
    (hs : HeadsetClient.step s e = some s') : ¬ SingleAttempt s' := by
  unfold HeadsetClient.step at hs
  split at hs
  · cases hs
  cases e with
  | runTimer =>
    obtain ⟨hstopped, hconnected⟩ := not_or.mp hcond
    dsimp only at hs
    split_ifs at hs
    cases hs
    have h' : Invariant { s with timers_fired := s.timers_fired - 1 } :=
      h.of_same ⟨rfl, rfl, rfl, rfl, rfl, rfl⟩
    exact h'.reconnect_break (by simpa using hstopped) (by simpa using hconnected)
  | _ => exact absurd trivial hcond

end Invariant

/-! ## Every run -/

/-- At most one attempt is outstanding, and none is made on a connected client, in every state of a
run exactly when no handler of the read timer runs while the client is between two connections. -/
theorem throughout_singleAttempt_iff {header : PacketHeader} {es : List Event} :
    Throughout step SingleAttempt (initial header) es ↔
      Along step TimerInTime (initial header) es :=
  throughout_iff_along Invariant (fun _ h => h.singleAttempt)
    (fun _ _ _ h hcond hs => h.step hcond hs) (fun _ _ _ h hcond hs => h.break_of_not hcond hs)
    (.initial header)

/-- The timer of the first receive expires just before the receive fails. The handler of the receive
reconnects, and so does the handler of the timer. The handler of the aborted attempt makes a third
one. -/
def lateTimer : List Event :=
  [.connect ⟨0, none⟩ .success, .handleConnect ⟨0, some .success⟩, .timerExpires,
   .fail ⟨.readHeader 0, 0, 24, none⟩, .handleRead ⟨.readHeader 0, 0, 24, some (.failure, 0)⟩,
   .runTimer, .handleConnect ⟨1, some .operation_aborted⟩]

/-- One of the two attempts succeeds, and the other fails. -/
def lateConnect : List Event :=
  [.connect ⟨2, none⟩ .success, .handleConnect ⟨2, some .success⟩, .connect ⟨2, none⟩ .failure,
   .handleConnect ⟨2, some .failure⟩]

/-- Two attempts are in progress on one socket, and then one is made while the client is
connected. -/
theorem lateTimer_not_singleAttempt :
    ∃ s s', run step (initial .initial) lateTimer = some s ∧
      s.connects = [⟨2, none⟩, ⟨2, none⟩] ∧ ¬ SingleAttempt s ∧
      run step s lateConnect = some s' ∧ s'.is_connected = true ∧ true ∈ s'.attempts := by
  refine ⟨_, _, rfl, rfl, fun h => ?_, rfl, rfl, by decide⟩
  have := h.1
  revert this
  decide

end HeadsetClient

end AugmentedNormalcy.Tcp
