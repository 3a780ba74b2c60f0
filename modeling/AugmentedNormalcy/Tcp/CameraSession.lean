import Mathlib.Algebra.Group.Action.Defs
import Mathlib.Algebra.Order.BigOperators.Group.List
import AugmentedNormalcy.Tcp.Receiver

/-!
# The life of a camera session

`TcpCameraSession` of `src/internal/infrastructure/tcp/tcp_server.cpp`, from `Run` to its end: the
reads of `Tcp.Receiver`, one receive at a time, the read timer, and `TryClose`. The session's strand
runs one handler at a time. `TryClose(false)` tests and clears `_is_live` from other threads at any
time, and posts `doClose`; `TryClose(true)` runs in a handler, tests, and closes itself.

A wait of the timer that is over has its handler queued, and `cancel` does not take it back, so the
handlers of older waits may still come. Those of cancelled waits do nothing, and are left out. So
are the calls of the manager behind `PostCameraServerBuffer` and `DestroyCameraServerConnection`.

Whatever the timer, the socket and other threads do, the session reads as one receiver does, until
its socket is closed (`reads_while_open`). After `_is_live` is cleared it posts at most one more
frame (`dead_session_fenced`), and when the camera is silent it closes itself and lets go of
everything (`silent_closed`).
-/

namespace AugmentedNormalcy.Tcp.CameraSession

open StepSystem

/-! ## The steps -/

/-- How an `async_receive` completes. -/
inductive Completion where
  | received (bytes : List UInt8)
  /-- With an error other than `operation_aborted`. -/
  | failed
  /-- With `operation_aborted`. -/
  | aborted
deriving DecidableEq

/-- The bytes of a receive that has not failed. -/
def Completion.bytes? : Completion → Option (List UInt8)
  | .received bytes => some bytes
  | .failed | .aborted => none

/-- What the strand runs. -/
inductive Handler where
  | idle
  /-- The handler of a receive, behind its test of `_is_live`; with no bytes, there was an error. -/
  | receiving (bytes : Option (List UInt8))
  /-- `TryClose(true)`, behind its test of `_is_live`. -/
  | closing
  /-- `TryClose(true)`, before `DestroyCameraServerConnection`. -/
  | destroying
deriving DecidableEq

/-- How many receives the handler stands for. -/
def Handler.receives : Handler → ℕ
  | .receiving _ => 1
  | _ => 0

/-- How many calls of `DestroyCameraServerConnection` the handler is at. -/
def Handler.destroys : Handler → ℕ
  | .destroying => 1
  | _ => 0

/-- A session, with its socket, its timer, and the thread that runs its handlers. -/
structure State where
  receiver : Receiver
  is_live : Bool
  /-- The socket is open. -/
  is_open : Bool
  /-- `_receive_buffer_pool` is not null. -/
  has_pool : Bool
  /-- `GetReadBuffer` was called on a null pointer. -/
  faulted : Bool
  handler : Handler
  /-- The lambda of `Run` was dispatched, and has not run. -/
  starting : Bool
  /-- How many receives are outstanding. -/
  outstanding : ℕ
  /-- The completed ones, whose handlers have not run. -/
  completions : List Completion
  /-- A wait of `_read_timer` is outstanding. -/
  waiting : Bool
  /-- How many waits are over, whose handlers have not run. -/
  expired : ℕ
  /-- The calls of `TryClose(false)` that have found `_is_live` set. -/
  try_closing : ℕ
  /-- The posted lambdas of `TryClose(false)`. -/
  posted : ℕ
  /-- How often `DestroyCameraServerConnection` was called. -/
  destroyed : ℕ

/-- A step of the strand, of the socket, of the timer, or of another thread that closes. -/
inductive Event where
  /-- The lambda of `Run`. -/
  | start
  | complete (completion : Completion)
  /-- The handler of a receive, up to its test of `_is_live`. -/
  | onReceive
  /-- The rest of it. -/
  | read
  /-- A wait of the timer is over. -/
  | expire
  | onTimer
  /-- `TryClose(true)` clears `_is_live`, and calls `doClose`. -/
  | close
  | destroy
  /-- `TryClose(false)` tests `_is_live`. -/
  | tryClose
  /-- It clears it, and posts `doClose`. -/
  | postClose
  | doClose
deriving DecidableEq

namespace State

/-- A session that `Run` has registered. -/
def initial (header : PacketHeader) : State where
  receiver := .initial header
  is_live := true
  is_open := true
  has_pool := true
  faulted := false
  handler := .idle
  starting := true
  outstanding := 0
  completions := []
  waiting := false
  expired := 0
  try_closing := 0
  posted := 0
  destroyed := 0

variable (s : State)

/-- `startTimer`, and the `async_receive` behind it. -/
def startReceive : State :=
  { s with waiting := true, outstanding := s.outstanding + 1, handler := .idle }

/-- `TryClose(true)`, up to its test. -/
def tryClose : State := { s with handler := if s.is_live then .closing else .idle }

/-- Closes the socket, and resets the pool. -/
def doClose : State := { s with is_open := false, has_pool := false }

/-- The reads go to `r`, and the handler ends with the next receive, or with `TryClose(true)`. -/
def readTo (r : Receiver) : State :=
  let s := { s with
    receiver := r
    faulted := s.faulted || (!s.has_pool && decide (s.receiver.reads < r.reads)) }
  if r.pending = none then s.tryClose else s.startReceive

end State

/-- What the reads do with a completed receive. -/
def receive (get : ℕ → TcpBuffer) (r : Receiver) (bytes : List UInt8) : Option Receiver :=
  Receiver.step .tcpCameraSession get r bytes

/-- How the outstanding receive may complete. -/
def Possible (get : ℕ → TcpBuffer) (s : State) : Completion → Prop
  | .received bytes => s.is_open = true ∧ (receive get s.receiver bytes).isSome
  | .failed => True
  | .aborted => s.is_open = false

instance (get : ℕ → TcpBuffer) (s : State) (c : Completion) : Decidable (Possible get s c) :=
  match c with
  | .received _ => inferInstanceAs (Decidable (_ ∧ _))
  | .failed => inferInstanceAs (Decidable True)
  | .aborted => inferInstanceAs (Decidable (_ = _))

/-- One step. -/
def step (get : ℕ → TcpBuffer) (s : State) : Event → Option State
  | .start =>
    if s.starting ∧ s.handler = .idle then some { s.startReceive with starting := false } else none
  | .complete completion =>
    if s.outstanding ≠ 0 ∧ Possible get s completion then
      some { s with
        outstanding := s.outstanding - 1, completions := s.completions ++ [completion] }
    else none
  | .onReceive =>
    match s.handler, s.completions with
    | .idle, .aborted :: completions => some { s with completions }
    | .idle, completion :: completions =>
      some { s with
        completions, waiting := false
        handler := if s.is_live then .receiving completion.bytes? else .idle }
    | _, _ => none
  | .read =>
    match s.handler with
    | .receiving none => some s.tryClose
    | .receiving (some bytes) => (receive get s.receiver bytes).map s.readTo
    | _ => none
  | .expire =>
    if s.waiting then some { s with waiting := false, expired := s.expired + 1 } else none
  | .onTimer =>
    if s.handler = .idle ∧ s.expired ≠ 0 then some { s.tryClose with expired := s.expired - 1 }
    else none
  | .close =>
    if s.handler = .closing then some { s.doClose with is_live := false, handler := .destroying }
    else none
  | .destroy =>
    if s.handler = .destroying then some { s with handler := .idle, destroyed := s.destroyed + 1 }
    else none
  | .tryClose => some (if s.is_live then { s with try_closing := s.try_closing + 1 } else s)
  | .postClose =>
    if s.try_closing ≠ 0 then
      some { s with is_live := false, try_closing := s.try_closing - 1, posted := s.posted + 1 }
    else none
  | .doClose =>
    if s.handler = .idle ∧ s.posted ≠ 0 then some { s.doClose with posted := s.posted - 1 }
    else none

/-- What each step finds, and what it leaves. -/
inductive Step (get : ℕ → TcpBuffer) (s : State) : Event → State → Prop
  | start (hstarting : s.starting = true) (hidle : s.handler = .idle) :
    Step get s .start { s.startReceive with starting := false }
  | complete {completion : Completion} (hout : s.outstanding ≠ 0)
      (hpossible : Possible get s completion) :
    Step get s (.complete completion)
      { s with outstanding := s.outstanding - 1, completions := s.completions ++ [completion] }
  | onAborted {completions : List Completion} (hidle : s.handler = .idle)
      (hcompletions : s.completions = .aborted :: completions) :
    Step get s .onReceive { s with completions }
  | onReceive {completion : Completion} {completions : List Completion}
      (hcompletion : completion ≠ .aborted) (hlive : s.is_live = true) (hidle : s.handler = .idle)
      (hcompletions : s.completions = completion :: completions) :
    Step get s .onReceive
      { s with completions, waiting := false, handler := .receiving completion.bytes? }
  | onReceiveDead {completion : Completion} {completions : List Completion}
      (hlive : s.is_live = false) (hidle : s.handler = .idle)
      (hcompletions : s.completions = completion :: completions) :
    Step get s .onReceive { s with completions, waiting := false, handler := .idle }
  | readError (hreceiving : s.handler = .receiving none) : Step get s .read s.tryClose
  | read {bytes : List UInt8} {r : Receiver} (hreceiving : s.handler = .receiving (some bytes))
      (hr : receive get s.receiver bytes = some r) : Step get s .read (s.readTo r)
  | expire (hwaiting : s.waiting = true) :
    Step get s .expire { s with waiting := false, expired := s.expired + 1 }
  | onTimer (hidle : s.handler = .idle) (hexpired : s.expired ≠ 0) :
    Step get s .onTimer { s.tryClose with expired := s.expired - 1 }
  | close (hclosing : s.handler = .closing) :
    Step get s .close { s.doClose with is_live := false, handler := .destroying }
  | destroy (hdestroying : s.handler = .destroying) :
    Step get s .destroy { s with handler := .idle, destroyed := s.destroyed + 1 }
  | tryClose (hlive : s.is_live = true) :
    Step get s .tryClose { s with try_closing := s.try_closing + 1 }
  | tryCloseAgain (hlive : s.is_live = false) : Step get s .tryClose s
  | postClose (htry : s.try_closing ≠ 0) :
    Step get s .postClose
      { s with is_live := false, try_closing := s.try_closing - 1, posted := s.posted + 1 }
  | doClose (hidle : s.handler = .idle) (hposted : s.posted ≠ 0) :
    Step get s .doClose { s.doClose with posted := s.posted - 1 }

/-- `step` does nothing else. -/
theorem Step.of_step {get : ℕ → TcpBuffer} {s s' : State} {ev : Event}
    (hs : step get s ev = some s') : Step get s ev s' := by
  unfold step at hs
  cases ev with
  | start =>
    obtain ⟨⟨hstarting, hidle⟩, ⟨⟩⟩ := Option.ite_none_right_eq_some.mp hs
    exact .start hstarting hidle
  | complete completion =>
    obtain ⟨⟨hout, hpossible⟩, ⟨⟩⟩ := Option.ite_none_right_eq_some.mp hs
    exact .complete hout hpossible
  | onReceive =>
    dsimp only at hs
    split at hs
    · cases hs
      exact .onAborted ‹_› ‹_›
    · rename_i haborted hidle hcompletions
      split_ifs at hs with hlive
      · cases hs
        exact .onReceive haborted hlive hidle hcompletions
      · cases hs
        exact .onReceiveDead (Bool.eq_false_iff.mpr hlive) hidle hcompletions
    · cases hs
  | read =>
    dsimp only at hs
    split at hs
    · cases hs
      exact .readError ‹_›
    · obtain ⟨r, hr, rfl⟩ := Option.map_eq_some_iff.mp hs
      exact .read ‹_› hr
    · cases hs
  | expire =>
    obtain ⟨hwaiting, ⟨⟩⟩ := Option.ite_none_right_eq_some.mp hs
    exact .expire hwaiting
  | onTimer =>
    obtain ⟨⟨hidle, hexpired⟩, ⟨⟩⟩ := Option.ite_none_right_eq_some.mp hs
    exact .onTimer hidle hexpired
  | close =>
    obtain ⟨hclosing, ⟨⟩⟩ := Option.ite_none_right_eq_some.mp hs
    exact .close hclosing
  | destroy =>
    obtain ⟨hdestroying, ⟨⟩⟩ := Option.ite_none_right_eq_some.mp hs
    exact .destroy hdestroying
  | tryClose =>
    dsimp only at hs
    split_ifs at hs with hlive
    · cases hs
      exact .tryClose hlive
    · cases hs
      exact .tryCloseAgain (Bool.eq_false_iff.mpr hlive)
  | postClose =>
    obtain ⟨htry, ⟨⟩⟩ := Option.ite_none_right_eq_some.mp hs
    exact .postClose htry
  | doClose =>
    obtain ⟨⟨hidle, hposted⟩, ⟨⟩⟩ := Option.ite_none_right_eq_some.mp hs
    exact .doClose hidle hposted

variable {get : ℕ → TcpBuffer} {header : PacketHeader} {s s' : State}

/-- `TryClose` starts no receive. -/
theorem receives_tryClose (s : State) : s.tryClose.handler.receives = 0 := by
  unfold State.tryClose
  dsimp only
  split_ifs <;> rfl

/-- Nor does it go on with one. -/
theorem tryClose_ne_receiving (s : State) (bytes : Option (List UInt8)) :
    s.tryClose.handler ≠ .receiving bytes := by
  intro heq
  have hreceives := receives_tryClose s
  rw [heq] at hreceives
  exact Nat.one_ne_zero hreceives

/-- It has not called `DestroyCameraServerConnection` yet. -/
theorem destroys_tryClose (s : State) : s.tryClose.handler.destroys = 0 := by
  unfold State.tryClose
  dsimp only
  split_ifs <;> rfl

/-- `TryClose(true)` goes on with a live session only. -/
theorem closing_tryClose (h : s.tryClose.handler = .closing) : s.is_live = true := by
  by_contra hlive
  unfold State.tryClose at h
  dsimp only at h
  rw [if_neg hlive] at h
  cases h

/-- It does nothing only when the session is dead already. -/
theorem idle_tryClose (h : s.tryClose.handler = .idle) : s.is_live = false := by
  cases hlive : s.is_live with
  | false => rfl
  | true =>
    unfold State.tryClose at h
    dsimp only at h
    rw [if_pos hlive] at h
    cases h

/-! ## One receive at a time -/

/-- There is at most one receive: to be started, outstanding, completed, or with its handler. -/
def Single (s : State) : Prop :=
  s.starting.toNat + s.outstanding + s.completions.length + s.handler.receives ≤ 1

/-- There is never a second receive. -/
theorem Single.step (h : Single s) {ev : Event} (hs : CameraSession.step get s ev = some s') :
    Single s' := by
  unfold Single at h ⊢
  cases Step.of_step hs with
  | start hstarting hidle =>
    rw [hstarting, Bool.toNat_true] at h
    dsimp only [State.startReceive, Handler.receives, Bool.toNat_false]
    omega
  | complete hout hpossible =>
    dsimp only
    rw [List.length_append, List.length_singleton]
    omega
  | onAborted hidle hcompletions =>
    rw [hcompletions, List.length_cons] at h
    dsimp only
    omega
  | onReceive hcompletion hlive hidle hcompletions =>
    rw [hcompletions, List.length_cons] at h
    dsimp only [Handler.receives]
    omega
  | onReceiveDead hlive hidle hcompletions =>
    rw [hcompletions, List.length_cons] at h
    dsimp only [Handler.receives]
    omega
  | readError hreceiving =>
    rw [receives_tryClose]
    exact Nat.le_of_add_right_le h
  | read hreceiving hr =>
    rw [hreceiving] at h
    dsimp only [Handler.receives] at h
    unfold State.readTo
    dsimp only
    split_ifs
    · rw [receives_tryClose]
      exact Nat.le_of_add_right_le h
    · dsimp only [State.startReceive, Handler.receives]
      omega
  | onTimer hidle hexpired =>
    have hzero : s.tryClose.handler.receives = 0 := receives_tryClose s
    dsimp only
    rw [hzero]
    exact Nat.le_of_add_right_le h
  | close hclosing =>
    rw [hclosing] at h
    exact h
  | destroy hdestroying =>
    rw [hdestroying] at h
    exact h
  | expire | tryClose | tryCloseAgain | postClose | doClose => exact h

/-! ## The socket and the pool -/

/-- A live session has its socket and its pool, and so has a handler of it. -/
structure Served (s : State) : Prop where
  faulted : s.faulted = false
  pool : s.has_pool = s.is_open
  live : s.is_live = true → s.is_open = true
  receiving : ∀ bytes, s.handler = .receiving bytes → s.is_open = true
  closing : s.handler = .closing → s.is_open = true
  posted : s.posted ≠ 0 → s.is_live = false

/-- The handler ends with `TryClose(true)`, or goes on to the next receive, over the same socket. -/
theorem Served.tryClose (h : Served s) : Served s.tryClose where
  faulted := h.faulted
  pool := h.pool
  live := h.live
  receiving bytes heq := absurd heq (tryClose_ne_receiving s bytes)
  closing heq := h.live (closing_tryClose heq)
  posted := h.posted

/-- A handler that ends leaves what holds of the socket and the pool. -/
theorem Served.idle (h : Served s) (hidle : s'.handler = .idle) (hlive : s'.is_live = s.is_live)
    (hopen : s'.is_open = s.is_open) (hpool : s'.has_pool = s.has_pool)
    (hfaulted : s'.faulted = s.faulted) (hposted : s'.posted = s.posted) : Served s' where
  faulted := by rw [hfaulted, h.faulted]
  pool := by rw [hpool, hopen, h.pool]
  live := by rw [hlive, hopen]; exact h.live
  receiving bytes heq := by rw [hidle] at heq; cases heq
  closing heq := by rw [hidle] at heq; cases heq
  posted := by rw [hposted, hlive]; exact h.posted

/-- Every step keeps the pool while a receive may need it. -/
theorem Served.step (h : Served s) {ev : Event} (hs : CameraSession.step get s ev = some s') :
    Served s' := by
  cases Step.of_step hs with
  | start | destroy | onReceiveDead => exact h.idle rfl rfl rfl rfl rfl rfl
  | complete | onAborted | expire | tryClose =>
    exact ⟨h.faulted, h.pool, h.live, h.receiving, h.closing, h.posted⟩
  | onReceive hcompletion hlive =>
    exact ⟨h.faulted, h.pool, h.live, fun _ _ => h.live hlive, fun heq => Handler.noConfusion heq,
      h.posted⟩
  | readError => exact h.tryClose
  | @read bytes r hreceiving hr =>
    -- The pool is there, since the handler has found the session live.
    have hpool : s.has_pool = true := h.pool.trans (h.receiving _ hreceiving)
    have hread : Served { s with
        receiver := r
        faulted := s.faulted || (!s.has_pool && decide (s.receiver.reads < r.reads)) } :=
      ⟨by dsimp only; rw [h.faulted, hpool]; rfl, h.pool, h.live, h.receiving, h.closing, h.posted⟩
    unfold State.readTo
    dsimp only
    split_ifs
    · exact hread.tryClose
    · exact hread.idle rfl rfl rfl rfl rfl rfl
  | onTimer =>
    have htry := h.tryClose
    exact ⟨htry.faulted, htry.pool, htry.live, htry.receiving, htry.closing, htry.posted⟩
  | close =>
    exact ⟨h.faulted, rfl, fun heq => Bool.noConfusion heq, fun _ heq => Handler.noConfusion heq,
      fun heq => Handler.noConfusion heq, fun _ => rfl⟩
  | tryCloseAgain => exact h
  | postClose =>
    exact ⟨h.faulted, h.pool, fun heq => Bool.noConfusion heq, h.receiving, h.closing, fun _ => rfl⟩
  | doClose hidle hposted =>
    have hdead := h.posted hposted
    refine ⟨h.faulted, rfl, fun heq => ?_, fun bytes heq => ?_, fun heq => ?_, fun _ => hdead⟩
    · exact absurd (hdead.symm.trans heq) Bool.false_ne_true
    · exact Handler.noConfusion (hidle.symm.trans heq)
    · exact Handler.noConfusion (hidle.symm.trans heq)

/-! ## The reads are those of one receiver -/

/-- The receiver has read what has completed, and can read what is about to be handled. -/
structure Reads (get : ℕ → TcpBuffer) (header : PacketHeader) (s : State) : Prop where
  reachable : Reachable (receive get) (.initial header) s.receiver
  ready : ∀ bytes, .received bytes ∈ s.completions ∨ s.handler = .receiving (some bytes) →
    (receive get s.receiver bytes).isSome

/-- Only a receive that succeeded has bytes. -/
theorem Completion.received_of_bytes? {completion : Completion} {bytes : List UInt8}
    (h : completion.bytes? = some bytes) : completion = .received bytes := by
  cases completion <;> cases h
  rfl

/-- Every step reads as the receiver does. -/
theorem Reads.step (h : Reads get header s) (hsingle : Single s) {ev : Event}
    (hs : CameraSession.step get s ev = some s') : Reads get header s' := by
  obtain ⟨hreachable, hready⟩ := h
  cases Step.of_step hs with
  | start | close | destroy =>
    refine ⟨hreachable, fun bytes hbytes => ?_⟩
    obtain hmem | heq := hbytes
    · exact hready bytes (.inl hmem)
    · cases heq
  | @complete completion hout hpossible =>
    refine ⟨hreachable, fun bytes hbytes => ?_⟩
    obtain hmem | heq := hbytes
    · obtain hmem | heq := List.mem_append.mp hmem
      · exact hready bytes (.inl hmem)
      · rw [← List.mem_singleton.mp heq] at hpossible
        exact hpossible.2
    · exact hready bytes (.inr heq)
  | onAborted hidle hcompletions =>
    refine ⟨hreachable, fun bytes hbytes => hready bytes (hbytes.imp_left fun hmem => ?_)⟩
    rw [hcompletions]
    exact List.mem_cons_of_mem _ hmem
  | onReceive hcompletion hlive hidle hcompletions =>
    refine ⟨hreachable, fun bytes hbytes => hready bytes (.inl ?_)⟩
    rw [hcompletions]
    obtain hmem | heq := hbytes
    · exact List.mem_cons_of_mem _ hmem
    · rw [Completion.received_of_bytes? (Handler.receiving.inj heq)]
      exact List.mem_cons_self
  | onReceiveDead hlive hidle hcompletions =>
    refine ⟨hreachable, fun bytes hbytes => ?_⟩
    obtain hmem | heq := hbytes
    · exact hready bytes (.inl (hcompletions ▸ List.mem_cons_of_mem _ hmem))
    · cases heq
  | readError | onTimer =>
    refine ⟨hreachable, fun bytes hbytes => ?_⟩
    obtain hmem | heq := hbytes
    · exact hready bytes (.inl hmem)
    · exact absurd heq (tryClose_ne_receiving s _)
  | @read bytes r hreceiving hr =>
    have hempty : s.completions = [] := by
      unfold Single at hsingle
      rw [hreceiving] at hsingle
      dsimp only [Handler.receives] at hsingle
      exact List.eq_nil_of_length_eq_zero (by omega)
    unfold State.readTo
    dsimp only
    split_ifs
    · refine ⟨hreachable.next hr, fun bytes hbytes => ?_⟩
      obtain hmem | heq := hbytes
      · exact absurd (hempty ▸ hmem) List.not_mem_nil
      · exact absurd heq (tryClose_ne_receiving _ _)
    · refine ⟨hreachable.next hr, fun bytes hbytes => ?_⟩
      obtain hmem | heq := hbytes
      · exact absurd (hempty ▸ hmem) List.not_mem_nil
      · cases heq
  | expire | tryClose | tryCloseAgain | postClose | doClose => exact ⟨hreachable, hready⟩

/-! ## The end of the session -/

/-- How the session is closed and taken out. -/
structure Closing (s : State) : Prop where
  aborted : .aborted ∈ s.completions → s.is_open = false
  destroyed : s.destroyed + s.handler.destroys ≤ (!s.is_open).toNat
  posted : s.is_live = false → s.is_open = true → s.posted ≠ 0

/-- Every step keeps the order of close and destroy. -/
theorem Closing.step (h : Closing s) (hserved : Served s) {ev : Event}
    (hs : CameraSession.step get s ev = some s') : Closing s' := by
  obtain ⟨haborted, hdestroyed, hposted⟩ := h
  have hle : s.destroyed ≤ (!s.is_open).toNat := Nat.le_of_add_right_le hdestroyed
  cases Step.of_step hs with
  | start => exact ⟨haborted, hle, hposted⟩
  | @complete completion hout hpossible =>
    refine ⟨fun hmem => ?_, hdestroyed, hposted⟩
    obtain hmem | heq := List.mem_append.mp hmem
    · exact haborted hmem
    · rw [← List.mem_singleton.mp heq] at hpossible
      exact hpossible
  | onAborted hidle hcompletions =>
    exact ⟨fun hmem => haborted (hcompletions ▸ List.mem_cons_of_mem _ hmem), hdestroyed, hposted⟩
  | onReceive hcompletion hlive hidle hcompletions =>
    exact ⟨fun hmem => haborted (hcompletions ▸ List.mem_cons_of_mem _ hmem), hle, hposted⟩
  | onReceiveDead hlive hidle hcompletions =>
    exact ⟨fun hmem => haborted (hcompletions ▸ List.mem_cons_of_mem _ hmem), hle, hposted⟩
  | readError | onTimer =>
    refine ⟨haborted, ?_, hposted⟩
    have hzero : s.tryClose.handler.destroys = 0 := destroys_tryClose s
    exact (congrArg (s.destroyed + ·) hzero).trans_le hle
  | @read bytes r hreceiving hr =>
    unfold State.readTo
    dsimp only
    split_ifs
    · refine ⟨haborted, ?_, hposted⟩
      rw [destroys_tryClose]
      exact hle
    · exact ⟨haborted, hle, hposted⟩
  | close hclosing =>
    have hopen : s.is_open = true := hserved.closing hclosing
    rw [hopen] at hle
    exact ⟨fun _ => rfl, Nat.succ_le_succ hle, fun _ heq => Bool.noConfusion heq⟩
  | destroy hdestroying =>
    rw [hdestroying] at hdestroyed
    exact ⟨haborted, hdestroyed, hposted⟩
  | expire | tryClose | tryCloseAgain => exact ⟨haborted, hdestroyed, hposted⟩
  | postClose => exact ⟨haborted, hdestroyed, fun _ _ => Nat.succ_ne_zero _⟩
  | doClose hidle hposts =>
    have hone : s.destroyed + s.handler.destroys ≤ 1 := hdestroyed.trans (Bool.toNat_le _)
    exact ⟨fun _ => rfl, hone, fun _ heq => Bool.noConfusion heq⟩

/-- A live session waits for a receive, and while it does its timer runs. -/
structure Waiting (s : State) : Prop where
  receives : s.is_live = true → s.handler = .idle →
    s.starting = true ∨ s.outstanding ≠ 0 ∨ s.completions ≠ []
  timed : s.is_live = true → s.handler = .idle → s.outstanding ≠ 0 →
    s.waiting = true ∨ s.expired ≠ 0

/-- Nothing is asked of a session that is not live, or whose handler goes on. -/
theorem Waiting.of_not (h : s.handler = .idle → s.is_live = false) : Waiting s where
  receives hlive hidle := absurd ((h hidle).symm.trans hlive) Bool.false_ne_true
  timed hlive hidle := absurd ((h hidle).symm.trans hlive) Bool.false_ne_true

/-- Every step leaves something that the session waits for. -/
theorem Waiting.step (h : Waiting s) (hserved : Served s) (hclosing : Closing s) {ev : Event}
    (hs : CameraSession.step get s ev = some s') : Waiting s' := by
  have hdead : s.is_open = false → s.is_live = false := fun hopen =>
    Bool.eq_false_iff.mpr fun hlive =>
      Bool.false_ne_true (hopen.symm.trans (hserved.live hlive))
  cases Step.of_step hs with
  | start => exact ⟨fun _ _ => .inr (.inl (Nat.succ_ne_zero _)), fun _ _ _ => .inl rfl⟩
  | complete hout =>
    refine ⟨fun _ _ => .inr (.inr ?_), fun hlive hidle _ => h.timed hlive hidle hout⟩
    exact List.append_ne_nil_of_right_ne_nil _ (List.cons_ne_nil _ _)
  | onAborted hidle hcompletions =>
    exact .of_not fun _ => hdead (hclosing.aborted (hcompletions ▸ List.mem_cons_self))
  | onReceive => exact .of_not fun heq => Handler.noConfusion heq
  | onReceiveDead hlive => exact .of_not fun _ => hlive
  | readError | onTimer => exact .of_not fun hidle => idle_tryClose hidle
  | read =>
    unfold State.readTo
    dsimp only
    split_ifs
    · exact .of_not fun hidle => idle_tryClose hidle
    · exact ⟨fun _ _ => .inr (.inl (Nat.succ_ne_zero _)), fun _ _ _ => .inl rfl⟩
  | expire => exact ⟨h.receives, fun _ _ _ => .inr (Nat.succ_ne_zero _)⟩
  | close | postClose => exact .of_not fun _ => rfl
  | destroy hdestroying =>
    refine .of_not fun _ => hdead ?_
    have hdestroyed := hclosing.destroyed
    rw [hdestroying] at hdestroyed
    cases hopen : s.is_open with
    | false => rfl
    | true =>
      rw [hopen] at hdestroyed
      exact absurd hdestroyed (Nat.not_succ_le_zero _)
  | tryClose | tryCloseAgain | doClose => exact ⟨h.receives, h.timed⟩

/-! ## Over a run -/

/-- What holds of a session after every run. -/
structure Inv (get : ℕ → TcpBuffer) (header : PacketHeader) (s : State) : Prop where
  single : Single s
  served : Served s
  reads : Reads get header s
  closing : Closing s
  waiting : Waiting s

/-- It holds before the first receive. -/
theorem Inv.initial : Inv get header (.initial header) where
  single := le_rfl
  served := ⟨rfl, rfl, fun _ => rfl, fun _ _ => rfl, fun _ => rfl, fun h => absurd rfl h⟩
  reads := ⟨.refl _, fun _ h => h.elim (absurd · List.not_mem_nil) Handler.noConfusion⟩
  closing := ⟨(absurd · List.not_mem_nil), le_rfl, fun h => Bool.noConfusion h⟩
  waiting := ⟨fun _ _ => .inl rfl, fun _ _ h => absurd rfl h⟩

/-- Every step keeps it. -/
theorem Inv.step (h : Inv get header s) {ev : Event} (hs : CameraSession.step get s ev = some s') :
    Inv get header s' where
  single := h.single.step hs
  served := h.served.step hs
  reads := h.reads.step h.single hs
  closing := h.closing.step h.served hs
  waiting := h.waiting.step h.served h.closing hs

/-- So does every run. -/
theorem Inv.of_run {es : List Event} (hrun : run (CameraSession.step get) s es = some s')
    (h : Inv get header s) : Inv get header s' :=
  run_invariant (Inv get header) (fun _ _ _ h hs => h.step hs) hrun h

/-- A closed socket stays closed, and what comes in is not read. -/
theorem receiver_of_closed (h : Served s) (hopen : s.is_open = false) {ev : Event}
    (hs : CameraSession.step get s ev = some s') :
    s'.is_open = false ∧ s'.receiver = s.receiver := by
  cases Step.of_step hs with
  | read hreceiving =>
    exact absurd (hopen.symm.trans (h.receiving _ hreceiving)) Bool.false_ne_true
  | close | doClose => exact ⟨rfl, rfl⟩
  | _ => exact ⟨hopen, rfl⟩

/-- In every run the session reads as one receiver does, with at most one receive at a time and no
use of a pool that was reset. It is taken out of the manager at most once, after its socket was
closed, and from then on nothing is read and no frame is posted. -/
theorem reads_while_open {es : List Event} (hrun : run (step get) (.initial header) es = some s) :
    Reachable (receive get) (.initial header) s.receiver ∧
      s.outstanding + s.completions.length ≤ 1 ∧ s.faulted = false ∧
      s.destroyed ≤ (!s.is_open).toNat ∧
      ∀ {fs s'}, s.is_open = false → run (step get) s fs = some s' → s'.receiver = s.receiver := by
  have h : Inv get header s := .of_run hrun .initial
  have hsingle : _ ≤ 1 := h.single
  refine ⟨h.reads.reachable, by omega, h.served.faulted,
    Nat.le_of_add_right_le h.closing.destroyed, fun hopen hrest => ?_⟩
  have hclosed : Served _ ∧ _ := run_invariant
    (fun t => Served t ∧ t.is_open = false ∧ t.receiver = s.receiver)
    (fun t _ t' ⟨hserved, hopen, hreceiver⟩ hs => by
      obtain ⟨hopen', hreceiver'⟩ := receiver_of_closed hserved hopen hs
      exact ⟨hserved.step hs, hopen', hreceiver'.trans hreceiver⟩) hrest ⟨h.served, hopen, rfl⟩
  exact hclosed.2.2

/-- A frame of two bytes has come in, and its handler is behind the test of `_is_live`. -/
def oneFrame : List Event :=
  [.start,
    .complete (.received
      [0, 0, 0, 0, 1, 0, 0, 0, 0, 0, 0, 0, 2, 0, 0, 0, 2, 0, 0, 0, 0, 0, 0, 0]),
    .onReceive, .read, .complete (.received [7, 8]), .onReceive]

/-- Buffers of 16 bytes. -/
def buffers : ℕ → TcpBuffer := fun _ => ⟨16, false, fun _ => 0, 0⟩

/-- The session after some events. -/
def sessionAfter (es : List Event) (h : (run (step buffers) (.initial .initial) es).isSome) :
    State :=
  (run (step buffers) (.initial .initial) es).get h

/-- The session after these events. -/
theorem run_sessionAfter (es : List Event)
    (h : (run (step buffers) (.initial .initial) es).isSome) :
    run (step buffers) (.initial .initial) es = some (sessionAfter es h) :=
  (Option.some_get h).symm

/-- The rest of a run, from there. -/
theorem run_rest (es fs : List Event) (h : (run (step buffers) (.initial .initial) es).isSome)
    (h' : (run (step buffers) (.initial .initial) (es ++ fs)).isSome) :
    run (step buffers) (sessionAfter es h) fs = some (sessionAfter (es ++ fs) h') := by
  rw [← run_sessionAfter, run_append, run_sessionAfter es h, Option.bind_some]

theorem reads_while_open_oneFrame : ∃ s s',
    run (step buffers) (.initial .initial) (oneFrame ++ [.read, .expire, .onTimer, .close]) =
        some s ∧
      run (step buffers) s [.destroy, .complete .aborted, .onReceive] = some s' ∧
      s.receiver.delivered = [[7, 8]] ∧ s.is_open = false ∧ s'.destroyed = 1 ∧
      s.faulted = false ∧ s'.receiver = s.receiver := by
  have hrun := run_sessionAfter (oneFrame ++ [.read, .expire, .onTimer, .close])
    (by decide +kernel)
  have hrest := run_rest (oneFrame ++ [.read, .expire, .onTimer, .close])
    [.destroy, .complete .aborted, .onReceive] (by decide +kernel) (by decide +kernel)
  obtain ⟨-, -, hfaulted, -, hreceiver⟩ := reads_while_open hrun
  exact ⟨_, _, hrun, hrest, by decide +kernel, by decide +kernel, by decide +kernel, hfaulted,
    hreceiver (by decide +kernel) hrest⟩

/-! ## After `_is_live` is cleared -/

/-- How many calls of `DestroyCameraServerConnection` the handler will make. -/
def Handler.unregisters : Handler → ℕ
  | .closing | .destroying => 1
  | _ => 0

/-- `TryClose` of a dead session returns at once. -/
theorem tryClose_of_dead (hdead : s.is_live = false) :
    s.tryClose = { s with handler := .idle } := by
  unfold State.tryClose
  rw [hdead]
  rfl

/-- A session that is not live posts a frame only in the handler that has found it live before, and
takes itself out only in the `TryClose(true)` that has. -/
theorem dead_step (hdead : s.is_live = false) {ev : Event}
    (hs : CameraSession.step get s ev = some s') :
    s'.is_live = false ∧
      (∃ frames, s'.receiver.delivered = s.receiver.delivered ++ frames ∧
        frames.length + s'.handler.receives ≤ s.handler.receives) ∧
      s'.destroyed + s'.handler.unregisters = s.destroyed + s.handler.unregisters := by
  have hnone : s.receiver.delivered = s.receiver.delivered ++ [] := (List.append_nil _).symm
  cases Step.of_step hs with
  | start hstarting hidle =>
    exact ⟨hdead, ⟨[], hnone, Nat.zero_le _⟩, by rw [hidle]; rfl⟩
  | onReceiveDead hlive hidle =>
    exact ⟨hdead, ⟨[], hnone, Nat.zero_le _⟩, by rw [hidle]⟩
  | onReceive hcompletion hlive | tryClose hlive =>
    exact absurd (hdead.symm.trans hlive) Bool.false_ne_true
  | readError hreceiving =>
    rw [tryClose_of_dead hdead]
    exact ⟨hdead, ⟨[], hnone, Nat.zero_le _⟩, by rw [hreceiving]; rfl⟩
  | onTimer hidle =>
    rw [tryClose_of_dead hdead]
    exact ⟨hdead, ⟨[], hnone, Nat.zero_le _⟩, by rw [hidle]⟩
  | @read bytes r hreceiving hr =>
    obtain ⟨frames, hframes, hle⟩ : ∃ frames, r.delivered = s.receiver.delivered ++ frames ∧
        frames.length ≤ 1 := by
      obtain hsame | ⟨frame, hframe⟩ := Receiver.delivered_of_step hr
      · exact ⟨[], hsame.trans hnone, Nat.zero_le _⟩
      · exact ⟨[frame], hframe, le_rfl⟩
    unfold State.readTo
    dsimp only
    split_ifs
    · rw [tryClose_of_dead (by exact hdead), hreceiving]
      exact ⟨hdead, ⟨frames, hframes, hle⟩, rfl⟩
    · rw [hreceiving]
      exact ⟨hdead, ⟨frames, hframes, hle⟩, rfl⟩
  | close hclosing =>
    exact ⟨rfl, ⟨[], hnone, Nat.zero_le _⟩, by rw [hclosing]; rfl⟩
  | destroy hdestroying =>
    exact ⟨hdead, ⟨[], hnone, Nat.zero_le _⟩, by rw [hdestroying]; rfl⟩
  | postClose => exact ⟨rfl, ⟨[], hnone, (Nat.zero_add _).le⟩, rfl⟩
  | complete | onAborted | expire | tryCloseAgain | doClose =>
    exact ⟨hdead, ⟨[], hnone, (Nat.zero_add _).le⟩, rfl⟩

/-- Once `_is_live` is cleared, from any thread and in any state, the session posts at most one more
frame in any continuation: the one of a handler that has found it live before. It takes itself out
of the manager only if it is in the `TryClose(true)` that does, so not because it was closed from
outside. -/
theorem dead_session_fenced {es : List Event} (hdead : s.is_live = false)
    (hrun : run (step get) s es = some s') :
    s'.is_live = false ∧
      (∃ frames, s'.receiver.delivered = s.receiver.delivered ++ frames ∧
        frames.length ≤ s.handler.receives) ∧
      s'.destroyed + s'.handler.unregisters = s.destroyed + s.handler.unregisters := by
  obtain ⟨hdead', ⟨frames, hframes, hle⟩, hdestroyed⟩ := run_invariant
    (fun t => t.is_live = false ∧
      (∃ frames, t.receiver.delivered = s.receiver.delivered ++ frames ∧
        frames.length + t.handler.receives ≤ s.handler.receives) ∧
      t.destroyed + t.handler.unregisters = s.destroyed + s.handler.unregisters)
    (fun t _ t' ⟨hdead, ⟨frames, hframes, hle⟩, hdestroyed⟩ hs => by
      obtain ⟨hdead', ⟨more, hmore, hle'⟩, hdestroyed'⟩ := dead_step hdead hs
      refine ⟨hdead', ⟨frames ++ more, ?_, ?_⟩, hdestroyed'.trans hdestroyed⟩
      · rw [hmore, hframes, List.append_assoc]
      · rw [List.length_append]
        omega) hrun ⟨hdead, ⟨[], (List.append_nil _).symm, (Nat.zero_add _).le⟩, rfl⟩
  exact ⟨hdead', ⟨frames, hframes, Nat.le_of_add_right_le hle⟩, hdestroyed⟩

theorem dead_session_fenced_oneFrame : ∃ s s',
    run (step buffers) (.initial .initial) (oneFrame ++ [.tryClose, .postClose]) = some s ∧
      run (step buffers) s [.read, .doClose, .complete .aborted, .onReceive] = some s' ∧
      s.receiver.delivered = [] ∧ s'.receiver.delivered = [[7, 8]] ∧
      s'.is_live = false ∧
      (∃ frames, s'.receiver.delivered = s.receiver.delivered ++ frames ∧
        frames.length ≤ s.handler.receives) ∧
      s'.destroyed + s'.handler.unregisters = s.destroyed + s.handler.unregisters := by
  have hrun := run_sessionAfter (oneFrame ++ [.tryClose, .postClose]) (by decide +kernel)
  have hrest := run_rest (oneFrame ++ [.tryClose, .postClose])
    [.read, .doClose, .complete .aborted, .onReceive] (by decide +kernel) (by decide +kernel)
  exact ⟨_, _, hrun, hrest, by decide +kernel, by decide +kernel,
    dead_session_fenced (by decide +kernel) hrest⟩

/-! ## A camera that is silent -/

/-- The steps that need neither the camera nor another thread that closes the session. -/
def Own (s : State) : Event → Prop
  | .complete _ => s.is_open = false
  | .tryClose => False
  | _ => True

instance (s : State) (ev : Event) : Decidable (Own s ev) :=
  match ev with
  | .complete _ => inferInstanceAs (Decidable (_ = _))
  | .tryClose => inferInstanceAs (Decidable False)
  | .start | .onReceive | .read | .expire | .onTimer | .close | .destroy | .postClose | .doClose =>
    inferInstanceAs (Decidable True)

/-- More than the steps that a handler of this completion leads to. -/
def Completion.work : Completion → ℕ
  | .received _ => 13
  | .failed | .aborted => 4

/-- What the handler that runs has still to do. -/
def Handler.work : Handler → ℕ
  | .idle => 0
  | .receiving (some _) => 12
  | .receiving none => 3
  | .closing => 2
  | .destroying => 1

/-- More than the steps that what is queued leads to. -/
def State.queued (s : State) : ℕ :=
  10 * s.starting.toNat + 5 * s.outstanding + (s.completions.map Completion.work).sum +
    4 * s.waiting.toNat + 3 * s.expired + 2 * s.try_closing + s.posted

/-- How many steps the session can make by itself. -/
def State.work (s : State) : ℕ := s.queued + s.handler.work

/-- A close takes at most two more steps. -/
theorem work_tryClose_le (s : State) : s.tryClose.work ≤ s.queued + 2 := by
  apply Nat.add_le_add_left
  unfold State.tryClose
  dsimp only
  split_ifs
  · exact le_rfl
  · exact Nat.zero_le _

/-- A receive that is started takes at most nine. -/
theorem work_startReceive_le (s : State) : s.startReceive.work ≤ s.queued + 9 := by
  unfold State.work State.queued
  dsimp only [State.startReceive, Handler.work, Bool.toNat_true]
  omega

/-- So does what follows a receive. -/
theorem work_readTo_le (s : State) (r : Receiver) : (s.readTo r).work ≤ s.queued + 9 := by
  unfold State.readTo
  dsimp only
  split_ifs
  · exact (work_tryClose_le _).trans (Nat.add_le_add_left (by decide) _)
  · exact work_startReceive_le _

/-- Every step that the session makes by itself brings it nearer to its end. -/
theorem work_lt {ev : Event} (hown : Own s ev) (hs : CameraSession.step get s ev = some s') :
    s'.work < s.work := by
  cases Step.of_step hs with
  | start hstarting hidle =>
    unfold State.work State.queued
    rw [hstarting, hidle]
    dsimp only [State.startReceive, Handler.work, Bool.toNat_true, Bool.toNat_false]
    omega
  | @complete completion hout hpossible =>
    have hle : completion.work ≤ 4 := by
      cases completion with
      | received bytes => exact absurd (hown.symm.trans hpossible.1) Bool.false_ne_true
      | failed | aborted => exact le_rfl
    unfold State.work State.queued
    rw [List.map_append, List.sum_append, List.map_singleton, List.sum_singleton]
    dsimp only
    omega
  | onAborted hidle hcompletions =>
    unfold State.work State.queued
    rw [hcompletions, List.map_cons, List.sum_cons]
    dsimp only [Completion.work]
    omega
  | @onReceive completion completions hcompletion hlive hidle hcompletions =>
    have hlt : (Handler.receiving completion.bytes?).work < completion.work := by
      cases completion <;> simp [Completion.work, Completion.bytes?, Handler.work]
    unfold State.work State.queued
    rw [hcompletions, hidle, List.map_cons, List.sum_cons]
    dsimp only [Bool.toNat_false]
    omega
  | @onReceiveDead completion completions hlive hidle hcompletions =>
    have hpos : 0 < completion.work := by
      cases completion <;> simp [Completion.work]
    unfold State.work State.queued
    rw [hcompletions, hidle, List.map_cons, List.sum_cons]
    dsimp only [Bool.toNat_false, Handler.work]
    omega
  | readError hreceiving =>
    have hle := work_tryClose_le s
    have hwork : s.work = s.queued + 3 := congrArg (s.queued + Handler.work ·) hreceiving
    omega
  | @read bytes r hreceiving hr =>
    have hle := work_readTo_le s r
    have hwork : s.work = s.queued + 12 := congrArg (s.queued + Handler.work ·) hreceiving
    omega
  | expire hwaiting =>
    unfold State.work State.queued
    rw [hwaiting]
    dsimp only [Bool.toNat_true, Bool.toNat_false]
    omega
  | onTimer hidle hexpired =>
    have hle := work_tryClose_le s
    unfold State.work State.queued at hle ⊢
    dsimp only [State.tryClose] at hle ⊢
    omega
  | close hclosing =>
    have hwork : s.work = s.queued + 2 := congrArg (s.queued + Handler.work ·) hclosing
    rw [hwork]
    exact Nat.lt_succ_self _
  | destroy hdestroying =>
    have hwork : s.work = s.queued + 1 := congrArg (s.queued + Handler.work ·) hdestroying
    rw [hwork]
    exact Nat.lt_succ_self _
  | tryClose | tryCloseAgain => exact hown.elim
  | postClose htry =>
    unfold State.work State.queued
    dsimp only
    omega
  | doClose hidle hposted =>
    unfold State.work State.queued
    dsimp only [State.doClose]
    omega

/-- With one receive, little is to do before the waits and the calls of `TryClose` that are under
way. -/
theorem work_le (h : Single s) :
    s.work ≤ 19 + 3 * s.expired + 2 * s.try_closing + s.posted := by
  have hcompletions : (s.completions.map Completion.work).sum ≤ s.completions.length * 13 := by
    have hsum := List.sum_le_card_nsmul (s.completions.map Completion.work) 13 fun n hn => by
      obtain ⟨completion, -, rfl⟩ := List.mem_map.mp hn
      cases completion <;> simp [Completion.work]
    rwa [List.length_map, smul_eq_mul] at hsum
  have hhandler : s.handler.work ≤ 10 * s.handler.receives + 2 := by
    cases s.handler with
    | receiving bytes => cases bytes <;> simp [Handler.work, Handler.receives]
    | idle | closing | destroying => simp [Handler.work]
  have hwaiting : s.waiting.toNat ≤ 1 := Bool.toNat_le _
  unfold Single at h
  unfold State.work State.queued
  omega

/-- Nothing runs or is outstanding that holds a pointer to the session. -/
structure Ended (s : State) : Prop where
  is_live : s.is_live = false
  is_open : s.is_open = false
  has_pool : s.has_pool = false
  handler : s.handler = .idle
  starting : s.starting = false
  outstanding : s.outstanding = 0
  completions : s.completions = []
  waiting : s.waiting = false
  expired : s.expired = 0
  try_closing : s.try_closing = 0
  posted : s.posted = 0

/-- A session that can do nothing by itself has come to its end. -/
theorem Inv.ended (h : Inv get header s)
    (hstuck : ∀ ev, Own s ev → CameraSession.step get s ev = none) : Ended s := by
  have hhandler : s.handler = .idle := by
    cases hhandler : s.handler with
    | idle => rfl
    | receiving bytes =>
      have hread := hstuck .read trivial
      cases bytes with
      | none => simp [CameraSession.step, hhandler] at hread
      | some bytes =>
        obtain ⟨r, hr⟩ := Option.isSome_iff_exists.mp (h.reads.ready bytes (.inr hhandler))
        simp [CameraSession.step, hhandler, hr] at hread
    | closing => simpa [CameraSession.step, hhandler] using hstuck .close trivial
    | destroying => simpa [CameraSession.step, hhandler] using hstuck .destroy trivial
  have hstarting : s.starting = false := by
    simpa [CameraSession.step, hhandler] using hstuck .start trivial
  have hcompletions : s.completions = [] := by
    have hreceive := hstuck .onReceive trivial
    cases hcompletions : s.completions with
    | nil => rfl
    | cons completion completions =>
      cases completion <;> simp [CameraSession.step, hhandler, hcompletions] at hreceive
  have hwaiting : s.waiting = false := by
    simpa [CameraSession.step] using hstuck .expire trivial
  have hexpired : s.expired = 0 := by
    simpa [CameraSession.step, hhandler] using hstuck .onTimer trivial
  have htry : s.try_closing = 0 := by
    simpa [CameraSession.step] using hstuck .postClose trivial
  have hposted : s.posted = 0 := by
    simpa [CameraSession.step, hhandler] using hstuck .doClose trivial
  have hlive : s.is_live = false := by
    cases hlive : s.is_live with
    | false => rfl
    | true =>
      have hout : s.outstanding ≠ 0 := by
        have hreceives := h.waiting.receives hlive hhandler
        rw [hstarting, hcompletions] at hreceives
        simpa using hreceives
      have htimed := h.waiting.timed hlive hhandler hout
      rw [hwaiting, hexpired] at htimed
      simp at htimed
  have hopen : s.is_open = false := by
    cases hopen : s.is_open with
    | false => rfl
    | true => exact absurd hposted (h.closing.posted hlive hopen)
  have hout : s.outstanding = 0 := by
    simpa [CameraSession.step, Possible] using hstuck (.complete .failed) hopen
  exact ⟨hlive, hopen, h.served.pool.trans hopen, hhandler, hstarting, hout, hcompletions, hwaiting,
    hexpired, htry, hposted⟩

/-- Nobody closes the session from outside, and it is live until it takes itself out. -/
def Kept (s : State) : Prop :=
  s.try_closing = 0 ∧ (s.is_live = true ∨ s.handler = .destroying ∨ s.destroyed ≠ 0)

/-- An own step keeps it. -/
theorem Kept.step (h : Kept s) {ev : Event} (hown : Own s ev)
    (hs : CameraSession.step get s ev = some s') : Kept s' := by
  obtain ⟨htry, h⟩ := h
  have hkept : s.handler ≠ .destroying → s.is_live = true ∨ s.destroyed ≠ 0 := by
    intro hne
    obtain hlive | hdestroying | hdestroyed := h
    · exact .inl hlive
    · exact absurd hdestroying hne
    · exact .inr hdestroyed
  cases Step.of_step hs with
  | start _ hidle | onTimer hidle | onReceiveDead _ hidle =>
    exact ⟨htry, (hkept (by rw [hidle]; exact Handler.noConfusion)).imp_right .inr⟩
  | onReceive _ hlive => exact ⟨htry, .inl hlive⟩
  | readError hreceiving =>
    exact ⟨htry, (hkept (by rw [hreceiving]; exact Handler.noConfusion)).imp_right .inr⟩
  | read hreceiving =>
    have hread := hkept (by rw [hreceiving]; exact Handler.noConfusion)
    unfold State.readTo
    dsimp only
    split_ifs <;> exact ⟨htry, hread.imp_right .inr⟩
  | close => exact ⟨htry, .inr (.inl rfl)⟩
  | destroy => exact ⟨htry, .inr (.inr (Nat.succ_ne_zero _))⟩
  | tryClose | tryCloseAgain => exact hown.elim
  | postClose hne => exact absurd htry hne
  | complete | onAborted | expire | doClose => exact ⟨htry, h⟩

/-- A session whose camera is silent closes itself. Whatever has happened to it before, it makes no
more than a few steps by itself, and when it can make none, its socket is closed, its pool is reset,
and nothing holds a pointer to it any more. If it was live, and nobody was closing it from outside,
then it has taken itself out of the manager, once. -/
theorem silent_closed {es fs : List Event} (hrun : run (step get) (.initial header) es = some s)
    (hown : Along (step get) Own s fs) (hrest : run (step get) s fs = some s') :
    fs.length ≤ 19 + 3 * s.expired + 2 * s.try_closing + s.posted ∧
      ((∀ ev, Own s' ev → step get s' ev = none) →
        Ended s' ∧ (s.is_live = true → s.try_closing = 0 → s'.destroyed = 1)) := by
  have h : Inv get header s := .of_run hrun .initial
  have hlength := hown.length_le State.work (fun _ _ _ hown hs => work_lt hown hs) hrest
  have hle := work_le h.single
  refine ⟨by omega, fun hstuck => ?_⟩
  have h' : Inv get header s' := .of_run hrest h
  have hended := h'.ended hstuck
  refine ⟨hended, fun hlive htry => ?_⟩
  obtain ⟨-, hkept⟩ : Kept s' :=
    hown.run_invariant Kept (fun _ _ _ h hown hs => h.step hown hs) hrest ⟨htry, .inl hlive⟩
  have hone : s'.destroyed ≤ 1 :=
    (Nat.le_of_add_right_le h'.closing.destroyed).trans (Bool.toNat_le _)
  obtain hlive | hdestroying | hdestroyed := hkept
  · exact absurd (hended.is_live.symm.trans hlive) Bool.false_ne_true
  · exact Handler.noConfusion (hended.handler.symm.trans hdestroying)
  · omega

theorem silent_closed_oneFrame : ∃ s s',
    run (step buffers) (.initial .initial) (oneFrame ++ [.read]) = some s ∧
      run (step buffers) s [.expire, .onTimer, .close, .destroy, .complete .aborted, .onReceive] =
        some s' ∧ Ended s' ∧ s'.destroyed = 1 := by
  have hrun := run_sessionAfter (oneFrame ++ [.read]) (by decide +kernel)
  have hrest := run_rest (oneFrame ++ [.read])
    [.expire, .onTimer, .close, .destroy, .complete .aborted, .onReceive] (by decide +kernel)
    (by decide +kernel)
  obtain ⟨-, hstuck⟩ := silent_closed hrun (by decide +kernel) hrest
  obtain ⟨hended, hdestroyed⟩ := hstuck fun ev hown => by
    cases ev with
    | tryClose => exact hown.elim
    | _ => rfl
  exact ⟨_, _, hrun, hrest, hended, hdestroyed (by decide +kernel) (by decide +kernel)⟩

end AugmentedNormalcy.Tcp.CameraSession
