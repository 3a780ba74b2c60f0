import AugmentedNormalcy.Foundation.Run
import AugmentedNormalcy.Tcp.WriteChain

/-!
# `TcpClient` on a camera

The write side of `tcp_client.cpp`. `Post` runs on the encoder's thread in three steps: the check of
the flags, the locked push, and, when the queue was empty, the first send. The handlers of the
strand come in between: completions of sends and of connects, with the reconnect that an error
brings. `Stop` and the handler that it waits for are one step.

A queue with something in it stands for a chain of sends that works on it. A push that lands after a
disconnect has emptied the queue breaks this: its third step finds the client disconnected and sends
nothing, and once the client is connected again every `Post` believes that a write is in progress.
-/

namespace AugmentedNormalcy.Tcp

open Bytes StepSystem

namespace CameraClient

/-- Where the thread that calls `Post` is. -/
inductive PostStep where
  | returned
  | checked (buffer : SizedBuffer)
  | pushed

structure State where
  chain : WriteChain
  is_stopped : Bool
  is_connected : Bool
  /-- The socket that `_socket` points to. -/
  socket : Option ℕ
  /-- How many sockets were constructed: the next one gets this number. -/
  sockets : ℕ
  /-- The sockets with an `async_connect` whose handler has not run. -/
  connects : List ℕ
  post : PostStep
  /-- The messages that `Post` put into the queue. -/
  accepted : List Message

/-- A client that was not started. -/
def initial (header : PacketHeader) : State where
  chain := ⟨header, [], [], [], 0, false⟩
  is_stopped := true
  is_connected := false
  socket := none
  sockets := 0
  connects := []
  post := .returned
  accepted := []

namespace State

variable (s : State)

/-- The client has not been stopped and is connected. -/
def running : Bool := !s.is_stopped && s.is_connected

/-- `startConnection`. -/
def startConnection : State :=
  if s.is_stopped then s
  else
    let s := { s with chain := { s.chain with header := s.chain.header.resetHeader } }
    match s.socket with
    | some socket => { s with connects := socket :: s.connects }
    | none =>
      { s with
        socket := some s.sockets
        sockets := s.sockets + 1
        connects := s.sockets :: s.connects }

def disconnect : State :=
  let w :=
    match s.socket with
    | some socket => s.chain.abort socket
    | none => s.chain
  { s with is_connected := false, socket := none, chain := w.clear }

def reconnect : State := s.disconnect.startConnection

/-- `Start`. -/
def start : State := if s.is_stopped then { s with is_stopped := false }.startConnection else s

/-- `Stop`. -/
def stop : State := if s.is_stopped then s else { s with is_stopped := true }.disconnect

/-- The completion handler of `async_connect`. -/
def onConnect (ec : Bool) : State :=
  if s.is_stopped then s
  else if ec then s.startConnection
  else
    match s.socket with
    | none => { s with chain := { s.chain with fault := true } }
    | some _ => { s with is_connected := true }

/-- The completion handler of a send. The sends that it starts go out on `*_socket`. -/
def onSend (send : Send) (result : SendResult) : State :=
  if s.running = false then s
  else
    match s.socket with
    | none => { s with chain := { s.chain with fault := true } }
    | some socket =>
      match result with
      | .error | .aborted => s.reconnect
      | .ok bytes_written =>
        match send.kind with
        | .writeHeader last_bytes =>
          match s.chain.onHeader socket last_bytes bytes_written with
          | some w => { s with chain := w }
          | none => s.reconnect
        | .writeBody => { s with chain := s.chain.onBody socket bytes_written }

/-- The first step of `Post`. -/
def postCheck (buffer : SizedBuffer) : State :=
  if s.running = false then s else { s with post := .checked buffer }

/-- The second step of `Post`. -/
def postPush (buffer : SizedBuffer) : State :=
  let write_in_progress := !s.chain.queue.isEmpty
  let message : Message := ⟨s.accepted.length, buffer.memory, buffer.size⟩
  { s with
    chain := s.chain.push message
    accepted := s.accepted ++ [message]
    post := if write_in_progress then .returned else .pushed }

/-- The third step of `Post`. -/
def postStart : State :=
  let s := { s with post := .returned, chain := s.chain.setupHeader }
  if s.running = false then s
  else
    match s.socket with
    | none => { s with chain := { s.chain with fault := true } }
    | some socket => { s with chain := s.chain.writeHeader socket 0 }

end State

inductive Event where
  | start
  | stop
  | connectCompletes (socket : ℕ) (ec : Bool)
  | transmit (send : Send) (bytes_written : ℕ)
  | fail (send : Send)
  | handle (send : Send)
  | postCheck (buffer : SizedBuffer)
  | postPush
  | postStart

/-- Nothing is said about what follows a fault. -/
def step (s : State) (e : Event) : Option State :=
  if s.chain.fault then none
  else
    match e with
    | .start => some s.start
    | .stop => some s.stop
    | .connectCompletes socket ec =>
      if socket ∈ s.connects then
        some ({ s with connects := s.connects.erase socket }.onConnect ec)
      else none
    | .transmit send n =>
      if send ∈ s.chain.sends ∧ send.result = none ∧ send.Transmits n then
        some { s with chain := s.chain.settle send (.ok n) }
      else none
    | .fail send =>
      if send ∈ s.chain.sends ∧ send.result = none then
        some { s with chain := s.chain.settle send .error }
      else none
    | .handle send =>
      match send.result with
      | none => none
      | some result =>
        if send ∈ s.chain.sends then
          some ({ s with chain := s.chain.finish send }.onSend send result)
        else none
    | .postCheck buffer =>
      match s.post with
      | .returned => some (s.postCheck buffer)
      | _ => none
    | .postPush =>
      match s.post with
      | .checked buffer => some (s.postPush buffer)
      | _ => none
    | .postStart =>
      match s.post with
      | .pushed => some s.postStart
      | _ => none

/-- What each step finds, and what it leaves. -/
inductive Step (s : State) : Event → State → Prop
  | start : Step s .start s.start
  | stop : Step s .stop s.stop
  | connectCompletes {socket : ℕ} {ec : Bool} (hmem : socket ∈ s.connects) :
    Step s (.connectCompletes socket ec)
      ({ s with connects := s.connects.erase socket }.onConnect ec)
  | transmit {send : Send} {n : ℕ} (hmem : send ∈ s.chain.sends) (hresult : send.result = none)
      (hn : send.Transmits n) :
    Step s (.transmit send n) { s with chain := s.chain.settle send (.ok n) }
  | fail {send : Send} (hmem : send ∈ s.chain.sends) (hresult : send.result = none) :
    Step s (.fail send) { s with chain := s.chain.settle send .error }
  | handle {send : Send} {result : SendResult} (hmem : send ∈ s.chain.sends)
      (hresult : send.result = some result) :
    Step s (.handle send) ({ s with chain := s.chain.finish send }.onSend send result)
  | postCheck {buffer : SizedBuffer} (hpost : s.post = .returned) :
    Step s (.postCheck buffer) (s.postCheck buffer)
  | postPush {buffer : SizedBuffer} (hpost : s.post = .checked buffer) :
    Step s .postPush (s.postPush buffer)
  | postStart (hpost : s.post = .pushed) : Step s .postStart s.postStart

theorem Step.of_step {s s' : State} {e : Event} (hs : step s e = some s') : Step s e s' := by
  unfold step at hs
  split at hs
  · cases hs
  cases e with
  | start =>
    cases hs
    exact .start
  | stop =>
    cases hs
    exact .stop
  | connectCompletes =>
    obtain ⟨hmem, ⟨⟩⟩ := Option.ite_none_right_eq_some.mp hs
    exact .connectCompletes hmem
  | transmit =>
    obtain ⟨⟨hmem, hresult, hn⟩, ⟨⟩⟩ := Option.ite_none_right_eq_some.mp hs
    exact .transmit hmem hresult hn
  | fail =>
    obtain ⟨⟨hmem, hresult⟩, ⟨⟩⟩ := Option.ite_none_right_eq_some.mp hs
    exact .fail hmem hresult
  | handle =>
    dsimp only at hs
    split at hs
    · cases hs
    · obtain ⟨hmem, ⟨⟩⟩ := Option.ite_none_right_eq_some.mp hs
      exact .handle hmem ‹_›
  | postCheck =>
    dsimp only at hs
    split at hs <;> cases hs
    exact .postCheck ‹_›
  | postPush =>
    dsimp only at hs
    split at hs <;> cases hs
    exact .postPush ‹_›
  | postStart =>
    dsimp only at hs
    split at hs <;> cases hs
    exact .postStart ‹_›

/-- The sends on the current socket. -/
def State.live (s : State) : List Send :=
    s.chain.sends.filter fun send => some send.socket = s.socket

/-- No front was taken of an empty queue, and while no `Post` is in progress and the client is
connected, one send is outstanding if there is something to send, and none if there is not. -/
def Flowing (s : State) : Prop :=
  s.chain.fault = false ∧ (s.post = .returned → s.is_connected = true →
    s.live.length = if s.chain.queue = [] then 0 else 1)

/-- The third step of `Post` finds its message in the queue; the client gets connected with an empty
queue, or with that of a `Post` whose third step is to come; and no successful send of an earlier
socket is handled after it got connected. -/
def Undisturbed (s : State) : Event → Prop
  | .postStart => s.chain.queue ≠ []
  | .connectCompletes _ false =>
    s.is_stopped = true ∨ s.is_connected = true ∨ s.chain.queue = [] ∨ s.post = .pushed
  | .handle ⟨_, socket, _, _, some (.ok _)⟩ => s.running = true → some socket = s.socket
  | _ => True

instance (s : State) : ∀ e, Decidable (Undisturbed s e)
  | .postStart => inferInstanceAs (Decidable (s.chain.queue ≠ []))
  | .connectCompletes _ false =>
    have : Decidable (s.post = .pushed) :=
      match h : s.post with
      | .pushed => isTrue rfl
      | .returned | .checked _ => isFalse (by simp)
    inferInstanceAs (Decidable (_ ∨ _ ∨ _ ∨ _))
  | .handle ⟨_, socket, _, _, some (.ok _)⟩ =>
    inferInstanceAs (Decidable (s.running = true → some socket = s.socket))
  | .handle ⟨_, _, _, _, none⟩ | .handle ⟨_, _, _, _, some .error⟩
  | .handle ⟨_, _, _, _, some .aborted⟩ => isTrue trivial
  | .connectCompletes _ true => isTrue trivial
  | .start | .stop | .transmit _ _ | .fail _ | .postCheck _ | .postPush => isTrue trivial

/-! ## The invariant -/

/-- The queue is empty and nothing is being sent, or its front is. -/
def Carried (s : State) : Prop :=
  (s.chain.queue = [] ∧ s.live = []) ∨
    (s.chain.Ready ∧ ∃ send, s.live = [send] ∧ send.serial = s.chain.current)

/-- A client without a socket. -/
structure Detached (s : State) : Prop where
  noFault : s.chain.fault = false
  older : ∀ send ∈ s.chain.sends, send.socket < s.sockets
  closed : s.is_connected = false ∧ s.socket = none

structure Invariant (s : State) : Prop where
  noFault : s.chain.fault = false
  older : ∀ send ∈ s.chain.sends, send.socket < s.sockets
  newest : ∀ socket, s.socket = some socket → socket < s.sockets
  opened : s.socket.isSome = !s.is_stopped
  connected : s.is_connected = true → s.is_stopped = false
  carried : s.is_connected = true → s.post ≠ .pushed → Carried s
  /-- Nothing is sent on a socket that is not connected, or before the third step of `Post`. -/
  silent : s.is_connected = false ∨ s.post = .pushed → s.live = []

namespace Detached

variable {s : State}

/-- While detached nothing is being sent. -/
theorem live (h : Detached s) : s.live = [] := by
  simp [State.live, h.closed.2]

/-- A stopped and detached client keeps the invariant. -/
theorem invariant (h : Detached s) (hs : s.is_stopped = true) : Invariant s where
  noFault := h.noFault
  older := h.older
  newest socket hsocket := by simp [h.closed.2] at hsocket
  opened := by rw [h.closed.2, hs]; rfl
  connected hc := by simp [h.closed.1] at hc
  carried hc := by simp [h.closed.1] at hc
  silent _ := h.live

/-- A connection is started on a new socket. -/
theorem startConnection (h : Detached s) : Invariant s.startConnection := by
  unfold State.startConnection
  split
  · exact h.invariant ‹_›
  rename_i hs
  have hs : s.is_stopped = false := by simpa using hs
  dsimp only
  rw [h.closed.2]
  refine ⟨h.noFault, fun send hmem => Nat.lt_succ_of_lt (h.older send hmem), ?_, ?_,
    fun hc => by simp [h.closed.1] at hc, fun hc => by simp [h.closed.1] at hc, fun _ => ?_⟩
  · rintro socket ⟨⟩
    exact Nat.lt_succ_self _
  · simp [hs]
  · rw [State.live, List.filter_eq_nil_iff]
    intro send hmem
    have := h.older send hmem
    simp only [decide_eq_true_eq, Option.some.injEq]
    omega

end Detached

namespace Invariant

variable {s s' : State}

theorem initial (header : PacketHeader) : Invariant (initial header) :=
  Detached.invariant ⟨rfl, fun _ hmem => (by cases hmem), rfl, rfl⟩ rfl

/-- The invariant says that the chain flows. -/
theorem flowing (h : Invariant s) : Flowing s := by
  refine ⟨h.noFault, fun hpost hconnected => ?_⟩
  obtain ⟨hq, hlive⟩ | ⟨hready, send, hlive, -⟩ := h.carried hconnected (by simp [hpost])
  · rw [hlive, if_pos hq]
    rfl
  · rw [hlive, if_neg hready.queue_ne_nil]
    rfl

/-- A step that leaves the sends, the queue, and the socket alone. -/
theorem of_eq (h : Invariant s) {header : PacketHeader} {connects : List ℕ}
    (hs : s' = { s with chain := { s.chain with header := header }, connects := connects }) :
    Invariant s' := by
  subst hs
  exact ⟨h.noFault, h.older, h.newest, h.opened, h.connected, h.carried, h.silent⟩

/-- Whatever was going on, a disconnect ends it. -/
theorem disconnect (hf : s.chain.fault = false)
    (ho : ∀ send ∈ s.chain.sends, send.socket < s.sockets) : Detached s.disconnect := by
  unfold State.disconnect
  cases s.socket with
  | none => exact ⟨hf, ho, rfl, rfl⟩
  | some socket =>
    refine ⟨hf, fun send hmem => ?_, rfl, rfl⟩
    obtain ⟨x, hx, rfl⟩ := List.mem_map.mp hmem
    split_ifs
    · exact ho x hx
    · exact ho x hx

/-- A connect keeps the invariant. -/
theorem startConnection (h : Invariant s) : Invariant s.startConnection := by
  unfold State.startConnection
  split
  · exact h
  rename_i hs
  dsimp only
  split
  · exact h.of_eq rfl
  · rename_i hsocket
    have hopened := h.opened
    rw [hsocket] at hopened
    simp [hs] at hopened

/-- So does `Start`. -/
theorem start (h : Invariant s) : Invariant s.start := by
  unfold State.start
  split
  · rename_i hs
    have hc : s.is_connected = false := by
      rw [← Bool.not_eq_true]
      intro hc
      simp [h.connected hc] at hs
    have hsocket : s.socket = none := by
      rw [← Option.not_isSome_iff_eq_none, h.opened, hs]
      decide
    exact Detached.startConnection ⟨h.noFault, h.older, hc, hsocket⟩
  · exact h

/-- So does `Stop`, which detaches the client. -/
theorem stop (h : Invariant s) : Invariant s.stop := by
  unfold State.stop
  split
  · exact h
  · have hd : Detached { s with is_stopped := true }.disconnect := disconnect h.noFault h.older
    exact hd.invariant rfl

/-- So does the handler of a connect, unless `Post` pushed on an empty queue just before it. -/
theorem onConnect (h : Invariant s) {ec : Bool}
    (hcond : ec = false → s.is_stopped = true ∨ s.is_connected = true ∨ s.chain.queue = [] ∨
      s.post = .pushed) : Invariant (s.onConnect ec) := by
  unfold State.onConnect
  split
  · exact h
  rename_i hs
  have hs : s.is_stopped = false := by simpa using hs
  split
  · exact h.startConnection
  rename_i hec
  split
  · rename_i hsocket
    have hopened := h.opened
    rw [hsocket, hs] at hopened
    cases hopened
  · cases hc : s.is_connected with
    -- An attempt that was overtaken by another one finds the client connected.
    | true => exact ⟨h.noFault, h.older, h.newest, h.opened, fun _ => hs,
        fun _ hpost => h.carried hc hpost, fun hor => h.silent (hor.imp_left fun hf => by cases hf)⟩
    -- Nothing is being sent on a new socket, so the queue has to be empty.
    | false =>
      have hlive := h.silent (.inl hc)
      refine ⟨h.noFault, h.older, h.newest, h.opened, fun _ => hs, fun _ hpost => .inl ⟨?_, hlive⟩,
        fun _ => hlive⟩
      obtain hstopped | hconnected | hq | hpushed := hcond (by simpa using hec)
      · simp [hs] at hstopped
      · simp [hc] at hconnected
      · exact hq
      · exact absurd hpushed hpost

/-- A send that ends is not among the live ones any more. -/
theorem live_finish (s : State) (send : Send) :
    { s with chain := s.chain.finish send }.live = s.live.erase send :=
  (List.erase_filter ..).symm

/-- The outcome of a send is noted. -/
theorem settle (h : Invariant s) {send : Send} (hmem : send ∈ s.chain.sends) (result : SendResult) :
    Invariant { s with chain := s.chain.settle send result } := by
  have holder : ∀ x ∈ (s.chain.settle send result).sends, x.socket < s.sockets := by
    intro x hx
    obtain rfl | hx := List.mem_cons.mp hx
    · exact h.older send hmem
    · exact h.older x (List.mem_of_mem_erase hx)
  -- A send on the current socket is the only one there, and stays it.
  by_cases hcur : some send.socket = s.socket
  · have hlive : { s with chain := s.chain.settle send result }.live =
        { send with result := some result } :: s.live.erase send := by
      rw [← live_finish]
      exact List.filter_cons_of_pos (by simpa using hcur)
    have hsend : send ∈ s.live := List.mem_filter.mpr ⟨hmem, by simpa using hcur⟩
    refine ⟨h.noFault, holder, h.newest, h.opened, h.connected, fun hc hpost => .inr ?_,
      fun hor => ?_⟩
    · obtain ⟨-, hnil⟩ | ⟨hready, x, hone, hserial⟩ := h.carried hc hpost
      · rw [hnil] at hsend
        cases hsend
      · rw [hone, List.mem_singleton] at hsend
        subst hsend
        exact ⟨hready, { send with result := some result },
          by rw [hlive, hone, List.erase_cons_head], hserial⟩
    · rw [h.silent hor] at hsend
      cases hsend
  -- A send on an earlier socket is not among those that count.
  · have hlive : { s with chain := s.chain.settle send result }.live = s.live := by
      have hsend : send ∉ s.live := fun hx => hcur (by simpa using (List.mem_filter.mp hx).2)
      refine Eq.trans ?_ ((live_finish s send).trans (List.erase_of_not_mem hsend))
      exact List.filter_cons_of_neg (by simpa using hcur)
    refine ⟨h.noFault, holder, h.newest, h.opened, h.connected, fun hc hpost => ?_,
      fun hor => hlive.trans (h.silent hor)⟩
    refine (h.carried hc hpost).imp (fun ⟨hq, hnil⟩ => ⟨hq, hlive.trans hnil⟩) ?_
    exact fun ⟨hready, x, hone, hserial⟩ => ⟨hready, x, hlive.trans hone, hserial⟩

/-- The handler of a send does nothing when the client does not run. -/
theorem finish (h : Invariant s) (send : Send) (hc : s.is_connected = false) :
    Invariant { s with chain := s.chain.finish send } := by
  refine ⟨h.noFault, fun x hx => h.older x (List.mem_of_mem_erase hx), h.newest, h.opened,
    h.connected, fun hc' => ?_, fun hor => ?_⟩
  · rw [hc] at hc'
    cases hc'
  · rw [live_finish, h.silent hor]
    rfl

/-- The chain goes on from `w`, where nothing was being sent on the current socket. -/
theorem of_continues (h : Invariant s) {socket : ℕ} (hsocket : s.socket = some socket)
    {w w' : WriteChain} (hold : ∀ x ∈ w.sends, x.socket < s.sockets)
    (hlive : { s with chain := w }.live = []) (hw : w.Continues socket w')
    (hs : s' = { s with chain := w', post := s'.post }) (hpost : s'.post ≠ .pushed)
    (hc : s.is_connected = true) : Invariant s' := by
  have hcarried : w'.fault = false ∧ (∀ x ∈ w'.sends, x.socket < s.sockets) ∧ Carried s' := by
    rw [hs]
    -- The chain has started a send of the front, or has nothing to send.
    obtain ⟨hready, send, hsends, hsend, hserial, -⟩ | ⟨hfault, hq, hsends⟩ := hw
    · refine ⟨hready.1, fun x hx => ?_, .inr ⟨hready, send, ?_, hserial⟩⟩
      · rw [hsends] at hx
        obtain rfl | hx := List.mem_cons.mp hx
        · rw [hsend]
          exact h.newest socket hsocket
        · exact hold x hx
      · rw [State.live, hsends, List.filter_cons_of_pos (by simp [hsend, hsocket])]
        exact congrArg (send :: ·) hlive
    · refine ⟨hfault, fun x hx => hold x (hsends ▸ hx), .inl ⟨hq, ?_⟩⟩
      rw [State.live, hsends]
      exact hlive
  obtain ⟨hfault, holder, hcarried⟩ := hcarried
  rw [hs] at hcarried hpost ⊢
  refine ⟨hfault, holder, h.newest, h.opened, h.connected, fun _ _ => hcarried, fun hor => ?_⟩
  obtain hc' | hpushed := hor
  · have hc'' : s.is_connected = false := hc'
    rw [hc] at hc''
    cases hc''
  · exact absurd hpushed hpost

/-- So does the handler of a send that is of the present socket. -/
theorem onSend (h : Invariant s) {send : Send} (hmem : send ∈ s.chain.sends)
    {result : SendResult}
    (hcond : ∀ n, result = .ok n → s.running = true → some send.socket = s.socket) :
    Invariant ({ s with chain := s.chain.finish send }.onSend send result) := by
  have hold : ∀ x ∈ (s.chain.finish send).sends, x.socket < s.sockets :=
    fun x hx => h.older x (List.mem_of_mem_erase hx)
  have hdisconnect : Detached { s with chain := s.chain.finish send }.disconnect :=
    disconnect h.noFault hold
  -- An error disconnects, whatever was going on.
  have hreconnect := hdisconnect.startConnection
  unfold State.onSend
  split
  · rename_i hrun
    refine h.finish send ?_
    rw [← Bool.not_eq_true]
    intro hc
    have hrun' : s.running = false := hrun
    simp [State.running, hc, h.connected hc] at hrun'
  rename_i hrun
  have hrun : s.running = true := by
    rw [← Bool.not_eq_false]
    exact hrun
  have hc : s.is_connected = true := by
    simp only [State.running, Bool.and_eq_true] at hrun
    exact hrun.2
  split
  · rename_i hsocket
    have hopened := h.opened
    rw [show s.socket = none from hsocket, h.connected hc] at hopened
    cases hopened
  rename_i socket hsocket
  cases result with
  | error => exact hreconnect
  | aborted => exact hreconnect
  | ok n =>
    -- The send is the one on the current socket, and belongs to the front.
    have hsend : send ∈ s.live := List.mem_filter.mpr ⟨hmem, by simpa using hcond n rfl hrun⟩
    have hpost : s.post ≠ .pushed := fun hp => by
      rw [h.silent (.inr hp)] at hsend
      cases hsend
    obtain ⟨hready, hlive⟩ : s.chain.Ready ∧
        { s with chain := s.chain.finish send }.live = [] := by
      obtain ⟨-, hnil⟩ | ⟨hready, x, hone, -⟩ := h.carried hc hpost
      · rw [hnil] at hsend
        cases hsend
      · rw [hone, List.mem_singleton] at hsend
        subst hsend
        exact ⟨hready, by rw [live_finish, hone, List.erase_cons_head]⟩
    have hready' : (s.chain.finish send).Ready := hready
    cases hk : send.kind with
    | writeHeader last_bytes =>
      dsimp only
      split
      · rename_i w hw
        exact h.of_continues hsocket hold hlive (WriteChain.onHeader_continues hready' hw) rfl
          hpost hc
      · exact hreconnect
    | writeBody =>
      exact h.of_continues hsocket hold hlive (WriteChain.onBody_continues hready' socket n) rfl
        hpost hc

/-- `Post` pushes a message, and the chain of a nonempty queue is running. -/
theorem postPush (h : Invariant s) {buffer : SizedBuffer} (hpost : s.post = .checked buffer) :
    Invariant (s.postPush buffer) := by
  have hne : s.post ≠ .pushed := by simp [hpost]
  refine ⟨h.noFault, h.older, h.newest, h.opened, h.connected, fun hc hpost' => .inr ?_,
    fun hor => ?_⟩
  · obtain ⟨hq, -⟩ | ⟨hready, send, hone, hserial⟩ := h.carried hc hne
    · simp [State.postPush, hq] at hpost'
    · exact ⟨hready.push _, send, hone, hserial⟩
  · cases hc : s.is_connected with
    | false => exact h.silent (.inl hc)
    | true =>
      obtain ⟨-, hlive⟩ | ⟨hready, -⟩ := h.carried hc hne
      · exact hlive
      · -- The queue was not empty, so this was the last step of `Post`.
        obtain ⟨front, queue, hq, -⟩ := hready.exists_cons
        simp [State.postPush, hq, hc] at hor

/-- `Post` starts the chain of a queue that was empty. -/
theorem postStart (h : Invariant s) (hpost : s.post = .pushed) (hq : s.chain.queue ≠ []) :
    Invariant s.postStart := by
  have hlive := h.silent (.inr hpost)
  obtain ⟨message, queue, hcons⟩ := List.exists_cons_of_ne_nil hq
  unfold State.postStart
  dsimp only
  split
  · rename_i hrun
    -- The client is not connected: the header is set up, and nothing is sent.
    rw [WriteChain.setupHeader_of_cons hcons]
    refine ⟨h.noFault, h.older, h.newest, h.opened, h.connected, fun hc => ?_, fun _ => hlive⟩
    have hrun' : s.running = false := hrun
    have hc' : s.is_connected = true := hc
    simp [State.running, hc', h.connected hc'] at hrun'
  rename_i hrun
  have hrun : s.running = true := by
    rw [← Bool.not_eq_false]
    exact hrun
  have hc : s.is_connected = true := by
    simp only [State.running, Bool.and_eq_true] at hrun
    exact hrun.2
  split
  · rename_i hsocket
    have hopened := h.opened
    rw [hsocket, h.connected hc] at hopened
    cases hopened
  · rename_i socket hsocket
    exact h.of_continues hsocket h.older hlive (WriteChain.start_continues h.noFault hq socket) rfl
      (by simp) hc

/-- `Post` reads the flags and changes nothing. -/
theorem postCheck (h : Invariant s) (hpost : s.post = .returned) (buffer : SizedBuffer) :
    Invariant (s.postCheck buffer) := by
  unfold State.postCheck
  split
  · exact h
  · exact ⟨h.noFault, h.older, h.newest, h.opened, h.connected,
      fun hc _ => h.carried hc (by simp [hpost]),
      fun hor => h.silent (hor.imp_right fun hp => by cases hp)⟩

/-- Every step that disturbs nothing keeps the invariant. -/
theorem step (h : Invariant s) {e : Event} (hcond : Undisturbed s e) (hs : step s e = some s') :
    Invariant s' := by
  cases Step.of_step hs with
  | start => exact h.start
  | stop => exact h.stop
  | @connectCompletes socket ec _ =>
    have h' : Invariant { s with connects := s.connects.erase socket } := h.of_eq rfl
    refine h'.onConnect fun hec => ?_
    subst hec
    exact hcond
  | transmit hmem => exact h.settle hmem _
  | fail hmem => exact h.settle hmem _
  | @handle send result hmem hresult =>
    refine h.onSend hmem fun n hn => ?_
    obtain ⟨kind, socket, serial, bytes, _⟩ := send
    cases hresult
    subst hn
    exact hcond
  | postCheck hpost => exact h.postCheck hpost _
  | postPush hpost => exact h.postPush hpost
  | postStart hpost => exact h.postStart hpost hcond

end Invariant

/-! ## Every run -/

/-- In every run whose steps are undisturbed, a queue with something in it has exactly one send
working on it whenever the client is connected and no `Post` is in progress. -/
theorem flowing_of_undisturbed {header : PacketHeader} {es : List Event} {s : State}
    (h : Along step Undisturbed (initial header) es)
    (hrun : run step (initial header) es = some s) :
    Flowing s :=
  (h.run_invariant Invariant (fun _ _ _ hI hcond hs => hI.step hcond hs) hrun
    (.initial header)).flowing

/-- The first send of a message of one byte. -/
def firstSend (result : Option SendResult) : Send :=
  ⟨.writeHeader 0, 0, 0, slice (PacketHeader.initial.setupHeader 1).data 0 PacketHeader.size,
    result⟩

/-- The client gets connected and starts to send a message of one byte. -/
def firstPost : List Event :=
  [.start, .connectCompletes 0 false, .postCheck ⟨fun _ => 0, 1⟩, .postPush, .postStart]

/-- The header goes out, and a second message is posted while the body is being sent. -/
def secondPost : List Event :=
  firstPost ++
    [.transmit (firstSend none) 24, .handle (firstSend (some (.ok 24))),
     .postCheck ⟨fun _ => 0, 2⟩, .postPush]

theorem flowing_of_secondPost :
    ∃ s, run step (initial .initial) secondPost = some s ∧ s.chain.queue.map Message.size = [1, 2] ∧
      s.live.map Send.kind = [.writeBody] ∧ Flowing s := by
  have halong : Along step Undisturbed (initial .initial) secondPost := by decide
  exact ⟨_, rfl, rfl, by decide, flowing_of_undisturbed halong rfl⟩

/-- A `Post` has checked the flags when a failed send disconnects the client, and pushes its message
after the queue was emptied. -/
def latePush : List Event :=
  firstPost ++
    [.fail (firstSend none), .postCheck ⟨fun _ => 0, 1⟩, .handle (firstSend (some .error)),
     .postPush, .postStart, .connectCompletes 1 false]

/-- The client is connected again, the message is in the queue, and nothing is being sent. -/
theorem latePush_not_flowing :
    ∃ s, run step (initial .initial) latePush = some s ∧ s.chain.queue.map Message.size = [1] ∧
      s.chain.sends = [] ∧ ¬ Flowing s := by
  refine ⟨_, rfl, rfl, by decide, fun h => ?_⟩
  have := h.2 rfl rfl
  revert this
  decide

end CameraClient

end AugmentedNormalcy.Tcp
