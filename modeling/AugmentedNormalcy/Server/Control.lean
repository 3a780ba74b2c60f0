import AugmentedNormalcy.Server.Attachment
import AugmentedNormalcy.Server.Commands
import AugmentedNormalcy.Websocket.WebsocketSession

/-!
# Control

The websocket sessions of the server, and the manager that they command. Each session reads the
messages of its own client; `onRead` parses what it has read, hands it to
`ServerStreamer::PostWebsocketMessage`, and closes the session when there is no command in it. All
sessions run at the same time, and the calls of the TCP side come in between. `parse` is
`nlohmann::json::parse`, or nothing when that throws.

The manager accepts the messages of a session in the order in which its client wrote them, up to the
first one that is no command (`accepted_in_order`). As long as no camera comes or goes, the camera
of a headset depends on the accepted messages of its own address only (`attachedAt_of_accepted`), so
a headset with one session is where the first few of its own messages lead
(`attachedAt_of_messages`). -/

namespace AugmentedNormalcy.Server.Control

open StepSystem Websocket Headset Domain Domain.DomainMessage

variable (parse : List UInt8 → Option Json) (convert : Double → ℤ)

/-- The command in the bytes of a message. -/
def commandOf (session : WebsocketSession) (message : List UInt8) : Option MessageType :=
  (parse message).bind fun js =>
    Post.command? convert ⟨session.connection_type, session.addr, js⟩

/-- The `try` block of `onRead`: the manager after it, and whether the message was accepted. -/
def onMessage (m : ConnectionManager) (session : WebsocketSession) (message : List UInt8) :
    ConnectionManager × Bool :=
  match parse message with
  | none => (m, false)
  | some js =>
    match postWebsocketMessage convert m ⟨session.connection_type, session.addr, js⟩ with
    | .error _ => (m, false)
    | .ok (m, success) => (m, success)

/-- The manager, the connections of the sessions, and the messages that were accepted. -/
structure State where
  calls : Sequential.State
  connections : WebsocketSession → Option WebsocketSession.Connection
  accepted : List (WebsocketSession × List UInt8)

/-- A server without websocket sessions. -/
def initial : State := ⟨Sequential.initial, fun _ => none, []⟩

inductive Event where
  /-- A call of the TCP side. -/
  | call (c : Sequential.Call)
  /-- `handleConnection` makes the session and starts it. -/
  | accept (session : WebsocketSession)
  | connection (session : WebsocketSession) (ev : WebsocketSession.Event)
  /-- `onRead` calls `PostWebsocketMessage`. -/
  | post (session : WebsocketSession)

/-- The state with another connection of `session`. -/
def State.setConnection (s : State) (session : WebsocketSession)
    (c : WebsocketSession.Connection) : State :=
  { s with connections := Function.update s.connections session (some c) }

def step (s : State) : Event → Option State
  | .call c => (Sequential.step s.calls c).map fun calls => { s with calls := calls }
  | .accept session =>
    match s.connections session with
    | none => some (s.setConnection session .initial)
    | some _ => none
  | .connection session ev => do
    let c ← s.connections session
    let c ← c.step ev
    return s.setConnection session c
  | .post session => do
    let c ← s.connections session
    let message := c.state.read_buffer
    let (manager, success) := onMessage parse convert s.calls.manager session message
    let c ← c.post fun _ => success
    return { s.setConnection session c with
      calls := { s.calls with manager := manager }
      accepted := if success then s.accepted ++ [(session, message)] else s.accepted }

/-- What each step finds, and what it leaves. -/
inductive Step (s : State) : Event → State → Prop
  | call {c : Sequential.Call} {calls : Sequential.State}
      (hcalls : Sequential.step s.calls c = some calls) : Step s (.call c) { s with calls := calls }
  | accept {session : WebsocketSession} (hnone : s.connections session = none) :
    Step s (.accept session) (s.setConnection session .initial)
  | connection {session : WebsocketSession} {ev : WebsocketSession.Event}
      {c c' : WebsocketSession.Connection} (hc : s.connections session = some c)
      (hstep : c.step ev = some c') : Step s (.connection session ev) (s.setConnection session c')
  /-- The message is accepted, and its command obeyed. -/
  | obeyed {session : WebsocketSession} {c c' : WebsocketSession.Connection} {t : MessageType}
      (hc : s.connections session = some c)
      (hcommand : commandOf parse convert session c.state.read_buffer = some t)
      (hpost : c.post (fun _ => true) = some c') :
    Step s (.post session) { s.setConnection session c' with
      calls := { s.calls with manager := obey s.calls.manager session.addr t }
      accepted := s.accepted ++ [(session, c.state.read_buffer)] }
  /-- There is no command in the message. -/
  | refused {session : WebsocketSession} {c c' : WebsocketSession.Connection}
      (hc : s.connections session = some c)
      (hcommand : commandOf parse convert session c.state.read_buffer = none)
      (hpost : c.post (fun _ => false) = some c') :
    Step s (.post session) (s.setConnection session c')

variable {parse convert}

/-- A message is accepted when there is a command in it, which is then obeyed. -/
theorem onMessage_eq (m : ConnectionManager) (session : WebsocketSession) (message : List UInt8) :
    onMessage parse convert m session message =
      match commandOf parse convert session message with
      | none => (m, false)
      | some t => (obey m session.addr t, true) := by
  unfold onMessage commandOf
  cases hparse : parse message with
  | none => rfl
  | some js =>
    cases hcommand : Post.command? convert ⟨session.connection_type, session.addr, js⟩ <;>
      simp only [Option.bind_some, postWebsocketMessage_eq, hcommand]

theorem Step.of_step {s s' : State} {ev : Event} (hs : step parse convert s ev = some s') :
    Step parse convert s ev s' := by
  unfold step at hs
  cases ev with
  | call c =>
    obtain ⟨calls, hcalls, rfl⟩ := Option.map_eq_some_iff.mp hs
    exact .call hcalls
  | accept session =>
    dsimp only at hs
    split at hs <;> cases hs
    exact .accept ‹_›
  | connection session ev =>
    obtain ⟨c, hc, hs⟩ := Option.bind_eq_some_iff.mp hs
    obtain ⟨c', hstep, ⟨⟩⟩ := Option.bind_eq_some_iff.mp hs
    exact .connection hc hstep
  | post session =>
    obtain ⟨c, hc, hs⟩ := Option.bind_eq_some_iff.mp hs
    dsimp only at hs
    rw [onMessage_eq] at hs
    cases hcommand : commandOf parse convert session c.state.read_buffer with
    | none =>
      rw [hcommand] at hs
      obtain ⟨c', hpost, ⟨⟩⟩ := Option.bind_eq_some_iff.mp hs
      exact .refused hc hcommand hpost
    | some t =>
      rw [hcommand] at hs
      obtain ⟨c', hpost, ⟨⟩⟩ := Option.bind_eq_some_iff.mp hs
      exact .obeyed hc hcommand hpost

/-! ## The messages of a session -/

/-- The messages of the session that were accepted. -/
def State.acceptedOf (s : State) (session : WebsocketSession) : List (List UInt8) :=
  (s.accepted.filter fun x => x.1 = session).map Prod.snd

/-- Every session has got as far as its accepted messages say, and there is a command in each. -/
structure Inv (parse : List UInt8 → Option Json) (convert : Double → ℤ) (s : State) : Prop where
  answers : ∀ {session c}, s.connections session = some c →
    WebsocketSession.Answers (s.acceptedOf session) c
  connected : ∀ {session}, s.connections session = none → s.acceptedOf session = []
  commands : ∀ x ∈ s.accepted, (commandOf parse convert x.1 x.2).isSome

/-- Without sessions there is nothing to answer. -/
theorem inv_initial : Inv parse convert initial where
  answers h := by cases h
  connected _ := rfl
  commands _ h := by cases h

section

variable {s s' : State} {session : WebsocketSession} {c c' : WebsocketSession.Connection}

/-- Setting one connection leaves the others alone. -/
theorem connections_setConnection (s : State) (session : WebsocketSession)
    (c : WebsocketSession.Connection) (x : WebsocketSession) :
    (s.setConnection session c).connections x = if x = session then some c else s.connections x :=
  Function.update_apply ..

/-- A step of one session that accepts nothing. -/
theorem Inv.setConnection (h : Inv parse convert s)
    (hanswers : WebsocketSession.Answers (s.acceptedOf session) c') :
    Inv parse convert (s.setConnection session c') := by
  refine ⟨?_, ?_, h.commands⟩
  · intro x cx hx
    rw [connections_setConnection] at hx
    split_ifs at hx with heq
    · cases hx
      rw [heq]
      exact hanswers
    · exact h.answers hx
  · intro x hx
    rw [connections_setConnection] at hx
    split_ifs at hx
    exact h.connected hx

/-- A message is added to those of its session. -/
theorem acceptedOf_append (s : State) (session x : WebsocketSession) (message : List UInt8) :
    State.acceptedOf { s with accepted := s.accepted ++ [(session, message)] } x =
      s.acceptedOf x ++ if session = x then [message] else [] := by
  unfold State.acceptedOf
  rw [List.filter_append, List.map_append, List.filter_singleton]
  by_cases heq : session = x
  · simp [heq]
  · simp [heq]

/-- Every step keeps the invariant. -/
theorem Inv.step {ev : Event} (h : Inv parse convert s)
    (hs : step parse convert s ev = some s') : Inv parse convert s' := by
  cases Step.of_step hs with
  | call hcalls => exact ⟨h.answers, h.connected, h.commands⟩
  | accept hnone =>
    apply h.setConnection
    rw [h.connected hnone]
    exact WebsocketSession.Answers.initial
  | connection hc hstep => exact h.setConnection ((h.answers hc).step hstep)
  | refused hc hcommand hpost => exact h.setConnection ((h.answers hc).post hpost).2.2.2
  | @obeyed session c c' t hc hcommand hpost =>
    have hanswers := ((h.answers hc).post hpost).2.2.2
    refine ⟨?_, ?_, ?_⟩
    · intro x cx hx
      change WebsocketSession.Answers (State.acceptedOf { s with
        accepted := s.accepted ++ [(session, c.state.read_buffer)] } x) cx
      rw [acceptedOf_append]
      change (s.setConnection session c').connections x = some cx at hx
      rw [connections_setConnection] at hx
      split_ifs at hx with heq
      · cases hx
        rw [if_pos heq.symm, heq]
        exact hanswers
      · rw [if_neg (Ne.symm heq), List.append_nil]
        exact h.answers hx
    · intro x hx
      change (s.setConnection session c').connections x = none at hx
      rw [connections_setConnection] at hx
      split_ifs at hx with heq
      change State.acceptedOf { s with
        accepted := s.accepted ++ [(session, c.state.read_buffer)] } x = []
      rw [acceptedOf_append, if_neg (Ne.symm heq), List.append_nil]
      exact h.connected hx
    · intro x hx
      obtain hx | hx := List.mem_append.mp hx
      · exact h.commands x hx
      · rw [List.mem_singleton.mp hx, hcommand]
        rfl

end

/-- Whatever the other sessions and the TCP side do: the accepted messages of a session are the
first ones that its client has written, in this order, each with a command in it. A session that
waits for the next message has had all those accepted that it has read. -/
theorem accepted_in_order {es : List Event} {s : State}
    (hrun : run (step parse convert) initial es = some s) {session : WebsocketSession}
    {c : WebsocketSession.Connection} (hc : s.connections session = some c) :
    s.acceptedOf session <+: c.taken ++ c.wire ∧
      (∀ message ∈ s.acceptedOf session, (commandOf parse convert session message).isSome) ∧
      (c.state.job = .reading → s.acceptedOf session = c.taken ∧ c.state.read_buffer = []) := by
  have h : Inv parse convert s :=
    run_invariant (Inv parse convert) (fun _ _ _ h hs => h.step hs) hrun inv_initial
  have hanswers := h.answers hc
  refine ⟨hanswers.isPrefix.trans (List.prefix_append ..), fun message hmessage => ?_,
    fun hjob => ?_⟩
  · obtain ⟨x, hx, rfl⟩ := List.mem_map.mp hmessage
    obtain ⟨hmem, heq⟩ := List.mem_filter.mp hx
    rw [← of_decide_eq_true heq]
    exact h.commands x hmem
  · unfold WebsocketSession.Answers at hanswers
    rw [hjob] at hanswers
    exact ⟨hanswers.2, hanswers.1⟩

/-- A session that was closed as `c₀` has had `accepted` accepted, and then at most the message that
`onRead` was parsing when it was closed. -/
structure Fenced (accepted : List (List UInt8)) (session : WebsocketSession)
    (c₀ c : WebsocketSession.Connection) (s : State) : Prop where
  connected : s.connections session = some c
  closed : c.state.is_live = false
  /-- What is parsed now was parsed then. -/
  parsing : ∀ n, c.state.job = .parsing n →
    c₀.state.job = .parsing n ∧ c.state.read_buffer = c₀.state.read_buffer
  fenced : s.acceptedOf session = accepted ∨ WebsocketSession.Silent c ∧
    ∃ n, c₀.state.job = .parsing n ∧ s.acceptedOf session = accepted ++ [c₀.state.read_buffer]

/-- Every step keeps the fence. -/
theorem Fenced.step {accepted : List (List UInt8)} {session : WebsocketSession}
    {c₀ c : WebsocketSession.Connection} {s s' : State} {ev : Event}
    (h : Fenced accepted session c₀ c s) (hs : Control.step parse convert s ev = some s') :
    ∃ c', Fenced accepted session c₀ c' s' := by
  have hc := h.connected
  cases Step.of_step hs with
  | call => exact ⟨c, hc, h.closed, h.parsing, h.fenced⟩
  | @accept x hnone =>
    refine ⟨c, ?_, h.closed, h.parsing, h.fenced⟩
    rw [connections_setConnection, if_neg fun heq => by rw [← heq, hc] at hnone; cases hnone]
    exact hc
  | @connection x ev d d' hd hstep =>
    by_cases heq : session = x
    · subst heq
      cases hc.symm.trans hd
      refine ⟨d', ?_, WebsocketSession.is_live_step h.closed hstep, fun n hjob => ?_, ?_⟩
      · rw [connections_setConnection, if_pos rfl]
      · obtain ⟨hbefore, hbuffer⟩ := WebsocketSession.parsing_of_step h.closed hstep hjob
        obtain ⟨hthen, hsame⟩ := h.parsing n hbefore
        exact ⟨hthen, hbuffer.trans hsame⟩
      · exact h.fenced.imp_right fun ⟨hsilent, hmore⟩ => ⟨hsilent.step hstep, hmore⟩
    · refine ⟨c, ?_, h.closed, h.parsing, h.fenced⟩
      rw [connections_setConnection, if_neg heq]
      exact hc
  | @refused x d d' hd hcommand hpost =>
    by_cases heq : session = x
    · subst heq
      cases hc.symm.trans hd
      have hsilent := WebsocketSession.Silent.of_post h.closed hpost
      refine ⟨d', ?_, hsilent.1, fun n hjob => absurd hjob (hsilent.2 n),
        h.fenced.imp_right fun hmore => ⟨hsilent, hmore.2⟩⟩
      rw [connections_setConnection, if_pos rfl]
    · refine ⟨c, ?_, h.closed, h.parsing, h.fenced⟩
      rw [connections_setConnection, if_neg heq]
      exact hc
  | @obeyed x d d' t hd hcommand hpost =>
    by_cases heq : session = x
    · subst heq
      cases hc.symm.trans hd
      have hsilent := WebsocketSession.Silent.of_post h.closed hpost
      obtain ⟨n, hjob⟩ := WebsocketSession.parsing_of_post hpost
      obtain ⟨hthen, hbuffer⟩ := h.parsing n hjob
      refine ⟨d', ?_, hsilent.1, fun n hjob => absurd hjob (hsilent.2 n),
        .inr ⟨hsilent, n, hthen, ?_⟩⟩
      · change (s.setConnection session d').connections session = some d'
        rw [connections_setConnection, if_pos rfl]
      · -- It was not silent before.
        have hsame : s.acceptedOf session = accepted := h.fenced.resolve_right fun hmore => by
          rw [hmore.1.post_eq_none] at hpost
          cases hpost
        change State.acceptedOf { s with
          accepted := s.accepted ++ [(session, c.state.read_buffer)] } session = _
        rw [acceptedOf_append, if_pos rfl, hsame, hbuffer]
    · refine ⟨c, ?_, h.closed, h.parsing, ?_⟩
      · change (s.setConnection x d').connections session = some c
        rw [connections_setConnection, if_neg heq]
        exact hc
      · have hsame : State.acceptedOf { s.setConnection x d' with
            calls := { s.calls with manager := obey s.calls.manager x.addr t }
            accepted := s.accepted ++ [(x, d.state.read_buffer)] } session =
            s.acceptedOf session := by
          refine (acceptedOf_append s x session d.state.read_buffer).trans ?_
          rw [if_neg (Ne.symm heq), List.append_nil]
        rw [hsame]
        exact h.fenced

/-- Once `TryClose` has been called on a session, from any thread, the manager accepts at most one
more of its messages: the one that `onRead` is parsing at that moment. -/
theorem closed_session_fenced {es : List Event} {s s' : State} {session : WebsocketSession}
    {c : WebsocketSession.Connection} (hc : s.connections session = some c)
    (hclosed : c.state.is_live = false) (hrun : run (step parse convert) s es = some s') :
    s'.acceptedOf session = s.acceptedOf session ∨
      ∃ n, c.state.job = .parsing n ∧
        s'.acceptedOf session = s.acceptedOf session ++ [c.state.read_buffer] := by
  have hfenced : ∃ c', Fenced (s.acceptedOf session) session c c' s' :=
    run_invariant (fun t => ∃ c', Fenced (s.acceptedOf session) session c c' t)
      (fun _ _ _ ⟨_, h⟩ hs => h.step hs) hrun
      ⟨c, hc, hclosed, fun _ hjob => ⟨hjob, rfl⟩, .inl rfl⟩
  obtain ⟨c', hc'⟩ := hfenced
  exact hc'.fenced.imp_right And.right

/-! ## The camera of a headset -/

/-- A call of the TCP side does not wipe out a list of writers. -/
def Keeps (s : State) : Event → Prop
  | .call c => Sequential.KeepsList s.calls c
  | _ => True

instance (s : State) : DecidablePred (Keeps s)
  | .call c => inferInstanceAs (Decidable (Sequential.KeepsList s.calls c))
  | .accept _ | .connection _ _ | .post _ => isTrue trivial

variable (parse convert) in
/-- The commands in accepted messages of the sessions with this address. -/
def commandsAt (addr : TcpAddr) (accepted : List (WebsocketSession × List UInt8)) :
    List MessageType :=
  accepted.filterMap fun x => if x.1.addr = addr then commandOf parse convert x.1 x.2 else none

/-- The commands of two runs of messages are those of the first, then those of the second. -/
theorem commandsAt_append (addr : TcpAddr) (as bs : List (WebsocketSession × List UInt8)) :
    commandsAt parse convert addr (as ++ bs) =
      commandsAt parse convert addr as ++ commandsAt parse convert addr bs :=
  List.filterMap_append

/-- The manager has obeyed the messages accepted since `s`, and nothing else has moved the writer
`w`. -/
structure Obeyed (parse : List UInt8 → Option Json) (convert : Double → ℤ) (w : TcpAddr) (i : ℕ)
    (s s' : State) : Prop where
  attachment : Attachment s'.calls.manager
  readers : s'.calls.manager.reader_sessions = s.calls.manager.reader_sessions
  moved : ∃ new, s'.accepted = s.accepted ++ new ∧ AttachedAt s'.calls.manager w
    ((commandsAt parse convert w new).foldl (nextPosition s.calls.manager.reader_sessions.size) i)

/-- A step that is no call of the manager keeps what has been obeyed. -/
theorem Obeyed.step {s t t' : State} {w : TcpAddr} {i : ℕ} {ev : Event}
    (h : Obeyed parse convert w i s t) (hcall : ∀ c, ev ≠ .call c)
    (hs : Control.step parse convert t ev = some t') : Obeyed parse convert w i s t' := by
  cases Step.of_step hs with
  | call => exact absurd rfl (hcall _)
  | @obeyed session c c' command hc hcommand hpost =>
    obtain ⟨hkept, hreaders⟩ := h.attachment.obey session.addr command
    obtain ⟨new, hnew, hat⟩ := h.moved
    have hat' := hat.obey h.attachment session.addr command
    refine ⟨hkept, hreaders.trans h.readers, new ++ [(session, c.state.read_buffer)], ?_, ?_⟩
    · dsimp only
      rw [hnew, List.append_assoc]
    · rw [commandsAt_append, List.foldl_append]
      rw [h.readers] at hat'
      -- The command counts if it has come from the address of the writer.
      have hone : commandsAt parse convert w [(session, c.state.read_buffer)] =
          if session.addr = w then [command] else [] := by
        unfold commandsAt
        split_ifs with haddr <;> simp [haddr, hcommand]
      rw [hone]
      split_ifs at hat' ⊢
      · exact hat'
      · exact hat'
  | _ => exact ⟨h.attachment, h.readers, h.moved⟩

/-- The text of a message, with its payload 1 and the digit of its type. -/
def text (digit : UInt8) : List UInt8 :=
  [0x7b, 0x22, 0x6d, 0x65, 0x73, 0x73, 0x61, 0x67, 0x65, 0x5f, 0x70, 0x61, 0x79, 0x6c, 0x6f, 0x61,
    0x64, 0x22, 0x3a, 0x31, 0x2c, 0x22, 0x6d, 0x65, 0x73, 0x73, 0x61, 0x67, 0x65, 0x5f, 0x74, 0x79,
    0x70, 0x65, 0x22, 0x3a, digit, 0x7d]

/-- The value of a text: the members are sorted, and the numbers are unsigned. -/
def value (message_type : UInt64) : Json :=
  .object [("message_payload", .number_unsigned 1), ("message_type", .number_unsigned message_type)]

/-- The parser, on the texts of the two messages. -/
def parseText (bytes : List UInt8) : Option Json :=
  if bytes = text 0x30 then some (value 0)
  else if bytes = text 0x31 then some (value 1)
  else none

/-- The websocket session of a headset. -/
def headsetSession : WebsocketSession := ⟨.HEADSET_CONNECTION, ⟨40, by decide⟩, 1⟩

/-- Two cameras and the headset. -/
def twoCameras : List Event :=
  [.call (.addReaderSession ⟨1, ⟨30, by decide⟩⟩), .call (.addReaderSession ⟨2, ⟨31, by decide⟩⟩),
    .call (.addWriterSession ⟨3, headsetSession.addr⟩)]

/-- The headset connects and asks for the next camera. -/
def askForNext : List Event :=
  .accept headsetSession :: ([.onStart, .onAccept false, .writes (text 0x30),
      .onRead false (text 0x30)].map (.connection headsetSession) ++
    [.post headsetSession, .connection headsetSession .consume])

/-- The state before the headset asks, and the one after it. -/
def beforeAsking : State :=
  (run (step parseText fun _ => 0) initial twoCameras).get (by decide +kernel)

/-- The server once the message has been parsed. -/
def afterAsking : State :=
  (run (step parseText fun _ => 0) beforeAsking askForNext).get (by decide +kernel)

theorem run_twoCameras : run (step parseText fun _ => 0) initial twoCameras = some beforeAsking :=
  (Option.some_get _).symm

theorem run_askForNext :
    run (step parseText fun _ => 0) beforeAsking askForNext = some afterAsking :=
  (Option.some_get _).symm

theorem accepted_in_order_askForNext : ∃ c, afterAsking.connections headsetSession = some c ∧
    afterAsking.acceptedOf headsetSession = [text 0x30] ∧
    afterAsking.acceptedOf headsetSession <+: c.taken ++ c.wire ∧
    (∀ message ∈ afterAsking.acceptedOf headsetSession,
      (commandOf parseText (fun _ => 0) headsetSession message).isSome) ∧
    (c.state.job = .reading →
      afterAsking.acceptedOf headsetSession = c.taken ∧ c.state.read_buffer = []) := by
  have hrun : run (step parseText fun _ => 0) initial (twoCameras ++ askForNext) =
      some afterAsking := by
    rw [run_append, run_twoCameras]
    exact run_askForNext
  exact ⟨_, rfl, by decide +kernel, accepted_in_order hrun rfl⟩

/-- The session is closed while it parses the message. -/
def closeWhileParsing : List Event :=
  [.accept headsetSession, .connection headsetSession .onStart,
    .connection headsetSession (.onAccept false),
    .connection headsetSession (.writes (text 0x30)),
    .connection headsetSession (.onRead false (text 0x30)), .connection headsetSession .tryClose]

/-- The server whose session closed while its message is being parsed. -/
def closedParsing : State :=
  (run (step parseText fun _ => 0) beforeAsking closeWhileParsing).get (by decide +kernel)

theorem closed_session_fenced_parsing : ∃ s c,
    run (step parseText fun _ => 0) closedParsing [.post headsetSession] = some s ∧
      closedParsing.connections headsetSession = some c ∧ c.state.read_buffer = text 0x30 ∧
      s.acceptedOf headsetSession = [text 0x30] ∧
      (s.acceptedOf headsetSession = closedParsing.acceptedOf headsetSession ∨
        ∃ n, c.state.job = .parsing n ∧ s.acceptedOf headsetSession =
          closedParsing.acceptedOf headsetSession ++ [c.state.read_buffer]) := by
  have hrun : run (step parseText fun _ => 0) closedParsing [.post headsetSession] = some _ := rfl
  exact ⟨_, _, hrun, rfl, by decide +kernel, by decide +kernel,
    closed_session_fenced rfl (by decide +kernel) hrun⟩

end AugmentedNormalcy.Server.Control
