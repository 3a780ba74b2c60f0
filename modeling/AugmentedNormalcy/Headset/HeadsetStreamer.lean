import AugmentedNormalcy.Foundation.Run
import AugmentedNormalcy.Headset.HeadsetDomain

/-!
# The headset streamer

Four threads meet in `service::HeadsetStreamer`: the caller of `Start` and `Stop`, the strand of
each client, and the thread that polls the button. Every call of `HeadsetState` and of
`PostGraphicsHeadsetState` takes its own lock, so each is one step here, and what a thread holds
between two of its steps is in the state: the state that the button callback chose from the one it
read, and the state that a transition has still to publish.

The steps of `Start` and `Stop` are those that let a thread run or join it: the clients report
while the asio context runs, the button is polled while the gpio thread does. `Start` of a started
streamer and `Stop` of a stopped one return at once and are no steps. The calls of `Start` in
`handleStateChangeConnecting` concern the clients and the decoder, not what is modelled here.
-/

namespace AugmentedNormalcy.Headset

inductive ButtonAction where
  | NULL_ACTION
  | SINGLE_PUSH
  | SINGLE_HOLD
  deriving DecidableEq, Repr

/-- The messages a headset sends to the server. -/
inductive MessageType where
  | HeadsetRotateCamera
  | HeadsetResetCamera
  deriving DecidableEq, Repr

/-- What the button callback does in a state: the state change it asks for, and the message it posts
after that. -/
def onButton (state : HeadsetStates) (action : ButtonAction) :
    Option HeadsetStates × Option MessageType :=
  match state with
  | .READY => (some .RUNNING, none)
  | .RUNNING =>
    if action = .SINGLE_HOLD then (some .READY, some .HeadsetResetCamera)
    else (none, some .HeadsetRotateCamera)
  | _ => (none, none)

/-- The place of the button thread. -/
inductive Button where
  | idle
  /-- In `doStateChange`, before `PostState`. -/
  | changing (state : HeadsetStates) (message : Option MessageType)
  /-- In `handleStateChange`, before `PostGraphicsHeadsetState`. -/
  | publishing (state : HeadsetStates) (message : Option MessageType)
  deriving DecidableEq, Repr

/-- How far the last call of `Start` or `Stop` has come. -/
inductive Control where
  | stopped
  /-- `Start` has posted `CONNECTING`. -/
  | connecting
  /-- The asio context runs and the clients are started. -/
  | serving
  /-- The gpio thread runs too, and `Start` has returned. -/
  | started
  /-- `Stop` has posted `CLOSING`. -/
  | closing
  /-- The gpio thread is joined. -/
  | draining
  deriving DecidableEq, Repr

/-- `publishing` is what each client's strand has to publish, and `reported` what it reported last:
no operation reads `reported`. -/
structure HeadsetStreamer where
  control : Control
  headset : HeadsetState
  graphics : HeadsetStates
  button : Button
  publishing : Link → Option HeadsetStates
  messages : List MessageType
  reported : Link → Bool

/-- A streamer that was never started; no link was ever reported connected. -/
def initial : HeadsetStreamer where
  control := .stopped
  headset := .initial
  graphics := .CONNECTING
  button := .idle
  publishing := fun _ => none
  messages := []
  reported := fun _ => false

inductive Event where
  /-- `Start` posts `CONNECTING`. -/
  | start
  /-- `Start` starts the asio context and the clients. -/
  | startServices
  /-- `Start` starts the gpio thread and returns. -/
  | startGpio
  /-- `Stop` posts `CLOSING`. -/
  | stop
  /-- `Stop` joins the gpio thread. -/
  | stopGpio
  /-- `Stop` stops the clients, joins the asio context and returns. -/
  | stopServices
  /-- A client reports its link. -/
  | report (link : Link) (is_connected : Bool)
  /-- A client's strand goes on to `PostGraphicsHeadsetState`. -/
  | publish (link : Link)
  /-- The button callback calls `GetState`. -/
  | button (action : ButtonAction)
  /-- The button callback goes on to `PostState`. -/
  | buttonPostState
  /-- The button callback goes on to `PostGraphicsHeadsetState`. -/
  | buttonPublish
  deriving DecidableEq, Repr

/-- The clients' strands run. -/
def Control.serves : Control → Bool
  | serving | started | closing | draining => true
  | _ => false

/-- The gpio thread runs. -/
def Control.polls : Control → Bool
  | started | closing => true
  | _ => false

namespace HeadsetStreamer

/-- What a report's handler does with the outcome of `HeadsetState`, up to `handleStateChange`. -/
def onTransition (s : HeadsetStreamer) (link : Link) (is_connected : Bool)
    (outcome : HeadsetState × StateTransition) : HeadsetStreamer :=
  let (headset, state_change, state) := outcome
  { s with
    headset := headset
    publishing := Function.update s.publishing link (if state_change then some state else none)
    reported := Function.update s.reported link is_connected }

def createHeadsetClientConnection (s : HeadsetStreamer) : HeadsetStreamer :=
  s.onTransition .tcp true (s.headset.postTcpConnection true)

def destroyHeadsetClientConnection (s : HeadsetStreamer) : HeadsetStreamer :=
  s.onTransition .tcp false (s.headset.postTcpConnection false)

def createWebsocketClientConnection (s : HeadsetStreamer) : HeadsetStreamer :=
  s.onTransition .websocket true (s.headset.postWebsocketConnection true)

def destroyWebsocketClientConnection (s : HeadsetStreamer) : HeadsetStreamer :=
  s.onTransition .websocket false (s.headset.postWebsocketConnection false)

/-- The handler of each report. -/
def onReport (s : HeadsetStreamer) : Link → Bool → HeadsetStreamer
  | .tcp, true => s.createHeadsetClientConnection
  | .tcp, false => s.destroyHeadsetClientConnection
  | .websocket, true => s.createWebsocketClientConnection
  | .websocket, false => s.destroyWebsocketClientConnection

/-- The four handlers are one text. -/
theorem onReport_eq (s : HeadsetStreamer) (link : Link) (is_connected : Bool) :
    s.onReport link is_connected =
      s.onTransition link is_connected (s.headset.postConnection link is_connected) := by
  cases link <;> cases is_connected <;> rfl

/-- The button callback up to the first of its locks that it waits for. -/
def buttonCallback (s : HeadsetStreamer) (action : ButtonAction) : HeadsetStreamer :=
  let (change, message) := onButton s.headset.getState action
  { s with
    button := match change with
      | some state => .changing state message
      | none => .idle
    messages := match change with
      | some _ => s.messages
      | none => s.messages ++ message.toList }

end HeadsetStreamer

def step (s : HeadsetStreamer) : Event → Option HeadsetStreamer
  | .start =>
    if s.control = .stopped then
      some { s with control := .connecting, headset := s.headset.postState .CONNECTING }
    else none
  | .startServices =>
    if s.control = .connecting then some { s with control := .serving } else none
  | .startGpio =>
    if s.control = .serving then some { s with control := .started } else none
  | .stop =>
    if s.control = .started then
      some { s with control := .closing, headset := s.headset.postState .CLOSING }
    else none
  | .stopGpio =>
    if s.control = .closing ∧ s.button = .idle then some { s with control := .draining } else none
  | .stopServices =>
    if s.control = .draining ∧ s.publishing .tcp = none ∧ s.publishing .websocket = none then
      some { s with control := .stopped }
    else none
  | .report link is_connected =>
    -- A strand runs one handler at a time.
    if s.control.serves ∧ s.publishing link = none then some (s.onReport link is_connected)
    else none
  | .publish link =>
    match s.publishing link with
    | some state =>
      some { s with graphics := state, publishing := Function.update s.publishing link none }
    | none => none
  | .button action =>
    if s.control.polls ∧ s.button = .idle ∧
      action ≠ .NULL_ACTION then some (s.buttonCallback action)
    else none
  | .buttonPostState =>
    match s.button with
    | .changing state message =>
      some { s with headset := s.headset.postState state, button := .publishing state message }
    | _ => none
  | .buttonPublish =>
    match s.button with
    | .publishing state message =>
      some { s with
        graphics := state, button := .idle, messages := s.messages ++ message.toList }
    | _ => none

/-- What each step finds, and what it leaves. -/
inductive Step (s : HeadsetStreamer) : Event → HeadsetStreamer → Prop
  | start (hc : s.control = .stopped) :
    Step s .start { s with control := .connecting, headset := s.headset.postState .CONNECTING }
  | startServices (hc : s.control = .connecting) :
    Step s .startServices { s with control := .serving }
  | startGpio (hc : s.control = .serving) : Step s .startGpio { s with control := .started }
  | stop (hc : s.control = .started) :
    Step s .stop { s with control := .closing, headset := s.headset.postState .CLOSING }
  | stopGpio (hc : s.control = .closing) (hidle : s.button = .idle) :
    Step s .stopGpio { s with control := .draining }
  | stopServices (hc : s.control = .draining) (hdrained : ∀ link, s.publishing link = none) :
    Step s .stopServices { s with control := .stopped }
  | report {link : Link} {b : Bool} (hserves : s.control.serves)
    (hfree : s.publishing link = none) :
    Step s (.report link b)
      (s.onTransition link b (s.headset.postConnection link b))
  | publish {link : Link} {state : HeadsetStates} (hpending : s.publishing link = some state) :
    Step s (.publish link)
      { s with graphics := state, publishing := Function.update s.publishing link none }
  | button {action : ButtonAction} (hpolls : s.control.polls) (hidle : s.button = .idle) :
    Step s (.button action) (s.buttonCallback action)
  | buttonPostState {state : HeadsetStates} {message : Option MessageType}
      (hbutton : s.button = .changing state message) :
    Step s .buttonPostState
      { s with headset := s.headset.postState state, button := .publishing state message }
  | buttonPublish {state : HeadsetStates} {message : Option MessageType}
      (hbutton : s.button = .publishing state message) :
    Step s .buttonPublish { s with
      graphics := state, button := .idle, messages := s.messages ++ message.toList }

theorem Step.of_step {s s' : HeadsetStreamer} {e : Event} (hs : step s e = some s') :
    Step s e s' := by
  cases e with
  | start | startServices | startGpio | stop =>
    obtain ⟨hc, ⟨⟩⟩ := Option.ite_none_right_eq_some.mp hs
    constructor
    exact hc
  | stopGpio =>
    obtain ⟨⟨hc, hidle⟩, ⟨⟩⟩ := Option.ite_none_right_eq_some.mp hs
    exact .stopGpio hc hidle
  | stopServices =>
    obtain ⟨⟨hc, htcp, hwebsocket⟩, ⟨⟩⟩ := Option.ite_none_right_eq_some.mp hs
    exact .stopServices hc ((forall_link .tcp).mpr ⟨htcp, hwebsocket⟩)
  | report link b =>
    obtain ⟨⟨hserves, hfree⟩, ⟨⟩⟩ := Option.ite_none_right_eq_some.mp hs
    rw [HeadsetStreamer.onReport_eq]
    exact .report hserves hfree
  | publish link =>
    simp only [step] at hs
    split at hs <;> cases hs
    exact .publish ‹_›
  | button action =>
    obtain ⟨⟨hpolls, hidle, -⟩, ⟨⟩⟩ := Option.ite_none_right_eq_some.mp hs
    exact .button hpolls hidle
  | buttonPostState =>
    simp only [step] at hs
    split at hs <;> cases hs
    exact .buttonPostState ‹_›
  | buttonPublish =>
    simp only [step] at hs
    split at hs <;> cases hs
    exact .buttonPublish ‹_›

/-- The callback asks for no other state changes than these. -/
theorem onButton_fst {state target : HeadsetStates} {action : ButtonAction}
    (h : (onButton state action).1 = some target) : target = .READY ∨ target = .RUNNING := by
  unfold onButton at h
  split at h
  · cases h
    exact .inr rfl
  · split_ifs at h
    cases h
    exact .inl rfl
  · cases h

end AugmentedNormalcy.Headset
