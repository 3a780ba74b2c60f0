import Mathlib.Data.List.Basic

/-!
# The headset's state

`domain::HeadsetState` holds the state of the headset and the flags of its two links. Its four
operations run under one mutex, so each is one function here. `PostTcpConnection` and
`PostWebsocketConnection` are the same text with the links exchanged: both are `postConnection`.
-/

namespace AugmentedNormalcy.Headset

inductive HeadsetStates where
  | CONNECTING
  | READY
  | RUNNING
  | CLOSING
  deriving DecidableEq, Repr

/-- The two connections of a headset to the server. -/
inductive Link where
  | tcp
  | websocket
  deriving DecidableEq, Repr

/-- The other of the two links. -/
def Link.other : Link → Link
  | tcp => websocket
  | websocket => tcp

/-- A link is not the other one. -/
@[simp]
theorem Link.other_ne (link : Link) : link.other ≠ link := by
  cases link <;> simp [Link.other]

/-- What holds of one and of the other holds of both. -/
theorem forall_link {p : Link → Prop} (link : Link) : (∀ l, p l) ↔ p link ∧ p link.other := by
  constructor
  · exact fun h => ⟨h link, h link.other⟩
  · rintro ⟨h, hother⟩ l
    cases l <;> cases link <;> assumption

/-- Whether the state changed, and the state. -/
abbrev StateTransition := Bool × HeadsetStates

structure HeadsetState where
  tcp_is_connected : Bool
  websocket_is_connected : Bool
  state : HeadsetStates
  deriving DecidableEq, Repr

namespace HeadsetState

/-- The member initializers. -/
def initial : HeadsetState where
  tcp_is_connected := false
  websocket_is_connected := false
  state := .CONNECTING

/-- `GetState`. -/
def getState (h : HeadsetState) : HeadsetStates := h.state

/-- `PostState`. -/
def postState (h : HeadsetState) (state : HeadsetStates) : HeadsetState := { h with state := state }

/-- Whether the link is up. -/
def isConnected (h : HeadsetState) : Link → Bool
  | .tcp => h.tcp_is_connected
  | .websocket => h.websocket_is_connected

/-- The state with the link's flag set. -/
def setConnected (h : HeadsetState) (is_connected : Bool) : Link → HeadsetState
  | .tcp => { h with tcp_is_connected := is_connected }
  | .websocket => { h with websocket_is_connected := is_connected }

/-- The state that a report leads to from a state other than `CLOSING`. -/
def reportedState (h : HeadsetState) (link : Link) (is_connected : Bool) : HeadsetStates :=
  if !is_connected then
    if h.state = .READY ∨ h.state = .RUNNING then .CONNECTING else h.state
  else
    if h.state = .CONNECTING ∧ h.isConnected link.other then .READY else h.state

/-- A report that arrives in `CLOSING` is discarded: not even the flag of its link is set. -/
def postConnection (h : HeadsetState) (link : Link) (is_connected : Bool) :
    HeadsetState × StateTransition :=
  if h.state = .CLOSING then (h, false, h.state)
  else
    let state := h.reportedState link is_connected
    ((h.postState state).setConnected is_connected link, decide (h.state ≠ state), state)

def postTcpConnection (h : HeadsetState) (is_connected : Bool) : HeadsetState × StateTransition :=
  h.postConnection .tcp is_connected

def postWebsocketConnection (h : HeadsetState) (is_connected : Bool) :
    HeadsetState × StateTransition :=
  h.postConnection .websocket is_connected

variable (h : HeadsetState) (link : Link) (is_connected : Bool)

/-- A flag does not move the state. -/
@[simp]
theorem setConnected_state : (h.setConnected is_connected link).state = h.state := by
  cases link <;> rfl

/-- The flag is what it was set to. -/
@[simp]
theorem isConnected_setConnected :
    (h.setConnected is_connected link).isConnected link = is_connected := by
  cases link <;> rfl

/-- The other flag is what it was. -/
@[simp]
theorem isConnected_setConnected_other :
    (h.setConnected is_connected link).isConnected link.other = h.isConnected link.other := by
  cases link <;> rfl

/-- The state is what it was set to. -/
@[simp]
theorem postState_state (state : HeadsetStates) : (h.postState state).state = state := rfl

/-- A transition reports the state it leads to, and says whether that is another one. -/
theorem postConnection_snd :
    (h.postConnection link is_connected).2 =
      (decide (h.state ≠ (h.postConnection link is_connected).1.state),
        (h.postConnection link is_connected).1.state) := by
  unfold postConnection
  split_ifs <;> simp

/-- A report that a link is down leaves no state that expects the links. -/
theorem postConnection_down :
    (h.postConnection link false).1.state ≠ .READY ∧
      (h.postConnection link false).1.state ≠ .RUNNING := by
  unfold postConnection
  split_ifs with hc
  · simp [hc]
  · cases hs : h.state <;> simp [reportedState, hs]

/-- A report that a link is up changes the state in one case only. -/
theorem postConnection_up_state :
    (h.postConnection link true).1.state =
      if h.state = .CONNECTING ∧ h.isConnected link.other then .READY else h.state := by
  unfold postConnection
  by_cases hc : h.state = .CLOSING
  · simp [hc]
  · simp [hc, reportedState]

end HeadsetState

end AugmentedNormalcy.Headset
