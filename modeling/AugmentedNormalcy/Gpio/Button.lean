import AugmentedNormalcy.Headset.HeadsetStreamer
import Mathlib.Tactic.Linarith

/-!
# The button

`domain::Button` of `src/internal/domain/button.cpp`, a state machine that turns the readings of a
pin into actions. The clock is an argument: `now` is what `Clock::now()` returns in the call. Times
and timeouts are in ticks of the clock. -/

namespace AugmentedNormalcy.Gpio

open Headset (ButtonAction)

inductive ButtonState where
  | OPEN
  | DEBOUNCED
  | PRESSED
  /-- After `PRESSED`, when a hold has been emitted. -/
  | HELD
deriving DecidableEq, Repr

structure Button where
  millis_debounce_timeout : ℤ
  millis_hold_timeout : ℤ
  state : ButtonState
  last_state_change : ℤ
deriving DecidableEq, Repr

namespace Button

def transitionState (b : Button) (new_state : ButtonState) (transition_time : ℤ) : Button :=
  { b with state := new_state, last_state_change := transition_time }

def reset (b : Button) (now : ℤ) : Button := b.transitionState .OPEN now

/-- `UpdateButtonState`. In `PRESSED`, the hold timeout is tested before the reading. -/
def updateButtonState (b : Button) (now : ℤ) (button_is_pressed : Bool) : Button × ButtonAction :=
  let elapsed := now - b.last_state_change
  match b.state with
  | .OPEN =>
    if button_is_pressed then (b.transitionState .DEBOUNCED now, .SINGLE_PUSH)
    else (b, .NULL_ACTION)
  | .DEBOUNCED =>
    if elapsed > b.millis_debounce_timeout then
      let new_state := if button_is_pressed then .PRESSED else .OPEN
      (b.transitionState new_state now, .NULL_ACTION)
    else (b, .NULL_ACTION)
  | .PRESSED =>
    if elapsed > b.millis_hold_timeout then (b.transitionState .HELD now, .SINGLE_HOLD)
    else if !button_is_pressed then (b.transitionState .OPEN now, .NULL_ACTION)
    else (b, .NULL_ACTION)
  | .HELD =>
    if !button_is_pressed then (b.transitionState .OPEN now, .NULL_ACTION)
    else (b, .NULL_ACTION)

/-- What a call finds, and what it does. -/
inductive Update (b : Button) (now : ℤ) : Bool → Button × ButtonAction → Prop
  | push (hstate : b.state = .OPEN) :
    Update b now true (b.transitionState .DEBOUNCED now, .SINGLE_PUSH)
  | stillOpen (hstate : b.state = .OPEN) : Update b now false (b, .NULL_ACTION)
  | debouncing {pressed : Bool} (hstate : b.state = .DEBOUNCED)
      (helapsed : now - b.last_state_change ≤ b.millis_debounce_timeout) :
    Update b now pressed (b, .NULL_ACTION)
  | debounced (hstate : b.state = .DEBOUNCED)
      (helapsed : b.millis_debounce_timeout < now - b.last_state_change) :
    Update b now true (b.transitionState .PRESSED now, .NULL_ACTION)
  | bounced (hstate : b.state = .DEBOUNCED)
      (helapsed : b.millis_debounce_timeout < now - b.last_state_change) :
    Update b now false (b.transitionState .OPEN now, .NULL_ACTION)
  | hold {pressed : Bool} (hstate : b.state = .PRESSED)
      (helapsed : b.millis_hold_timeout < now - b.last_state_change) :
    Update b now pressed (b.transitionState .HELD now, .SINGLE_HOLD)
  | stillPressed (hstate : b.state = .PRESSED)
      (helapsed : now - b.last_state_change ≤ b.millis_hold_timeout) :
    Update b now true (b, .NULL_ACTION)
  | released (hstate : b.state = .PRESSED)
      (helapsed : now - b.last_state_change ≤ b.millis_hold_timeout) :
    Update b now false (b.transitionState .OPEN now, .NULL_ACTION)
  | stillHeld (hstate : b.state = .HELD) : Update b now true (b, .NULL_ACTION)
  | letGo (hstate : b.state = .HELD) :
    Update b now false (b.transitionState .OPEN now, .NULL_ACTION)

theorem update (b : Button) (now : ℤ) (pressed : Bool) :
    Update b now pressed (b.updateButtonState now pressed) := by
  unfold updateButtonState
  cases hstate : b.state with
  | OPEN =>
    cases pressed with
    | true => exact .push hstate
    | false => exact .stillOpen hstate
  | DEBOUNCED =>
    dsimp only
    split_ifs with helapsed hpressed
    · subst hpressed
      exact .debounced hstate helapsed
    · obtain rfl := Bool.eq_false_of_not_eq_true hpressed
      exact .bounced hstate helapsed
    · exact .debouncing hstate (not_lt.mp helapsed)
  | PRESSED =>
    dsimp only
    split_ifs with helapsed hpressed
    · exact .hold hstate helapsed
    · obtain rfl : pressed = false := by simpa using hpressed
      exact .released hstate (not_lt.mp helapsed)
    · obtain rfl : pressed = true := by simpa using hpressed
      exact .stillPressed hstate (not_lt.mp helapsed)
  | HELD =>
    cases pressed with
    | true => exact .stillHeld hstate
    | false => exact .letGo hstate

namespace Update

variable {b b' : Button} {now : ℤ} {pressed : Bool} {action : ButtonAction}

/-- The timeouts are constants of the button. -/
theorem timeouts (h : b.Update now pressed (b', action)) :
    b'.millis_debounce_timeout = b.millis_debounce_timeout ∧
      b'.millis_hold_timeout = b.millis_hold_timeout := by
  cases h <;> exact ⟨rfl, rfl⟩

theorem of_push (h : b.Update now pressed (b', .SINGLE_PUSH)) :
    b.state = .OPEN ∧ b'.state = .DEBOUNCED ∧ b'.last_state_change = now := by
  cases h with
  | push hstate => exact ⟨hstate, rfl, rfl⟩

theorem last_state_change_le (h : b.Update now pressed (b', action))
    (hlast : b.last_state_change ≤ now) : b'.last_state_change ≤ now := by
  cases h with
  | stillOpen | debouncing | stillPressed | stillHeld => exact hlast
  | _ => exact le_refl now

/-- What emits an action leads out of `OPEN`. -/
theorem state_ne_open (h : b.Update now pressed (b', action)) (haction : action ≠ .NULL_ACTION) :
    b'.state ≠ .OPEN := by
  cases h with
  | push | hold => simp [transitionState]
  | _ => exact absurd rfl haction

/-- Only a released reading leads back to `OPEN`. -/
theorem state_ne_open_of_pressed (h : b.Update now true (b', action)) (hopen : b.state ≠ .OPEN) :
    b'.state ≠ .OPEN := by
  cases h with
  | push | debounced | hold => simp [transitionState]
  | debouncing | stillPressed | stillHeld => exact hopen

end Update

end Button

end AugmentedNormalcy.Gpio
