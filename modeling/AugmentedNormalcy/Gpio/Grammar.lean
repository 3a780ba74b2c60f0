import AugmentedNormalcy.Gpio.Button
import Mathlib.Computability.RegularExpressions

/-!
# The events of a button

`PiGpio::run` resets the button, feeds it one sample after the other, and posts the actions that are
not null. Whatever the samples are, the posted actions are pushes, each with at most one hold after
it (`posted_mem_grammar`); what lies between two of them follows from the state that the machine is
in after the first one, and from when it got there. -/

namespace AugmentedNormalcy.Gpio

open Headset (ButtonAction)

/-- A reading of the pin, and when it is taken. -/
structure Sample where
  time : ℤ
  pressed : Bool
deriving DecidableEq, Repr

/-- A sample, and the action that the button returns for it. -/
structure Observation where
  sample : Sample
  action : ButtonAction
deriving DecidableEq, Repr

namespace Button

/-- The loop of `PiGpio::run`. -/
def observe (b : Button) : List Sample → List Observation
  | [] => []
  | x :: samples =>
    let (b', action) := b.updateButtonState x.time x.pressed
    ⟨x, action⟩ :: b'.observe samples

theorem observe_cons (b : Button) (x : Sample) (samples : List Sample) : ∃ b' action,
    b.Update x.time x.pressed (b', action) ∧
      b.observe (x :: samples) = ⟨x, action⟩ :: b'.observe samples :=
  ⟨_, _, b.update x.time x.pressed, rfl⟩

end Button

/-- The actions that are posted. -/
def posted (trace : List Observation) : List ButtonAction :=
  (trace.map Observation.action).filter (· ≠ .NULL_ACTION)

/-- A push, and a hold or not. -/
def press : RegularExpression ButtonAction :=
  .char .SINGLE_PUSH * (1 + .char .SINGLE_HOLD)

/-- What holds of the actions of a button with debounce timeout `D` and hold timeout `H`. -/
structure Grammatical (D H : ℤ) (trace : List Observation) : Prop where
  /-- Pushes, each with at most one hold after it. -/
  posted_mem : posted trace ∈ press.star.matches'
  /-- Two pushes are more than `D` apart, and a hold comes more than `D + H` after every push that
  is before it. -/
  apart : trace.Pairwise fun x y => x.action = .SINGLE_PUSH →
    (y.action = .SINGLE_PUSH → D < y.sample.time - x.sample.time) ∧
      (y.action = .SINGLE_HOLD → D + H < y.sample.time - x.sample.time)
  /-- Between a push or a hold and a later push, the button is seen released. -/
  released : ∀ x mid y, x :: mid ++ [y] <:+: trace → x.action ≠ .NULL_ACTION →
    y.action = .SINGLE_PUSH → ∃ z ∈ mid, z.sample.pressed = false

/-! ## The language -/

/-- What can be posted from a state on. -/
def continuation : ButtonState → Language ButtonAction
  | .OPEN | .HELD => press.star.matches'
  | .DEBOUNCED | .PRESSED => (1 + .char .SINGLE_HOLD : RegularExpression ButtonAction).matches' *
      press.star.matches'

variable {b : Button} {samples : List Sample}

theorem posted_cons (x : Observation) (trace : List Observation) : posted (x :: trace) =
    if x.action = .NULL_ACTION then posted trace else x.action :: posted trace := by
  unfold posted
  split_ifs with h <;> simp [h]

/-- A press and more of them. -/
theorem push_cons_mem {w : List ButtonAction} (h : w ∈ continuation .DEBOUNCED) :
    .SINGLE_PUSH :: w ∈ continuation .OPEN := by
  have hstar : 1 + press.matches' * press.star.matches' = press.star.matches' :=
    Language.one_add_self_mul_kstar_eq_kstar press.matches'
  show .SINGLE_PUSH :: w ∈ press.star.matches'
  rw [← hstar, Language.mem_add]
  right
  obtain ⟨u, hu, v, hv, rfl⟩ := Language.mem_mul.mp h
  refine Language.mem_mul.mpr ⟨.SINGLE_PUSH :: u, ?_, v, hv, rfl⟩
  exact Language.mem_mul.mpr ⟨[.SINGLE_PUSH], rfl, u, hu, rfl⟩

/-- The hold of a press may be missing. -/
theorem mem_of_open {w : List ButtonAction} (h : w ∈ continuation .OPEN) :
    w ∈ continuation .PRESSED :=
  Language.mem_mul.mpr ⟨[], Or.inl rfl, w, h, rfl⟩

theorem hold_cons_mem {w : List ButtonAction} (h : w ∈ continuation .HELD) :
    .SINGLE_HOLD :: w ∈ continuation .PRESSED :=
  Language.mem_mul.mpr ⟨[.SINGLE_HOLD], Or.inr rfl, w, h, rfl⟩

/-- From each state on, what is posted is what can be posted from it. -/
theorem posted_observe_mem (samples : List Sample) : ∀ b : Button,
    posted (b.observe samples) ∈ continuation b.state := by
  induction samples with
  | nil =>
    intro b
    have hopen : [] ∈ continuation .OPEN := Language.nil_mem_kstar _
    cases hstate : b.state with
    | OPEN | HELD => exact hopen
    | DEBOUNCED | PRESSED => exact mem_of_open hopen
  | cons x samples ih =>
    intro b
    obtain ⟨now, pressed⟩ := x
    obtain ⟨b', action, hupdate, hcons⟩ := b.observe_cons ⟨now, pressed⟩ samples
    have hrest := ih b'
    rw [hcons, posted_cons]
    cases hupdate with
    | push hstate => exact hstate ▸ push_cons_mem hrest
    | stillOpen hstate | debouncing hstate | stillPressed hstate | stillHeld hstate => exact hrest
    | debounced hstate => exact hstate ▸ hrest
    | bounced hstate | released hstate => exact hstate ▸ mem_of_open hrest
    | hold hstate => exact hstate ▸ hold_cons_mem hrest
    | letGo hstate => exact hstate ▸ hrest

/-! ## The times -/

/-- A push at `p` is behind the machine: the debounce timeout has passed when it got where it is, or
it is waiting for that. -/
def Since (p : ℤ) (b : Button) : Prop :=
  p + b.millis_debounce_timeout < b.last_state_change ∨
    (b.state = .DEBOUNCED ∧ b.last_state_change = p)

variable {p now : ℤ} {pressed : Bool} {b' : Button} {action : ButtonAction}

/-- A push at `p` stays behind the machine, and what is emitted comes late enough after it. -/
theorem Since.update (h : Since p b) (hlast : b.last_state_change ≤ now)
    (hupdate : b.Update now pressed (b', action)) :
    Since p b' ∧ b'.last_state_change ≤ now ∧
      (action = .SINGLE_PUSH → b.millis_debounce_timeout < now - p) ∧
      (action = .SINGLE_HOLD → b.millis_debounce_timeout + b.millis_hold_timeout < now - p) := by
  -- Outside of `DEBOUNCED` the timeout has passed.
  have hpast : b.state ≠ .DEBOUNCED → p + b.millis_debounce_timeout < b.last_state_change :=
    fun hne => h.resolve_right fun hd => hne hd.1
  cases hupdate with
  | push hstate =>
    have := hpast (by simp [hstate])
    exact ⟨.inl (by show p + b.millis_debounce_timeout < now; omega), le_refl now, by omega,
      by simp⟩
  | stillOpen | debouncing | stillPressed | stillHeld => exact ⟨h, hlast, by simp, by simp⟩
  | debounced hstate helapsed | bounced hstate helapsed =>
    have hnow : p + b.millis_debounce_timeout < now := by
      rcases h with h | ⟨-, h⟩
      · omega
      · omega
    exact ⟨.inl hnow, le_refl now, by simp, by simp⟩
  | hold hstate helapsed =>
    have := hpast (by simp [hstate])
    refine ⟨.inl ?_, le_refl now, by simp, by omega⟩
    show p + b.millis_debounce_timeout < now
    omega
  | released hstate | letGo hstate =>
    have := hpast (by simp [hstate])
    refine ⟨.inl ?_, le_refl now, by simp, by simp⟩
    show p + b.millis_debounce_timeout < now
    omega

theorem Since.observe {samples : List Sample} : ∀ {b : Button}, Since p b →
    (samples.Pairwise fun x y => x.time ≤ y.time) → (∀ x ∈ samples, b.last_state_change ≤ x.time) →
      ∀ y ∈ b.observe samples,
        (y.action = .SINGLE_PUSH → b.millis_debounce_timeout < y.sample.time - p) ∧
          (y.action = .SINGLE_HOLD →
            b.millis_debounce_timeout + b.millis_hold_timeout < y.sample.time - p) := by
  induction samples with
  | nil => exact fun _ _ _ y hy => by cases hy
  | cons x samples ih =>
    intro b h hsorted hlast y hy
    obtain ⟨hx, hsorted⟩ := List.pairwise_cons.mp hsorted
    obtain ⟨b', action, hupdate, hcons⟩ := b.observe_cons x samples
    obtain ⟨hsince, hlast', hpush, hhold⟩ := h.update (hlast x List.mem_cons_self) hupdate
    rw [hcons] at hy
    rcases List.mem_cons.mp hy with rfl | hy
    · exact ⟨hpush, hhold⟩
    · rw [← hupdate.timeouts.1, ← hupdate.timeouts.2]
      exact ih hsince hsorted (fun z hz => hlast'.trans (hx z hz)) y hy

theorem apart_observe {samples : List Sample}
    (hsorted : samples.Pairwise fun x y => x.time ≤ y.time) : ∀ b : Button,
    (b.observe samples).Pairwise fun x y => x.action = .SINGLE_PUSH →
      (y.action = .SINGLE_PUSH → b.millis_debounce_timeout < y.sample.time - x.sample.time) ∧
        (y.action = .SINGLE_HOLD →
          b.millis_debounce_timeout + b.millis_hold_timeout < y.sample.time - x.sample.time) := by
  induction samples with
  | nil => exact fun _ => .nil
  | cons x samples ih =>
    intro b
    obtain ⟨hx, hsorted⟩ := List.pairwise_cons.mp hsorted
    obtain ⟨b', action, hupdate, hcons⟩ := b.observe_cons x samples
    rw [hcons, ← hupdate.timeouts.1, ← hupdate.timeouts.2]
    refine .cons (fun y hy hpush => ?_) (ih hsorted b')
    -- After the push the machine waits for the debounce timeout.
    obtain rfl : action = .SINGLE_PUSH := hpush
    obtain ⟨-, hstate, hlast⟩ := hupdate.of_push
    have hsince : Since x.time b' := .inr ⟨hstate, hlast⟩
    exact hsince.observe hsorted (fun z hz => hlast.trans_le (hx z hz)) y hy

/-! ## The readings -/

theorem released_observe {samples : List Sample} : ∀ {b : Button} {mid : List Observation}
    {y : Observation}, b.state ≠ .OPEN → mid ++ [y] <+: b.observe samples →
      y.action = .SINGLE_PUSH → ∃ z ∈ mid, z.sample.pressed = false := by
  induction samples with
  | nil =>
    intro b mid y _ hprefix
    simp [Button.observe] at hprefix
  | cons x samples ih =>
    intro b mid y hopen hprefix hpush
    obtain ⟨now, pressed⟩ := x
    obtain ⟨b', action, hupdate, hcons⟩ := b.observe_cons ⟨now, pressed⟩ samples
    rw [hcons] at hprefix
    cases mid with
    | nil =>
      obtain ⟨rfl, -⟩ := List.cons_prefix_cons.mp hprefix
      obtain rfl : action = .SINGLE_PUSH := hpush
      exact absurd hupdate.of_push.1 hopen
    | cons z mid =>
      rw [List.cons_append] at hprefix
      obtain ⟨rfl, hrest⟩ := List.cons_prefix_cons.mp hprefix
      cases pressed with
      | false => exact ⟨_, List.mem_cons_self, rfl⟩
      | true =>
        obtain ⟨w, hw, hreleased⟩ := ih (hupdate.state_ne_open_of_pressed hopen) hrest hpush
        exact ⟨w, List.mem_cons_of_mem _ hw, hreleased⟩

theorem released_between (samples : List Sample) : ∀ (b : Button) (x : Observation)
    (mid : List Observation) (y : Observation), x :: mid ++ [y] <:+: b.observe samples →
      x.action ≠ .NULL_ACTION → y.action = .SINGLE_PUSH → ∃ z ∈ mid, z.sample.pressed = false := by
  induction samples with
  | nil =>
    intro b x mid y hinfix
    simp [Button.observe] at hinfix
  | cons s samples ih =>
    intro b x mid y hinfix hx hy
    obtain ⟨b', action, hupdate, hcons⟩ := b.observe_cons s samples
    rw [hcons] at hinfix
    rcases List.infix_cons_iff.mp hinfix with hprefix | hinfix
    · rw [List.cons_append] at hprefix
      obtain ⟨rfl, hrest⟩ := List.cons_prefix_cons.mp hprefix
      exact released_observe (hupdate.state_ne_open hx) hrest hy
    · exact ih b' x mid y hinfix hx hy

/-- After a reset, the actions that a button returns for samples in the order of time are pushes
with at most one hold each, with the timeouts and a released reading between them. -/
theorem grammatical_observe (b : Button) (now : ℤ) (samples : List Sample)
    (hsorted : samples.Pairwise fun x y => x.time ≤ y.time) :
    Grammatical b.millis_debounce_timeout b.millis_hold_timeout
      ((b.reset now).observe samples) where
  posted_mem := posted_observe_mem samples (b.reset now)
  apart := apart_observe hsorted (b.reset now)
  released := released_between samples (b.reset now)

/-- A press that is held, and one that is not. -/
theorem grammatical_observe_twice : Grammatical 50 1000
    (((⟨50, 1000, .OPEN, 0⟩ : Button).reset 0).observe
      [⟨10, true⟩, ⟨70, true⟩, ⟨1100, true⟩, ⟨1200, false⟩, ⟨1300, true⟩, ⟨1400, false⟩]) :=
  grammatical_observe ⟨50, 1000, .OPEN, 0⟩ 0
    [⟨10, true⟩, ⟨70, true⟩, ⟨1100, true⟩, ⟨1200, false⟩, ⟨1300, true⟩, ⟨1400, false⟩] (by decide)

end AugmentedNormalcy.Gpio
