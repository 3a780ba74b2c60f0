import AugmentedNormalcy.Foundation.Run
import AugmentedNormalcy.Gpio.Button

/-!
# Contact bounce

A button whose contact bounces, watched by the machine. `change` moves the button, `sample` reads
the pin and updates the machine; the guards of `step` are what the contact promises. A reading
within the debounce timeout after a change may be anything, every other one is the position of the
button; two changes are more than twice the timeout apart, with a stable reading in between.

The machine filters the bounce of a press only. It counts every press once exactly when no reading
of the bounce of a release finds it in `OPEN` again, and it is let out of `HELD` before the next
press is stable (`throughout_counted_iff`). -/

namespace AugmentedNormalcy.Gpio

open StepSystem Headset

/-- A button, the machine that watches it, and what has happened so far. -/
structure Bench where
  button : Button
  /-- The position of the button. -/
  pressed : Bool
  last_change : Option ℤ
  now : ℤ
  /-- There was a stable reading since the last change, or there was no change yet. -/
  sampled : Bool
  /-- The machine has changed its state since the last change of the button. -/
  moved : Bool
  presses : ℕ
  pushes : ℕ
deriving DecidableEq

namespace Bench

/-- A released button, before the first sample. -/
def initial (b : Button) (now : ℤ) : Bench where
  button := b.reset now
  pressed := false
  last_change := none
  now := now
  sampled := true
  moved := false
  presses := 0
  pushes := 0

/-- At `t` the contact does not bounce any more. -/
def Stable (s : Bench) (t : ℤ) : Prop :=
  ∀ c ∈ s.last_change, s.button.millis_debounce_timeout < t - c

instance (s : Bench) (t : ℤ) : Decidable (s.Stable t) :=
  inferInstanceAs (Decidable (∀ c ∈ s.last_change, s.button.millis_debounce_timeout < t - c))

/-- The button moves. -/
def change (s : Bench) (t : ℤ) : Bench :=
  { s with
    pressed := !s.pressed
    last_change := some t
    now := t
    sampled := false
    moved := false
    presses := if s.pressed then s.presses else s.presses + 1 }

/-- The pin is read, and the machine updated. -/
def sample (s : Bench) (t : ℤ) (reading : Bool) : Bench :=
  let (button, action) := s.button.updateButtonState t reading
  { s with
    button
    now := t
    sampled := s.sampled || decide (s.Stable t)
    moved := s.moved || decide (button.state ≠ s.button.state)
    pushes := if action = .SINGLE_PUSH then s.pushes + 1 else s.pushes }

end Bench

inductive BenchEvent where
  | change (t : ℤ)
  | sample (t : ℤ) (reading : Bool)
deriving DecidableEq

/-- One event, when the contact can behave like that. -/
def Bench.step (s : Bench) : BenchEvent → Option Bench
  | .change t =>
    if s.now ≤ t ∧ s.sampled ∧ ∀ c ∈ s.last_change,
      2 * s.button.millis_debounce_timeout < t - c then
      some (s.change t)
    else none
  | .sample t reading =>
    if s.now ≤ t ∧ (s.Stable t → reading = s.pressed) then some (s.sample t reading) else none

/-- No push comes before its press, and once the position has been seen, every press has its
push. -/
def Counted (s : Bench) : Prop := s.pushes ≤ s.presses ∧ (s.sampled = true → s.pushes = s.presses)

/-- A pressed reading of a released button does not find the machine in `OPEN`, and a stable reading
of a pressed one does not find it in `HELD` from before the press. -/
def Settles (s : Bench) : BenchEvent → Prop
  | .sample t true =>
    (s.pressed = false → s.button.state ≠ .OPEN) ∧
      (s.pressed = true → s.Stable t → ¬ (s.button.state = .HELD ∧ s.moved = false))
  | _ => True

instance (s : Bench) : ∀ e, Decidable (Settles s e)
  | .sample t true => inferInstanceAs (Decidable ((s.pressed = false → s.button.state ≠ .OPEN) ∧
      (s.pressed = true → s.Stable t → ¬ (s.button.state = .HELD ∧ s.moved = false))))
  | .sample _ false | .change _ => isTrue trivial

instance (s : Bench) : Decidable (Counted s) :=
  inferInstanceAs (Decidable (s.pushes ≤ s.presses ∧ (s.sampled = true → s.pushes = s.presses)))

/-! ## The phases of a press -/

/-- Where the machine is, relative to the button. -/
inductive Phase (s : Bench) : Prop where
  /-- The button is up, and every press was counted. A machine that still debounces has been doing
  so since before the release. -/
  | up (hpressed : s.pressed = false) (hcount : s.pushes = s.presses)
      (hsampled : s.sampled = true → (s.button.state = .OPEN ∨ s.button.state = .HELD) ∧
        s.Stable s.now)
      (hdebounced : s.button.state = .DEBOUNCED →
        ∃ c ∈ s.last_change, s.button.last_state_change ≤ c)
  /-- The button is down, and the press was not counted yet. -/
  | waiting (hpressed : s.pressed = true) (hcount : s.pushes + 1 = s.presses)
      (hsampled : s.sampled = false)
      (hstate : s.button.state = .OPEN ∨ (s.button.state = .HELD ∧ s.moved = false))
  /-- The button is down, and the press was counted. A machine that does not debounce any more sees
  stable readings only. -/
  | counted (hpressed : s.pressed = true) (hcount : s.pushes = s.presses) (hmoved : s.moved = true)
      (hopen : s.button.state ≠ .OPEN)
      (hdebounced : s.button.state = .DEBOUNCED →
        ∀ c ∈ s.last_change, c ≤ s.button.last_state_change)
      (hstable : s.button.state ≠ .DEBOUNCED → s.Stable s.now)

/-- The invariant: the machine is in one of the phases, and no change is in the future. -/
structure Follows (s : Bench) : Prop where
  timed : s.button.last_state_change ≤ s.now
  changed : ∀ c ∈ s.last_change, c ≤ s.now
  phase : Phase s

theorem Bench.Stable.mono {s : Bench} {t t' : ℤ} (h : s.Stable t) (ht : t ≤ t') : s.Stable t' := by
  intro c hc
  have := h c hc
  omega

namespace Follows

variable {s s' : Bench} {t : ℤ} {reading : Bool}

theorem initial (b : Button) (now : ℤ) : Follows (.initial b now) :=
  ⟨le_refl now, by simp [Bench.initial],
   .up rfl rfl (fun _ => ⟨.inl rfl, by simp [Bench.Stable, Bench.initial]⟩)
    (by simp [Bench.initial, Button.reset, Button.transitionState])⟩

theorem counts (h : Follows s) : Counted s := by
  cases h.phase with
  | up _ hcount => exact ⟨hcount.le, fun _ => hcount⟩
  | waiting _ hcount hsampled => exact ⟨by omega, fun hyes => absurd (hsampled ▸ hyes) (by decide)⟩
  | counted _ hcount => exact ⟨hcount.le, fun _ => hcount⟩

/-- A press that was read once it was stable has been counted; the next change finds the machine in
one place with the button. -/
theorem change (h : Follows s) (ht : s.now ≤ t) (hsampled : s.sampled = true) :
    Follows (s.change t) := by
  have htimed := h.timed
  refine ⟨htimed.trans ht, by simp [Bench.change], ?_⟩
  cases h.phase with
  | up hpressed hcount hstate _ =>
    refine .waiting (by simp [Bench.change, hpressed]) (by simp [Bench.change, hpressed, hcount])
      rfl ?_
    obtain ⟨hopen | hheld, -⟩ := hstate hsampled
    · exact .inl hopen
    · exact .inr ⟨hheld, rfl⟩
  | waiting _ _ hnot => exact absurd (hnot ▸ hsampled) (by decide)
  | counted hpressed hcount _ _ _ _ =>
    exact .up (by simp [Bench.change, hpressed]) (by simp [Bench.change, hpressed, hcount])
      (fun hyes => by cases hyes) (fun _ => ⟨t, rfl, htimed.trans ht⟩)

variable {b' : Button} {action : ButtonAction}

/-- What a sample leaves, once it is known what the machine does. -/
theorem sample_eq (heq : s.button.updateButtonState t reading = (b', action)) :
    s.sample t reading =
      { s with
        button := b'
        now := t
        sampled := s.sampled || decide (s.Stable t)
        moved := s.moved || decide (b'.state ≠ s.button.state)
        pushes := if action = .SINGLE_PUSH then s.pushes + 1 else s.pushes } := by
  simp only [Bench.sample, heq]

/-- A reading of a released button. -/
theorem sample_up (ht : s.now ≤ t) (hreading : s.Stable t → reading = false)
    (hpressed : s.pressed = false) (hcount : s.pushes = s.presses)
    (hsampled : s.sampled = true → (s.button.state = .OPEN ∨ s.button.state = .HELD) ∧
      s.Stable s.now)
    (hdebounced : s.button.state = .DEBOUNCED → ∃ c ∈ s.last_change, s.button.last_state_change ≤ c)
    (hsettles : reading = true → s.button.state ≠ .OPEN) : Phase (s.sample t reading) := by
  obtain ⟨b', action, heq⟩ : ∃ b' action, s.button.updateButtonState t reading = (b', action) :=
    ⟨_, _, rfl⟩
  have hupdate := heq ▸ s.button.update t reading
  rw [sample_eq heq]
  clear heq
  -- A sampled interval stays stable.
  have hstable : (s.sampled || decide (s.Stable t)) = true → s.Stable t := by
    intro hyes
    rcases Bool.or_eq_true_iff.mp hyes with hyes | hyes
    · exact (hsampled hyes).2.mono ht
    · exact of_decide_eq_true hyes
  cases hupdate with
  | push hstate => exact absurd hstate (hsettles rfl)
  | stillOpen hstate =>
    exact .up hpressed hcount (fun hyes => ⟨.inl hstate, hstable hyes⟩) (by simp [hstate])
  | debouncing hstate helapsed =>
    -- The machine waits since before the release, and so does the contact.
    obtain ⟨c, hc, hle⟩ := hdebounced hstate
    refine .up hpressed hcount (fun hyes => ?_) (fun _ => ⟨c, hc, hle⟩)
    have := hstable hyes c hc
    omega
  | debounced hstate | stillPressed hstate =>
    refine .up hpressed hcount (fun hyes => ?_) (by simp [hstate, Button.transitionState])
    exact absurd (hreading (hstable hyes)) (by decide)
  | bounced hstate | released hstate | letGo hstate =>
    exact .up hpressed hcount (fun hyes => ⟨.inl rfl, hstable hyes⟩)
      (by simp [Button.transitionState])
  | hold hstate =>
    exact .up hpressed hcount (fun hyes => ⟨.inr rfl, hstable hyes⟩)
      (by simp [Button.transitionState])
  | stillHeld hstate =>
    exact .up hpressed hcount (fun hyes => ⟨.inr hstate, hstable hyes⟩) (by simp [hstate])

/-- A reading of a pressed button whose press has not been counted. -/
theorem sample_waiting (hchanged : ∀ c ∈ s.last_change, c ≤ t)
    (hreading : s.Stable t → reading = true) (hpressed : s.pressed = true)
    (hcount : s.pushes + 1 = s.presses) (hsampled : s.sampled = false)
    (hstate : s.button.state = .OPEN ∨ (s.button.state = .HELD ∧ s.moved = false))
    (hsettles : reading = true → s.Stable t → ¬ (s.button.state = .HELD ∧ s.moved = false)) :
    Phase (s.sample t reading) := by
  obtain ⟨b', action, heq⟩ : ∃ b' action, s.button.updateButtonState t reading = (b', action) :=
    ⟨_, _, rfl⟩
  have hupdate := heq ▸ s.button.update t reading
  rw [sample_eq heq]
  clear heq
  cases hupdate with
  | push hopen =>
    exact .counted hpressed hcount (by simp [hopen, Button.transitionState])
      (by simp [Button.transitionState]) (fun _ => hchanged) (by simp [Button.transitionState])
  | stillOpen hopen =>
    refine .waiting hpressed hcount ?_ (.inl hopen)
    have hnot : ¬ s.Stable t := fun hyes => absurd (hreading hyes) (by decide)
    simp [hsampled, hnot]
  | stillHeld hheld =>
    obtain ⟨-, hmoved⟩ := hstate.resolve_left (by simp [hheld])
    have hnot : ¬ s.Stable t := fun hyes => hsettles rfl hyes ⟨hheld, hmoved⟩
    exact .waiting hpressed hcount (by simp [hsampled, hnot]) (.inr ⟨hheld, by simp [hmoved]⟩)
  | letGo hheld =>
    refine .waiting hpressed hcount ?_ (.inl rfl)
    have hnot : ¬ s.Stable t := fun hyes => absurd (hreading hyes) (by decide)
    simp [hsampled, hnot]
  | debouncing hother | debounced hother | bounced hother | hold hother | stillPressed hother
  | released hother => simp [hother] at hstate

/-- A reading of a pressed button whose press has been counted. -/
theorem sample_counted (ht : s.now ≤ t) (hreading : s.Stable t → reading = true)
    (hpressed : s.pressed = true) (hcount : s.pushes = s.presses) (hmoved : s.moved = true)
    (hopen : s.button.state ≠ .OPEN)
    (hdebounced : s.button.state = .DEBOUNCED → ∀ c ∈ s.last_change, c ≤ s.button.last_state_change)
    (hstable : s.button.state ≠ .DEBOUNCED → s.Stable s.now) : Phase (s.sample t reading) := by
  obtain ⟨b', action, heq⟩ : ∃ b' action, s.button.updateButtonState t reading = (b', action) :=
    ⟨_, _, rfl⟩
  have hupdate := heq ▸ s.button.update t reading
  rw [sample_eq heq]
  clear heq
  -- Once the machine has waited for the timeout, the contact has, too.
  have hwaited : s.button.state = .DEBOUNCED →
      s.button.millis_debounce_timeout < t - s.button.last_state_change → s.Stable t := by
    intro hstate helapsed c hc
    have := hdebounced hstate c hc
    omega
  cases hupdate with
  | push hstate | stillOpen hstate => exact absurd hstate hopen
  | debouncing hstate =>
    exact .counted hpressed hcount (by simp [hmoved]) hopen hdebounced
      (fun hne => absurd hstate hne)
  | debounced hstate helapsed =>
    exact .counted hpressed hcount (by simp [hmoved]) (by simp [Button.transitionState])
      (by simp [Button.transitionState]) (fun _ => hwaited hstate helapsed)
  | bounced hstate helapsed => exact absurd (hreading (hwaited hstate helapsed)) (by decide)
  | hold hstate =>
    exact .counted hpressed hcount (by simp [hmoved]) (by simp [Button.transitionState])
      (by simp [Button.transitionState]) (fun _ => (hstable (by simp [hstate])).mono ht)
  | stillPressed hstate | stillHeld hstate =>
    exact .counted hpressed hcount (by simp [hmoved]) hopen hdebounced
      (fun hne => (hstable hne).mono ht)
  | released hstate | letGo hstate =>
    exact absurd (hreading ((hstable (by simp [hstate])).mono ht)) (by decide)

/-- A sample that meets `Settles` keeps the phases. -/
theorem sample (h : Follows s) (ht : s.now ≤ t) (hreading : s.Stable t → reading = s.pressed)
    (hsettles : Settles s (.sample t reading)) : Follows (s.sample t reading) := by
  have hchanged : ∀ c ∈ s.last_change, c ≤ t := fun c hc => (h.changed c hc).trans ht
  refine ⟨?_, hchanged, ?_⟩
  · show (s.button.updateButtonState t reading).1.last_state_change ≤ t
    exact (s.button.update t reading).last_state_change_le (h.timed.trans ht)
  · cases h.phase with
    | up hpressed hcount hsampled hdebounced =>
      refine sample_up ht (hpressed ▸ hreading) hpressed hcount hsampled hdebounced fun htrue => ?_
      subst htrue
      exact hsettles.1 hpressed
    | waiting hpressed hcount hsampled hstate =>
      refine sample_waiting hchanged (hpressed ▸ hreading) hpressed hcount hsampled hstate
        fun htrue => ?_
      subst htrue
      exact hsettles.2 hpressed
    | counted hpressed hcount hmoved hopen hdebounced hstable =>
      exact sample_counted ht (hpressed ▸ hreading) hpressed hcount hmoved hopen hdebounced hstable

theorem step {e : BenchEvent} (h : Follows s) (hsettles : Settles s e)
    (hs : s.step e = some s') : Follows s' := by
  cases e with
  | change t =>
    obtain ⟨⟨ht, hsampled, -⟩, ⟨⟩⟩ := Option.ite_none_right_eq_some.mp hs
    exact h.change ht hsampled
  | sample t reading =>
    obtain ⟨⟨ht, hreading⟩, ⟨⟩⟩ := Option.ite_none_right_eq_some.mp hs
    exact h.sample ht hreading hsettles

/-- A sample that does not meet `Settles` counts a press that there was not, or misses one. -/
theorem not_counted {e : BenchEvent} (h : Follows s) (hsettles : ¬ Settles s e)
    (hs : s.step e = some s') : ¬ Counted s' := by
  cases e with
  | change t => exact absurd trivial hsettles
  | sample t reading =>
    obtain ⟨-, ⟨⟩⟩ := Option.ite_none_right_eq_some.mp hs
    cases reading with
    | false => exact absurd trivial hsettles
    | true =>
      rcases not_and_or.mp hsettles with hup | hdown
      · -- The machine takes a reading of the bounce for another press.
        obtain ⟨hpressed, hopen⟩ : s.pressed = false ∧ s.button.state = .OPEN := by
          simpa using hup
        rintro ⟨hle, -⟩
        have hpush : (s.sample t true).pushes = s.pushes + 1 := by
          simp [Bench.sample, Button.updateButtonState, hopen]
        have hpresses : (s.sample t true).presses = s.presses := rfl
        cases h.phase with
        | up _ hcount => omega
        | waiting hyes | counted hyes => simp [hpressed] at hyes
      · -- The machine still waits for the release before.
        obtain ⟨hpressed, hstable, hheld, hmoved⟩ : s.pressed = true ∧ s.Stable t ∧
            s.button.state = .HELD ∧ s.moved = false := by simpa using hdown
        rintro ⟨-, heq⟩
        have hpush : (s.sample t true).pushes = s.pushes := by
          simp [Bench.sample, Button.updateButtonState, hheld]
        have hpresses : (s.sample t true).presses = s.presses := rfl
        have hsampled : (s.sample t true).sampled = true := by simp [Bench.sample, hstable]
        have := heq hsampled
        cases h.phase with
        | up hno => simp [hpressed] at hno
        | waiting _ hcount => omega
        | counted _ _ hyes => simp [hmoved] at hyes

end Follows

/-- Every press is counted once, in every state of a run, exactly when at each pressed reading of a
released button the machine is not in `OPEN`, and at each stable reading of a pressed one it is not
in `HELD` from before the press. -/
theorem throughout_counted_iff (b : Button) (now : ℤ) (events : List BenchEvent) :
    Throughout Bench.step Counted (.initial b now) events ↔
      Along Bench.step Settles (.initial b now) events :=
  throughout_iff_along Follows (fun _ h => h.counts) (fun _ _ _ h hP hs => h.step hP hs)
    (fun _ _ _ h hP hs => h.not_counted hP hs) (.initial b now)

/-- A release that bounces once: the pin reads released, pressed, released. -/
def bouncingRelease : List BenchEvent :=
  [.change 100, .sample 101 true, .sample 160 true, .change 300, .sample 301 false,
    .sample 302 true, .sample 400 false]

/-- One press, and two pushes. -/
theorem not_counted_bouncingRelease : ¬ ∀ events s,
    run Bench.step (.initial ⟨50, 1000, .OPEN, 0⟩ 0) events = some s →
      s.sampled = true → s.pushes = s.presses := by
  intro h
  have heq := h bouncingRelease _ rfl (by decide)
  exact absurd heq (by decide)

/-- A release that is seen when the hold timeout has passed leaves the machine in `HELD`, and the
next press is missed. -/
example : ¬ Along Bench.step Settles (.initial ⟨50, 100, .OPEN, 0⟩ 0)
    [.change 100, .sample 101 true, .sample 160 true, .change 250, .sample 320 false, .change 400,
      .sample 460 true] := by decide

end AugmentedNormalcy.Gpio
