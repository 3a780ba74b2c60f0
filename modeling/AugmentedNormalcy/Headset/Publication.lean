import AugmentedNormalcy.Headset.HeadsetStreamer

/-!
# What the screen shows

A transition and its publication to the graphics thread are two steps under two locks, and three
threads take them. So publications can arrive in another order than the transitions they belong to,
and then the last one to arrive is not the last state. `Start` does not publish its `CONNECTING` at
all: the graphics thread keeps what the run before it published last.

`Shown` holds throughout a run exactly when every publication that leaves none under way is of the
state as it is then, and every `Start` finds `CONNECTING` on the screen (`throughout_shown_iff`).
-/

namespace AugmentedNormalcy.Headset

open StepSystem

/-- The publication that the button thread has before it. -/
def Button.pending : Button → Option HeadsetStates
  | publishing state _ => some state
  | _ => none

/-- From the first step of `Start` to the first step of `Stop`. -/
def Control.isUp : Control → Bool
  | connecting | serving | started => true
  | _ => false

/-- No transition is between its two steps. -/
def Settled (s : HeadsetStreamer) : Prop :=
  (∀ link, s.publishing link = none) ∧ s.button.pending = none

/-- Between `Start` and `Stop`, with no transition under way, the graphics thread holds the
state. -/
def Shown (s : HeadsetStreamer) : Prop :=
  s.control.isUp → Settled s → s.graphics = s.headset.getState

/-- The publication after which none is under way is of the present state, and `Start` finds
`CONNECTING` published. -/
def PublishesLatest (s : HeadsetStreamer) : Event → Prop
  | .start => s.graphics = .CONNECTING
  | .publish link => s.control.isUp → s.publishing link.other = none → s.button.pending = none →
      s.publishing link = some s.headset.getState
  | .buttonPublish => s.control.isUp → (∀ link, s.publishing link = none) →
      s.button.pending = some s.headset.getState
  | _ => True

/-- The property, and that a stopped streamer has no transition under way: its threads are
joined. -/
structure Published (s : HeadsetStreamer) : Prop where
  shown : Shown s
  joined : s.control = .draining ∨ s.control = .stopped → s.button = .idle
  drained : s.control = .stopped → ∀ link, s.publishing link = none

theorem Shown.of_not_isUp {s : HeadsetStreamer} (h : s.control.isUp = false) : Shown s := by
  intro hup
  rw [h] at hup
  cases hup

theorem Shown.of_not_settled {s : HeadsetStreamer} (h : ¬ Settled s) : Shown s :=
  fun _ hsettled => absurd hsettled h

namespace Published

variable {s s' : HeadsetStreamer}

theorem initial : Published initial where
  shown := fun _ _ => rfl
  joined := fun _ => rfl
  drained := fun _ _ => rfl

theorem settled (h : Published s) (hc : s.control = .stopped) : Settled s := by
  refine ⟨h.drained hc, ?_⟩
  rw [h.joined (.inr hc)]
  rfl

/-- After a publication by a client, no transition is under way if no other was. -/
theorem settled_publish {link : Link} :
    Settled { s with publishing := Function.update s.publishing link none } ↔
      s.publishing link.other = none ∧ s.button.pending = none := by
  simp only [Settled, forall_link link, Function.update_self,
    Function.update_of_ne (Link.other_ne link), true_and]

/-- What a report leaves its strand to publish. -/
theorem onTransition_publishing (link : Link) (b : Bool) :
    (s.onTransition link b (s.headset.postConnection link b)).publishing link =
      if s.headset.state = (s.headset.postConnection link b).1.state then none
      else some (s.headset.postConnection link b).1.state := by
  have hsnd := HeadsetState.postConnection_snd s.headset link b
  have hchange := congrArg Prod.fst hsnd
  have hstate := congrArg Prod.snd hsnd
  dsimp only at hchange hstate
  simp only [HeadsetStreamer.onTransition, Function.update_self, hchange, hstate,
    decide_eq_true_eq, ne_eq, ite_not]

/-- A report that makes a transition has to publish it; the others leave the state as it was. -/
theorem shown_report (h : Shown s) {link : Link} {b : Bool} (hfree : s.publishing link = none) :
    Shown (s.onTransition link b (s.headset.postConnection link b)) := by
  intro hup hsettled
  have hpublishing := onTransition_publishing (s := s) link b
  rw [hsettled.1 link] at hpublishing
  have hsame : s.headset.state = (s.headset.postConnection link b).1.state := by
    by_contra hchange
    rw [if_neg hchange] at hpublishing
    cases hpublishing
  have hbefore : Settled s := by
    refine ⟨(forall_link link).mpr ⟨hfree, ?_⟩, hsettled.2⟩
    have hother := hsettled.1 link.other
    simpa only
      [HeadsetStreamer.onTransition, Function.update_of_ne (Link.other_ne link)] using hother
  exact (h hup hbefore).trans hsame

theorem step (h : Published s) {e : Event} (hp : PublishesLatest s e)
    (hs : step s e = some s') : Published s' := by
  obtain ⟨hshown, hjoined, hdrained⟩ := h
  cases Step.of_step hs with
  | start => exact ⟨fun _ _ => hp, by simp, by simp⟩
  | startServices hc => exact ⟨fun _ => hshown (by rw [hc]; rfl), by simp, by simp⟩
  | startGpio hc => exact ⟨fun _ => hshown (by rw [hc]; rfl), by simp, by simp⟩
  | stop => exact ⟨Shown.of_not_isUp rfl, by simp, by simp⟩
  | stopGpio _ hidle => exact ⟨Shown.of_not_isUp rfl, fun _ => hidle, by simp⟩
  | stopServices hc hdrained =>
    exact ⟨Shown.of_not_isUp rfl, fun _ => hjoined (.inl hc), fun _ => hdrained⟩
  | report hserves hfree =>
    refine ⟨shown_report hshown hfree, hjoined, fun hc => ?_⟩
    -- The clients' strands are joined.
    have hc : s.control = .stopped := hc
    rw [hc] at hserves
    cases hserves
  | @publish link state hpending =>
    refine ⟨fun hup hsettled => ?_, hjoined, fun hc => ?_⟩
    -- This was the last publication under way, so it is of the present state.
    · obtain ⟨hother, hbutton⟩ := settled_publish.mp hsettled
      have hlatest := hp hup hother hbutton
      rw [hpending] at hlatest
      exact Option.some.inj hlatest
    · have hnone := hdrained hc link
      rw [hpending] at hnone
      cases hnone
  | button hpolls hidle =>
    refine ⟨fun hup hsettled => hshown hup ⟨hsettled.1, ?_⟩, fun hc => ?_, hdrained⟩
    · rw [hidle]
      rfl
    · -- The gpio thread is joined.
      have hc : s.control = .draining ∨ s.control = .stopped := hc
      obtain hc | hc := hc <;> rw [hc] at hpolls <;> cases hpolls
  | buttonPostState hb =>
    -- The button thread has a transition to publish now.
    refine ⟨Shown.of_not_settled fun hsettled => ?_, fun hc => ?_, hdrained⟩
    · cases hsettled.2
    · have hidle := hjoined hc
      rw [hb] at hidle
      cases hidle
  | buttonPublish hb =>
    refine ⟨fun hup hsettled => ?_, fun _ => rfl, hdrained⟩
    have hlatest := hp hup hsettled.1
    rw [hb] at hlatest
    exact Option.some.inj hlatest

/-- A step that does not meet the condition breaks the property at once. -/
theorem not_shown (h : Published s) {e : Event} (hp : ¬ PublishesLatest s e)
    (hs : Headset.step s e = some s') : ¬ Shown s' := by
  cases Step.of_step hs with
  | start hc => exact fun hshown => hp (hshown rfl (h.settled hc))
  | @publish link state hpending =>
    simp only [PublishesLatest, not_forall] at hp
    obtain ⟨hup, hother, hbutton, hlatest⟩ := hp
    -- The publication settles the streamer, on another state.
    intro hshown
    have hstate : state = s.headset.getState :=
      hshown hup (settled_publish.mpr ⟨hother, hbutton⟩)
    exact hlatest (hpending.trans (congrArg some hstate))
  | @buttonPublish state message hb =>
    simp only [PublishesLatest, not_forall] at hp
    obtain ⟨hup, hfree, hlatest⟩ := hp
    intro hshown
    have hstate : state = s.headset.getState := hshown hup ⟨hfree, rfl⟩
    rw [hb] at hlatest
    exact hlatest (congrArg some hstate)
  | _ => exact absurd trivial hp

end Published

/-- The graphics thread holds the state whenever no transition is under way, throughout a run,
exactly when every publication that leaves none under way is of the present state and every `Start`
finds `CONNECTING` published. -/
theorem throughout_shown_iff (es : List Event) :
    Throughout step Shown initial es ↔ Along step PublishesLatest initial es :=
  throughout_iff_along Published (fun _ h => h.shown)
    (fun _ _ _ h hp hs => h.step hp hs)
    (fun _ _ _ h hp hs => h.not_shown hp hs) Published.initial

/-- The tcp link makes the headset ready, the websocket takes it back, and the two publications
arrive in the other order. -/
def overtakenRun : List Event :=
  [.start, .startServices, .startGpio, .report .websocket true, .report .tcp true,
    .report .websocket false, .publish .websocket, .publish .tcp]

theorem overtaken_not_shown :
    ∃ s, run step initial overtakenRun = some s ∧ s.control = .started ∧ Settled s ∧
      s.graphics = .READY ∧ s.headset.getState = .CONNECTING ∧ ¬ Shown s := by
  obtain ⟨s, hs, hc, htcp, hwebsocket, hbutton, hg, hstate⟩ :
      ∃ s, run step initial overtakenRun = some s ∧ s.control = .started ∧
        s.publishing .tcp = none ∧ s.publishing .websocket = none ∧ s.button.pending = none ∧
        s.graphics = .READY ∧ s.headset.getState = .CONNECTING :=
    ⟨_, rfl, rfl, rfl, rfl, rfl, rfl, rfl⟩
  have hsettled : Settled s := ⟨(forall_link .tcp).mpr ⟨htcp, hwebsocket⟩, hbutton⟩
  refine ⟨s, hs, hc, hsettled, hg, hstate, fun h => ?_⟩
  have := h (by rw [hc]; rfl) hsettled
  rw [hg, hstate] at this
  cases this

end AugmentedNormalcy.Headset
