import AugmentedNormalcy.Headset.HeadsetStreamer

/-!
# READY and RUNNING mean connected

`READY` and `RUNNING` are the states in which `HeadsetState` expects both links to be up. Two kinds
of step can enter them while a link is down. The button callback posts a state that it chose from a
state read earlier, whatever was reported since; and a report that a link is up trusts the flag of
the other link, which is stale when the report that took that link down came in `CLOSING`.

Those steps are the only ones: `LinksConnected` holds throughout a run exactly when none of its
steps is of these kinds (`throughout_linksConnected_iff`). -/

namespace AugmentedNormalcy.Headset

open StepSystem

/-- In the states that expect the links, both were last reported connected. -/
def LinksConnected (s : HeadsetStreamer) : Prop :=
  s.headset.getState = .READY ∨ s.headset.getState = .RUNNING → ∀ link, s.reported link = true

/-- The step does not trust what is no longer so: the button posts its state while both links are
reported connected, and the flag that a report in `CONNECTING` finds set is not stale. -/
def UpToDate (s : HeadsetStreamer) : Event → Prop
  | .buttonPostState => ∀ link, s.reported link = true
  | .report link true => s.headset.getState = .CONNECTING →
      s.headset.isConnected link.other = true → s.reported link.other = true
  | _ => True

/-- What the button thread holds is a state that the callback can ask for. -/
def ButtonExpects (s : HeadsetStreamer) : Prop :=
  ∀ state message, s.button = .changing state message → state = .READY ∨ state = .RUNNING

/-- The property and what the runs that keep it also keep. -/
structure Lifecycle (s : HeadsetStreamer) : Prop where
  connected : LinksConnected s
  button : ButtonExpects s

theorem LinksConnected.of_eq {s s' : HeadsetStreamer} (h : LinksConnected s)
    (hstate : s'.headset.state = s.headset.state) (hreported : s'.reported = s.reported) :
    LinksConnected s' := by
  unfold LinksConnected HeadsetState.getState at *
  rw [hstate, hreported]
  exact h

theorem LinksConnected.of_not_expecting {s : HeadsetStreamer} (hready : s.headset.state ≠ .READY)
    (hrunning : s.headset.state ≠ .RUNNING) : LinksConnected s := by
  rintro (h | h)
  · exact absurd h hready
  · exact absurd h hrunning

/-- What a report of `link` leaves of the ghost statuses. -/
theorem forall_reported_update {reported : Link → Bool} {link : Link} {b : Bool} :
    (∀ l, Function.update reported link b l = true) ↔ b = true ∧ reported link.other = true := by
  rw [forall_link link, Function.update_self, Function.update_of_ne (Link.other_ne link)]

namespace Lifecycle

variable {s s' : HeadsetStreamer}

theorem initial : Lifecycle initial := by
  refine ⟨LinksConnected.of_not_expecting ?_ ?_, ?_⟩
  · decide
  · decide
  · rintro state message ⟨⟩

/-- A report keeps the property when the flag it trusts is not stale. -/
theorem linksConnected_report (h : LinksConnected s) {link : Link} {b : Bool}
    (hflag : b = true → s.headset.getState = .CONNECTING →
      s.headset.isConnected link.other = true → s.reported link.other = true) :
    LinksConnected (s.onTransition link b (s.headset.postConnection link b)) := by
  cases b with
  | false =>
    obtain ⟨hready, hrunning⟩ := HeadsetState.postConnection_down s.headset link
    exact LinksConnected.of_not_expecting hready hrunning
  | true =>
    intro hexp
    refine forall_reported_update.mpr ⟨rfl, ?_⟩
    have hstate := HeadsetState.postConnection_up_state s.headset link
    simp only [HeadsetStreamer.onTransition, HeadsetState.getState, hstate] at hexp
    by_cases hup : s.headset.state = .CONNECTING ∧ s.headset.isConnected link.other
    · exact hflag rfl hup.1 hup.2
    · rw [if_neg hup] at hexp
      exact h hexp link.other

theorem step (h : Lifecycle s) {e : Event} (hp : UpToDate s e) (hs : step s e = some s') :
    Lifecycle s' := by
  obtain ⟨hconn, hbutton⟩ := h
  cases Step.of_step hs with
  | start | stop => exact ⟨LinksConnected.of_not_expecting (by simp) (by simp), hbutton⟩
  | startServices | startGpio | stopGpio | stopServices | publish =>
    exact ⟨hconn.of_eq rfl rfl, hbutton⟩
  | report =>
    refine ⟨linksConnected_report hconn ?_, hbutton⟩
    rintro rfl
    exact hp
  | button =>
    -- Nothing is posted yet: the choice goes by the state that was read.
    refine ⟨hconn.of_eq rfl rfl, fun state message hb => ?_⟩
    simp only [HeadsetStreamer.buttonCallback] at hb
    split at hb <;> cases hb
    exact onButton_fst ‹_›
  | buttonPostState =>
    -- Whatever state is posted, both links are up.
    exact ⟨fun _ => hp, by rintro state message ⟨⟩⟩
  | buttonPublish => exact ⟨hconn.of_eq rfl rfl, by rintro state message ⟨⟩⟩

/-- A step that is not up to date breaks the property at once. -/
theorem not_linksConnected (h : Lifecycle s) {e : Event} (hp : ¬ UpToDate s e)
    (hs : Headset.step s e = some s') : ¬ LinksConnected s' := by
  cases Step.of_step hs with
  | @report link b _ _ =>
    cases b with
    | false => exact absurd trivial hp
    | true =>
      simp only [UpToDate, not_forall] at hp
      obtain ⟨hstate, hflag, hdown⟩ := hp
      intro hconn
      -- The report makes the headset ready, on the flag alone.
      have hready : (s.headset.postConnection link true).1.state = .READY :=
        (HeadsetState.postConnection_up_state _ _).trans (if_pos ⟨hstate, hflag⟩)
      exact hdown (forall_reported_update.mp (hconn (.inl hready))).2
  | buttonPostState hb => exact fun hconn => hp (hconn (h.button _ _ hb))
  | _ => exact absurd trivial hp

end Lifecycle

/-- The links are connected in every `READY` and `RUNNING` state of a run exactly when the button
posts a state only while both links are reported connected, and no report that a link is up finds
the flag of the other one set after that one was reported down. -/
theorem throughout_linksConnected_iff (es : List Event) :
    Throughout step LinksConnected initial es ↔ Along step UpToDate initial es :=
  throughout_iff_along Lifecycle (fun _ h => h.connected)
    (fun _ _ _ h hp hs => h.step hp hs)
    (fun _ _ _ h hp hs => h.not_linksConnected hp hs) Lifecycle.initial

/-- Both links come up, the button reads `READY`, the tcp link goes down, and the button posts
`RUNNING`. -/
def buttonRun : List Event :=
  [.start, .startServices, .startGpio, .report .tcp true, .report .websocket true,
    .publish .websocket, .button .SINGLE_PUSH, .report .tcp false, .buttonPostState]

/-- What the button has read is out of date when it posts. -/
theorem buttonRun_not_linksConnected :
    ∃ s, run step initial buttonRun = some s ∧ s.control = .started ∧
      s.headset.getState = .RUNNING ∧ s.reported .tcp = false ∧ ¬ LinksConnected s := by
  obtain ⟨s, hs, hc, hr, ht⟩ : ∃ s, run step initial buttonRun = some s ∧ s.control = .started ∧
      s.headset.getState = .RUNNING ∧ s.reported .tcp = false :=
    ⟨_, rfl, rfl, rfl, rfl⟩
  refine ⟨s, hs, hc, hr, ht, fun h => ?_⟩
  have hup := h (.inr hr) .tcp
  rw [ht] at hup
  cases hup

/-- Both links come up; `Stop` and `Start` again; the tcp link comes up before the websocket. The
second run of the headset is `READY` on the flag that the first one left. -/
example : (run step initial
    [.start, .startServices, .startGpio, .report .tcp true, .report .websocket true,
      .publish .websocket, .stop, .stopGpio, .report .websocket false, .report .tcp false,
      .stopServices, .start, .startServices, .startGpio, .report .tcp true]).map
    (fun s => (s.headset.getState, s.reported .websocket)) = some (.READY, false) := rfl

end AugmentedNormalcy.Headset
