import AugmentedNormalcy.Foundation.Fifo
import AugmentedNormalcy.Foundation.Run
import AugmentedNormalcy.Headset.HeadsetDomain

/-!
# The graphics thread

`HeadsetGraphics` of `src/internal/infrastructure/graphics/headset_graphics.cpp`: the loop of `run`,
which reads the state, sets `_is_display` and draws, `PostImage`, which tests the flags before it
locks, `StartGraphics`, and `StopGraphics`. Each locked region is a step, and so is each write of a
flag, but for three things: `PostImage` reads its two flags in one step, `StopGraphics` writes its
two in one, and the image that was drawn is released in the step of `eglSwapBuffers`, which comes
next after `handleRunningState` has returned and released it. What GLFW and EGL do is left out,
except that a window may be closed at any time.

`handleRunningState` empties the queue and draws the image that it found last, so the screen goes
through the images in the order in which they were pushed, and each was the newest one when it was
first drawn (`screen_newest`). Outside of `RUNNING`, the queue has no more images than there were
calls of `PostImage` under way when `_is_display` was taken back (`hidden_queue_le`), as long as
`run` never enters its loop with `_is_display` set: `StopGraphics` leaves the flag as it is.
-/

namespace AugmentedNormalcy.Headset.Graphics

open StepSystem

/-! ## The steps -/

/-- A `DecoderBuffer`, by its number. -/
abbrev Image := ℕ

/-- Where the graphics thread is. -/
inductive Thread where
  /-- There is no thread, or `run` has returned. -/
  | stopped
  /-- `run` makes a window. -/
  | setup
  /-- The loop tests whether to go on. -/
  | polling (last_state : HeadsetStates)
  /-- Before the lock of `_state_mutex`. -/
  | reading (last_state : HeadsetStates)
  /-- Before `_is_display` is written. -/
  | entering (last_state state : HeadsetStates)
  /-- `_is_display` was taken back, and the queue is to be emptied. -/
  | clearing (state : HeadsetStates)
  /-- Before the `switch`. -/
  | handling (state : HeadsetStates)
  /-- The screen is drawn, with the image that `handleRunningState` has taken. -/
  | drawing (state : HeadsetStates) (data : Option Image)
deriving DecidableEq

/-- The image that the thread has. -/
def Thread.data? : Thread → Option Image
  | .drawing _ data => data
  | _ => none

/-- What `StopGraphics` is doing. `StartGraphics` and `StopGraphics` are called by one thread. -/
inductive Owner where
  | idle
  /-- It has written the flags, and joins the thread. -/
  | stopping
deriving DecidableEq

/-- An image as it was drawn for the first time, and how many images had been pushed then. -/
structure Drawn where
  image : Image
  pushed : ℕ
deriving DecidableEq

structure State where
  stop_running : Bool
  is_ready : Bool
  is_display : Bool
  state : HeadsetStates
  image_queue : List Image
  /-- The buffer that `handleRunningState` draws. -/
  egl_buffer : Option Image
  thread : Thread
  owner : Owner
  /-- The calls of `PostImage` that have tested the flags, and not locked yet. -/
  pushing : List Image
  /-- The images that were pushed. -/
  pushed : List Image
  /-- The images that were pushed and let go. -/
  released : List Image
  screen : List Drawn
deriving DecidableEq

inductive Event where
  | postGraphicsHeadsetState (state : HeadsetStates)
  /-- `PostImage` tests the flags. -/
  | postImage (image : Image)
  /-- `PostImage` locks and pushes. -/
  | push (image : Image)
  | startGraphics
  /-- `StopGraphics` writes the flags. -/
  | stopGraphics
  /-- `StopGraphics` has joined the thread, and empties the queue. -/
  | joined
  /-- `run` has made the window. -/
  | enterLoop
  /-- The loop goes on. -/
  | poll
  | readState
  | setDisplay
  /-- The queue is emptied after `RUNNING`. -/
  | clearImages
  | handle
  | swapBuffers
  /-- The window was closed, or `_stop_running` is set. -/
  | leaveLoop
  /-- `run` finds `_stop_running` set and returns. -/
  | exit
deriving DecidableEq

/-- The graphics as they are constructed. -/
def initial : State where
  stop_running := true
  is_ready := false
  is_display := false
  state := .CONNECTING
  image_queue := []
  egl_buffer := none
  thread := .stopped
  owner := .idle
  pushing := []
  pushed := []
  released := []
  screen := []

/-- Pops all images. -/
def clear (s : State) : State :=
  { s with image_queue := [], released := s.released ++ s.image_queue }

/-- `handleRunningState` up to the drawing: pops all images and keeps the last one. -/
def handleRunningState (s : State) : State :=
  match s.image_queue.getLast? with
  | none => { s with thread := .drawing .RUNNING none }
  | some data =>
    { s with
      image_queue := []
      released := s.released ++ s.image_queue.dropLast
      egl_buffer := some data
      screen := s.screen ++ [⟨data, s.pushed.length⟩]
      thread := .drawing .RUNNING (some data) }

/-- One step. -/
def step (s : State) : Event → Option State
  | .postGraphicsHeadsetState state => some { s with state }
  | .postImage image =>
    if s.is_ready ∧ s.is_display then some { s with pushing := s.pushing ++ [image] } else some s
  | .push image =>
    if image ∈ s.pushing then
      some { s with
        pushing := s.pushing.erase image
        image_queue := s.image_queue ++ [image]
        pushed := s.pushed ++ [image] }
    else none
  | .startGraphics =>
    if s.owner = .idle then
      if s.stop_running then some { s with stop_running := false, thread := .setup } else some s
    else none
  | .stopGraphics =>
    if s.owner = .idle then
      if s.stop_running then some s
      else some { s with is_ready := false, stop_running := true, owner := .stopping }
    else none
  | .joined =>
    if s.owner = .stopping ∧ s.thread = .stopped then some { clear s with owner := .idle } else none
  | .enterLoop =>
    match s.thread with
    | .setup => some { s with is_ready := true, thread := .polling .CONNECTING }
    | _ => none
  | .poll =>
    match s.thread with
    | .polling last_state =>
      if s.stop_running then none else some { s with thread := .reading last_state }
    | _ => none
  | .readState =>
    match s.thread with
    | .reading last_state => some { s with thread := .entering last_state s.state }
    | _ => none
  | .setDisplay =>
    match s.thread with
    | .entering last_state state =>
      if state = .RUNNING ∧ last_state = state then
        some { s with is_display := true, thread := .handling state }
      else if last_state = .RUNNING then
        some { s with is_display := false, thread := .clearing state }
      else some { s with thread := .handling state }
    | _ => none
  | .clearImages =>
    match s.thread with
    | .clearing state => some { clear s with thread := .handling state }
    | _ => none
  | .handle =>
    match s.thread with
    | .handling state =>
      if state = .RUNNING then some (handleRunningState s)
      else some { s with thread := .drawing state none }
    | _ => none
  | .swapBuffers =>
    match s.thread with
    | .drawing state data =>
      some { s with released := s.released ++ data.toList, thread := .polling state }
    | _ => none
  | .leaveLoop =>
    match s.thread with
    | .polling _ => some { s with is_ready := false, thread := .setup }
    | _ => none
  | .exit =>
    if s.thread = .setup ∧ s.stop_running then some { s with thread := .stopped } else none

/-- What each step finds, and what it leaves. -/
inductive Step (s : State) : Event → State → Prop
  | postGraphicsHeadsetState (state : HeadsetStates) :
    Step s (.postGraphicsHeadsetState state) { s with state }
  | postImage (image : Image) (hready : s.is_ready = true) (hdisplay : s.is_display = true) :
    Step s (.postImage image) { s with pushing := s.pushing ++ [image] }
  | rejected (image : Image) : Step s (.postImage image) s
  | push {image : Image} (hmem : image ∈ s.pushing) :
    Step s (.push image)
      { s with
        pushing := s.pushing.erase image
        image_queue := s.image_queue ++ [image]
        pushed := s.pushed ++ [image] }
  | startGraphics (howner : s.owner = .idle) (hstop : s.stop_running = true) :
    Step s .startGraphics { s with stop_running := false, thread := .setup }
  | startGraphicsAgain : Step s .startGraphics s
  | stopGraphics (howner : s.owner = .idle) (hstop : s.stop_running = false) :
    Step s .stopGraphics { s with is_ready := false, stop_running := true, owner := .stopping }
  | stopGraphicsAgain : Step s .stopGraphics s
  | joined (howner : s.owner = .stopping) (hthread : s.thread = .stopped) :
    Step s .joined { clear s with owner := .idle }
  | enterLoop (hthread : s.thread = .setup) :
    Step s .enterLoop { s with is_ready := true, thread := .polling .CONNECTING }
  | poll {last_state : HeadsetStates} (hthread : s.thread = .polling last_state) :
    Step s .poll { s with thread := .reading last_state }
  | readState {last_state : HeadsetStates} (hthread : s.thread = .reading last_state) :
    Step s .readState { s with thread := .entering last_state s.state }
  | display (hthread : s.thread = .entering .RUNNING .RUNNING) :
    Step s .setDisplay { s with is_display := true, thread := .handling .RUNNING }
  | hide {state : HeadsetStates} (hstate : state ≠ .RUNNING)
      (hthread : s.thread = .entering .RUNNING state) :
    Step s .setDisplay { s with is_display := false, thread := .clearing state }
  | keepDisplay {last_state state : HeadsetStates} (hlast : last_state ≠ .RUNNING)
      (hthread : s.thread = .entering last_state state) :
    Step s .setDisplay { s with thread := .handling state }
  | clearImages {state : HeadsetStates} (hthread : s.thread = .clearing state) :
    Step s .clearImages { clear s with thread := .handling state }
  | redraw (hthread : s.thread = .handling .RUNNING) (hqueue : s.image_queue = []) :
    Step s .handle { s with thread := .drawing .RUNNING none }
  | draw {images : List Image} {data : Image} (hthread : s.thread = .handling .RUNNING)
      (hqueue : s.image_queue = images ++ [data]) :
    Step s .handle
      { s with
        image_queue := []
        released := s.released ++ images
        egl_buffer := some data
        screen := s.screen ++ [⟨data, s.pushed.length⟩]
        thread := .drawing .RUNNING (some data) }
  | handle {state : HeadsetStates} (hstate : state ≠ .RUNNING)
      (hthread : s.thread = .handling state) :
    Step s .handle { s with thread := .drawing state none }
  | swapBuffers {state : HeadsetStates} {data : Option Image}
      (hthread : s.thread = .drawing state data) :
    Step s .swapBuffers
      { s with released := s.released ++ data.toList, thread := .polling state }
  | leaveLoop {last_state : HeadsetStates} (hthread : s.thread = .polling last_state) :
    Step s .leaveLoop { s with is_ready := false, thread := .setup }
  | exit (hthread : s.thread = .setup) (hstop : s.stop_running = true) :
    Step s .exit { s with thread := .stopped }

theorem Step.of_step {s s' : State} {ev : Event} (hs : step s ev = some s') : Step s ev s' := by
  unfold step at hs
  cases ev with
  | postGraphicsHeadsetState state =>
    cases hs
    exact .postGraphicsHeadsetState state
  | postImage image =>
    dsimp only at hs
    split_ifs at hs with hflags
    · cases hs
      exact .postImage image hflags.1 hflags.2
    · cases hs
      exact .rejected image
  | push =>
    obtain ⟨hmem, ⟨⟩⟩ := Option.ite_none_right_eq_some.mp hs
    exact .push hmem
  | startGraphics =>
    obtain ⟨howner, hs⟩ := Option.ite_none_right_eq_some.mp hs
    split_ifs at hs with hstop
    · cases hs
      exact .startGraphics howner hstop
    · cases hs
      exact .startGraphicsAgain
  | stopGraphics =>
    obtain ⟨howner, hs⟩ := Option.ite_none_right_eq_some.mp hs
    split_ifs at hs with hstop
    · cases hs
      exact .stopGraphicsAgain
    · cases hs
      exact .stopGraphics howner (Bool.eq_false_iff.mpr hstop)
  | joined =>
    obtain ⟨⟨howner, hthread⟩, ⟨⟩⟩ := Option.ite_none_right_eq_some.mp hs
    exact .joined howner hthread
  | setDisplay =>
    dsimp only at hs
    split at hs
    · rename_i last_state state hthread
      split_ifs at hs with hrunning hlast
      · obtain ⟨rfl, rfl⟩ := hrunning
        cases hs
        exact .display hthread
      · subst hlast
        cases hs
        exact .hide (fun hstate => hrunning ⟨hstate, hstate.symm⟩) hthread
      · cases hs
        exact .keepDisplay hlast hthread
    · cases hs
  | handle =>
    dsimp only at hs
    split at hs
    · rename_i state hthread
      split_ifs at hs with hstate
      · subst hstate
        cases hs
        unfold handleRunningState
        split
        · rename_i hnone
          exact .redraw hthread (List.getLast?_eq_none_iff.mp hnone)
        · rename_i data hlast
          exact .draw hthread (List.dropLast_append_getLast? data hlast).symm
      · cases hs
        exact .handle hstate hthread
    · cases hs
  | exit =>
    obtain ⟨⟨hthread, hstop⟩, ⟨⟩⟩ := Option.ite_none_right_eq_some.mp hs
    exact .exit hthread hstop
  | poll =>
    dsimp only at hs
    split at hs
    · rename_i hthread
      split_ifs at hs
      cases hs
      exact .poll hthread
    · cases hs
  | enterLoop =>
    dsimp only at hs
    split at hs
    · cases hs
      exact .enterLoop ‹_›
    · cases hs
  | readState =>
    dsimp only at hs
    split at hs
    · cases hs
      exact .readState ‹_›
    · cases hs
  | clearImages =>
    dsimp only at hs
    split at hs
    · cases hs
      exact .clearImages ‹_›
    · cases hs
  | swapBuffers =>
    dsimp only at hs
    split at hs
    · cases hs
      exact .swapBuffers ‹_›
    · cases hs
  | leaveLoop =>
    dsimp only at hs
    split at hs
    · cases hs
      exact .leaveLoop ‹_›
    · cases hs

/-! ## What is drawn -/

structure Inv (s : State) : Prop where
  stopped : s.stop_running = true → s.owner = .idle → s.thread = .stopped
  order : Fifo.InOrder s.pushed s.released s.thread.data? s.image_queue
  newest : ∀ d ∈ s.screen, (s.pushed.take d.pushed).getLast? = some d.image
  drawn : ∀ d ∈ s.screen, d.pushed + s.image_queue.length ≤ s.pushed.length
  sorted : (s.screen.map Drawn.pushed).Pairwise (· < ·)

theorem Inv.initial : Inv initial where
  stopped _ _ := rfl
  order := .initial
  newest := nofun
  drawn := nofun
  sorted := .nil

variable {s s' : State}

/-- A step of the thread that leaves the images alone. -/
theorem Inv.of_thread (h : Inv s) (hstopped : s'.stop_running = true → s'.owner = .idle →
    s'.thread = .stopped) (hpushed : s'.pushed = s.pushed) (hreleased : s'.released = s.released)
    (hqueue : s'.image_queue = s.image_queue) (hscreen : s'.screen = s.screen)
    (hdata : s'.thread.data? = s.thread.data?) : Inv s' := by
  obtain ⟨-, horder, hnewest, hdrawn, hsorted⟩ := h
  refine ⟨hstopped, ?_, ?_, ?_, ?_⟩
  · rwa [hpushed, hreleased, hqueue, hdata]
  · rwa [hpushed, hscreen]
  · rwa [hpushed, hscreen, hqueue]
  · rwa [hscreen]

/-- A step empties the queue. -/
theorem Inv.clear (h : Inv s) (hdata : s.thread.data? = none) (hstopped : s'.stop_running = true →
    s'.owner = .idle → s'.thread = .stopped) (hpushed : s'.pushed = s.pushed)
    (hreleased : s'.released = s.released ++ s.image_queue) (hqueue : s'.image_queue = [])
    (hscreen : s'.screen = s.screen) (hdata' : s'.thread.data? = none) : Inv s' := by
  obtain ⟨-, horder, hnewest, hdrawn, hsorted⟩ := h
  rw [hdata] at horder
  refine ⟨hstopped, ?_, ?_, fun d hd => ?_, ?_⟩
  · rw [hpushed, hreleased, hqueue, hdata']
    exact horder.clear
  · rwa [hpushed, hscreen]
  · rw [hscreen] at hd
    have hle := hdrawn d hd
    rw [hpushed, hqueue, List.length_nil]
    omega
  · rwa [hscreen]

theorem Inv.push (h : Inv s) (image : Image) :
    Inv { s with
      pushing := s.pushing.erase image
      image_queue := s.image_queue ++ [image]
      pushed := s.pushed ++ [image] } where
  stopped := h.stopped
  order := h.order.push image
  newest d hd := by
    have hle := h.drawn d hd
    rw [List.take_append_of_le_length (by omega)]
    exact h.newest d hd
  drawn d hd := by
    have hle := h.drawn d hd
    simp only [List.length_append, List.length_singleton]
    omega
  sorted := h.sorted

/-- The image that is drawn is the last one that was pushed. -/
theorem Inv.draw (h : Inv s) {images : List Image} {data : Image}
    (hthread : s.thread = .handling .RUNNING) (hqueue : s.image_queue = images ++ [data]) :
    Inv { s with
      image_queue := []
      released := s.released ++ images
      egl_buffer := some data
      screen := s.screen ++ [⟨data, s.pushed.length⟩]
      thread := .drawing .RUNNING (some data) } := by
  have horder := h.order
  rw [hthread, hqueue] at horder
  have hpushed : s.pushed = s.released ++ images ++ [data] := by
    rw [show s.pushed = _ from horder, List.append_assoc]
    rfl
  have hlt : ∀ d ∈ s.screen, d.pushed < s.pushed.length := by
    intro d hd
    have hle := h.drawn d hd
    rw [hqueue, List.length_append, List.length_singleton] at hle
    omega
  refine ⟨fun hstop howner => ?_, horder.skip.take, fun d hd => ?_, fun d hd => ?_, ?_⟩
  · have hstopped := h.stopped hstop howner
    rw [hthread] at hstopped
    cases hstopped
  · obtain hd | hd := List.mem_append.mp hd
    · exact h.newest d hd
    · rw [List.mem_singleton.mp hd]
      dsimp only
      rw [List.take_length, hpushed, List.getLast?_append, List.getLast?_singleton]
      rfl
  · obtain hd | hd := List.mem_append.mp hd
    · exact Nat.le_of_lt (hlt d hd)
    · rw [List.mem_singleton.mp hd]
      exact Nat.le_refl s.pushed.length
  · rw [List.map_append, List.pairwise_append]
    refine ⟨h.sorted, List.pairwise_singleton _ _, fun n hn m hm => ?_⟩
    obtain ⟨d, hd, rfl⟩ := List.mem_map.mp hn
    rw [List.mem_singleton.mp hm]
    exact hlt d hd

/-- A step keeps the invariant. -/
theorem Inv.step {ev : Event} (h : Inv s) (hs : Graphics.step s ev = some s') : Inv s' := by
  -- A thread that runs is not stopped.
  have hrunning : ∀ {t : State}, s.thread ≠ .stopped → t.stop_running = s.stop_running →
      t.owner = s.owner → t.stop_running = true → t.owner = .idle → t.thread = .stopped := by
    intro t hthread hstop howner hstopped hidle
    exact absurd (h.stopped (hstop ▸ hstopped) (howner ▸ hidle)) hthread
  cases Step.of_step hs with
  | postGraphicsHeadsetState | postImage | rejected | startGraphicsAgain | stopGraphicsAgain =>
    exact ⟨h.stopped, h.order, h.newest, h.drawn, h.sorted⟩
  | push => exact h.push _
  | startGraphics howner hstop =>
    exact h.of_thread nofun rfl rfl rfl rfl (by rw [h.stopped hstop howner]; rfl)
  | stopGraphics => exact h.of_thread (fun _ => nofun) rfl rfl rfl rfl rfl
  | joined _ hthread =>
    exact h.clear (by rw [hthread]; rfl) (fun _ _ => hthread) rfl rfl rfl rfl
      (show s.thread.data? = none by rw [hthread]; rfl)
  | enterLoop hthread | poll hthread | readState hthread | display hthread | hide _ hthread
    | keepDisplay _ hthread | handle _ hthread | leaveLoop hthread | redraw hthread =>
    have hne : s.thread ≠ .stopped := by rw [hthread]; nofun
    exact h.of_thread (hrunning hne rfl rfl) rfl rfl rfl rfl (by rw [hthread]; rfl)
  | clearImages hthread =>
    have hne : s.thread ≠ .stopped := by rw [hthread]; nofun
    exact h.clear (by rw [hthread]; rfl) (hrunning hne rfl rfl) rfl rfl rfl rfl rfl
  | draw hthread hqueue => exact h.draw hthread hqueue
  | swapBuffers hthread =>
    have hne : s.thread ≠ .stopped := by rw [hthread]; nofun
    have horder := h.order
    rw [hthread] at horder
    exact ⟨hrunning hne rfl rfl, horder.release, h.newest, h.drawn, h.sorted⟩
  | exit hthread => exact h.of_thread (fun _ _ => rfl) rfl rfl rfl rfl (by rw [hthread]; rfl)

theorem inv_of_run {es : List Event} (hrun : run step initial es = some s) : Inv s :=
  run_invariant Inv (fun _ _ _ h hs => h.step hs) hrun .initial

/-- The screen goes forward: every image was the newest one when it was first drawn, later draws are
of images that were pushed later, and each image that was pushed is released once, in this order,
unless it is being drawn or waits. -/
theorem screen_newest {es : List Event} (hrun : run step initial es = some s) :
    (s.screen.map Drawn.pushed).Pairwise (· < ·) ∧
      (∀ d ∈ s.screen, (s.pushed.take d.pushed).getLast? = some d.image) ∧
      s.pushed = s.released ++ (s.thread.data?.toList ++ s.image_queue) := by
  have h := inv_of_run hrun
  exact ⟨h.sorted, h.newest, h.order⟩

/-- The headset is running, and two images are pushed before one is drawn. -/
def drawSecond : List Event :=
  [.startGraphics, .enterLoop, .postGraphicsHeadsetState .RUNNING] ++
    [.poll, .readState, .setDisplay, .handle, .swapBuffers] ++
    [.poll, .readState, .setDisplay, .postImage 4, .push 4, .postImage 5, .push 5, .handle]

theorem screen_newest_drawSecond : ∃ s, run step initial drawSecond = some s ∧
    s.screen = [⟨5, 2⟩] ∧ (s.screen.map Drawn.pushed).Pairwise (· < ·) ∧
    (∀ d ∈ s.screen, (s.pushed.take d.pushed).getLast? = some d.image) ∧
    s.pushed = s.released ++ (s.thread.data?.toList ++ s.image_queue) := by
  have hrun : run step initial drawSecond = some _ := rfl
  exact ⟨_, hrun, rfl, screen_newest hrun⟩

/-! ## Outside of `RUNNING` -/

/-- At most `k` calls of `PostImage` are under way, and `run` enters its loop with `_is_display`
false. -/
def Hides (k : ℕ) (s : State) : Event → Prop
  | .postImage _ => s.pushing.length < k
  | .enterLoop => s.is_display = false
  | _ => True

/-- The thread is in its loop, and the last iteration was not in `RUNNING`, or the present one has
found that it is not. -/
def Thread.isHidden : Thread → Bool
  | .polling last_state | .reading last_state | .entering last_state _ => last_state ≠ .RUNNING
  | .clearing _ => true
  | .handling state | .drawing state _ => state ≠ .RUNNING
  | _ => false

/-- The images that wait, and those that are still to be pushed. -/
def State.waiting (s : State) : ℕ := s.image_queue.length + s.pushing.length

/-- The loop is hidden only with `_is_display` false; and with `_is_display` false and the queue
emptied, or the graphics stopped, no more images wait than calls of `PostImage` were under way. -/
structure Hidden (k : ℕ) (s : State) : Prop where
  display : s.thread.isHidden = true → s.is_display = false
  ready : s.thread = .stopped ∨ s.thread = .setup → s.is_ready = false
  pushing : s.pushing.length ≤ k
  bounded : s.is_display = false → (∀ state, s.thread ≠ .clearing state) → s.waiting ≤ k
  stopped : s.stop_running = true → s.owner = .idle → s.waiting ≤ k

theorem Hidden.initial (k : ℕ) : Hidden k initial where
  display := nofun
  ready _ := rfl
  pushing := Nat.zero_le k
  bounded _ _ := Nat.zero_le k
  stopped _ _ := Nat.zero_le k

/-- A step of the thread within its loop, which takes no image back into the queue. -/
theorem Hidden.of_loop {k : ℕ} (h : Hidden k s)
    (hrunning : s'.stop_running = true → s'.owner ≠ .idle)
    (hdisplay : s'.thread.isHidden = true → s'.is_display = false)
    (hready : s'.thread = .stopped ∨ s'.thread = .setup → s'.is_ready = false)
    (hpushing : s'.pushing = s.pushing) (hwaiting : s'.waiting ≤ s.waiting)
    (hbounded : s'.is_display = false → (∀ state, s'.thread ≠ .clearing state) →
      s'.waiting ≤ s'.pushing.length ∨ s.is_display = false ∧ ∀ state, s.thread ≠ .clearing state) :
    Hidden k s' := by
  have hle := h.pushing
  refine ⟨hdisplay, hready, by rw [hpushing]; exact hle, fun hfalse hthread => ?_,
    fun hstop howner => absurd howner (hrunning hstop)⟩
  obtain hcleared | ⟨hfalse', hthread'⟩ := hbounded hfalse hthread
  · rw [hpushing] at hcleared
    omega
  · have hbound := h.bounded hfalse' hthread'
    omega

/-- A step keeps that, when it meets `Hides`. -/
theorem Hidden.step {k : ℕ} {ev : Event} (hinv : Inv s) (h : Hidden k s) (hP : Hides k s ev)
    (hs : Graphics.step s ev = some s') : Hidden k s' := by
  have hwaiting : ∀ {t : State}, t.image_queue = s.image_queue → t.pushing = s.pushing →
      t.waiting ≤ s.waiting := by
    intro t hqueue hpushing
    have heq : t.waiting = s.waiting := by
      unfold State.waiting
      rw [hqueue, hpushing]
    exact Nat.le_of_eq heq
  have hrunning : s.thread ≠ .stopped → s.stop_running = true → s.owner ≠ .idle :=
    fun hthread hstop howner => hthread (hinv.stopped hstop howner)
  cases Step.of_step hs with
  | postGraphicsHeadsetState | rejected | startGraphicsAgain | stopGraphicsAgain =>
    exact ⟨h.display, h.ready, h.pushing, h.bounded, h.stopped⟩
  | postImage image hready hdisplay =>
    have hlt : s.pushing.length < k := hP
    refine ⟨h.display, h.ready, ?_, fun hfalse => ?_, fun hstop howner => ?_⟩
    · dsimp only
      rw [List.length_append, List.length_singleton]
      omega
    · rw [hdisplay] at hfalse
      cases hfalse
    · have hfalse := h.ready (.inl (hinv.stopped hstop howner))
      rw [hready] at hfalse
      cases hfalse
  | @push image hmem =>
    -- The image was to be pushed, and waits.
    have hpos := List.length_pos_of_mem hmem
    have hpushing := h.pushing
    have heq : State.waiting { s with
        pushing := s.pushing.erase image
        image_queue := s.image_queue ++ [image]
        pushed := s.pushed ++ [image] } = s.waiting := by
      unfold State.waiting
      rw [List.length_append, List.length_singleton, List.length_erase_of_mem hmem]
      omega
    refine ⟨h.display, h.ready, ?_, fun hfalse hthread => ?_, fun hstop howner => ?_⟩
    · dsimp only
      rw [List.length_erase_of_mem hmem]
      omega
    · rw [heq]
      exact h.bounded hfalse hthread
    · rw [heq]
      exact h.stopped hstop howner
  | startGraphics howner hstop =>
    have hthread := hinv.stopped hstop howner
    refine ⟨nofun, fun _ => h.ready (.inl hthread), h.pushing, fun _ _ => h.stopped hstop howner,
      nofun⟩
  | stopGraphics => exact ⟨h.display, fun _ => rfl, h.pushing, h.bounded, fun _ => nofun⟩
  | joined _ hthread =>
    have hcleared : State.waiting { clear s with owner := .idle } ≤ k := by
      unfold State.waiting
      dsimp only [clear]
      rw [List.length_nil, Nat.zero_add]
      exact h.pushing
    exact ⟨h.display, h.ready, h.pushing, fun _ _ => hcleared, fun _ _ => hcleared⟩
  | enterLoop hthread =>
    have hfalse : s.is_display = false := hP
    exact h.of_loop (hrunning (by rw [hthread]; nofun)) (fun _ => hfalse) nofun rfl
      (hwaiting rfl rfl) fun _ _ => .inr ⟨hfalse, by rw [hthread]; nofun⟩
  | poll hthread | readState hthread | redraw hthread | handle _ hthread =>
    have hdisplay := h.display
    rw [hthread] at hdisplay
    exact h.of_loop (hrunning (by rw [hthread]; nofun)) hdisplay nofun rfl (hwaiting rfl rfl)
      fun hfalse _ => .inr ⟨hfalse, by rw [hthread]; nofun⟩
  | display hthread =>
    exact h.of_loop (hrunning (by rw [hthread]; nofun)) nofun nofun rfl (hwaiting rfl rfl) nofun
  | hide _ hthread =>
    exact h.of_loop (hrunning (by rw [hthread]; nofun)) (fun _ => rfl) nofun rfl (hwaiting rfl rfl)
      fun _ hclearing => absurd rfl (hclearing _)
  | keepDisplay hlast hthread =>
    have hdisplay := h.display
    rw [hthread] at hdisplay
    have hfalse : s.is_display = false := hdisplay (decide_eq_true hlast)
    exact h.of_loop (hrunning (by rw [hthread]; nofun)) (fun _ => hfalse) nofun rfl
      (hwaiting rfl rfl) fun _ _ => .inr ⟨hfalse, by rw [hthread]; nofun⟩
  | @clearImages state hthread =>
    have hdisplay := h.display
    rw [hthread] at hdisplay
    have hcleared : State.waiting { clear s with thread := .handling state } = s.pushing.length :=
      Nat.zero_add s.pushing.length
    refine h.of_loop (hrunning (by rw [hthread]; nofun)) (fun _ => hdisplay rfl) nofun rfl ?_
      fun _ _ => .inl (Nat.le_of_eq hcleared)
    rw [hcleared]
    exact Nat.le_add_left _ _
  | draw hthread =>
    refine h.of_loop (hrunning (by rw [hthread]; nofun)) nofun nofun rfl ?_
      fun hfalse _ => .inr ⟨hfalse, by rw [hthread]; nofun⟩
    exact Nat.add_le_add_right (Nat.zero_le _) _
  | swapBuffers hthread =>
    have hdisplay := h.display
    rw [hthread] at hdisplay
    exact h.of_loop (hrunning (by rw [hthread]; nofun)) hdisplay nofun rfl (hwaiting rfl rfl)
      fun hfalse _ => .inr ⟨hfalse, by rw [hthread]; nofun⟩
  | leaveLoop hthread =>
    exact h.of_loop (hrunning (by rw [hthread]; nofun)) nofun (fun _ => rfl) rfl (hwaiting rfl rfl)
      fun hfalse _ => .inr ⟨hfalse, by rw [hthread]; nofun⟩
  | exit hthread =>
    refine ⟨nofun, fun _ => h.ready (.inr hthread), h.pushing, fun hfalse _ => ?_,
      fun hstop howner => h.stopped hstop howner⟩
    exact h.bounded hfalse (by rw [hthread]; nofun)

/-- With at most `k` calls of `PostImage` at a time, and no loop entered with `_is_display` set:
when an iteration of the loop has ended outside of `RUNNING`, images are rejected and at most `k`
wait, and so when the graphics are stopped. -/
theorem hidden_queue_le {k : ℕ} {es : List Event} (hk : Along step (Hides k) initial es)
    (hrun : run step initial es = some s) :
    (∀ last_state, s.thread = .polling last_state → last_state ≠ .RUNNING →
      s.is_display = false ∧ s.image_queue.length + s.pushing.length ≤ k) ∧
      (s.stop_running = true → s.owner = .idle →
        s.image_queue.length + s.pushing.length ≤ k) := by
  have h : Inv s ∧ Hidden k s :=
    hk.run_invariant (fun s => Inv s ∧ Hidden k s)
      (fun _ _ _ h hP hs => ⟨h.1.step hs, h.2.step h.1 hP hs⟩) hrun ⟨.initial, .initial k⟩
  refine ⟨fun last_state hthread hlast => ?_, h.2.stopped⟩
  have hfalse : s.is_display = false :=
    h.2.display (by rw [hthread]; exact decide_eq_true hlast)
  exact ⟨hfalse, h.2.bounded hfalse (by rw [hthread]; nofun)⟩

instance (k : ℕ) (s : State) : DecidablePred (Hides k s)
  | .postImage _ => inferInstanceAs (Decidable (s.pushing.length < k))
  | .enterLoop => inferInstanceAs (Decidable (s.is_display = false))
  | .postGraphicsHeadsetState _ | .push _ | .startGraphics | .stopGraphics | .joined | .poll
  | .readState | .setDisplay | .clearImages | .handle | .swapBuffers | .leaveLoop | .exit =>
    isTrue trivial

/-- The loop leaves `RUNNING` between the test and the push of a `PostImage`. -/
def pushLate : List Event :=
  [.startGraphics, .enterLoop, .postGraphicsHeadsetState .RUNNING] ++
    [.poll, .readState, .setDisplay, .handle, .swapBuffers] ++
    [.poll, .readState, .setDisplay, .handle, .swapBuffers] ++
    [.postImage 4, .postGraphicsHeadsetState .READY] ++
    [.poll, .readState, .setDisplay, .clearImages, .push 4, .handle, .swapBuffers]

theorem hidden_queue_le_pushLate : ∃ s, run step initial pushLate = some s ∧
    s.image_queue = [4] ∧
    (∀ last_state, s.thread = .polling last_state → last_state ≠ .RUNNING →
      s.is_display = false ∧ s.image_queue.length + s.pushing.length ≤ 1) ∧
      (s.stop_running = true → s.owner = .idle →
        s.image_queue.length + s.pushing.length ≤ 1) := by
  have hrun : run step initial pushLate = some _ := rfl
  exact ⟨_, hrun, rfl, hidden_queue_le (by decide +kernel) hrun⟩

end AugmentedNormalcy.Headset.Graphics
