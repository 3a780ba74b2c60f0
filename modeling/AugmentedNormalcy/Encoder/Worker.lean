import AugmentedNormalcy.Encoder.SwEncoder
import AugmentedNormalcy.Foundation.Fifo
import AugmentedNormalcy.Foundation.Run

/-!
# The thread of the encoder

`SwEncoder` of `src/internal/infrastructure/encoder/sw_encoder.cpp` with its thread: `StartEncoder`,
`StopEncoder`, `run`, and `PostCameraBuffer`, around the `encodeBuffer` of `SwEncoder`. Each locked
region is a step. `PostCameraBuffer` tests `_work_stop` before it locks, so a frame may be pushed
after a `StopEncoder` has come in between; `encodeBuffer` takes its output buffer in a region of its
own, and the consumers give buffers back meanwhile. `StopEncoder` does not lock when it pops the
frames that are left, after it has joined the thread: each of these pops is taken as a step,
although a late push may race with it.

The encoder has the frames until it releases them. It releases them in the order in which they were
pushed, each once, and what it sends are some of them (`released_in_order`).
-/

namespace AugmentedNormalcy.Encoder.Worker

open StepSystem
open Decoder (Rows)

/-! ## The steps -/

/-- A `CameraBuffer`, by its number. -/
abbrev CameraBuffer := ℕ

/-- Where the thread is. -/
inductive Thread where
  /-- There is no thread, or `run` has returned. -/
  | stopped
  /-- `run` tests `_work_stop` and waits for a frame. -/
  | waiting
  /-- `encodeBuffer` is before the queue of output buffers. -/
  | encoding (frame : CameraBuffer)
  /-- `encodeBuffer` has a buffer, and makes its calls of `jpeg_write_raw_data`. -/
  | compressing (frame : CameraBuffer) (buffer : EncoderBuffer) (calls : List Rows)
deriving DecidableEq

/-- The frame that the thread has. -/
def Thread.frame? : Thread → Option CameraBuffer
  | .encoding frame | .compressing frame _ _ => some frame
  | _ => none

/-- The buffer that `encodeBuffer` holds as a raw pointer. -/
def Thread.buffer? : Thread → Option EncoderBuffer
  | .compressing _ buffer _ => some buffer
  | _ => none

/-- What `StopEncoder` is doing. `StartEncoder` and `StopEncoder` are called by one thread. -/
inductive Owner where
  | idle
  /-- It has set `_work_stop`; it joins the thread, and empties the queue. -/
  | stopping
deriving DecidableEq

/-- A call of `_send_callback`: the frame, and the rows that were handed to libjpeg. -/
structure Sent where
  frame : CameraBuffer
  calls : List Rows
deriving DecidableEq

/-- The encoder, with the frames that were pushed, released and sent. -/
structure State where
  encoder : SwEncoder
  work_stop : Bool
  work_queue : List CameraBuffer
  thread : Thread
  owner : Owner
  /-- The calls of `PostCameraBuffer` that have tested `_work_stop`, and not locked yet. -/
  pushing : List CameraBuffer
  /-- The frames that were pushed. -/
  pushed : List CameraBuffer
  /-- The frames that were pushed and let go. -/
  released : List CameraBuffer
  sent : List Sent
deriving DecidableEq

/-- A step of a caller, of the thread, or of a consumer. -/
inductive Event where
  /-- `PostCameraBuffer` tests `_work_stop`. -/
  | postCameraBuffer (frame : CameraBuffer)
  /-- `PostCameraBuffer` locks and pushes. -/
  | push (frame : CameraBuffer)
  /-- `run` takes a frame. -/
  | take
  /-- `encodeBuffer` takes an output buffer, or drops the frame. -/
  | encode
  /-- `encodeBuffer` wraps the buffer and calls `_send_callback`. -/
  | send
  /-- `run` finds `_work_stop` set and returns. -/
  | exit
  /-- The last copy of an output pointer is released. -/
  | release (buffer : EncoderBuffer)
  | startEncoder
  /-- `StopEncoder` sets `_work_stop`. -/
  | stopEncoder
  /-- `StopEncoder` has joined the thread, and pops a frame. -/
  | pop
  /-- `StopEncoder` finds the queue empty and returns. -/
  | stopped
deriving DecidableEq

/-- The encoder as it is constructed. -/
def initial (cfg : EncoderConfig) : State where
  encoder := .initial cfg
  work_stop := true
  work_queue := []
  thread := .stopped
  owner := .idle
  pushing := []
  pushed := []
  released := []
  sent := []

/-- The first region of `encodeBuffer`. -/
def encode (cfg : EncoderConfig) (s : State) (frame : CameraBuffer) : State :=
  match s.encoder.downstream_buffers with
  | [] => { s with thread := .waiting, released := s.released ++ [frame] }
  | buffer :: downstream_buffers =>
    { s with
      encoder := { s.encoder with downstream_buffers }
      thread := .compressing frame buffer (s.encoder.encodeBuffer cfg).2 }

/-- The end of `encodeBuffer`. -/
def send (s : State) (frame : CameraBuffer) (buffer : EncoderBuffer) (calls : List Rows) : State :=
  { s with
    encoder := { s.encoder with output_buffers := s.encoder.output_buffers ++ [buffer] }
    thread := .waiting
    released := s.released ++ [frame]
    sent := s.sent ++ [⟨frame, calls⟩] }

/-- One step. -/
def step (cfg : EncoderConfig) (s : State) : Event → Option State
  | .postCameraBuffer frame =>
    if s.work_stop then some s else some { s with pushing := s.pushing ++ [frame] }
  | .push frame =>
    if frame ∈ s.pushing then
      some { s with
        pushing := s.pushing.erase frame
        work_queue := s.work_queue ++ [frame]
        pushed := s.pushed ++ [frame] }
    else none
  | .take =>
    match s.thread, s.work_queue with
    | .waiting, frame :: work_queue =>
      if s.work_stop then none else some { s with thread := .encoding frame, work_queue }
    | _, _ => none
  | .encode =>
    match s.thread with
    | .encoding frame => some (encode cfg s frame)
    | _ => none
  | .send =>
    match s.thread with
    | .compressing frame buffer calls => some (send s frame buffer calls)
    | _ => none
  | .exit =>
    if s.work_stop ∧ s.thread = .waiting then some { s with thread := .stopped } else none
  | .release buffer =>
    if buffer ∈ s.encoder.output_buffers then
      some { s with encoder := s.encoder.queueDownstreamBuffer buffer }
    else none
  | .startEncoder =>
    if s.owner = .idle then
      if s.work_stop then some { s with work_stop := false, thread := .waiting } else some s
    else none
  | .stopEncoder =>
    if s.owner = .idle then
      if s.work_stop then some s else some { s with work_stop := true, owner := .stopping }
    else none
  | .pop =>
    match s.work_queue with
    | frame :: work_queue =>
      if s.owner = .stopping ∧ s.thread = .stopped then
        some { s with work_queue, released := s.released ++ [frame] }
      else none
    | [] => none
  | .stopped =>
    if s.owner = .stopping ∧ s.thread = .stopped ∧ s.work_queue = [] then
      some { s with owner := .idle }
    else none

/-- What each step finds, and what it leaves. -/
inductive Step (cfg : EncoderConfig) (s : State) : Event → State → Prop
  | rejected (frame : CameraBuffer) (hstop : s.work_stop = true) :
    Step cfg s (.postCameraBuffer frame) s
  | postCameraBuffer (frame : CameraBuffer) (hstop : s.work_stop = false) :
    Step cfg s (.postCameraBuffer frame) { s with pushing := s.pushing ++ [frame] }
  | push {frame : CameraBuffer} (hmem : frame ∈ s.pushing) :
    Step cfg s (.push frame)
      { s with
        pushing := s.pushing.erase frame
        work_queue := s.work_queue ++ [frame]
        pushed := s.pushed ++ [frame] }
  | take {frame : CameraBuffer} {work_queue : List CameraBuffer} (hstop : s.work_stop = false)
      (hthread : s.thread = .waiting) (hqueue : s.work_queue = frame :: work_queue) :
    Step cfg s .take { s with thread := .encoding frame, work_queue }
  | drop {frame : CameraBuffer} (hthread : s.thread = .encoding frame)
      (hnone : s.encoder.downstream_buffers = []) :
    Step cfg s .encode { s with thread := .waiting, released := s.released ++ [frame] }
  | encode {frame : CameraBuffer} {buffer : EncoderBuffer}
      {downstream_buffers : List EncoderBuffer} (hthread : s.thread = .encoding frame)
      (hfree : s.encoder.downstream_buffers = buffer :: downstream_buffers) :
    Step cfg s .encode
      { s with
        encoder := { s.encoder with downstream_buffers }
        thread := .compressing frame buffer (s.encoder.encodeBuffer cfg).2 }
  | send {frame : CameraBuffer} {buffer : EncoderBuffer} {calls : List Rows}
      (hthread : s.thread = .compressing frame buffer calls) :
    Step cfg s .send (send s frame buffer calls)
  | exit (hstop : s.work_stop = true) (hthread : s.thread = .waiting) :
    Step cfg s .exit { s with thread := .stopped }
  | release {buffer : EncoderBuffer} (hmem : buffer ∈ s.encoder.output_buffers) :
    Step cfg s (.release buffer) { s with encoder := s.encoder.queueDownstreamBuffer buffer }
  | startEncoder (howner : s.owner = .idle) (hstop : s.work_stop = true) :
    Step cfg s .startEncoder { s with work_stop := false, thread := .waiting }
  | startEncoderAgain : Step cfg s .startEncoder s
  | stopEncoder (howner : s.owner = .idle) (hstop : s.work_stop = false) :
    Step cfg s .stopEncoder { s with work_stop := true, owner := .stopping }
  | stopEncoderAgain : Step cfg s .stopEncoder s
  | pop {frame : CameraBuffer} {work_queue : List CameraBuffer} (howner : s.owner = .stopping)
      (hthread : s.thread = .stopped) (hqueue : s.work_queue = frame :: work_queue) :
    Step cfg s .pop { s with work_queue, released := s.released ++ [frame] }
  | stopped (howner : s.owner = .stopping) (hthread : s.thread = .stopped)
      (hqueue : s.work_queue = []) :
    Step cfg s .stopped { s with owner := .idle }

/-- `step` does nothing else. -/
theorem Step.of_step {cfg : EncoderConfig} {s s' : State} {ev : Event}
    (hs : step cfg s ev = some s') : Step cfg s ev s' := by
  unfold step at hs
  cases ev with
  | postCameraBuffer frame =>
    dsimp only at hs
    split_ifs at hs with hstop
    · cases hs
      exact .rejected frame hstop
    · cases hs
      exact .postCameraBuffer frame (Bool.eq_false_iff.mpr hstop)
  | push =>
    obtain ⟨hmem, ⟨⟩⟩ := Option.ite_none_right_eq_some.mp hs
    exact .push hmem
  | take =>
    dsimp only at hs
    split at hs
    · rename_i hthread hqueue
      split_ifs at hs with hstop
      cases hs
      exact .take (Bool.eq_false_iff.mpr hstop) hthread hqueue
    · cases hs
  | encode =>
    dsimp only at hs
    split at hs
    · rename_i frame hthread
      cases hs
      unfold Worker.encode
      split
      · rename_i hnone
        exact .drop hthread hnone
      · rename_i hfree
        exact .encode hthread hfree
    · cases hs
  | send =>
    dsimp only at hs
    split at hs
    · rename_i hthread
      cases hs
      exact .send hthread
    · cases hs
  | exit =>
    obtain ⟨⟨hstop, hthread⟩, ⟨⟩⟩ := Option.ite_none_right_eq_some.mp hs
    exact .exit hstop hthread
  | release =>
    obtain ⟨hmem, ⟨⟩⟩ := Option.ite_none_right_eq_some.mp hs
    exact .release hmem
  | startEncoder =>
    obtain ⟨howner, hs⟩ := Option.ite_none_right_eq_some.mp hs
    split_ifs at hs with hstop
    · cases hs
      exact .startEncoder howner hstop
    · cases hs
      exact .startEncoderAgain
  | stopEncoder =>
    obtain ⟨howner, hs⟩ := Option.ite_none_right_eq_some.mp hs
    split_ifs at hs with hstop
    · cases hs
      exact .stopEncoderAgain
    · cases hs
      exact .stopEncoder howner (Bool.eq_false_iff.mpr hstop)
  | pop =>
    dsimp only at hs
    split at hs
    · rename_i hqueue
      obtain ⟨⟨howner, hthread⟩, ⟨⟩⟩ := Option.ite_none_right_eq_some.mp hs
      exact .pop howner hthread hqueue
    · cases hs
  | stopped =>
    obtain ⟨⟨howner, hthread, hqueue⟩, ⟨⟩⟩ := Option.ite_none_right_eq_some.mp hs
    exact .stopped howner hthread hqueue

/-! ## The invariant -/

/-- There is a thread exactly from a `StartEncoder` on until a `StopEncoder` has joined it. -/
structure Managed (s : State) : Prop where
  running : s.work_stop = false → s.owner = .idle ∧ s.thread ≠ .stopped
  stopped : s.work_stop = true → s.owner = .idle → s.thread = .stopped

/-- The encoder is stopped at first. -/
theorem Managed.initial (cfg : EncoderConfig) : Managed (initial cfg) where
  running := nofun
  stopped _ _ := rfl

/-- Every step keeps the owner and the thread in step. -/
theorem Managed.step {cfg : EncoderConfig} {s s' : State} {ev : Event} (h : Managed s)
    (hs : step cfg s ev = some s') : Managed s' := by
  -- A step of the thread that is alive before and after.
  have halive : ∀ {t : State}, s.thread ≠ .stopped → t.thread ≠ .stopped →
      t.work_stop = s.work_stop → t.owner = s.owner → Managed t := by
    intro t hthread hthread' hstop howner
    refine ⟨fun hrun => ⟨?_, hthread'⟩, fun hstopped hidle => ?_⟩
    · rw [howner]
      exact (h.running (hstop ▸ hrun)).1
    · exact absurd (h.stopped (hstop ▸ hstopped) (howner ▸ hidle)) hthread
  cases Step.of_step hs with
  | rejected | postCameraBuffer | push | release | startEncoderAgain | stopEncoderAgain | pop =>
    exact ⟨h.running, h.stopped⟩
  | take _ hthread => exact halive (by rw [hthread]; nofun) nofun rfl rfl
  | drop hthread => exact halive (by rw [hthread]; nofun) nofun rfl rfl
  | encode hthread => exact halive (by rw [hthread]; nofun) nofun rfl rfl
  | send hthread => exact halive (by rw [hthread]; nofun) nofun rfl rfl
  | exit hstop hthread =>
    refine ⟨fun hrun => ?_, fun _ _ => rfl⟩
    rw [hstop] at hrun
    cases hrun
  | startEncoder howner => exact ⟨fun _ => ⟨howner, nofun⟩, nofun⟩
  | stopEncoder => exact ⟨nofun, nofun⟩
  | stopped howner hthread =>
    refine ⟨fun hrun => ?_, fun _ _ => hthread⟩
    rw [(h.running hrun).1] at howner
    cases howner

/-- The buffers, with the one that the thread has among those that are out. -/
def State.buffers (s : State) : SwEncoder :=
  { s.encoder with output_buffers := s.encoder.output_buffers ++ s.thread.buffer?.toList }

/-- A thread without a buffer has none to account for. -/
theorem State.buffers_of_thread {s : State} (hthread : s.thread.buffer? = none) :
    s.buffers = s.encoder := by
  unfold State.buffers
  rw [hthread, Option.toList_none, List.append_nil]

/-- With respect to the buffers, the two regions of `encodeBuffer` are one step. -/
theorem Managed.buffers_step {cfg : EncoderConfig} {s s' : State} {ev : Event} (h : Managed s)
    (hs : Worker.step cfg s ev = some s') :
    s'.buffers = s.buffers ∨ s'.buffers = (s.buffers.encodeBuffer cfg).1 ∨
      ∃ buffer ∈ s.buffers.output_buffers, s'.buffers = s.buffers.queueDownstreamBuffer buffer := by
  unfold State.buffers
  cases Step.of_step hs with
  | rejected | postCameraBuffer | push | startEncoderAgain | stopEncoder | stopEncoderAgain | pop
    | stopped => exact .inl rfl
  | take _ hthread => exact .inl (by rw [hthread]; rfl)
  | drop hthread => exact .inl (by rw [hthread]; rfl)
  | exit _ hthread => exact .inl (by rw [hthread]; rfl)
  | startEncoder howner hstop => exact .inl (by rw [h.stopped hstop howner]; rfl)
  | encode hthread hfree =>
    refine .inr (.inl ?_)
    unfold SwEncoder.encodeBuffer
    rw [hthread, hfree]
    simp only [Thread.buffer?, Option.toList_none, Option.toList_some, List.append_nil]
  | send hthread =>
    refine .inl ?_
    rw [hthread]
    simp only [Worker.send, Thread.buffer?, Option.toList_none, Option.toList_some, List.append_nil]
  | @release buffer hmem =>
    refine .inr (.inr ⟨buffer, List.mem_append_left _ hmem, ?_⟩)
    unfold SwEncoder.queueDownstreamBuffer
    rw [List.erase_append_left _ hmem]

/-- The calls of `jpeg_write_raw_data` that `encodeBuffer` makes when it has a buffer. -/
def Encodes (cfg : EncoderConfig) (calls : List Rows) : Prop :=
  ∃ e : SwEncoder, e.downstream_buffers ≠ [] ∧ calls = (e.encodeBuffer cfg).2

/-- What holds in every reachable state. -/
structure Inv (cfg : EncoderConfig) (s : State) : Prop where
  managed : Managed s
  accounted : Accounted cfg s.buffers
  order : Fifo.InOrder s.pushed s.released s.thread.frame? s.work_queue
  sent : (s.sent.map Sent.frame).Sublist s.released
  compressing : ∀ {frame buffer calls}, s.thread = .compressing frame buffer calls →
    Encodes cfg calls
  calls : ∀ x ∈ s.sent, Encodes cfg x.calls

/-- Nothing was pushed, and all buffers are free. -/
theorem Inv.initial (cfg : EncoderConfig) : Inv cfg (initial cfg) where
  managed := .initial cfg
  accounted := Accounted.initial cfg
  order := .initial
  sent := .slnil
  compressing := nofun
  calls := nofun

/-- No buffer is lost, and none is in two places. -/
theorem Inv.accounted_step {cfg : EncoderConfig} {s s' : State} {ev : Event} (h : Inv cfg s)
    (hs : Worker.step cfg s ev = some s') : Accounted cfg s'.buffers := by
  obtain hsame | hencode | ⟨buffer, hmem, hrelease⟩ := h.managed.buffers_step hs
  · rw [hsame]
    exact h.accounted
  · rw [hencode]
    exact h.accounted.encodeBuffer
  · rw [hrelease]
    exact h.accounted.queueDownstreamBuffer hmem

/-- A step keeps the invariant. -/
theorem Inv.step {cfg : EncoderConfig} {s s' : State} {ev : Event} (h : Inv cfg s)
    (hs : Worker.step cfg s ev = some s') : Inv cfg s' := by
  have hmanaged := h.managed.step hs
  have haccounted := h.accounted_step hs
  have horder := h.order
  have hreleased : ∀ frame, (s.sent.map Sent.frame).Sublist (s.released ++ [frame]) := fun frame =>
    h.sent.trans (List.sublist_append_left s.released [frame])
  cases Step.of_step hs with
  | rejected | postCameraBuffer | release | startEncoderAgain | stopEncoder | stopEncoderAgain
    | stopped =>
    exact ⟨hmanaged, haccounted, h.order, h.sent, h.compressing, h.calls⟩
  | push hmem => exact ⟨hmanaged, haccounted, h.order.push _, h.sent, h.compressing, h.calls⟩
  | take _ hthread hqueue =>
    rw [hthread, hqueue] at horder
    exact ⟨hmanaged, haccounted, horder.take, h.sent, nofun, h.calls⟩
  | drop hthread =>
    rw [hthread] at horder
    exact ⟨hmanaged, haccounted, horder.finish, hreleased _, nofun, h.calls⟩
  | encode hthread hfree =>
    rw [hthread] at horder
    refine ⟨hmanaged, haccounted, horder, h.sent, fun hcompressing => ?_, h.calls⟩
    cases hcompressing
    exact ⟨s.encoder, by simp [hfree], rfl⟩
  | @send frame buffer calls hthread =>
    rw [hthread] at horder
    refine ⟨hmanaged, haccounted, horder.finish, ?_, nofun, fun x hx => ?_⟩
    · unfold Worker.send
      rw [List.map_append]
      exact h.sent.append (List.Sublist.refl [frame])
    · obtain hx | hx := List.mem_append.mp hx
      · exact h.calls x hx
      · rw [List.mem_singleton.mp hx]
        exact h.compressing hthread
  | exit _ hthread =>
    rw [hthread] at horder
    exact ⟨hmanaged, haccounted, horder, h.sent, nofun, h.calls⟩
  | startEncoder howner hstop =>
    rw [h.managed.stopped hstop howner] at horder
    exact ⟨hmanaged, haccounted, horder, h.sent, nofun, h.calls⟩
  | pop _ hthread hqueue =>
    rw [hthread, hqueue] at horder
    refine ⟨hmanaged, haccounted, ?_, hreleased _, h.compressing, h.calls⟩
    dsimp only
    rw [hthread]
    exact horder.drop

/-- What holds after every run. -/
theorem inv_of_run {cfg : EncoderConfig} {s : State} {es : List Event}
    (hrun : run (step cfg) (initial cfg) es = some s) : Inv cfg s :=
  run_invariant (Inv cfg) (fun _ _ _ h hs => h.step hs) hrun (.initial cfg)

/-! ## Frames in, frames out -/

variable {cfg : EncoderConfig} {s s' : State}

/-- Of an image of at least two rows, all rows are handed over. -/
theorem Encodes.encodesImage {im : I420} (count : ℕ) (h2 : 2 ≤ im.height)
    (hh : im.height < 2 ^ 31) {calls : List Rows}
    (h : Encodes ⟨count, im.width, im.height⟩ calls) : EncodesImage im calls := by
  obtain ⟨e, hfree, rfl⟩ := h
  rw [encodeBuffer_calls count h2 hh hfree]
  exact encodesImage_callRows h2

/-- The frames are released in the order in which they were pushed, each once; what is sent are some
of them, in that order, each with all of its rows; and every output buffer is in the queue, with
`encodeBuffer`, or with a consumer. -/
theorem released_in_order (count : ℕ) (im : I420) (h2 : 2 ≤ im.height) (hh : im.height < 2 ^ 31)
    {es : List Event} (hrun : run (step ⟨count, im.width, im.height⟩)
      (initial ⟨count, im.width, im.height⟩) es = some s) :
    s.pushed = s.released ++ (s.thread.frame?.toList ++ s.work_queue) ∧
      (s.sent.map Sent.frame).Sublist s.released ∧
      (∀ x ∈ s.sent, EncodesImage im x.calls) ∧
      (s.encoder.downstream_buffers ++
        (s.encoder.output_buffers ++ s.thread.buffer?.toList)).Perm (List.range count) := by
  have h := inv_of_run hrun
  exact ⟨h.order, h.sent, fun x hx => (h.calls x hx).encodesImage count h2 hh, h.accounted⟩

/-- With one output buffer, the second frame is dropped, and still released. -/
def sendOne : List Event :=
  [.startEncoder, .postCameraBuffer 0, .push 0, .postCameraBuffer 1, .push 1, .take, .encode, .send,
    .take, .encode]

theorem released_in_order_sendOne : ∃ s, run (step ⟨1, 2, 2⟩) (initial ⟨1, 2, 2⟩) sendOne = some s ∧
    s.pushed = [0, 1] ∧ s.sent.map Sent.frame = [0] ∧
    s.pushed = s.released ++ (s.thread.frame?.toList ++ s.work_queue) ∧
    (s.sent.map Sent.frame).Sublist s.released ∧
    (∀ x ∈ s.sent, EncodesImage ⟨2, 2⟩ x.calls) ∧
    (s.encoder.downstream_buffers ++
      (s.encoder.output_buffers ++ s.thread.buffer?.toList)).Perm (List.range 1) := by
  have hrun : run (step ⟨1, 2, 2⟩) (initial ⟨1, 2, 2⟩) sendOne =
      some ((run (step ⟨1, 2, 2⟩) (initial ⟨1, 2, 2⟩) sendOne).get (by decide +kernel)) :=
    (Option.some_get _).symm
  exact ⟨_, hrun, by decide +kernel, by decide +kernel,
    released_in_order 1 ⟨2, 2⟩ (by decide) (by decide) hrun⟩

/-- No frame was let go without being sent. -/
def AllSent (s : State) : Prop := s.sent.map Sent.frame = s.released

/-- `encodeBuffer` starts when consumers hold fewer than all of the buffers, and `StopEncoder` finds
no frame in the queue. -/
def Unobstructed (cfg : EncoderConfig) (s : State) : Event → Prop
  | .encode => s.encoder.output_buffers.length < cfg.downstream_buffer_count
  | .pop => False
  | _ => True

/-- A frame that is released without having been sent is lost. -/
theorem not_allSent_concat (h : AllSent s) {frame : CameraBuffer} (hsent : s'.sent = s.sent)
    (hreleased : s'.released = s.released ++ [frame]) : ¬ AllSent s' := by
  intro h'
  unfold AllSent at h h'
  rw [hsent, hreleased, h] at h'
  have hlength := congrArg List.length h'
  rw [List.length_append, List.length_singleton] at hlength
  omega

/-- Every buffer is in the queue or with a consumer, unless the thread has it. -/
theorem Inv.length_eq (h : Inv cfg s) (hthread : s.thread.buffer? = none) :
    s.encoder.downstream_buffers.length + s.encoder.output_buffers.length =
      cfg.downstream_buffer_count := by
  have haccounted := h.accounted
  rw [State.buffers_of_thread hthread] at haccounted
  have hlength := Pool.Whole.length_eq haccounted
  rwa [List.length_range] at hlength

/-- Every frame that is let go has been sent, throughout a run, exactly when whenever `encodeBuffer`
starts the consumers hold fewer than all of the buffers, and no frame is thrown away by
`StopEncoder`. -/
theorem throughout_allSent_iff (cfg : EncoderConfig) (es : List Event) :
    Throughout (step cfg) AllSent (initial cfg) es ↔
      Along (step cfg) (Unobstructed cfg) (initial cfg) es := by
  apply throughout_iff_along fun s => Inv cfg s ∧ AllSent s
  · exact fun s h => h.2
  · intro s ev s' ⟨hinv, hall⟩ hP hs
    refine ⟨hinv.step hs, ?_⟩
    cases Step.of_step hs with
    | drop hthread hnone =>
      have hlength := hinv.length_eq (by rw [hthread]; rfl)
      have hlt : s.encoder.output_buffers.length < cfg.downstream_buffer_count := hP
      rw [hnone, List.length_nil] at hlength
      omega
    | send =>
      unfold AllSent at hall ⊢
      unfold Worker.send
      rw [List.map_append, hall]
      rfl
    | pop => exact hP.elim
    | _ => exact hall
  · intro s ev s' ⟨hinv, hall⟩ hP hs
    cases Step.of_step hs with
    | drop => exact not_allSent_concat hall rfl rfl
    | encode hthread hfree =>
      have hlength := hinv.length_eq (by rw [hthread]; rfl)
      have hle : ¬ s.encoder.output_buffers.length < cfg.downstream_buffer_count := hP
      rw [hfree, List.length_cons] at hlength
      omega
    | pop => exact not_allSent_concat hall rfl rfl
    | _ => exact absurd trivial hP
  · exact ⟨.initial cfg, rfl⟩

/-! ## Stopping -/

/-- At most `k` calls of `PostCameraBuffer` are under way. -/
def Posters (k : ℕ) (s : State) : Event → Prop
  | .postCameraBuffer _ => s.pushing.length < k
  | _ => True

/-- The frames that are under way, and those that a stopped encoder still has. -/
structure Bounded (k : ℕ) (s : State) : Prop where
  pushing : s.pushing.length ≤ k
  stopped : s.work_stop = true → s.owner = .idle → s.work_queue.length + s.pushing.length ≤ k

/-- A post that has tested `_work_stop` pushes at most its own frame. -/
theorem Bounded.step {k : ℕ} {ev : Event} (h : Bounded k s)
    (hP : Posters k s ev) (hs : Worker.step cfg s ev = some s') : Bounded k s' := by
  cases Step.of_step hs with
  | postCameraBuffer frame hstop =>
    have hlt : s.pushing.length < k := hP
    refine ⟨?_, fun hstop' => ?_⟩
    · dsimp only
      rw [List.length_append, List.length_singleton]
      omega
    · rw [hstop] at hstop'
      cases hstop'
  | push hmem =>
    have hpos := List.length_pos_of_mem hmem
    have hpushing := h.pushing
    refine ⟨?_, fun hstop howner => ?_⟩
    · dsimp only
      rw [List.length_erase_of_mem hmem]
      omega
    · have hsum := h.stopped hstop howner
      dsimp only
      rw [List.length_erase_of_mem hmem, List.length_append, List.length_singleton]
      omega
  | take hstop =>
    refine ⟨h.pushing, fun hstop' => ?_⟩
    rw [hstop] at hstop'
    cases hstop'
  | pop howner =>
    refine ⟨h.pushing, fun _ hidle => ?_⟩
    rw [howner] at hidle
    cases hidle
  | stopped _ _ hqueue =>
    refine ⟨h.pushing, fun _ _ => ?_⟩
    dsimp only
    rw [hqueue, List.length_nil, Nat.zero_add]
    exact h.pushing
  | startEncoder => exact ⟨h.pushing, nofun⟩
  | stopEncoder => exact ⟨h.pushing, fun _ => nofun⟩
  | _ => exact ⟨h.pushing, h.stopped⟩

/-- With at most `k` calls of `PostCameraBuffer` at a time, a stopped encoder has released all but
at most `k` of the frames that were pushed. -/
theorem leftover_le {k : ℕ} {es : List Event}
    (hk : Along (step cfg) (Posters k) (initial cfg) es)
    (hrun : run (step cfg) (initial cfg) es = some s) (hstop : s.work_stop = true)
    (howner : s.owner = .idle) :
    s.pushed = s.released ++ s.work_queue ∧ s.work_queue.length + s.pushing.length ≤ k := by
  have h : Inv cfg s ∧ Bounded k s :=
    hk.run_invariant (fun s => Inv cfg s ∧ Bounded k s)
      (fun _ _ _ h hP hs => ⟨h.1.step hs, h.2.step hP hs⟩) hrun
      ⟨.initial cfg, Nat.zero_le k, fun _ _ => Nat.zero_le k⟩
  have horder := h.1.order
  rw [h.1.managed.stopped hstop howner] at horder
  exact ⟨horder, h.2.stopped hstop howner⟩

instance (k : ℕ) (s : State) : DecidablePred (Posters k s)
  | .postCameraBuffer _ => inferInstanceAs (Decidable (s.pushing.length < k))
  | .push _ | .take | .encode | .send | .exit | .release _ | .startEncoder | .stopEncoder | .pop
  | .stopped => isTrue trivial

/-- `StopEncoder` comes between the test and the push of a call. -/
def stopBetween : List Event :=
  [.startEncoder, .postCameraBuffer 0, .stopEncoder, .exit, .stopped, .push 0]

theorem leftover_le_stopBetween : ∃ s,
    run (step ⟨1, 2, 2⟩) (initial ⟨1, 2, 2⟩) stopBetween = some s ∧
    s.work_queue = [0] ∧ s.pushed = s.released ++ s.work_queue ∧
    s.work_queue.length + s.pushing.length ≤ 1 := by
  have hrun : run (step ⟨1, 2, 2⟩) (initial ⟨1, 2, 2⟩) stopBetween = some _ := rfl
  exact ⟨_, hrun, rfl, leftover_le (by decide +kernel) hrun rfl rfl⟩

/-! ## Progress -/

/-- The steps of the thread, and of a `StopEncoder` that has set `_work_stop`. -/
def Event.isOwn : Event → Bool
  | .take | .encode | .send | .exit | .pop | .stopped => true
  | _ => false

/-- How far the thread is from having finished. -/
def Thread.toDo : Thread → ℕ
  | .stopped => 0
  | .waiting => 1
  | .compressing .. => 2
  | .encoding _ => 3

/-- The steps of `StopEncoder` that are left. -/
def Owner.toDo : Owner → ℕ
  | .idle => 0
  | .stopping => 1

/-- The own steps that are left, at most. -/
def State.toDo (s : State) : ℕ := 3 * s.work_queue.length + s.thread.toDo + s.owner.toDo

/-- Every own step lowers what is left to do. -/
theorem toDo_step {ev : Event} (hs : step cfg s ev = some s') (hown : ev.isOwn = true) :
    s'.toDo < s.toDo := by
  unfold State.toDo
  cases Step.of_step hs with
  | take _ hthread hqueue =>
    rw [hthread, hqueue, List.length_cons]
    simp only [Thread.toDo]
    omega
  | drop hthread | encode hthread | send hthread | exit _ hthread =>
    rw [hthread]
    simp only [Worker.send, Thread.toDo]
    omega
  | pop _ _ hqueue =>
    rw [hqueue, List.length_cons]
    dsimp only
    omega
  | stopped howner =>
    rw [howner]
    simp only [Owner.toDo]
    omega
  | _ => cases hown

/-- What own steps keep: nothing is pushed, and a `StopEncoder` that returns leaves no frame. -/
structure Own (pushed : List CameraBuffer) (s : State) : Prop where
  pushed_eq : s.pushed = pushed
  stopped : s.work_stop = true → s.owner = .idle → s.work_queue = []

/-- An own step pushes nothing. -/
theorem Own.step {pushed : List CameraBuffer} {ev : Event} (h : Own pushed s)
    (hown : ev.isOwn = true) (hs : Worker.step cfg s ev = some s') : Own pushed s' := by
  cases Step.of_step hs with
  | take hstop =>
    refine ⟨h.pushed_eq, fun hstop' => ?_⟩
    rw [hstop] at hstop'
    cases hstop'
  | pop howner =>
    refine ⟨h.pushed_eq, fun _ hidle => ?_⟩
    rw [howner] at hidle
    cases hidle
  | stopped _ _ hqueue => exact ⟨h.pushed_eq, fun _ _ => hqueue⟩
  | drop | encode | send | exit => exact ⟨h.pushed_eq, h.stopped⟩
  | _ => cases hown

/-- When no own step is possible, the thread waits for a frame or is joined. -/
theorem Managed.stuck (h : Managed s)
    (hstuck : ∀ ev : Event, ev.isOwn = true → Worker.step cfg s ev = none) :
    s.owner = .idle ∧ (s.work_stop = false ∧ s.thread = .waiting ∧ s.work_queue = [] ∨
      s.work_stop = true ∧ s.thread = .stopped) := by
  have htake := hstuck .take rfl
  have hencode := hstuck .encode rfl
  have hsend := hstuck .send rfl
  have hexit := hstuck .exit rfl
  have hpop := hstuck .pop rfl
  have hstopped := hstuck .stopped rfl
  simp only [Worker.step] at htake hencode hsend hexit hpop hstopped
  cases hthread : s.thread with
  | encoding => simp [hthread] at hencode
  | compressing => simp [hthread] at hsend
  | waiting =>
    have hstop : s.work_stop = false := by simpa [hthread] using hexit
    refine ⟨(h.running hstop).1, .inl ⟨hstop, rfl, ?_⟩⟩
    cases hqueue : s.work_queue with
    | nil => rfl
    | cons => simp [hthread, hqueue, hstop] at htake
  | stopped =>
    have hstop : s.work_stop = true := by
      by_contra hrun
      exact (h.running (Bool.eq_false_iff.mpr hrun)).2 hthread
    refine ⟨?_, .inr ⟨hstop, rfl⟩⟩
    cases howner : s.owner with
    | idle => rfl
    | stopping =>
      cases hqueue : s.work_queue with
      | nil => simp [hthread, howner, hqueue] at hstopped
      | cons => simp [hthread, howner, hqueue] at hpop

/-- Left alone, the encoder finishes: it makes at most `3 n + 4` steps of its own, when `n` frames
are in the queue, and when it can make no more, every frame that was pushed has been released, and
its thread waits for another one or is joined. Only a stopped encoder does nothing. -/
theorem settles (h : Reachable (step cfg) (initial cfg) s)
    (hactive : ¬ (s.work_stop = true ∧ s.owner = .idle)) {es : List Event}
    (hown : ∀ ev ∈ es, ev.isOwn = true) (hrun : run (step cfg) s es = some s') :
    es.length ≤ 3 * s.work_queue.length + 4 ∧
      ((∀ ev : Event, ev.isOwn = true → step cfg s' ev = none) →
        s'.released = s.pushed ∧ s'.owner = .idle ∧
          s'.thread = if s'.work_stop then .stopped else .waiting) := by
  have halong : Along (step cfg) (fun _ ev => ev.isOwn = true) s es := along_of_forall hown s
  constructor
  · have hle := halong.length_le State.toDo (fun _ _ _ hP hs => toDo_step hs hP) hrun
    have hthread : s.thread.toDo ≤ 3 := by cases s.thread <;> simp [Thread.toDo]
    have howner : s.owner.toDo ≤ 1 := by cases s.owner <;> simp [Owner.toDo]
    unfold State.toDo at hle
    omega
  · intro hstuck
    have hinv : Inv cfg s := h.invariant (Inv cfg) (fun _ _ _ h hs => h.step hs) (.initial cfg)
    have hinv' : Inv cfg s' := run_invariant (Inv cfg) (fun _ _ _ h hs => h.step hs) hrun hinv
    have hkept : Own s.pushed s' :=
      halong.run_invariant (Own s.pushed) (fun _ _ _ h hP hs => h.step hP hs) hrun
        ⟨rfl, fun hstop howner => absurd ⟨hstop, howner⟩ hactive⟩
    obtain ⟨howner, hcases⟩ := hinv'.managed.stuck hstuck
    have horder := hinv'.order
    obtain ⟨hstop, hthread, hqueue⟩ | ⟨hstop, hthread⟩ := hcases
    · rw [hthread, hqueue] at horder
      rw [hthread, hstop, ← hkept.pushed_eq]
      exact ⟨horder.out_eq, howner, rfl⟩
    · rw [hthread, hkept.stopped hstop howner] at horder
      rw [hthread, hstop, ← hkept.pushed_eq]
      exact ⟨horder.out_eq, howner, rfl⟩

/-- The only buffer is out, and two frames are in the queue. -/
def twoQueued : State :=
  (run (step ⟨1, 2, 2⟩) (initial ⟨1, 2, 2⟩) (sendOne ++
    [.postCameraBuffer 2, .push 2, .postCameraBuffer 3, .push 3])).get (by decide +kernel)

theorem settles_twoQueued : ∃ s',
    run (step ⟨1, 2, 2⟩) twoQueued [.take, .encode, .take, .encode] = some s' ∧
      s'.released = [0, 1, 2, 3] ∧ (4 ≤ 3 * twoQueued.work_queue.length + 4 ∧
      ((∀ ev : Event, ev.isOwn = true → step ⟨1, 2, 2⟩ s' ev = none) →
        s'.released = twoQueued.pushed ∧ s'.owner = .idle ∧
          s'.thread = if s'.work_stop then .stopped else .waiting)) := by
  have hrun : run (step ⟨1, 2, 2⟩) twoQueued [.take, .encode, .take, .encode] =
      some ((run (step ⟨1, 2, 2⟩) twoQueued [.take, .encode, .take, .encode]).get
        (by decide +kernel)) := (Option.some_get _).symm
  exact ⟨_, hrun, by decide +kernel,
    settles ⟨_, (Option.some_get _).symm⟩ (by decide +kernel) (by decide) hrun⟩

end AugmentedNormalcy.Encoder.Worker
