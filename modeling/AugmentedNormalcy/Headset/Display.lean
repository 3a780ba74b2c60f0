import AugmentedNormalcy.Decoder.Buffers
import AugmentedNormalcy.Headset.HeadsetGraphics

/-!
# From the decoder to the screen

`HeadsetStreamer::initialize` of `src/internal/service/headset/headset_streamer.cpp` makes
`PostImage` the `_send_callback` of the decoder. The decoder's thread runs `PostImage`, and takes no
other frame before it has returned. From then on the graphics have the only pointer to the image:
when they let go of it, its buffer goes back to the decoder.

So an image that is drawn for the first time is not decoded into meanwhile (`drawn_not_decoded`). A
loop that finds no new image draws the last one again, and has given that back: it may be decoded
into by then. -/

namespace AugmentedNormalcy.Headset.Display

open StepSystem
open Decoder (DecoderConfig DecoderBuffer SwDecoder KeepsBuffer losesBuffer Handled)

/-! ## The steps -/

structure State where
  decoder : SwDecoder
  graphics : Graphics.State

inductive Event where
  /-- A step of the decoder, other than sending a buffer and getting one back. -/
  | decoder (ev : Decoder.Event)
  /-- `decodeBuffer` has finished, and `_send_callback` calls `PostImage`. -/
  | send
  /-- A step of the graphics, other than the beginning of `PostImage`. -/
  | graphics (ev : Graphics.Event)
deriving DecidableEq

def initial (cfg : DecoderConfig) : State := ⟨.initial cfg, Graphics.initial⟩

/-- The last pointer to an output buffer is released. -/
def release (d : SwDecoder) (buffer : DecoderBuffer) : SwDecoder :=
  SwDecoder.queueDownstreamBuffer { d with output_buffers := d.output_buffers.erase buffer } buffer

/-- The end of `decodeBuffer`, and the beginning of `PostImage`. -/
def send (s : State) (buffer : DecoderBuffer) : State :=
  let decoder := { s.decoder.sendBuffer buffer with thread := .waiting }
  if s.graphics.is_ready ∧ s.graphics.is_display then
    ⟨decoder, { s.graphics with pushing := s.graphics.pushing ++ [buffer] }⟩
  else ⟨release decoder buffer, s.graphics⟩

/-- The graphics have made a step, and let go of some images. -/
def recycle (s : State) (graphics : Graphics.State) : State :=
  ⟨(graphics.released.drop s.graphics.released.length).foldl release s.decoder, graphics⟩

/-- One step. -/
def step (cfg : DecoderConfig) (s : State) : Event → Option State
  | .decoder ev =>
    match ev, s.decoder.thread, s.graphics.pushing with
    | .release _, _, _ | .finish (.returned _), .finishing (some _), _ | .start _, _, _ :: _
    | .exit, _, _ :: _ => none
    | ev, _, _ => (SwDecoder.step cfg s.decoder ev).map fun decoder => { s with decoder }
  | .send =>
    match s.decoder.thread with
    | .finishing (some buffer) => some (send s buffer)
    | _ => none
  | .graphics ev =>
    match ev with
    | .postImage _ => none
    | ev => (Graphics.step s.graphics ev).map (recycle s)

/-- What each step finds, and what it leaves. -/
inductive Step (cfg : DecoderConfig) (s : State) : Event → State → Prop
  | decoder {ev : Decoder.Event} {decoder : SwDecoder} (hrelease : ∀ buffer, ev ≠ .release buffer)
      (hsend : ∀ buffer, s.decoder.thread = .finishing (some buffer) →
        ev ≠ .finish (.returned ()))
      (hs : SwDecoder.step cfg s.decoder ev = some decoder) :
    Step cfg s (.decoder ev) { s with decoder }
  | send {buffer : DecoderBuffer} (hthread : s.decoder.thread = .finishing (some buffer)) :
    Step cfg s .send (send s buffer)
  | graphics {ev : Graphics.Event} {graphics : Graphics.State}
      (hpost : ∀ image, ev ≠ .postImage image) (hs : Graphics.step s.graphics ev = some graphics) :
    Step cfg s (.graphics ev) (recycle s graphics)

theorem Step.of_step {cfg : DecoderConfig} {s s' : State} {ev : Event}
    (hs : step cfg s ev = some s') : Step cfg s ev s' := by
  unfold step at hs
  cases ev with
  | decoder ev =>
    dsimp only at hs
    split at hs
    any_goals cases hs
    rename_i hrelease hsend _ _
    obtain ⟨decoder, hdecoder, rfl⟩ := Option.map_eq_some_iff.mp hs
    exact .decoder hrelease (fun buffer hthread hev => hsend () buffer hev hthread) hdecoder
  | send =>
    dsimp only at hs
    split at hs
    · rename_i hthread
      cases hs
      exact .send hthread
    · cases hs
  | graphics ev =>
    dsimp only at hs
    split at hs
    · cases hs
    · rename_i hpost
      obtain ⟨graphics, hgraphics, rfl⟩ := Option.map_eq_some_iff.mp hs
      exact .graphics hpost hgraphics

/-! ## Where the decoder's buffers are -/

/-- Every buffer is in the decoder's queue, lost to an error of libjpeg, with `decodeBuffer`, or
held by an output pointer. -/
def Placed (cfg : DecoderConfig) (lost : List DecoderBuffer) (d : SwDecoder) : Prop :=
  Pool.Whole (List.range cfg.downstream_buffer_count) d.downstream_buffers
    (lost ++ (d.thread.buffer?.toList ++ d.output_buffers))

variable {cfg : DecoderConfig} {lost : List DecoderBuffer} {d d' : SwDecoder}

theorem Placed.handled (h : Placed cfg lost d) (hd : Handled d d') : Placed cfg lost d' := by
  unfold Placed at h ⊢
  cases hd with
  | none hthread hfree hout => rwa [hthread, hfree, hout]
  | taken b hheld hthread hfree hout =>
    rw [hheld, hfree] at h
    rw [hthread, hout]
    exact h.take.perm_out List.perm_middle.symm
  | sent b hheld hthread hfree hout =>
    rw [hheld] at h
    rw [hthread, hfree, hout]
    exact h.perm_out ((List.perm_append_singleton b d.output_buffers).symm.append_left lost)
  | released b hmem hthread hfree hout =>
    rw [hthread, hfree, hout]
    refine h.give ?_
    calc (lost ++ (d.thread.buffer?.toList ++ d.output_buffers)).Perm
          (lost ++ (d.thread.buffer?.toList ++ b :: d.output_buffers.erase b)) :=
        ((List.perm_cons_erase hmem).append_left _).append_left _
      List.Perm _ (lost ++ b :: (d.thread.buffer?.toList ++ d.output_buffers.erase b)) :=
        List.perm_middle.append_left _
      List.Perm _ (b :: (lost ++ (d.thread.buffer?.toList ++ d.output_buffers.erase b))) :=
        List.perm_middle

/-- A step of the decoder loses a buffer exactly when libjpeg raises its error while `decodeBuffer`
holds it. -/
theorem Placed.step (h : Placed cfg lost d) {ev : Decoder.Event}
    (hs : SwDecoder.step cfg d ev = some d') : Placed cfg (lost ++ losesBuffer d ev) d' := by
  obtain ⟨hkeeps, hd⟩ | ⟨hloses, b, hd⟩ := Decoder.step_cases hs
  · rw [Decoder.losesBuffer_eq_nil hkeeps, List.append_nil]
    exact h.handled hd
  · unfold Placed at h ⊢
    rw [hd.held] at h
    rw [Decoder.losesBuffer_of_not hloses, hd.held, hd.thread, hd.downstream_buffers,
      hd.output_buffers, List.append_assoc]
    exact h

/-- Buffers that are out can be released one after the other. -/
theorem placed_release {rest : List DecoderBuffer} (bs : List DecoderBuffer) :
    ∀ {d : SwDecoder}, Placed cfg lost d → d.output_buffers.Perm (bs ++ rest) →
      Placed cfg lost (bs.foldl release d) ∧ (bs.foldl release d).output_buffers.Perm rest := by
  induction bs with
  | nil => exact fun h hperm => ⟨h, hperm⟩
  | cons b bs ih =>
    intro d h hperm
    have hmem : b ∈ d.output_buffers := hperm.mem_iff.mpr List.mem_cons_self
    have hplaced : Placed cfg lost (release d b) := h.handled (.released b hmem rfl rfl rfl)
    have herase : (release d b).output_buffers.Perm (bs ++ rest) := by
      have herased := hperm.erase b
      rwa [List.cons_append, List.erase_cons_head] at herased
    exact ih hplaced herase

/-- Only sending and getting back change which buffers are out. -/
theorem output_buffers_of_step {ev : Decoder.Event} (hs : SwDecoder.step cfg d ev = some d')
    (hrelease : ∀ buffer, ev ≠ .release buffer)
    (hsend : ∀ buffer, d.thread = .finishing (some buffer) → ev ≠ .finish (.returned ())) :
    d'.output_buffers = d.output_buffers := by
  cases SwDecoder.Step.of_step hs with
  | sent hthread => exact absurd rfl (hsend _ hthread)
  | release => exact absurd rfl (hrelease _)
  | started =>
    unfold SwDecoder.takeBuffer
    split <;> rfl
  | _ => rfl

/-! ## What the graphics hold -/

/-- The images that the graphics have. -/
def held (g : Graphics.State) : List DecoderBuffer :=
  g.pushing ++ (g.thread.data?.toList ++ g.image_queue)

/-- A step of the graphics other than the two of a `PostImage` pushes nothing, and lets go of images
only. -/
theorem quiet_of_step {g g' : Graphics.State} {ev : Graphics.Event}
    (hs : Graphics.step g ev = some g') (hpost : ∀ image, ev ≠ .postImage image)
    (hpush : ∀ image, ev ≠ .push image) :
    g'.pushed = g.pushed ∧ g'.pushing = g.pushing ∧
      ∃ gone, g'.released = g.released ++ gone := by
  cases Graphics.Step.of_step hs with
  | postImage | rejected => exact absurd rfl (hpost _)
  | push => exact absurd rfl (hpush _)
  | joined | clearImages | draw | swapBuffers => exact ⟨rfl, rfl, _, rfl⟩
  | _ => exact ⟨rfl, rfl, [], (List.append_nil _).symm⟩

/-- A step of the graphics lets go of some images, and holds the others. -/
theorem held_perm {g g' : Graphics.State} {ev : Graphics.Event} (h : Graphics.Inv g)
    (hs : Graphics.step g ev = some g') (hpost : ∀ image, ev ≠ .postImage image) :
    (held g).Perm (g'.released.drop g.released.length ++ held g') := by
  unfold held
  by_cases hpush : ∃ image, ev = .push image
  · obtain ⟨image, rfl⟩ := hpush
    cases Graphics.Step.of_step hs with
    | push hmem =>
      rw [List.drop_length, List.nil_append]
      calc (g.pushing ++ (g.thread.data?.toList ++ g.image_queue)).Perm
            (image :: g.pushing.erase image ++ (g.thread.data?.toList ++ g.image_queue)) :=
          (List.perm_cons_erase hmem).append_right _
        List.Perm _
          (g.pushing.erase image ++ (g.thread.data?.toList ++ g.image_queue) ++ [image]) :=
          (List.perm_append_singleton image _).symm
        List.Perm _ (g.pushing.erase image ++
            (g.thread.data?.toList ++ (g.image_queue ++ [image]))) := by
          rw [List.append_assoc, List.append_assoc]
  · obtain ⟨hpushed, hpushing, gone, hgone⟩ :=
      quiet_of_step hs hpost fun image hev => hpush ⟨image, hev⟩
    -- What was there is what is gone and what is there.
    have hsame : g.thread.data?.toList ++ g.image_queue =
        gone ++ (g'.thread.data?.toList ++ g'.image_queue) := by
      have horder : g.pushed = _ := h.order
      have horder' : g'.pushed = _ := (h.step hs).order
      rw [hpushed, horder, hgone, List.append_assoc] at horder'
      exact List.append_cancel_left horder'
    rw [hsame, hpushing, hgone, List.drop_left]
    calc (g.pushing ++ (gone ++ (g'.thread.data?.toList ++ g'.image_queue))).Perm
          (g.pushing ++ gone ++ (g'.thread.data?.toList ++ g'.image_queue)) := by
            rw [List.append_assoc]
      List.Perm _ (gone ++ g.pushing ++ (g'.thread.data?.toList ++ g'.image_queue)) :=
        List.perm_append_comm.append_right _
      List.Perm _ (gone ++ (g.pushing ++ (g'.thread.data?.toList ++ g'.image_queue))) := by
        rw [List.append_assoc]

/-! ## The invariant -/

structure Inv (cfg : DecoderConfig) (lost : List DecoderBuffer) (s : State) : Prop where
  placed : Placed cfg lost s.decoder
  graphics : Graphics.Inv s.graphics
  outputs : s.decoder.output_buffers.Perm (held s.graphics)

variable {s s' : State}

theorem Inv.initial (cfg : DecoderConfig) : Inv cfg [] (initial cfg) where
  placed := Pool.Whole.initial _
  graphics := .initial
  outputs := .nil

/-- No call of libjpeg raises its error while `decodeBuffer` holds a buffer. -/
def Keeps (s : State) : Event → Prop
  | .decoder ev => KeepsBuffer s.decoder ev
  | _ => True

/-- The buffer that the step loses. -/
def loses (s : State) : Event → List DecoderBuffer
  | .decoder ev => losesBuffer s.decoder ev
  | _ => []

/-- Without such an error nothing is lost. -/
theorem loses_eq_nil {ev : Event} (h : Keeps s ev) : loses s ev = [] := by
  cases ev with
  | decoder ev => exact Decoder.losesBuffer_eq_nil h
  | _ => rfl

/-- What is decoded goes to the graphics, or back into the queue. -/
theorem Inv.send (h : Inv cfg lost s) {buffer : DecoderBuffer}
    (hthread : s.decoder.thread = .finishing (some buffer)) :
    Inv cfg lost (send s buffer) := by
  have hsent : Placed cfg lost { s.decoder.sendBuffer buffer with thread := .waiting } :=
    h.placed.handled (.sent buffer (by rw [hthread]; rfl) rfl rfl rfl)
  have hperm : (s.decoder.output_buffers ++ [buffer]).Perm ([buffer] ++ held s.graphics) :=
    calc (s.decoder.output_buffers ++ [buffer]).Perm (held s.graphics ++ [buffer]) :=
        h.outputs.append_right [buffer]
      List.Perm _ ([buffer] ++ held s.graphics) := List.perm_append_comm
  unfold Display.send
  dsimp only
  split_ifs with hflags
  · have hstep : Graphics.step s.graphics (.postImage buffer) =
        some { s.graphics with pushing := s.graphics.pushing ++ [buffer] } := if_pos hflags
    refine ⟨hsent, h.graphics.step hstep, hperm.trans ?_⟩
    unfold held
    rw [← List.append_assoc]
    exact List.perm_append_comm.append_right _
  · -- `PostImage` returns at once, and drops the pointer.
    obtain ⟨hplaced, hrest⟩ := placed_release [buffer] hsent hperm
    exact ⟨hplaced, h.graphics, hrest⟩

/-- A step keeps the invariant, and loses a buffer exactly when libjpeg raises its error while
`decodeBuffer` holds it. -/
theorem Inv.step (h : Inv cfg lost s) {ev : Event} (hs : Display.step cfg s ev = some s') :
    Inv cfg (lost ++ loses s ev) s' := by
  cases Step.of_step hs with
  | decoder hrelease hsend hdecoder =>
    have houtputs := h.outputs
    rw [← output_buffers_of_step hdecoder hrelease hsend] at houtputs
    exact ⟨h.placed.step hdecoder, h.graphics, houtputs⟩
  | send hthread =>
    have hnone : loses s .send = [] := rfl
    rw [hnone, List.append_nil]
    exact h.send hthread
  | graphics hpost hgraphics =>
    have hperm := h.outputs.trans (held_perm h.graphics hgraphics hpost)
    obtain ⟨hplaced, hrest⟩ := placed_release _ h.placed hperm
    have hnone : ∀ ev, loses s (.graphics ev) = [] := fun _ => rfl
    rw [hnone, List.append_nil]
    exact ⟨hplaced, h.graphics.step hgraphics, hrest⟩

/-- The places of the buffers do not overlap. -/
theorem Inv.perm (h : Inv cfg lost s) :
    (s.decoder.downstream_buffers ++ (lost ++ (s.decoder.thread.buffer?.toList ++
      held s.graphics))).Perm (List.range cfg.downstream_buffer_count) := by
  have hplaced := h.placed
  unfold Placed at hplaced
  exact hplaced.perm_out ((h.outputs.append_left _).append_left _)

/-- In every run, a buffer of the decoder is in its queue, lost to an error of libjpeg, with
`decodeBuffer`, about to be pushed, being drawn, or in the queue of images, and only in one of these
places. What is lost are the buffers that `decodeBuffer` held when libjpeg raised its errors, one an
error: nothing, as long as it raises none while `decodeBuffer` holds a buffer. So the image that is
drawn for the first time is not decoded into meanwhile. -/
theorem drawn_not_decoded {es : List Event} (hrun : run (step cfg) (initial cfg) es = some s) :
    (s.decoder.downstream_buffers ++ (emitted (step cfg) loses (initial cfg) es ++
        (s.decoder.thread.buffer?.toList ++ (s.graphics.pushing ++
          (s.graphics.thread.data?.toList ++ s.graphics.image_queue))))).Perm
        (List.range cfg.downstream_buffer_count) ∧
      (Along (step cfg) Keeps (initial cfg) es →
        emitted (step cfg) loses (initial cfg) es = []) ∧
      s.graphics.image_queue.length ≤ cfg.downstream_buffer_count ∧
      ∀ image, s.graphics.thread.data? = some image →
        s.decoder.thread.buffer? ≠ some image ∧ image ∉ s.decoder.downstream_buffers := by
  have h : Inv cfg ([] ++ emitted (step cfg) loses (initial cfg) es) s :=
    (along_true (initial cfg) es).emitted_invariant (Inv cfg)
      (fun _ _ _ _ h _ hs => h.step hs) hrun (.initial cfg)
  have hlost : Along (step cfg) Keeps (initial cfg) es →
      emitted (step cfg) loses (initial cfg) es = [] := fun hkeeps =>
    hkeeps.emitted_invariant (fun (l : List DecoderBuffer) _ => l = [])
      (fun _ _ _ _ hnil hP _ => by rw [hnil, loses_eq_nil hP, List.append_nil]) hrun rfl
  rw [List.nil_append] at h
  have hperm := h.perm
  have hlength := hperm.length_eq
  have hnodup := hperm.nodup_iff.mpr List.nodup_range
  unfold held at hperm hlength hnodup
  simp only [List.length_append, List.length_range] at hlength
  refine ⟨hperm, hlost, by omega, fun image hdata => ?_⟩
  simp only [hdata, Option.toList_some, List.nodup_append, List.mem_append, List.mem_cons] at hnodup
  constructor
  · intro hthread
    have hdisjoint := hnodup.2.1.2.1.2.2
    exact hdisjoint image (by rw [hthread]; exact List.mem_singleton_self image) image
      (.inr (.inl (.inl rfl))) rfl
  · intro hmem
    exact hnodup.2.2 image hmem image (.inr (.inr (.inr (.inl (.inl rfl))))) rfl

/-- An image is drawn, and the next frame is decoded to the other buffer. -/
def decodeNext : List Event :=
  [.startGraphics, .enterLoop, .postGraphicsHeadsetState .RUNNING, .poll, .readState, .setDisplay,
    .handle, .swapBuffers, .poll, .readState, .setDisplay].map .graphics ++
  [.startDecoder, .create (.returned ()), .postJpegBuffer 0, .postJpegBuffer 1,
    .start (.returned ()), .read (.returned 16)].map .decoder ++
  [.send, .graphics (.push 0), .graphics .handle, .decoder (.start (.returned ()))]

theorem drawn_not_decoded_decodeNext : ∃ s,
    run (step ⟨2, 2, 16⟩) (initial ⟨2, 2, 16⟩) decodeNext = some s ∧
      s.graphics.thread.data? = some 0 ∧ s.decoder.thread.buffer? = some 1 ∧
      (s.decoder.downstream_buffers ++
          (emitted (step ⟨2, 2, 16⟩) loses (initial ⟨2, 2, 16⟩) decodeNext ++
        (s.decoder.thread.buffer?.toList ++ (s.graphics.pushing ++
          (s.graphics.thread.data?.toList ++ s.graphics.image_queue))))).Perm (List.range 2) ∧
      (Along (step ⟨2, 2, 16⟩) Keeps (initial ⟨2, 2, 16⟩) decodeNext →
        emitted (step ⟨2, 2, 16⟩) loses (initial ⟨2, 2, 16⟩) decodeNext = []) ∧
      s.graphics.image_queue.length ≤ 2 ∧
      ∀ image, s.graphics.thread.data? = some image →
        s.decoder.thread.buffer? ≠ some image ∧ image ∉ s.decoder.downstream_buffers := by
  have hrun : run (step ⟨2, 2, 16⟩) (initial ⟨2, 2, 16⟩) decodeNext = some _ := rfl
  exact ⟨_, hrun, rfl, rfl, drawn_not_decoded hrun⟩

end AugmentedNormalcy.Headset.Display
