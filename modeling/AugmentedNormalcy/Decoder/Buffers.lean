import AugmentedNormalcy.Decoder.SwDecoder
import AugmentedNormalcy.Foundation.Pool
import AugmentedNormalcy.Foundation.Run

/-!
# Where the output buffers are

`decodeBuffer` takes a buffer out of the queue as a raw pointer, and gives it its recycling deleter
only after the last call of libjpeg. The buffers are conserved along a run exactly when no call of
libjpeg raises its error in between (`throughout_conserved_iff`): an error in `jpeg_read_raw_data`,
or in the `jpeg_finish_decompress` after it, takes a buffer out of circulation for good.
-/

namespace AugmentedNormalcy.Decoder

open StepSystem

/-- Between calls of `decodeBuffer`, every configured buffer is in the queue or held by an output
pointer, and none is there twice. -/
def Conserved (cfg : DecoderConfig) (d : SwDecoder) : Prop :=
  d.thread.isDecoding = false →
    d.downstream_buffers.length + d.output_buffers.length = cfg.downstream_buffer_count ∧
      (d.downstream_buffers ++ d.output_buffers).Nodup

/-- No call of libjpeg raises its error while `decodeBuffer` holds a buffer. -/
def KeepsBuffer (d : SwDecoder) : Event → Prop
  | .read .raised | .finish .raised => d.thread.buffer? = none
  | _ => True

/-- The buffer that the step loses. -/
def losesBuffer (d : SwDecoder) : Event → List DecoderBuffer
  | .read .raised | .finish .raised => d.thread.buffer?.toList
  | _ => []

/-- A step that keeps the buffer loses none. -/
theorem losesBuffer_eq_nil {d : SwDecoder} {e : Event} (h : KeepsBuffer d e) :
    losesBuffer d e = [] := by
  unfold KeepsBuffer at h
  unfold losesBuffer
  split at h
  · rw [h]
    rfl
  · rw [h]
    rfl
  · rfl

/-- One that does not loses the buffer that `decodeBuffer` holds. -/
theorem losesBuffer_of_not {d : SwDecoder} {e : Event} (h : ¬ KeepsBuffer d e) :
    losesBuffer d e = d.thread.buffer?.toList := by
  unfold losesBuffer
  split
  · rfl
  · rfl
  · refine absurd ?_ h
    unfold KeepsBuffer
    split
    · exact absurd rfl (by assumption)
    · exact absurd rfl (by assumption)
    · trivial

/-- Every buffer is in the queue, with `decodeBuffer`, or held by an output pointer. -/
def Accounted (cfg : DecoderConfig) (d : SwDecoder) : Prop :=
  Pool.Whole (List.range cfg.downstream_buffer_count) d.downstream_buffers
    (d.thread.buffer?.toList ++ d.output_buffers)

/-- The thread holds a buffer only while it decodes. -/
theorem Thread.buffer?_eq_none {t : Thread} (h : t.isDecoding = false) : t.buffer? = none := by
  cases t with
  | scanning | finishing => cases h
  | _ => rfl

theorem Accounted.conserved {cfg : DecoderConfig} {d : SwDecoder} (h : Accounted cfg d) :
    Conserved cfg d := by
  intro hdecoding
  rw [Accounted, Thread.buffer?_eq_none hdecoding, Option.toList_none, List.nil_append] at h
  exact ⟨by rw [h.length_eq, List.length_range], h.nodup List.nodup_range⟩

theorem accounted_initial (cfg : DecoderConfig) : Accounted cfg (.initial cfg) :=
  Pool.Whole.initial _

/-- The thread loses the buffer that it holds. -/
structure Lost (b : DecoderBuffer) (d d' : SwDecoder) : Prop where
  held : d.thread.buffer? = some b
  thread : d'.thread = .starting
  downstream_buffers : d'.downstream_buffers = d.downstream_buffers
  output_buffers : d'.output_buffers = d.output_buffers

/-- What a step does with the buffers. -/
inductive Handled (d d' : SwDecoder) : Prop where
  | none (hthread : d'.thread.buffer? = d.thread.buffer?)
      (hfree : d'.downstream_buffers = d.downstream_buffers)
      (hout : d'.output_buffers = d.output_buffers)
  | taken (b : DecoderBuffer) (hheld : d.thread.buffer? = .none)
      (hthread : d'.thread.buffer? = some b)
      (hfree : d.downstream_buffers = b :: d'.downstream_buffers)
      (hout : d'.output_buffers = d.output_buffers)
  | sent (b : DecoderBuffer) (hheld : d.thread.buffer? = some b)
      (hthread : d'.thread.buffer? = .none)
      (hfree : d'.downstream_buffers = d.downstream_buffers)
      (hout : d'.output_buffers = d.output_buffers ++ [b])
  | released (b : DecoderBuffer) (hmem : b ∈ d.output_buffers)
      (hthread : d'.thread.buffer? = d.thread.buffer?)
      (hfree : d'.downstream_buffers = d.downstream_buffers ++ [b])
      (hout : d'.output_buffers = d.output_buffers.erase b)

@[simp]
theorem buffer?_loopTest (cfg : DecoderConfig) (scan : Scan) :
    (SwDecoder.loopTest cfg scan).buffer? = some scan.buffer := by
  unfold SwDecoder.loopTest
  split_ifs <;> rfl

/-- A step moves at most one buffer, and loses one exactly when libjpeg raises its error while
`decodeBuffer` holds it. -/
theorem step_cases {cfg : DecoderConfig} {d d' : SwDecoder} {e : Event}
    (hs : SwDecoder.step cfg d e = some d') :
    (KeepsBuffer d e ∧ Handled d d') ∨ (¬ KeepsBuffer d e ∧ ∃ b, Lost b d d') := by
  cases SwDecoder.Step.of_step hs with
  | created hthread => exact .inl ⟨trivial, .none (by rw [hthread]; rfl) rfl rfl⟩
  | createRaised => exact .inl ⟨trivial, .none rfl rfl rfl⟩
  | started hthread =>
    unfold SwDecoder.takeBuffer
    split
    · -- The queue is empty: the call decodes nothing, and holds nothing.
      exact .inl ⟨trivial, .none (by rw [hthread]; rfl) rfl rfl⟩
    · rename_i b free hfree
      refine .inl ⟨trivial, .taken b (by rw [hthread]; rfl) ?_ hfree rfl⟩
      exact buffer?_loopTest cfg (.start cfg b)
  | startRaised hthread => exact .inl ⟨trivial, .none (by rw [hthread]; rfl) rfl rfl⟩
  | @read scan lines hthread =>
    refine .inl ⟨trivial, .none ?_ rfl rfl⟩
    rw [hthread]
    exact buffer?_loopTest cfg (scan.next cfg lines)
  | @readRaised scan hthread =>
    -- The exception leaves the loop, and the pointer with it.
    have hheld : d.thread.buffer? = some scan.buffer := by rw [hthread]; rfl
    exact .inr ⟨by simp [KeepsBuffer, hheld], scan.buffer, ⟨hheld, rfl, rfl, rfl⟩⟩
  | @sent b hthread => exact .inl ⟨trivial, .sent b (by rw [hthread]; rfl) rfl rfl rfl⟩
  | skipped hthread => exact .inl ⟨trivial, .none (by rw [hthread]; rfl) rfl rfl⟩
  | @finishRaised buffer hthread =>
    have hheld : d.thread.buffer? = buffer := by rw [hthread]; rfl
    cases buffer with
    | none => exact .inl ⟨hheld, .none hheld.symm rfl rfl⟩
    | some b =>
      -- The pointer would have been wrapped after this call.
      exact .inr ⟨by simp [KeepsBuffer, hheld], b, ⟨hheld, rfl, rfl, rfl⟩⟩
  | exit hthread =>
    refine .inl ⟨trivial, .none ?_ rfl rfl⟩
    obtain hthread | hthread := hthread <;> rw [hthread] <;> rfl
  | @release b hmem => exact .inl ⟨trivial, .released b hmem rfl rfl rfl⟩
  | startDecoder hthread => exact .inl ⟨trivial, .none (by rw [hthread]; rfl) rfl rfl⟩
  | postJpegBuffer | startDecoderAgain | stopDecoder | joined =>
    exact .inl ⟨trivial, .none rfl rfl rfl⟩

/-- What a step that loses no buffer does keeps them accounted for. -/
theorem Accounted.handled {cfg : DecoderConfig} {d d' : SwDecoder} (h : Accounted cfg d)
    (hd : Handled d d') : Accounted cfg d' := by
  unfold Accounted at h ⊢
  cases hd with
  | none hthread hfree hout => rwa [hthread, hfree, hout]
  | taken b hheld hthread hfree hout =>
    rw [hheld, hfree] at h
    rw [hthread, hout]
    exact h.take
  | sent b hheld hthread hfree hout =>
    rw [hheld] at h
    rw [hthread, hfree, hout]
    exact h.perm_out (List.perm_append_singleton b _).symm
  | released b hmem hthread hfree hout =>
    rw [hthread, hfree, hout]
    refine h.give ?_
    calc (d.thread.buffer?.toList ++ d.output_buffers).Perm
          (d.thread.buffer?.toList ++ b :: d.output_buffers.erase b) :=
        (List.perm_cons_erase hmem).append_left _
      List.Perm _ (b :: (d.thread.buffer?.toList ++ d.output_buffers.erase b)) := List.perm_middle

/-- A lost buffer is missing at once: the thread is back in `run`. -/
theorem Accounted.not_conserved {cfg : DecoderConfig} {d d' : SwDecoder} (h : Accounted cfg d)
    {b : DecoderBuffer} (hd : Lost b d d') : ¬ Conserved cfg d' := by
  intro hc
  have hcount := (hc (by rw [hd.thread]; rfl)).1
  have hall := h.length_eq
  rw [hd.held, List.length_range] at hall
  rw [hd.downstream_buffers, hd.output_buffers] at hcount
  simp only [Option.toList_some, List.singleton_append, List.length_cons] at hall
  omega

/-- The output buffers are conserved throughout a run exactly when no call of libjpeg in it raises
its error while `decodeBuffer` holds a buffer. -/
theorem throughout_conserved_iff (cfg : DecoderConfig) (events : List Event) :
    Throughout (SwDecoder.step cfg) (Conserved cfg) (.initial cfg) events ↔
      Along (SwDecoder.step cfg) KeepsBuffer (.initial cfg) events := by
  refine throughout_iff_along (Accounted cfg) (fun _ h => h.conserved) ?_ ?_ (accounted_initial cfg)
  · intro d e d' h hkeeps hs
    rcases step_cases hs with ⟨-, hd⟩ | ⟨hloses, -⟩
    · exact h.handled hd
    · exact absurd hkeeps hloses
  · intro d e d' h hloses hs
    rcases step_cases hs with ⟨hkeeps, -⟩ | ⟨-, b, hd⟩
    · exact absurd hkeeps hloses
    · exact h.not_conserved hd

/-- A frame taller than the configured height: the loop ends after 54 calls, libjpeg is left with
rows that nobody has read, which `jpeg_finish_decompress` takes for an error, and the only buffer is
gone. -/
theorem tall_frame_not_conserved :
    ¬ Throughout (SwDecoder.step ⟨1, 1536, 864⟩) (Conserved ⟨1, 1536, 864⟩)
      (.initial ⟨1, 1536, 864⟩)
      ([.startDecoder, .create (.returned ()), .postJpegBuffer 0, .start (.returned ())] ++
        List.replicate 54 (.read (.returned 16)) ++ [.finish .raised]) := by
  intro h
  have hc := h.last rfl
  exact absurd (hc rfl).1 (by decide)

end AugmentedNormalcy.Decoder
