import AugmentedNormalcy.Decoder.SwDecoder
import AugmentedNormalcy.Foundation.Run

/-!
# Whether the scan loop ends

The loop of `decodeBuffer` runs while `output_scanline` is below the configured height. libjpeg
advances `output_scanline` by 16 for each call up to the height of the frame, and from there on
leaves it alone. So the loop ends exactly when the configured height is at most that of the frame,
rounded up to whole calls (`getsBack_iff`); with a smaller frame it spins for ever, and
`StopDecoder` waits for it. -/

namespace AugmentedNormalcy.Decoder

open StepSystem

/-- The lines that `jpeg_read_raw_data` returns for a frame of `output_height` rows. -/
def readLines (output_height output_scanline : ℕ) : ℕ :=
  if output_scanline < output_height then 16 else 0

/-- libjpeg accepts the frame, of `output_height` rows: its calls of `jpeg_read_raw_data` return. -/
def Conforms (output_height : ℕ) (d : SwDecoder) : Event → Prop
  | .read outcome => ∀ scan, d.thread = .scanning scan →
      outcome = .returned (readLines output_height scan.output_scanline)
  | _ => True

/-- The calls of libjpeg that the thread makes in `decodeBuffer`. -/
def Event.isCall : Event → Bool
  | .read _ | .finish _ => true
  | _ => false

/-- From `d`, the thread gets back to the tests of `run`: while a call of `decodeBuffer` goes on,
the thread takes a bounded number of steps, whatever others do in between. -/
def GetsBack (cfg : DecoderConfig) (output_height : ℕ) (d : SwDecoder) : Prop :=
  ∃ bound, ∀ events d', Along (SwDecoder.step cfg) (Conforms output_height) d events →
    Throughout (SwDecoder.step cfg) (fun d => d.thread.isDecoding = true) d events →
      run (SwDecoder.step cfg) d events = some d' → events.countP Event.isCall ≤ bound

/-- The number of rows in whole calls. -/
def wholeRows (output_height : ℕ) : ℕ := 16 * ((output_height + 15) / 16)

/-- In the loop, libjpeg has returned whole calls so far, and no more than the frame has. -/
def Aligned (cfg : DecoderConfig) (output_height : ℕ) (d : SwDecoder) : Prop :=
  ∀ scan, d.thread = .scanning scan → 16 ∣ scan.output_scanline ∧
    scan.output_scanline ≤ wholeRows output_height ∧ scan.output_scanline < toUnsigned cfg.height

/-- The calls that are left of the loop. -/
def remaining (cfg : DecoderConfig) (d : SwDecoder) : ℕ :=
  match d.thread with
  | .scanning scan => (toUnsigned cfg.height - scan.output_scanline + 15) / 16
  | _ => 0

variable {cfg : DecoderConfig} {output_height : ℕ} {d d' : SwDecoder}

/-- A thread that stays in `decodeBuffer` does not move unless it is its turn, and then it has
returned from a call in the loop. -/
theorem step_decoding {e : Event} (hs : SwDecoder.step cfg d e = some d')
    (hd : d.thread.isDecoding = true) (hd' : d'.thread.isDecoding = true) :
    (e.isCall = false ∧ d'.thread = d.thread) ∨ ∃ scan lines, e = .read (.returned lines) ∧
      d.thread = .scanning scan ∧ d'.thread = SwDecoder.loopTest cfg (scan.next cfg lines) := by
  -- Such a thread is in one of the calls of libjpeg.
  have hnot : ∀ {t : Thread}, t.isDecoding = false → d.thread ≠ t := by
    rintro _ ht rfl
    rw [hd] at ht
    cases ht
  cases SwDecoder.Step.of_step hs with
  | created hthread | createRaised hthread | started hthread | startRaised hthread =>
    exact absurd hthread (hnot rfl)
  | @read scan lines hthread => exact .inr ⟨scan, lines, rfl, hthread, rfl⟩
  | readRaised | sent | skipped | finishRaised => cases hd'
  | exit hthread =>
    obtain hthread | hthread := hthread
    · exact absurd hthread (hnot rfl)
    · exact absurd hthread (hnot rfl)
  | startDecoder hthread | joined hthread => exact absurd hthread (hnot rfl)
  | release | postJpegBuffer | startDecoderAgain | stopDecoder => exact .inl ⟨rfl, rfl⟩

/-- From whole calls to whole calls. -/
theorem add_readLines_le {n output_height : ℕ} (hdvd : 16 ∣ n) (hle : n ≤ wholeRows output_height) :
    16 ∣ n + readLines output_height n ∧
      n + readLines output_height n ≤ wholeRows output_height := by
  unfold readLines wholeRows at *
  split_ifs
  · omega
  · omega

/-- The loop test keeps the calls whole. -/
theorem aligned_loopTest (scan : Scan) (hdvd : 16 ∣ scan.output_scanline)
    (hle : scan.output_scanline ≤ wholeRows output_height)
    (hd : d.thread = SwDecoder.loopTest cfg scan) : Aligned cfg output_height d := by
  intro scan' hscan'
  rw [hd, SwDecoder.loopTest] at hscan'
  split_ifs at hscan' with hlt
  cases hscan'
  exact ⟨hdvd, hle, hlt⟩

/-- A step of a conforming frame in `decodeBuffer` keeps the calls whole. -/
theorem Aligned.step {e : Event} (h : Aligned cfg output_height d)
    (hconforms : Conforms output_height d e) (hs : SwDecoder.step cfg d e = some d')
    (hd : d.thread.isDecoding = true) (hd' : d'.thread.isDecoding = true) :
    Aligned cfg output_height d' := by
  rcases step_decoding hs hd hd' with ⟨-, hthread⟩ | ⟨scan, lines, rfl, hscan, hthread⟩
  · intro scan hscan
    exact h scan (hthread ▸ hscan)
  -- A conforming call returns 16 lines, or none behind the last row.
  · obtain rfl : lines = readLines output_height scan.output_scanline :=
      Outcome.returned.inj (hconforms scan hscan)
    obtain ⟨hdvd, hle, -⟩ := h scan hscan
    obtain ⟨hdvd', hle'⟩ := add_readLines_le hdvd hle
    exact aligned_loopTest _ hdvd' hle' hthread

theorem remaining_loopTest {scan : Scan} (hd : d.thread = SwDecoder.loopTest cfg scan) :
    remaining cfg d = (toUnsigned cfg.height - scan.output_scanline + 15) / 16 := by
  rw [remaining, hd, SwDecoder.loopTest]
  split_ifs
  · rfl
  · dsimp only
    omega

/-- With a frame that is tall enough, every call in the loop is one of those that are left. -/
theorem Aligned.remaining_lt {e : Event} (h : Aligned cfg output_height d)
    (htall : toUnsigned cfg.height ≤ wholeRows output_height)
    (hconforms : Conforms output_height d e) (hs : SwDecoder.step cfg d e = some d')
    (hd : d.thread.isDecoding = true) (hd' : d'.thread.isDecoding = true) :
    remaining cfg d' + (if e.isCall then 1 else 0) ≤ remaining cfg d := by
  rcases step_decoding hs hd hd' with ⟨hcall, hthread⟩ | ⟨scan, lines, rfl, hscan, hthread⟩
  · simp [remaining, hthread, hcall]
  · obtain rfl : lines = readLines output_height scan.output_scanline :=
      Outcome.returned.inj (hconforms scan hscan)
    obtain ⟨hdvd, hle, hlt⟩ := h scan hscan
    -- The frame has rows left, so the call advances.
    have hrows : scan.output_scanline < output_height := by
      unfold wholeRows at htall
      omega
    have hlines : readLines output_height scan.output_scanline = 16 := if_pos hrows
    rw [remaining_loopTest hthread,
      remaining_loopTest (hscan.trans (SwDecoder.loopTest_of_lt _ hlt).symm),
      hlines]
    simp only [Scan.next, Event.isCall, if_true]
    omega

/-- With a frame that is too short, there is a run of any number of calls that stays in the loop. -/
theorem Aligned.exists_run (hshort : wholeRows output_height < toUnsigned cfg.height) (n : ℕ) :
    ∀ {d : SwDecoder} {scan : Scan}, Aligned cfg output_height d → d.thread = .scanning scan →
      ∃ events d', Along (SwDecoder.step cfg) (Conforms output_height) d events ∧
        Throughout (SwDecoder.step cfg) (fun d => d.thread.isDecoding = true) d events ∧
        run (SwDecoder.step cfg) d events = some d' ∧ events.countP Event.isCall = n := by
  induction n with
  | zero =>
    intro d scan _ hscan
    have hdecoding : d.thread.isDecoding = true := by rw [hscan]; rfl
    exact ⟨[], d, trivial, hdecoding, rfl, rfl⟩
  | succ n ih =>
    intro d scan h hscan
    have hdecoding : d.thread.isDecoding = true := by rw [hscan]; rfl
    obtain ⟨hdvd, hle, -⟩ := h scan hscan
    obtain ⟨hdvd', hle'⟩ := add_readLines_le hdvd hle
    -- The call returns below the configured height, so the loop goes on.
    have hin : SwDecoder.loopTest cfg
        (scan.next cfg (readLines output_height scan.output_scanline)) =
          .scanning (scan.next cfg (readLines output_height scan.output_scanline)) :=
      SwDecoder.loopTest_of_lt _ (hle'.trans_lt hshort)
    -- One more call, and the run from there.
    obtain ⟨d₁, hstep, hd₁⟩ : ∃ d₁, SwDecoder.step cfg d
        (.read (.returned (readLines output_height scan.output_scanline))) = some d₁ ∧
        d₁.thread = SwDecoder.loopTest cfg
          (scan.next cfg (readLines output_height scan.output_scanline)) :=
      ⟨_, by simp only [SwDecoder.step, hscan]; rfl, rfl⟩
    obtain ⟨events, d', halong, hthrough, hrun, hcount⟩ :=
      ih (aligned_loopTest _ hdvd' hle' hd₁) (hd₁.trans hin)
    refine ⟨.read (.returned (readLines output_height scan.output_scanline)) :: events, d',
      fun d₂ hd₂ => ?_, ⟨hdecoding, fun d₂ hd₂ => ?_⟩, ?_, ?_⟩
    · obtain rfl := Option.some.inj (hstep.symm.trans hd₂)
      refine ⟨fun scan' hscan' => ?_, halong⟩
      rw [hscan] at hscan'
      cases hscan'
      rfl
    · obtain rfl := Option.some.inj (hstep.symm.trans hd₂)
      exact hthrough
    · rw [run_cons, hstep]
      exact hrun
    · rw [List.countP_cons, hcount]
      rfl

section Start

variable (cfg : DecoderConfig) (output_height : ℕ) (d : SwDecoder) (buffer : DecoderBuffer)

theorem aligned_start : Aligned cfg output_height
    { d with thread := SwDecoder.loopTest cfg (.start cfg buffer) } :=
  aligned_loopTest (.start cfg buffer) (Nat.dvd_zero 16) (Nat.zero_le _) rfl

theorem getsBack_of_tall (htall : toUnsigned cfg.height ≤ wholeRows output_height) :
    GetsBack cfg output_height
      { d with thread := SwDecoder.loopTest cfg (.start cfg buffer) } := by
  refine ⟨remaining cfg { d with thread := SwDecoder.loopTest cfg (.start cfg buffer) },
    fun events d' halong hthrough hrun => ?_⟩
  -- Each call lowers the measure, and no other step raises it.
  refine countP_le (fun d => Aligned cfg output_height d ∧ d.thread.isDecoding = true)
    (remaining cfg) Event.isCall ?_ halong hthrough hrun
    ⟨aligned_start cfg output_height d buffer, hthrough.first⟩
  rintro d e d' ⟨h, hd⟩ hconforms hd' hs
  exact ⟨⟨h.step hconforms hs hd hd', hd'⟩, h.remaining_lt htall hconforms hs hd hd'⟩

theorem not_getsBack_of_short (hshort : wholeRows output_height < toUnsigned cfg.height) :
    ¬ GetsBack cfg output_height
      { d with thread := SwDecoder.loopTest cfg (.start cfg buffer) } := by
  rintro ⟨bound, hbound⟩
  obtain ⟨events, d', halong, hthrough, hrun, hcount⟩ := Aligned.exists_run hshort (bound + 1)
    (aligned_start cfg output_height d buffer)
    (SwDecoder.loopTest_of_lt (.start cfg buffer) ((Nat.zero_le _).trans_lt hshort))
  have := hbound events d' halong hthrough hrun
  omega

/-- From the beginning of the scan loop, the thread gets back to the tests of `run` exactly when the
configured height is at most the height of the frame, rounded up to a multiple of 16. -/
theorem getsBack_iff : GetsBack cfg output_height
      { d with thread := SwDecoder.loopTest cfg (.start cfg buffer) } ↔
    toUnsigned cfg.height ≤ wholeRows output_height := by
  refine ⟨fun h => ?_, getsBack_of_tall cfg output_height d buffer⟩
  by_contra hshort
  exact not_getsBack_of_short cfg output_height d buffer (not_le.mp hshort) h

end Start

/-- A frame of 720 rows, with a height of 864 configured. -/
theorem small_frame_not_getsBack : ∃ d, run (SwDecoder.step ⟨4, 1536, 864⟩)
    (.initial ⟨4, 1536, 864⟩)
    [.startDecoder, .create (.returned ()), .postJpegBuffer 0, .start (.returned ())] = some d ∧
    ¬ GetsBack ⟨4, 1536, 864⟩ 720 d :=
  ⟨_, rfl, not_getsBack_of_short ⟨4, 1536, 864⟩ 720 ⟨false, [], .waiting, [1, 2, 3], []⟩ 0
    (by decide)⟩

end AugmentedNormalcy.Decoder
