import AugmentedNormalcy.Decoder.ScanLoop
import AugmentedNormalcy.Foundation.Plane

/-!
# The rows that libjpeg is given

`decodeBuffer` hands libjpeg 16 rows of `Y` and 8 of `U` and of `V` in each iteration. Its inner
loops test `output_scanline` for each row, but nothing changes it there, so they fill all of their
rows (`fillRows_rows`). In iteration `k` these are the rows from `16 k` and from `8 k` on, and the
last iteration leaves the planes unless the height is a multiple of 16 (`rowsInPlanes_iff`). -/

namespace AugmentedNormalcy.Decoder

open StepSystem

/-- An inner loop of `decodeBuffer`, with `test` for the test of `output_scanline`: the rows that it
fills, and where it leaves the pointer. -/
def fillRows (test : Bool) (stride : ℤ) : ℕ → ℤ → List ℤ × ℤ
  | 0, p => ([], p)
  | n + 1, p =>
    if test then
      let (rows, p') := fillRows test stride n (p + stride)
      (p :: rows, p')
    else ([], p)

theorem fillRows_true (stride : ℤ) (n : ℕ) (p : ℤ) :
    fillRows true stride n p =
      ((List.range n).map fun i : ℕ => p + i * stride, p + n * stride) := by
  induction n generalizing p with
  | zero => simp [fillRows]
  | succ n ih =>
    simp only [fillRows, if_true, ih, List.range_succ_eq_map, List.map_cons, List.map_map]
    refine Prod.ext ?_ ?_
    · refine congrArg₂ List.cons (by simp) (List.map_congr_left fun i _ => ?_)
      show p + stride + i * stride = p + ((i + 1 : ℕ) : ℤ) * stride
      push_cast
      ring
    · show p + stride + n * stride = p + ((n + 1 : ℕ) : ℤ) * stride
      push_cast
      ring

/-- In the `while` loop the inner loops fill the rows of `Scan.rows`, and leave the pointers where
`Scan.next` has them. -/
theorem fillRows_rows {cfg : DecoderConfig} {scan : Scan}
    (h : scan.output_scanline < toUnsigned cfg.height) (lines : ℕ) :
    let test := decide (scan.output_scanline < toUnsigned cfg.height)
    let stride2 := cfg.width.tdiv 2
    fillRows test cfg.width 16 scan.Y = ((scan.rows cfg).y_rows, (scan.next cfg lines).Y) ∧
      fillRows test stride2 8 scan.U = ((scan.rows cfg).u_rows, (scan.next cfg lines).U) ∧
      fillRows test stride2 8 scan.V = ((scan.rows cfg).v_rows, (scan.next cfg lines).V) := by
  simp only [decide_eq_true h, fillRows_true]
  exact ⟨rfl, rfl, rfl⟩

/-- Each row starts a row of its own plane. -/
structure InPlanes (im : I420) (rows : Rows) : Prop where
  y_rows : ∀ a ∈ rows.y_rows, im.Y.IsRow a
  u_rows : ∀ a ∈ rows.u_rows, im.U.IsRow a
  v_rows : ∀ a ∈ rows.v_rows, im.V.IsRow a

/-- In every run whose frames are of the size that is configured, every iteration of the loop has
its rows in the planes. -/
def RowsInPlanes (downstream_buffer_count : ℕ) (im : I420) : Prop :=
  let cfg : DecoderConfig := ⟨downstream_buffer_count, im.width, im.height⟩
  ∀ events d scan, Along (SwDecoder.step cfg) (Conforms im.height) (.initial cfg) events →
    run (SwDecoder.step cfg) (.initial cfg) events = some d → d.thread = .scanning scan →
      InPlanes im (scan.rows cfg)

/-- Rows in their planes keep to the part of the buffer that is theirs, whatever libjpeg writes
to them. -/
theorem InPlanes.bounds {im : I420} {rows : Rows} (h : InPlanes im rows) :
    (∀ a ∈ rows.y_rows, 0 ≤ a ∧ a + im.width ≤ im.U.base) ∧
      (∀ a ∈ rows.u_rows, im.U.base ≤ a ∧ a + im.width / 2 ≤ im.V.base) ∧
      (∀ a ∈ rows.v_rows, im.V.base ≤ a ∧ a + im.width / 2 ≤ im.V.finish) := by
  have hhalf : (0 : ℤ) ≤ im.width / 2 := by omega
  refine ⟨fun a ha => ?_, fun a ha => ?_, fun a ha => ?_⟩
  · exact im.Y_finish ▸ (h.y_rows a ha).bounds (Int.natCast_nonneg im.width)
  · exact im.U_finish ▸ (h.u_rows a ha).bounds hhalf
  · exact (h.v_rows a ha).bounds hhalf

/-! ## The pointers in closed form -/

section Iteration

variable (im : I420)

/-- The loop variables of iteration `k`. -/
def Scan.iteration (buffer : DecoderBuffer) (k : ℕ) : Scan :=
  { buffer
    output_scanline := 16 * k
    Y := im.Y.row (16 * k)
    U := im.U.row (8 * k)
    V := im.V.row (8 * k) }

variable (count : ℕ) (buffer : DecoderBuffer) (k : ℕ)

theorem tdiv_two (n : ℕ) : (n : ℤ).tdiv 2 = n / 2 :=
  Int.tdiv_eq_ediv_of_nonneg (Int.natCast_nonneg n)

theorem start_eq_iteration :
    Scan.start ⟨count, im.width, im.height⟩ buffer = .iteration im buffer 0 := by
  simp only [Scan.start, Scan.iteration, tdiv_two, Nat.mul_zero, Plane.row_zero]
  rfl

theorem next_iteration : (Scan.iteration im buffer k).next ⟨count, im.width, im.height⟩ 16 =
    .iteration im buffer (k + 1) := by
  simp only [Scan.next, Scan.iteration, tdiv_two, Nat.mul_succ, Plane.row_add]
  rfl

theorem rows_iteration : (Scan.iteration im buffer k).rows ⟨count, im.width, im.height⟩ =
    ⟨im.Y.rowsFrom (16 * k) 16, im.U.rowsFrom (8 * k) 8, im.V.rowsFrom (8 * k) 8⟩ := by
  simp only [Scan.rows, Scan.iteration, tdiv_two, Plane.rowsFrom, Plane.row_add]
  rfl

end Iteration

/-- The rows of iteration `k` are in the planes exactly when the image has all 16 of them. -/
theorem inPlanes_iteration_iff {im : I420} (hw : 0 < im.width) (count : ℕ) (buffer : DecoderBuffer)
    (k : ℕ) :
    InPlanes im ((Scan.iteration im buffer k).rows ⟨count, im.width, im.height⟩) ↔
      16 * k + 16 ≤ im.height := by
  rw [rows_iteration]
  constructor
  · intro h
    -- The last of the rows is one of the plane.
    have hmem : im.Y.row (16 * k + 15) ∈ im.Y.rowsFrom (16 * k) 16 :=
      List.mem_map.mpr ⟨15, by simp, rfl⟩
    have hstride : 0 < im.Y.stride := by
      show (0 : ℤ) < im.width
      omega
    have hlt : 16 * k + 15 < im.height := (Plane.isRow_row_iff hstride).mp (h.y_rows _ hmem)
    omega
  · intro h
    have hrow : ∀ {p : Plane} {i n : ℕ}, i + n ≤ p.rows → ∀ a ∈ p.rowsFrom i n, p.IsRow a := by
      intro p i n hle a ha
      obtain ⟨j, hj, rfl⟩ := List.mem_map.mp ha
      have := List.mem_range.mp hj
      exact ⟨i + j, by omega, rfl⟩
    have hhalf : 8 * k + 8 ≤ im.height / 2 := by omega
    exact ⟨hrow h, hrow hhalf, hrow hhalf⟩

/-! ## The loop in a run -/

variable {im : I420} {count : ℕ} {d d' : SwDecoder}

/-- The thread is in one of the iterations that the loop has for the height of the image. -/
def InLoop (im : I420) (d : SwDecoder) : Prop :=
  ∀ scan, d.thread = .scanning scan → ∃ buffer k, 16 * k < im.height ∧
    scan = .iteration im buffer k

theorem toUnsigned_natCast {n : ℕ} (h : n < 2 ^ 31) : toUnsigned n = n := by
  unfold toUnsigned
  omega

theorem inLoop_loopTest (hh : im.height < 2 ^ 31) (buffer : DecoderBuffer) (k : ℕ)
    (hd : d.thread = SwDecoder.loopTest ⟨count, im.width, im.height⟩ (.iteration im buffer k)) :
    InLoop im d := by
  intro scan hscan
  rw [hd, SwDecoder.loopTest] at hscan
  split_ifs at hscan with hlt
  cases hscan
  exact ⟨buffer, k, (toUnsigned_natCast hh).symm ▸ hlt, rfl⟩

theorem InLoop.step (hh : im.height < 2 ^ 31) {e : Event} (h : InLoop im d)
    (hconforms : Conforms im.height d e)
    (hs : SwDecoder.step ⟨count, im.width, im.height⟩ d e = some d') : InLoop im d' := by
  have hleft : ∀ {d' : SwDecoder}, (∀ scan, d'.thread ≠ .scanning scan) → InLoop im d' :=
    fun hne scan hscan => absurd hscan (hne scan)
  cases SwDecoder.Step.of_step hs with
  | created | startRaised | readRaised | sent | skipped | finishRaised | exit | startDecoder =>
    exact hleft (by simp)
  | createRaised | release | postJpegBuffer | startDecoderAgain | stopDecoder | joined => exact h
  | started =>
    unfold SwDecoder.takeBuffer
    split
    · exact hleft (by simp)
    · rename_i buffer _ _
      exact inLoop_loopTest hh buffer 0
        (congrArg (SwDecoder.loopTest _) (start_eq_iteration im count buffer))
  -- A call that has rows left returns 16 lines, and the next iteration begins.
  | read lines hthread =>
    obtain ⟨buffer, k, hlt, rfl⟩ := h _ hthread
    obtain rfl : lines = 16 := by
      rw [Outcome.returned.inj (hconforms _ hthread)]
      exact if_pos hlt
    exact inLoop_loopTest hh buffer (k + 1)
      (congrArg (SwDecoder.loopTest _) (next_iteration im count buffer k))

/-- From iteration `k`, `n` more calls lead to iteration `k + n`. -/
theorem exists_run_iteration (count : ℕ) (hh : im.height < 2 ^ 31) (buffer : DecoderBuffer)
    (n : ℕ) :
    ∀ {d : SwDecoder} {k : ℕ}, d.thread = .scanning (.iteration im buffer k) →
      16 * (k + n) < im.height → ∃ events d',
        Along (SwDecoder.step ⟨count, im.width, im.height⟩) (Conforms im.height) d events ∧
        run (SwDecoder.step ⟨count, im.width, im.height⟩) d events = some d' ∧
        d'.thread = .scanning (.iteration im buffer (k + n)) := by
  induction n with
  | zero => exact fun hd _ => ⟨[], _, trivial, rfl, hd⟩
  | succ n ih =>
    intro d k hd hlt
    have hread : SwDecoder.step ⟨count, im.width, im.height⟩ d (.read (.returned 16)) =
        some { d with thread := .scanning (.iteration im buffer (k + 1)) } := by
      simp only [SwDecoder.step, hd, next_iteration]
      rw [SwDecoder.loopTest_of_lt _ (by
        rw [toUnsigned_natCast hh]
        show 16 * (k + 1) < im.height
        omega)]
    obtain ⟨events, d', halong, hrun, hd'⟩ := @ih
      { d with thread := .scanning (.iteration im buffer (k + 1)) } (k + 1) rfl (by omega)
    refine ⟨.read (.returned 16) :: events, d', fun d₁ hd₁ => ?_, ?_, ?_⟩
    · obtain rfl := Option.some.inj (hread.symm.trans hd₁)
      refine ⟨fun scan hscan => ?_, halong⟩
      rw [hd] at hscan
      cases hscan
      exact congrArg Outcome.returned (if_pos (show 16 * k < im.height by omega)).symm
    · rw [run_cons, hread]
      exact hrun
    · rw [hd', show k + 1 + n = k + (n + 1) by omega]

/-- A decoder with a buffer gets to every iteration that its height has. -/
theorem exists_iteration (hcount : 0 < count) (hh : im.height < 2 ^ 31) {k : ℕ}
    (hlt : 16 * k < im.height) : ∃ events d,
      Along (SwDecoder.step ⟨count, im.width, im.height⟩) (Conforms im.height)
        (.initial ⟨count, im.width, im.height⟩) events ∧
      run (SwDecoder.step ⟨count, im.width, im.height⟩)
        (.initial ⟨count, im.width, im.height⟩) events = some d ∧
      d.thread = .scanning (.iteration im 0 k) := by
  obtain ⟨n, rfl⟩ : ∃ n, count = n + 1 := ⟨count - 1, by omega⟩
  -- The decoder is started and a frame is posted; the loop begins.
  obtain ⟨start, d, halong, hrun, hd⟩ : ∃ start d,
      Along (SwDecoder.step ⟨n + 1, im.width, im.height⟩) (Conforms im.height)
        (.initial ⟨n + 1, im.width, im.height⟩) start ∧
      run (SwDecoder.step ⟨n + 1, im.width, im.height⟩)
        (.initial ⟨n + 1, im.width, im.height⟩) start = some d ∧
      d.thread = SwDecoder.loopTest ⟨n + 1, im.width, im.height⟩
        (.start ⟨n + 1, im.width, im.height⟩ 0) :=
    ⟨[.startDecoder, .create (.returned ()), .postJpegBuffer 0, .start (.returned ())], _,
      fun _ _ =>
        ⟨trivial, fun _ _ => ⟨trivial, fun _ _ => ⟨trivial, fun _ _ => ⟨trivial, trivial⟩⟩⟩⟩,
      rfl, by simp [SwDecoder.takeBuffer, SwDecoder.initial, List.range_succ_eq_map]⟩
  have hfirst : d.thread = .scanning (.iteration im 0 0) := by
    rw [hd, start_eq_iteration]
    refine SwDecoder.loopTest_of_lt _ ?_
    rw [toUnsigned_natCast hh]
    show 16 * 0 < im.height
    omega
  obtain ⟨events, d', halong', hrun', hd'⟩ :=
    exists_run_iteration (n + 1) hh 0 k hfirst (by omega)
  refine ⟨start ++ events, d', halong.append fun d₁ hd₁ => ?_, ?_, ?_⟩
  · obtain rfl := Option.some.inj (hrun.symm.trans hd₁)
    exact halong'
  · rw [run_append, hrun]
    exact hrun'
  · rw [hd', Nat.zero_add]

/-- With a height that is not a multiple of 16, the last iteration leaves the planes. -/
theorem not_rowsInPlanes {count : ℕ} {im : I420} (hw : 0 < im.width) (hh : im.height < 2 ^ 31)
    (hcount : 0 < count) (hdvd : ¬ 16 ∣ im.height) : ¬ RowsInPlanes count im := by
  intro h
  obtain ⟨events, d, halong, hrun, hd⟩ :=
    exists_iteration (k := im.height / 16) hcount hh (by omega)
  have := (inPlanes_iteration_iff hw count 0 _).mp (h events d _ halong hrun hd)
  omega

/-- There is no buffer anywhere. -/
structure NoBuffers (d : SwDecoder) : Prop where
  downstream_buffers : d.downstream_buffers = []
  output_buffers : d.output_buffers = []
  not_scanning : ∀ scan, d.thread ≠ .scanning scan
  not_finishing : ∀ buffer, d.thread ≠ .finishing (some buffer)

theorem NoBuffers.step {cfg : DecoderConfig} {e : Event} (h : NoBuffers d)
    (hs : SwDecoder.step cfg d e = some d') : NoBuffers d' := by
  cases SwDecoder.Step.of_step hs with
  | created | startRaised | readRaised | skipped | finishRaised | exit | startDecoder =>
    exact ⟨h.downstream_buffers, h.output_buffers, by simp, by simp⟩
  | createRaised | postJpegBuffer | startDecoderAgain | stopDecoder | joined =>
    exact ⟨h.downstream_buffers, h.output_buffers, h.not_scanning, h.not_finishing⟩
  | started =>
    simp only [SwDecoder.takeBuffer, h.downstream_buffers]
    exact ⟨rfl, h.output_buffers, by simp, by simp⟩
  | read _ hthread => exact absurd hthread (h.not_scanning _)
  | sent hthread => exact absurd hthread (h.not_finishing _)
  | release hmem => simp [h.output_buffers] at hmem

/-- With frames of the configured size, the rows stay in their planes exactly when the height is a
multiple of 16, or the decoder has no buffer to write to. -/
theorem rowsInPlanes_iff (count : ℕ) (im : I420) (hw : 0 < im.width) (hh : im.height < 2 ^ 31) :
    RowsInPlanes count im ↔ count = 0 ∨ 16 ∣ im.height := by
  constructor
  · intro h
    by_contra hnot
    obtain ⟨hcount, hdvd⟩ := not_or.mp hnot
    exact not_rowsInPlanes hw hh (Nat.pos_of_ne_zero hcount) hdvd h
  · intro hor events d scan halong hrun hscan
    rcases hor with hcount | hdvd
    · -- Without a buffer there is no iteration.
      subst hcount
      have hnone : NoBuffers d := run_invariant NoBuffers (fun d e d' hI hs => hI.step hs) hrun
        ⟨rfl, rfl, by simp [SwDecoder.initial], by simp [SwDecoder.initial]⟩
      exact absurd hscan (hnone.not_scanning scan)
    · obtain ⟨buffer, k, hlt, rfl⟩ := halong.run_invariant (InLoop im)
        (fun d e d' hI hP hs => InLoop.step hh hI hP hs) hrun (fun scan hscan => by cases hscan)
        scan hscan
      exact (inPlanes_iteration_iff hw count buffer k).mpr (by omega)

/-- The tests configure 1536 by 864. -/
theorem rowsInPlanes_864 : RowsInPlanes 4 ⟨1536, 864⟩ :=
  (rowsInPlanes_iff 4 ⟨1536, 864⟩ (by decide) (by decide)).mpr (.inr (by decide))

/-- A height of 1080 is not: in its last iteration, eight of the rows of `Y` are rows of `U`. -/
theorem not_rowsInPlanes_1080 : ¬ RowsInPlanes 4 ⟨1920, 1080⟩ :=
  not_rowsInPlanes (by decide) (by decide) (by decide) (by decide)

end AugmentedNormalcy.Decoder
