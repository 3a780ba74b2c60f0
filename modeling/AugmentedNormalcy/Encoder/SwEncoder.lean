import AugmentedNormalcy.Decoder.Rows
import AugmentedNormalcy.Foundation.Pool

/-!
# The software encoder

`encodeBuffer` of `src/internal/infrastructure/encoder/sw_encoder.cpp`. It takes an output buffer
from the queue, hands the rows of a camera frame to libjpeg, 16 rows of `Y` and 8 of `U` and of `V`
a call, and sends the buffer on; with no buffer in the queue it drops the frame. Pointers are places
in the memory of the camera buffer. libjpeg advances `next_scanline` by 16 for each call. -/

namespace AugmentedNormalcy.Encoder

open Decoder (Rows InPlanes toUnsigned toUnsigned_natCast tdiv_two)

/-- What `EncoderConfig` configures; both sizes are `int`. -/
structure EncoderConfig where
  downstream_buffer_count : ℕ
  width : ℤ
  height : ℤ

/-- An `EncoderBuffer *`, by the index of its buffer. -/
abbrev EncoderBuffer := ℕ

/-- The buffers of an encoder. `output_buffers` are those of the output pointers that are alive. -/
structure SwEncoder where
  downstream_buffers : List EncoderBuffer
  output_buffers : List EncoderBuffer
deriving DecidableEq

/-- The variables of the loop of `encodeBuffer`, and `cinfo.next_scanline`. -/
structure RowPointers where
  next_scanline : ℕ
  Y_row : ℤ
  U_row : ℤ
  V_row : ℤ
deriving DecidableEq

/-- An inner loop of `encodeBuffer`: `n` rows from `row` on, none of them behind `max`, and where it
leaves the pointer. -/
def fillRows (max stride : ℤ) : ℕ → ℤ → List ℤ × ℤ
  | 0, row => ([], row)
  | n + 1, row =>
    let (rows, row') := fillRows max stride n (row + stride)
    (min row max :: rows, row')

/-- The `for` loop of `encodeBuffer`, by the rows of each call of `jpeg_write_raw_data`. -/
def writeLoop (cfg : EncoderConfig) (Y_max U_max V_max : ℤ) (p : RowPointers) : List Rows :=
  if p.next_scanline < toUnsigned cfg.height then
    let stride2 := cfg.width.tdiv 2
    let (y_rows, Y_row) := fillRows Y_max cfg.width 16 p.Y_row
    let (u_rows, U_row) := fillRows U_max stride2 8 p.U_row
    let (v_rows, V_row) := fillRows V_max stride2 8 p.V_row
    ⟨y_rows, u_rows, v_rows⟩ ::
      writeLoop cfg Y_max U_max V_max ⟨p.next_scanline + 16, Y_row, U_row, V_row⟩
  else []
termination_by toUnsigned cfg.height - p.next_scanline

namespace SwEncoder

/-- The encoder as it is constructed, with `setupDownstreamBuffers` done. -/
def initial (cfg : EncoderConfig) : SwEncoder :=
  { downstream_buffers := List.range cfg.downstream_buffer_count
    output_buffers := [] }

/-- `encodeBuffer` of a camera frame, with the calls of `jpeg_write_raw_data` that it makes.
`jpeg_start_compress` sets `next_scanline` to 0. -/
def encodeBuffer (cfg : EncoderConfig) (e : SwEncoder) : SwEncoder × List Rows :=
  match e.downstream_buffers with
  | [] => (e, [])
  | buffer :: downstream_buffers =>
    let stride2 := cfg.width.tdiv 2
    let Y : ℤ := 0
    let U := Y + cfg.width * cfg.height
    let V := U + stride2 * cfg.height.tdiv 2
    let Y_max := U - cfg.width
    let U_max := V - stride2
    let V_max := U_max + stride2 * cfg.height.tdiv 2
    ({ downstream_buffers, output_buffers := e.output_buffers ++ [buffer] },
      writeLoop cfg Y_max U_max V_max ⟨0, Y, U, V⟩)

/-- `queueDownstreamBuffer`, when the last copy of an output pointer is released. -/
def queueDownstreamBuffer (e : SwEncoder) (buffer : EncoderBuffer) : SwEncoder :=
  { downstream_buffers := e.downstream_buffers ++ [buffer]
    output_buffers := e.output_buffers.erase buffer }

end SwEncoder

/-! ## Where the output buffers are -/

/-- Every configured buffer is in the queue or held by an output pointer. -/
def Accounted (cfg : EncoderConfig) (e : SwEncoder) : Prop :=
  Pool.Whole (List.range cfg.downstream_buffer_count) e.downstream_buffers e.output_buffers

namespace Accounted

variable {cfg : EncoderConfig} {e : SwEncoder}

theorem initial (cfg : EncoderConfig) : Accounted cfg (.initial cfg) := Pool.Whole.initial _

theorem encodeBuffer (h : Accounted cfg e) : Accounted cfg (e.encodeBuffer cfg).1 := by
  unfold SwEncoder.encodeBuffer
  split
  · exact h
  · rename_i buffer free hfree
    rw [Accounted, hfree] at h
    exact h.take.perm_out (List.perm_append_singleton buffer e.output_buffers).symm

theorem queueDownstreamBuffer (h : Accounted cfg e) {buffer : EncoderBuffer}
    (hmem : buffer ∈ e.output_buffers) : Accounted cfg (e.queueDownstreamBuffer buffer) :=
  Pool.Whole.give h (List.perm_cons_erase hmem)

end Accounted

/-! ## The rows in closed form -/

variable {im : I420}

/-- Row `i` of a plane, or its last row when it has no row `i`. -/
def clampedRow (p : Plane) (i : ℕ) : ℤ := p.row (min i (p.rows - 1))

/-- The rows of call `k`. -/
def callRows (im : I420) (k : ℕ) : Rows where
  y_rows := (List.range 16).map fun i => clampedRow im.Y (16 * k + i)
  u_rows := (List.range 8).map fun i => clampedRow im.U (8 * k + i)
  v_rows := (List.range 8).map fun i => clampedRow im.V (8 * k + i)

/-- An inner loop that starts in row `k` of a plane and clamps at its last row. -/
theorem fillRows_plane {p : Plane} (hs : 0 ≤ p.stride) (n : ℕ) :
    ∀ k, fillRows (p.row (p.rows - 1)) p.stride n (p.row k) =
      ((List.range n).map fun i => clampedRow p (k + i), p.row (k + n)) := by
  induction n with
  | zero => exact fun _ => rfl
  | succ n ih =>
    intro k
    have hnext : p.row k + p.stride = p.row (k + 1) := by simp [Plane.row_add]
    have harith : ∀ i, k + 1 + i = k + (i + 1) := by omega
    simp only [fillRows, hnext, ih, Plane.min_row hs, List.range_succ_eq_map, List.map_cons,
      List.map_map, Function.comp_def, harith]
    rfl

/-- The pointers of call `k`. -/
def RowPointers.call (im : I420) (k : ℕ) : RowPointers :=
  ⟨16 * k, im.Y.row (16 * k), im.U.row (8 * k), im.V.row (8 * k)⟩

/-- An iteration of the loop makes the call, and moves on to the next one. -/
theorem writeLoop_call (count : ℕ) (hh : im.height < 2 ^ 31) (k : ℕ) :
    writeLoop ⟨count, im.width, im.height⟩ (im.Y.row (im.height - 1))
        (im.U.row (im.height / 2 - 1)) (im.V.row (im.height / 2 - 1)) (.call im k) =
      if 16 * k < im.height then
        callRows im k :: writeLoop ⟨count, im.width, im.height⟩ (im.Y.row (im.height - 1))
          (im.U.row (im.height / 2 - 1)) (im.V.row (im.height / 2 - 1)) (.call im (k + 1))
      else [] := by
  have hhalf : (0 : ℤ) ≤ im.width / 2 := by omega
  have hy : fillRows (im.Y.row (im.height - 1)) im.width 16 (im.Y.row (16 * k)) = _ :=
    fillRows_plane (p := im.Y) (Int.natCast_nonneg im.width) 16 (16 * k)
  have hu : fillRows (im.U.row (im.height / 2 - 1)) (im.width / 2) 8 (im.U.row (8 * k)) = _ :=
    fillRows_plane (p := im.U) hhalf 8 (8 * k)
  have hv : fillRows (im.V.row (im.height / 2 - 1)) (im.width / 2) 8 (im.V.row (8 * k)) = _ :=
    fillRows_plane (p := im.V) hhalf 8 (8 * k)
  rw [writeLoop]
  simp only [RowPointers.call, toUnsigned_natCast hh, tdiv_two, hy, hu, hv, Nat.mul_succ]
  rfl

/-- From call `k` on, the loop makes all the calls that are left. -/
theorem writeLoop_eq (count : ℕ) (hh : im.height < 2 ^ 31) (n : ℕ) :
    ∀ k, (im.height + 15) / 16 = k + n →
      writeLoop ⟨count, im.width, im.height⟩ (im.Y.row (im.height - 1))
        (im.U.row (im.height / 2 - 1)) (im.V.row (im.height / 2 - 1)) (.call im k) =
      (List.range n).map fun j => callRows im (k + j) := by
  induction n with
  | zero =>
    intro k hk
    rw [writeLoop_call count hh, if_neg (by omega)]
    rfl
  | succ n ih =>
    intro k hk
    have harith : ∀ i, k + 1 + i = k + (i + 1) := by omega
    rw [writeLoop_call count hh, if_pos (by omega), ih (k + 1) (by omega)]
    simp only [List.range_succ_eq_map, List.map_cons, List.map_map, Function.comp_def, harith]
    rfl

/-- With a buffer in the queue, `encodeBuffer` makes the calls of a whole image. -/
theorem encodeBuffer_calls {e : SwEncoder} (count : ℕ) (h2 : 2 ≤ im.height)
    (hh : im.height < 2 ^ 31) (hfree : e.downstream_buffers ≠ []) :
    (e.encodeBuffer ⟨count, im.width, im.height⟩).2 =
      (List.range ((im.height + 15) / 16)).map (callRows im) := by
  obtain ⟨buffer, free, hfree⟩ := List.exists_cons_of_ne_nil hfree
  -- Each `max` is the last row of its plane.
  have hy : (0 : ℤ) + im.width * im.height - im.width = im.Y.row (im.height - 1) := by
    simp only [I420.Y, Plane.row]
    push_cast [show 1 ≤ im.height by omega]
    ring
  have hu : im.V.base - im.width / 2 = im.U.row (im.height / 2 - 1) := by
    simp only [I420.U, I420.V, Plane.row]
    push_cast [show 1 ≤ im.height / 2 by omega]
    ring
  have hv : im.U.row (im.height / 2 - 1) + im.width / 2 * (im.height / 2) =
      im.V.row (im.height / 2 - 1) := by
    simp only [I420.U, I420.V, Plane.row]
    push_cast [show 1 ≤ im.height / 2 by omega]
    ring
  have hbase : (0 : ℤ) + im.width * im.height = im.U.base := zero_add _
  have hbase' : im.U.base + im.width / 2 * (im.height / 2) = im.V.base := rfl
  have hloop := writeLoop_eq count hh ((im.height + 15) / 16) 0 (Nat.zero_add _).symm
  simp only [Nat.zero_add] at hloop
  simp only [SwEncoder.encodeBuffer, hfree, tdiv_two]
  rw [hy, hbase, hbase', hu, hv, ← hloop]
  simp only [RowPointers.call, Nat.mul_zero, Plane.row_zero]
  rfl

/-! ## Every row once -/

/-- Calls of `jpeg_write_raw_data` that hand over an image: as many as there are groups of 16 rows,
each with its rows, so that every row of a plane is passed once and in order, and after that copies
of the last one. -/
structure EncodesImage (im : I420) (calls : List Rows) : Prop where
  length_eq : calls.length = (im.height + 15) / 16
  rows : ∀ k (hk : k < calls.length), calls[k] = callRows im k
  y_order : calls.flatMap Rows.y_rows = (List.range im.height).map im.Y.row ++
    List.replicate (16 * calls.length - im.height) (im.Y.row (im.height - 1))
  u_order : calls.flatMap Rows.u_rows = (List.range (im.height / 2)).map im.U.row ++
    List.replicate (8 * calls.length - im.height / 2) (im.U.row (im.height / 2 - 1))
  v_order : calls.flatMap Rows.v_rows = (List.range (im.height / 2)).map im.V.row ++
    List.replicate (8 * calls.length - im.height / 2) (im.V.row (im.height / 2 - 1))
  inPlanes : ∀ rows ∈ calls, InPlanes im rows

/-- The groups of `m` rows that `n` calls clamp, when they reach the end of the plane. -/
theorem flatMap_clampedRow (p : Plane) (m n : ℕ) (hp : 0 < p.rows) (hn : p.rows ≤ m * n) :
    ((List.range n).flatMap fun k => (List.range m).map fun i => clampedRow p (m * k + i)) =
      (List.range p.rows).map p.row ++ List.replicate (m * n - p.rows) (p.row (p.rows - 1)) := by
  have hlast : p.rows - 1 + 1 = p.rows := Nat.sub_add_cancel hp
  calc ((List.range n).flatMap fun k => (List.range m).map fun i => clampedRow p (m * k + i))
      = (List.range (m * n)).map fun i => p.row (min i (p.rows - 1)) :=
        Plane.flatMap_map_range (clampedRow p) m n
    _ = _ := by rw [Plane.map_min_range p.row (p.rows - 1) (m * n) (by omega), hlast]

theorem isRow_clampedRow {p : Plane} (hp : 0 < p.rows) (i : ℕ) : p.IsRow (clampedRow p i) :=
  ⟨min i (p.rows - 1), by omega, rfl⟩

theorem encodesImage_callRows (h2 : 2 ≤ im.height) :
    EncodesImage im ((List.range ((im.height + 15) / 16)).map (callRows im)) where
  length_eq := by simp
  rows k hk := by simp
  y_order := by
    rw [List.flatMap_map, List.length_map, List.length_range]
    exact flatMap_clampedRow im.Y 16 _ (show 0 < im.height by omega)
      (show im.height ≤ 16 * ((im.height + 15) / 16) by omega)
  u_order := by
    rw [List.flatMap_map, List.length_map, List.length_range]
    exact flatMap_clampedRow im.U 8 _ (show 0 < im.height / 2 by omega)
      (show im.height / 2 ≤ 8 * ((im.height + 15) / 16) by omega)
  v_order := by
    rw [List.flatMap_map, List.length_map, List.length_range]
    exact flatMap_clampedRow im.V 8 _ (show 0 < im.height / 2 by omega)
      (show im.height / 2 ≤ 8 * ((im.height + 15) / 16) by omega)
  inPlanes rows hrows := by
    obtain ⟨k, -, rfl⟩ := List.mem_map.mp hrows
    have hhalf : 0 < im.height / 2 := by omega
    have hrow : ∀ {p : Plane} {f : ℕ → ℕ} {n : ℕ}, 0 < p.rows →
        ∀ a ∈ (List.range n).map fun i => clampedRow p (f i), p.IsRow a := by
      intro p f n hp a ha
      obtain ⟨i, -, rfl⟩ := List.mem_map.mp ha
      exact isRow_clampedRow hp (f i)
    exact ⟨hrow (show 0 < im.height by omega), hrow hhalf, hrow hhalf⟩

/-- `encodeBuffer` drops the frame when there is no buffer to encode to, and hands the whole image
to libjpeg otherwise. -/
theorem encodeBuffer_encodes (count : ℕ) (im : I420) (h2 : 2 ≤ im.height)
    (hh : im.height < 2 ^ 31) (e : SwEncoder) :
    (e.downstream_buffers = [] → e.encodeBuffer ⟨count, im.width, im.height⟩ = (e, [])) ∧
      (e.downstream_buffers ≠ [] →
        EncodesImage im (e.encodeBuffer ⟨count, im.width, im.height⟩).2) := by
  refine ⟨fun hnone => ?_, fun hfree => ?_⟩
  · simp [SwEncoder.encodeBuffer, hnone]
  · rw [encodeBuffer_calls count h2 hh hfree]
    exact encodesImage_callRows h2

/-- An image of 18 rows takes two calls, and most of the second one is padding. -/
theorem encodeBuffer_encodes_18 :
    EncodesImage ⟨2, 18⟩ (SwEncoder.encodeBuffer ⟨1, 2, 18⟩ ⟨[0], []⟩).2 :=
  (encodeBuffer_encodes 1 ⟨2, 18⟩ (by decide) (by decide) ⟨[0], []⟩).2 (by decide)

/-- The frame is dropped while the only buffer is still with a consumer. -/
theorem not_encodesImage_of_no_buffer :
    ¬ EncodesImage ⟨2, 2⟩ (SwEncoder.encodeBuffer ⟨1, 2, 2⟩ ⟨[], [0]⟩).2 := by
  intro h
  have hlength : (SwEncoder.encodeBuffer ⟨1, 2, 2⟩ ⟨[], [0]⟩).2.length = 1 := h.length_eq
  exact absurd hlength (by decide)

end AugmentedNormalcy.Encoder
