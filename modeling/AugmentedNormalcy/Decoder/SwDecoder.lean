import Mathlib.Data.Int.ModEq

/-!
# The software decoder

`SwDecoder` of `src/internal/infrastructure/decoder/sw_decoder.cpp`: the thread that runs `run` and
`decodeBuffer`, the queue of frames that `PostJpegBuffer` fills, the queue of output buffers, and
the output buffers that consumers hold.

libjpeg is a parameter. Each of its calls is a step of its own, with the outcome that the event
names: it returns, or it raises its error, which `error_exit` turns into the exception that `run`
catches. The consumers, `PostJpegBuffer`, `StartDecoder` and `StopDecoder` act between any two
steps. An output pointer is released when its last copy is; its deleter is
`queueDownstreamBuffer`. -/

namespace AugmentedNormalcy.Decoder

/-- What `DecoderConfig` configures; both sizes are `int`. -/
structure DecoderConfig where
  downstream_buffer_count : ℕ
  width : ℤ
  height : ℤ

/-- An `int` as the `unsigned int` that it is compared as. -/
def toUnsigned (z : ℤ) : ℕ := (z % 2 ^ 32).toNat

/-- A `DecoderBuffer *`, by the index of its buffer. -/
abbrev DecoderBuffer := ℕ

/-- The variables of the loop of `decodeBuffer`: the buffer, `cinfo.output_scanline`, and the places
of `Y`, `U` and `V` in the memory of the buffer. -/
structure Scan where
  buffer : DecoderBuffer
  output_scanline : ℕ
  Y : ℤ
  U : ℤ
  V : ℤ
deriving DecidableEq

/-- The rows that one call of `jpeg_read_raw_data` is given. -/
structure Rows where
  y_rows : List ℤ
  u_rows : List ℤ
  v_rows : List ℤ
deriving DecidableEq

/-- The loop variables before the first iteration. -/
def Scan.start (cfg : DecoderConfig) (buffer : DecoderBuffer) : Scan :=
  let stride2 := cfg.width.tdiv 2
  let U := cfg.width * cfg.height
  { buffer, output_scanline := 0, Y := 0, U, V := U + stride2 * cfg.height.tdiv 2 }

/-- The rows of an iteration. The two `for` loops also test `output_scanline`, which only
`jpeg_read_raw_data` changes, so inside the `while` loop they always fill 16 and 8 rows. -/
def Scan.rows (cfg : DecoderConfig) (s : Scan) : Rows :=
  let stride2 := cfg.width.tdiv 2
  { y_rows := (List.range 16).map fun i : ℕ => s.Y + i * cfg.width
    u_rows := (List.range 8).map fun i : ℕ => s.U + i * stride2
    v_rows := (List.range 8).map fun i : ℕ => s.V + i * stride2 }

/-- The loop variables after an iteration whose `jpeg_read_raw_data` returned `lines`. -/
def Scan.next (cfg : DecoderConfig) (s : Scan) (lines : ℕ) : Scan :=
  let stride2 := cfg.width.tdiv 2
  { s with
    output_scanline := s.output_scanline + lines
    Y := s.Y + 16 * cfg.width
    U := s.U + 8 * stride2
    V := s.V + 8 * stride2 }

/-- Where the thread is. -/
inductive Thread where
  /-- There is no thread, or `run` has returned. -/
  | stopped
  /-- `run` tests `_work_stop`, before `jpeg_create_decompress`. -/
  | starting
  /-- `run` tests `_work_stop` and waits for a frame. -/
  | waiting
  /-- `decodeBuffer` is in the loop, before `jpeg_read_raw_data`. -/
  | scanning (scan : Scan)
  /-- `decodeBuffer` is before `jpeg_finish_decompress`, with a buffer unless there was none. -/
  | finishing (buffer : Option DecoderBuffer)
deriving DecidableEq

/-- The buffer that `decodeBuffer` holds as a raw pointer. -/
def Thread.buffer? : Thread → Option DecoderBuffer
  | .scanning scan => some scan.buffer
  | .finishing buffer => buffer
  | _ => none

/-- Is a `decodeBuffer` call executing? -/
def Thread.isDecoding : Thread → Bool
  | .scanning _ | .finishing _ => true
  | _ => false

/-- The members of the class. A frame is named by a number, and `output_buffers` are the buffers of
the output pointers that are alive. -/
structure SwDecoder where
  work_stop : Bool
  work_queue : List ℕ
  thread : Thread
  downstream_buffers : List DecoderBuffer
  output_buffers : List DecoderBuffer
deriving DecidableEq

/-- How a call of libjpeg ends. -/
inductive Outcome (α : Type) where
  | returned (value : α)
  | raised
deriving DecidableEq

/-- A step of the thread, or of somebody else. -/
inductive Event where
  /-- `jpeg_create_decompress`. -/
  | create (outcome : Outcome Unit)
  /-- A frame is taken; `jpeg_mem_src`, `jpeg_read_header` and `jpeg_start_decompress`. -/
  | start (outcome : Outcome Unit)
  /-- `jpeg_read_raw_data`, and the number of lines that it returns. -/
  | read (outcome : Outcome ℕ)
  /-- `jpeg_finish_decompress`. -/
  | finish (outcome : Outcome Unit)
  /-- `run` finds `_work_stop` set and returns. -/
  | exit
  /-- The last copy of an output pointer is released. -/
  | release (buffer : DecoderBuffer)
  | postJpegBuffer (frame : ℕ)
  | startDecoder
  /-- `StopDecoder` sets `_work_stop`. -/
  | stopDecoder
  /-- `StopDecoder` has joined the thread. -/
  | joined
deriving DecidableEq

namespace SwDecoder

/-- The decoder as it is constructed, with `setupDownstreamBuffers` done. -/
def initial (cfg : DecoderConfig) : SwDecoder :=
  { work_stop := true
    work_queue := []
    thread := .stopped
    downstream_buffers := List.range cfg.downstream_buffer_count
    output_buffers := [] }

/-- The test of the `while` loop of `decodeBuffer`. -/
def loopTest (cfg : DecoderConfig) (scan : Scan) : Thread :=
  if scan.output_scanline < toUnsigned cfg.height then .scanning scan
  else .finishing (some scan.buffer)

theorem loopTest_of_lt {cfg : DecoderConfig} (scan : Scan)
    (h : scan.output_scanline < toUnsigned cfg.height) : loopTest cfg scan = .scanning scan :=
  if_pos h

/-- `decodeBuffer` after `jpeg_start_decompress`: takes a buffer from the queue, if there is one. -/
def takeBuffer (cfg : DecoderConfig) (d : SwDecoder) : SwDecoder :=
  match d.downstream_buffers with
  | [] => { d with thread := .finishing none }
  | buffer :: downstream_buffers =>
    { d with downstream_buffers, thread := loopTest cfg (.start cfg buffer) }

/-- `queueDownstreamBuffer`. -/
def queueDownstreamBuffer (d : SwDecoder) (buffer : DecoderBuffer) : SwDecoder :=
  { d with downstream_buffers := d.downstream_buffers ++ [buffer] }

/-- The end of `decodeBuffer`: the buffer is wrapped and sent. -/
def sendBuffer (d : SwDecoder) (buffer : DecoderBuffer) : SwDecoder :=
  { d with output_buffers := d.output_buffers ++ [buffer] }

/-- One step. -/
def step (cfg : DecoderConfig) (d : SwDecoder) : Event → Option SwDecoder
  | .create outcome =>
    if d.thread = .starting ∧ d.work_stop = false then
      match outcome with
      | .returned _ => some { d with thread := .waiting }
      | .raised => some d
    else none
  | .start outcome =>
    match d.thread, d.work_queue with
    | .waiting, _ :: work_queue =>
      if d.work_stop then none
      else
        match outcome with
        | .returned _ => some (takeBuffer cfg { d with work_queue })
        | .raised => some { d with work_queue, thread := .starting }
    | _, _ => none
  | .read outcome =>
    match d.thread with
    | .scanning scan =>
      match outcome with
      | .returned lines => some { d with thread := loopTest cfg (scan.next cfg lines) }
      | .raised => some { d with thread := .starting }
    | _ => none
  | .finish outcome =>
    match d.thread with
    | .finishing buffer =>
      match outcome with
      | .returned _ =>
        match buffer with
        | some buffer => some { d.sendBuffer buffer with thread := .waiting }
        | none => some { d with thread := .waiting }
      | .raised => some { d with thread := .starting }
    | _ => none
  | .exit =>
    if d.work_stop ∧ (d.thread = .starting ∨ d.thread = .waiting) then
      some { d with thread := .stopped }
    else none
  | .release buffer =>
    if buffer ∈ d.output_buffers then
      some (queueDownstreamBuffer { d with output_buffers := d.output_buffers.erase buffer } buffer)
    else none
  | .postJpegBuffer frame =>
    if d.work_stop then some d else some { d with work_queue := d.work_queue ++ [frame] }
  | .startDecoder =>
    if d.work_stop then
      if d.thread = .stopped then some { d with work_stop := false, thread := .starting } else none
    else some d
  | .stopDecoder => some { d with work_stop := true }
  | .joined =>
    if d.work_stop ∧ d.thread = .stopped then some { d with work_queue := [] } else none

/-- What each step finds, and what it leaves. -/
inductive Step (cfg : DecoderConfig) (d : SwDecoder) : Event → SwDecoder → Prop
  | created (hthread : d.thread = .starting) :
    Step cfg d (.create (.returned ())) { d with thread := .waiting }
  | createRaised (hthread : d.thread = .starting) : Step cfg d (.create .raised) d
  | started {frame : ℕ} {work_queue : List ℕ} (hthread : d.thread = .waiting)
      (hqueue : d.work_queue = frame :: work_queue) :
    Step cfg d (.start (.returned ())) (takeBuffer cfg { d with work_queue })
  | startRaised {frame : ℕ} {work_queue : List ℕ} (hthread : d.thread = .waiting)
      (hqueue : d.work_queue = frame :: work_queue) :
    Step cfg d (.start .raised) { d with work_queue, thread := .starting }
  | read {scan : Scan} (lines : ℕ) (hthread : d.thread = .scanning scan) :
    Step cfg d (.read (.returned lines)) { d with thread := loopTest cfg (scan.next cfg lines) }
  | readRaised {scan : Scan} (hthread : d.thread = .scanning scan) :
    Step cfg d (.read .raised) { d with thread := .starting }
  | sent {buffer : DecoderBuffer} (hthread : d.thread = .finishing (some buffer)) :
    Step cfg d (.finish (.returned ())) { d.sendBuffer buffer with thread := .waiting }
  | skipped (hthread : d.thread = .finishing none) :
    Step cfg d (.finish (.returned ())) { d with thread := .waiting }
  | finishRaised {buffer : Option DecoderBuffer} (hthread : d.thread = .finishing buffer) :
    Step cfg d (.finish .raised) { d with thread := .starting }
  | exit (hthread : d.thread = .starting ∨ d.thread = .waiting) :
    Step cfg d .exit { d with thread := .stopped }
  | release {buffer : DecoderBuffer} (hmem : buffer ∈ d.output_buffers) :
    Step cfg d (.release buffer)
      (queueDownstreamBuffer { d with output_buffers := d.output_buffers.erase buffer } buffer)
  | postJpegBuffer (frame : ℕ) (work_queue : List ℕ) :
    Step cfg d (.postJpegBuffer frame) { d with work_queue }
  | startDecoder (hthread : d.thread = .stopped) :
    Step cfg d .startDecoder { d with work_stop := false, thread := .starting }
  | startDecoderAgain : Step cfg d .startDecoder d
  | stopDecoder : Step cfg d .stopDecoder { d with work_stop := true }
  | joined (hthread : d.thread = .stopped) : Step cfg d .joined { d with work_queue := [] }

theorem Step.of_step {cfg : DecoderConfig} {d d' : SwDecoder} {e : Event}
    (hs : step cfg d e = some d') : Step cfg d e d' := by
  cases e with
  | create outcome =>
    obtain ⟨⟨hthread, -⟩, hs⟩ := Option.ite_none_right_eq_some.mp hs
    cases outcome with
    | returned _ =>
      cases hs
      exact .created hthread
    | raised =>
      cases hs
      exact .createRaised hthread
  | start outcome =>
    simp only [step] at hs
    split at hs
    · rename_i hthread hqueue
      split_ifs at hs
      cases outcome with
      | returned _ =>
        cases hs
        exact .started hthread hqueue
      | raised =>
        cases hs
        exact .startRaised hthread hqueue
    · cases hs
  | read outcome =>
    simp only [step] at hs
    split at hs
    · rename_i hthread
      cases outcome with
      | returned lines =>
        cases hs
        exact .read lines hthread
      | raised =>
        cases hs
        exact .readRaised hthread
    · cases hs
  | finish outcome =>
    simp only [step] at hs
    split at hs
    · rename_i buffer hthread
      cases outcome with
      | returned _ =>
        cases buffer with
        | none =>
          cases hs
          exact .skipped hthread
        | some buffer =>
          cases hs
          exact .sent hthread
      | raised =>
        cases hs
        exact .finishRaised hthread
    · cases hs
  | exit =>
    obtain ⟨⟨-, hthread⟩, ⟨⟩⟩ := Option.ite_none_right_eq_some.mp hs
    exact .exit hthread
  | release =>
    obtain ⟨hmem, ⟨⟩⟩ := Option.ite_none_right_eq_some.mp hs
    exact .release hmem
  | postJpegBuffer frame =>
    simp only [step] at hs
    split_ifs at hs
    · cases hs
      exact .postJpegBuffer frame d.work_queue
    · cases hs
      exact .postJpegBuffer frame _
  | startDecoder =>
    simp only [step] at hs
    split_ifs at hs with hstop hthread
    · cases hs
      exact .startDecoder hthread
    · cases hs
      exact .startDecoderAgain
  | stopDecoder =>
    cases hs
    exact .stopDecoder
  | joined =>
    obtain ⟨⟨-, hthread⟩, ⟨⟩⟩ := Option.ite_none_right_eq_some.mp hs
    exact .joined hthread

end SwDecoder

end AugmentedNormalcy.Decoder
