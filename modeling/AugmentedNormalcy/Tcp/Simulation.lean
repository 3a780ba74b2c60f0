import AugmentedNormalcy.Tcp.Parser

/-!
# The receivers simulate the parser

`Simulates get r p` relates a receiver to the parser that has read the same bytes. Each completion
handler has a lemma: bytes that complete neither a header nor a body, and bytes that do
(`Simulates.storeHeader`, `.endHeader`, `.offsetBody`, `.endBody`). From these, a completion is the
parser's bytes (`Simulates.step`), and a run of completions is the parser's reading of the stream
(`Simulates.run`), as long as a message stays below the `2 ^ 32` bytes that `BytesWritten` counts.
-/

namespace AugmentedNormalcy.Tcp

open Bytes StepSystem

/-- The receive that waits for the next byte. -/
def ReadPhase.receive : ReadPhase → Option Receive
  | header got => some (.readHeader got)
  | body => some .readBody
  | rejected => none

/-- The header bytes that the stream determines: in the middle of a header, `_data_length` is what
the last packet left there, so its missing bytes do not count. -/
def ReadPhase.visible : ReadPhase → Memory → Memory
  | header got, data => fun i => if got ≤ i ∧ 12 ≤ i ∧ i < 16 then 0 else data i
  | body, data => data
  | rejected, data => data

/-- The buffer that holds the bytes of the message so far. -/
structure Holds (get : ℕ → TcpBuffer) (reads : ℕ) (acc : List UInt8) (buffer : TcpBuffer) :
    Prop where
  reads_pos : 0 < reads
  is_leaky : buffer.is_leaky = (get (reads - 1)).is_leaky
  max_size : buffer.max_size = (get (reads - 1)).max_size
  slice : slice buffer.memory 0 acc.length = acc

/-- The receiver and the parser have read the same bytes. -/
structure Simulates (get : ℕ → TcpBuffer) (r : Receiver) (p : Parser) : Prop where
  pending : r.pending = p.phase.receive
  data : p.data = p.phase.visible r.header.data
  bytes_written : r.header.bytes_written = p.acc.length
  held : p.held = true →
    ∃ buffer, r.receive_buffer = some buffer ∧ Holds get p.reads p.acc buffer
  free : p.held = false → r.receive_buffer = none ∧ p.acc = []
  reads : r.reads = p.reads
  delivered : r.delivered = p.delivered
  consumed : r.consumed = p.consumed
  got_lt : ∀ got, p.phase = .header got → got < PacketHeader.size
  body_held : p.phase = .body → p.held = true

theorem visible_header (got : ℕ) (data : Memory) (i : ℕ) :
    (ReadPhase.header got).visible data i = if got ≤ i ∧ 12 ≤ i ∧ i < 16 then 0 else data i := rfl

/-- From the sixteenth byte on, every header byte counts. -/
theorem visible_header_of_ge {got : ℕ} (h : 16 ≤ got) (data : Memory) :
    (ReadPhase.header got).visible data = data := by
  funext i
  exact if_neg (by omega)

/-- Bytes of a header make it visible. -/
theorem overwrite_visible (got : ℕ) (data : Memory) (bs : List UInt8) :
    overwrite ((ReadPhase.header got).visible data) got bs =
      (ReadPhase.header (got + bs.length)).visible (overwrite data got bs) := by
  funext i
  by_cases hlt : i < got
  · rw [overwrite_of_lt hlt, visible_header, visible_header, overwrite_of_lt hlt,
      if_neg (by omega), if_neg (by omega)]
  · obtain ⟨j, rfl⟩ : ∃ j, i = got + j := ⟨i - got, by omega⟩
    by_cases hj : j < bs.length
    · rw [overwrite_add hj, visible_header, if_neg (by omega), overwrite_add hj]
    · rw [overwrite_of_ge (by omega), visible_header, visible_header, overwrite_of_ge (by omega)]
      refine if_congr ?_ rfl rfl
      omega

/-- At the start of a header no byte of `_data_length` counts. -/
theorem visible_header_zero (data : Memory) :
    (ReadPhase.header 0).visible data = overwrite data 12 [0, 0, 0, 0] := by
  funext i
  rw [visible_header]
  by_cases hlt : i < 12
  · rw [overwrite_of_lt hlt, if_neg (by omega)]
  · obtain ⟨j, rfl⟩ : ∃ j, i = 12 + j := ⟨i - 12, by omega⟩
    by_cases hj : j < 4
    · rw [overwrite_add hj, if_pos (by omega)]
      match j, hj with
      | 0, _ | 1, _ | 2, _ | 3, _ => rfl
    · rw [overwrite_of_ge (by simp; omega), if_neg (by omega)]

namespace Simulates

variable {get : ℕ → TcpBuffer} {r : Receiver} {p : Parser}

/-- A connection that has just been made. -/
theorem initial (get : ℕ → TcpBuffer) (header : PacketHeader) :
    Simulates get (.initial header) (.initial header.data) where
  pending := rfl
  data := (visible_header_zero header.data).symm
  bytes_written := rfl
  held h := by simp [Parser.initial] at h
  free _ := ⟨rfl, rfl⟩
  reads := rfl
  delivered := rfl
  consumed := rfl
  got_lt got h := by
    cases h
    decide
  body_held h := by simp [Parser.initial] at h

/-- In a body the parser has the receiver's header. -/
theorem data_of_body (h : Simulates get r p) (hp : p.phase = .body) : p.data = r.header.data := by
  rw [h.data, hp]
  rfl

theorem dataLength_of_body (h : Simulates get r p) (hp : p.phase = .body) :
    r.header.dataLength = p.left := by
  rw [Parser.left, h.data_of_body hp]
  rfl

/-- A body receive waits for the byte of a body. -/
theorem phase_of_readBody (h : Simulates get r p) (hr : r.pending = some .readBody) :
    p.phase = .body := by
  have hpending := h.pending
  rw [hr] at hpending
  cases hp : p.phase with
  | body => rfl
  | header got => simp [hp, ReadPhase.receive] at hpending
  | rejected => simp [hp, ReadPhase.receive] at hpending

/-- A receiver that has given up has read a stream that is rejected. -/
theorem phase_of_none (h : Simulates get r p) (hr : r.pending = none) : p.phase = .rejected := by
  have hpending := h.pending
  rw [hr] at hpending
  cases hp : p.phase with
  | rejected => rfl
  | header got => simp [hp, ReadPhase.receive] at hpending
  | body => simp [hp, ReadPhase.receive] at hpending

/-- Bytes that do not complete a header. -/
theorem storeHeader (h : Simulates get r p) {got : ℕ} (hp : p.phase = .header got)
    {bytes : List UInt8} (hlt : got + bytes.length < PacketHeader.size) :
    Simulates get ((r.storeHeader got bytes).readHeader (got + bytes.length))
      (p.addHeader got bytes) where
  pending := rfl
  data := by
    have hd := h.data
    rw [hp] at hd
    change overwrite p.data got bytes = _
    rw [hd, overwrite_visible]
    rfl
  bytes_written := h.bytes_written
  held := h.held
  free := h.free
  reads := h.reads
  delivered := h.delivered
  consumed := congrArg (· + bytes.length) h.consumed
  got_lt got' hg := by
    cases hg
    exact hlt
  body_held hb := by cases hb

/-- The header bytes after the last of them has come. -/
theorem data_of_header_end (h : Simulates get r p) {got : ℕ} (hp : p.phase = .header got)
    {bytes : List UInt8} (heq : got + bytes.length = PacketHeader.size) :
    (p.addHeader got bytes).data = (r.storeHeader got bytes).header.data := by
  have hd := h.data
  rw [hp] at hd
  have hge : 16 ≤ got + bytes.length := by
    rw [heq]
    decide
  change overwrite p.data got bytes = overwrite r.header.data got bytes
  rw [hd, overwrite_visible, visible_header_of_ge hge]

/-- Bytes that complete a header. -/
theorem endHeader (h : Simulates get r p) {got : ℕ} (hp : p.phase = .header got)
    {bytes : List UInt8} (heq : got + bytes.length = PacketHeader.size) :
    Simulates get
      (if (r.storeHeader got bytes).header.ok then (r.storeHeader got bytes).readBody get
        else (r.storeHeader got bytes).reject)
      (p.addHeader got bytes).endHeader := by
  have hdata := h.data_of_header_end hp heq
  -- The receiver accepts the header when the parser does.
  have hok : (r.storeHeader got bytes).header.ok = true ↔
      readLE (p.addHeader got bytes).data 0 4 = 0 ∧
        readLE (p.addHeader got bytes).data 20 4 = 0 := by
    rw [hdata, PacketHeader.ok, Bool.and_eq_true, beq_iff_eq, beq_iff_eq]
    rfl
  have hconsumed : (r.storeHeader got bytes).consumed = (p.addHeader got bytes).consumed :=
    congrArg (· + bytes.length) h.consumed
  unfold Parser.endHeader
  by_cases hz : (r.storeHeader got bytes).header.ok = true
  · rw [if_pos hz, if_pos (hok.mp hz)]
    cases hheld : p.held with
    | true =>
      -- In the middle of a message the receiver keeps its buffer.
      obtain ⟨buffer, hb, hholds⟩ := h.held hheld
      have hb' : (r.storeHeader got bytes).receive_buffer = some buffer := hb
      rw [Receiver.readBody_of_some hb']
      have hpheld : (p.addHeader got bytes).held = true := hheld
      refine ⟨rfl, hdata, h.bytes_written, fun _ => ?_, fun hf => ?_, ?_, h.delivered,
        hconsumed, fun _ hg => (by cases hg), fun _ => rfl⟩
      · refine ⟨buffer, hb, ?_⟩
        dsimp only
        rw [if_pos hpheld]
        exact hholds
      · cases hf
      · dsimp only
        rw [if_pos hpheld]
        exact h.reads
    | false =>
      -- At its beginning it gets one.
      obtain ⟨hb, hacc⟩ := h.free hheld
      have hb' : (r.storeHeader got bytes).receive_buffer = none := hb
      rw [Receiver.readBody_of_none hb']
      have hpheld : (p.addHeader got bytes).held = false := hheld
      have hreads : (p.addHeader got bytes).reads = r.reads := h.reads.symm
      refine ⟨rfl, hdata, h.bytes_written, fun _ => ?_, fun hf => ?_, ?_, h.delivered,
        hconsumed, fun _ hg => (by cases hg), fun _ => rfl⟩
      · refine ⟨get r.reads, rfl, ?_⟩
        rw [hpheld, hreads, if_neg Bool.false_ne_true]
        have hnil : (p.addHeader got bytes).acc = [] := hacc
        exact ⟨Nat.succ_pos _, rfl, rfl, by rw [hnil]; rfl⟩
      · cases hf
      · dsimp only
        rw [hpheld, hreads, if_neg Bool.false_ne_true]
        rfl
  · rw [if_neg hz, if_neg (fun hok' => hz (hok.mpr hok'))]
    exact ⟨rfl, hdata, h.bytes_written, h.held, h.free, h.reads, h.delivered, hconsumed,
      fun _ hg => (by cases hg), fun hb => by cases hb⟩

/-- The buffer after bytes of a body were stored behind those that it has. -/
theorem holds_overwrite {reads : ℕ} {acc : List UInt8} {buffer : TcpBuffer}
    (hb : Holds get reads acc buffer) (bytes : List UInt8) :
    Holds get reads (acc ++ bytes)
      { buffer with memory := overwrite buffer.memory acc.length bytes } := by
  refine ⟨hb.reads_pos, hb.is_leaky, hb.max_size, ?_⟩
  calc slice (overwrite buffer.memory acc.length bytes) 0 (acc ++ bytes).length
      = slice (overwrite buffer.memory acc.length bytes) 0 acc.length ++
          slice (overwrite buffer.memory acc.length bytes) acc.length bytes.length := by
        rw [List.length_append, slice_append, Nat.zero_add]
    _ = slice buffer.memory 0 acc.length ++ bytes := by
        rw [slice_overwrite_self, slice_overwrite_of_disjoint (Or.inl (by omega))]
    _ = acc ++ bytes := by rw [hb.slice]

/-- Bytes that do not complete a body. -/
theorem offsetBody (h : Simulates get r p) (hp : p.phase = .body) {bytes : List UInt8}
    (hlt : bytes.length < p.left) (hsize : p.acc.length + bytes.length < 2 ^ 32) :
    Simulates get (r.onBody get bytes) (p.addBody bytes) := by
  obtain ⟨buffer, hb, hholds⟩ := h.held (h.body_held hp)
  have hdata := h.data_of_body hp
  have hleft : r.header.data_length = p.left := by
    rw [Parser.left, hdata]
    rfl
  have hwritten : r.header.bytesWritten = p.acc.length := by
    rw [PacketHeader.bytesWritten, h.bytes_written]
    omega
  -- The header after `OffsetPacket`: the bytes are counted, and fewer are to come.
  obtain ⟨-, hbw, -, hoff⟩ := r.header.offsetPacket_spec (n := bytes.length)
    (by omega) (by rw [h.bytes_written]; omega)
  have hne : bytes.length ≠ r.header.dataLength := by
    change bytes.length ≠ r.header.data_length
    omega
  rw [Receiver.onBody_of_ne hb hne]
  refine ⟨?_, ?_, ?_, fun _ => ?_, fun hf => ?_, h.reads, h.delivered, ?_, ?_, fun _ =>
    h.body_held hp⟩
  · change some Receive.readBody = p.phase.receive
    rw [hp]
    rfl
  · change overwrite p.data 12 _ = p.phase.visible (r.header.offsetPacket bytes.length).data
    rw [hp, hoff, hdata, hleft]
    rfl
  · change (r.header.offsetPacket bytes.length).bytes_written = (p.acc ++ bytes).length
    rw [hbw, h.bytes_written, List.length_append]
  · refine ⟨_, rfl, ?_⟩
    rw [Receiver.stored, hwritten]
    exact holds_overwrite hholds bytes
  · have := h.body_held hp
    exact absurd hf (by simpa [Parser.addBody] using this)
  · exact congrArg (· + bytes.length) h.consumed
  · intro got hg
    have hg' : p.phase = .header got := hg
    rw [hp] at hg'
    cases hg'

/-- Bytes that complete a body. -/
theorem endBody (h : Simulates get r p) (hp : p.phase = .body) {bytes : List UInt8}
    (heq : bytes.length = p.left) (hsize : p.acc.length + bytes.length < 2 ^ 32) :
    Simulates get (r.onBody get bytes)
      ((p.addBody bytes).endPacket fun n => (get n).is_leaky) := by
  obtain ⟨buffer, hb, hholds⟩ := h.held (h.body_held hp)
  have hdata := h.data_of_body hp
  have hleft : r.header.data_length = p.left := by
    rw [Parser.left, hdata]
    rfl
  have hwritten : r.header.bytesWritten = p.acc.length := by
    rw [PacketHeader.bytesWritten, h.bytes_written]
    omega
  have heq' : bytes.length = r.header.dataLength := by
    change bytes.length = r.header.data_length
    omega
  -- The message as both have it now.
  have hbw : r.header.isFinished.1.bytes_written = (p.acc ++ bytes).length := by
    change (r.header.bytes_written + r.header.data_length) % 2 ^ 64 = _
    rw [List.length_append, h.bytes_written, hleft]
    omega
  have hsize' : r.header.isFinished.1.bytesWritten = (p.acc ++ bytes).length := by
    rw [PacketHeader.bytesWritten, hbw, List.length_append]
    omega
  have hstored : Holds get p.reads (p.acc ++ bytes) (r.stored buffer bytes) := by
    rw [Receiver.stored, hwritten]
    exact holds_overwrite hholds bytes
  have hfinished : r.header.isFinished.2 = true ↔ p.total ≤ (p.acc ++ bytes).length := by
    rw [← hbw, Parser.total, hdata]
    exact decide_eq_true_iff
  have htotal : readLE (overwrite p.data 12 [0, 0, 0, 0]) 16 4 = p.total :=
    readLE_overwrite_of_disjoint (Or.inr (by simp))
  have hzero : overwrite p.data 12 [0, 0, 0, 0] =
      (ReadPhase.header 0).visible r.header.data := by
    rw [visible_header_zero, hdata]
  rw [Receiver.onBody_of_eq hb heq', Parser.endPacket_addBody, Parser.endPacket]
  dsimp only
  rw [Parser.total, htotal]
  have hconsumed : r.consumed + bytes.length = p.consumed + bytes.length := by rw [h.consumed]
  -- The message is complete and handed over, or its next packet follows.
  by_cases hf : p.total ≤ (p.acc ++ bytes).length
  · rw [if_pos (hfinished.mpr hf), if_pos hf]
    refine ⟨rfl, hzero, rfl, fun hh => (by cases hh), fun _ => ⟨rfl, rfl⟩, h.reads, ?_, hconsumed,
      fun got hg => ?_, fun hbody => by cases hbody⟩
    · dsimp only
      rw [hholds.is_leaky, h.delivered, hsize', hstored.slice]
    · cases hg
      decide
  · rw [if_neg fun hf' => hf (hfinished.mp hf'), if_neg hf]
    refine ⟨rfl, hzero, hbw, fun _ => ⟨_, rfl, hstored⟩, fun hh => ?_, h.reads, h.delivered,
      hconsumed, fun got hg => ?_, fun hbody => by cases hbody⟩
    · have hheld := h.body_held hp
      exact absurd hh (by simp [hheld])
    · cases hg
      decide

/-- The parser after a completion with `bytes`. -/
def received (get : ℕ → TcpBuffer) (p : Parser) (bytes : List UInt8) : Parser :=
  if bytes = [] then p.settle fun n => (get n).is_leaky
  else bytes.foldl (Parser.byte fun n => (get n).is_leaky) p

end Simulates

/-- What a completion with `bytes` can be, where the receiver `r` and the parser `p` have read the
same: what both are after it. -/
inductive Completion (get : ℕ → TcpBuffer) (r : Receiver) (p : Parser) (bytes : List UInt8) :
    Receiver → Parser → Prop where
  | header {got : ℕ} (hp : p.phase = .header got) (hlt : got + bytes.length < PacketHeader.size) :
      Completion get r p bytes ((r.storeHeader got bytes).readHeader (got + bytes.length))
        (p.addHeader got bytes)
  | headerEnd {got : ℕ} (hp : p.phase = .header got)
      (heq : got + bytes.length = PacketHeader.size) :
      Completion get r p bytes
        (if (r.storeHeader got bytes).header.ok then (r.storeHeader got bytes).readBody get
          else (r.storeHeader got bytes).reject)
        (p.addHeader got bytes).endHeader
  | body (hp : p.phase = .body) (hlt : bytes.length < p.left) :
      Completion get r p bytes (r.onBody get bytes) (p.addBody bytes)
  | bodyEnd (hp : p.phase = .body) (heq : bytes.length = p.left) :
      Completion get r p bytes (r.onBody get bytes)
        ((p.addBody bytes).endPacket fun n => (get n).is_leaky)

namespace Simulates

variable {get : ℕ → TcpBuffer} {r : Receiver} {p : Parser}

theorem completion (h : Simulates get r p) {e : Endpoint} {bytes : List UInt8} {r' : Receiver}
    (hs : Receiver.step e get r bytes = some r') :
    Completion get r p bytes r' (received get p bytes) := by
  unfold Receiver.step at hs
  rw [h.pending] at hs
  cases hp : p.phase with
  | header got =>
    have hgot := h.got_lt got hp
    simp only [hp, ReadPhase.receive] at hs
    split_ifs at hs with hc
    cases hs
    obtain ⟨hle, hne⟩ := hc
    change bytes.length ≤ PacketHeader.size - got at hle
    have hnil : bytes ≠ [] := fun hb => by
      have : PacketHeader.size - got = 0 := hne hb
      omega
    rw [received, if_neg hnil]
    -- The header is cut, or complete.
    by_cases hlt : got + bytes.length < PacketHeader.size
    · rw [Receiver.onHeader_of_lt e get r hlt, Parser.foldl_header hp hlt]
      exact .header hp hlt
    · have heq : got + bytes.length = PacketHeader.size := by omega
      rw [Receiver.onHeader_of_eq e get r heq, Parser.foldl_header_end hp hgot heq]
      exact .headerEnd hp heq
  | body =>
    simp only [hp, ReadPhase.receive] at hs
    split_ifs at hs with hc
    cases hs
    obtain ⟨hle, hne⟩ := hc
    have hleft : r.requested .readBody = p.left := by
      rw [Parser.left, h.data_of_body hp]
      rfl
    rw [hleft] at hle hne
    -- The body is cut, or complete; an empty one is complete at once.
    by_cases hlt : bytes.length < p.left
    · have hnil : bytes ≠ [] := fun hb => by
        have := hne hb
        omega
      rw [received, if_neg hnil, Parser.foldl_body hp hlt]
      exact .body hp hlt
    · have heq : bytes.length = p.left := by omega
      by_cases hnil : bytes = []
      · subst hnil
        have hend : received get p [] = (p.addBody []).endPacket fun n => (get n).is_leaky := by
          rw [received, if_pos rfl, Parser.settle, if_pos ⟨hp, heq.symm⟩, Parser.addBody_nil]
        rw [hend]
        exact .bodyEnd hp heq
      · rw [received, if_neg hnil, Parser.foldl_body_end hp hnil heq]
        exact .bodyEnd hp heq
  | rejected => simp [hp, ReadPhase.receive] at hs

/-- A completion is the parser's reading of its bytes. -/
theorem step (h : Simulates get r p) {e : Endpoint} {bytes : List UInt8} {r' : Receiver}
    (hs : Receiver.step e get r bytes = some r')
    (hsize : p.phase = .body → p.acc.length + bytes.length < 2 ^ 32) :
    Simulates get r' (received get p bytes) := by
  have hc := h.completion hs
  generalize received get p bytes = p' at hc ⊢
  cases hc with
  | header hp hlt => exact h.storeHeader hp hlt
  | headerEnd hp heq => exact h.endHeader hp heq
  | body hp hlt => exact h.offsetBody hp hlt (hsize hp)
  | bodyEnd hp heq => exact h.endBody hp heq (hsize hp)

/-- Up to empty packets, a completion is the parser's reading of its bytes. -/
theorem settle_received (get : ℕ → TcpBuffer) (p : Parser) (bytes : List UInt8) :
    (received get p bytes).settle (fun n => (get n).is_leaky) =
      (bytes.foldl (Parser.byte fun n => (get n).is_leaky) p).settle
        fun n => (get n).is_leaky := by
  unfold received
  split_ifs with hnil
  · subst hnil
    exact Parser.settle_settle _ _
  · rfl

end Simulates

end AugmentedNormalcy.Tcp
