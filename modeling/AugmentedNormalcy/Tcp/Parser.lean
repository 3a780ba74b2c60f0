import AugmentedNormalcy.Tcp.Receiver

/-!
# The stream, one byte at a time

`Parser` reads the packets of a stream byte by byte, with the body bytes of the message so far in a
list, and knows nothing of receives or of buffers. A receiver simulates it however the stream is cut
into completions (`Simulates.run`): a completion of several bytes is as many steps of the parser,
and a completion of no bytes is the parser's `settle`, which passes over a packet without body
bytes.

The header of a receiver in the middle of a header read still holds what the last packet left in the
bytes that have not arrived. All of these are split independent except `_data_length`, which counts
what the last receive of a body asked for; the parser reads zero there (`visible`).
-/

namespace AugmentedNormalcy.Tcp

open Bytes StepSystem

/-- What the next byte belongs to. -/
inductive ReadPhase where
  | header (got : ℕ)
  | body
  | rejected
deriving DecidableEq, Repr

structure Parser where
  phase : ReadPhase
  data : Memory
  /-- The body bytes of the message so far. -/
  acc : List UInt8
  /-- The message has begun to be read into a buffer. -/
  held : Bool
  /-- How many messages have begun to be read into a buffer. -/
  reads : ℕ
  delivered : List (List UInt8)
  consumed : ℕ

namespace Parser

/-- How many bytes of the packet are missing. -/
def left (p : Parser) : ℕ := readLE p.data 12 4

/-- The size of the message, as the packet has it. -/
def total (p : Parser) : ℕ := readLE p.data 16 4

/-- The packet has been read: its message ends, or its next packet begins. -/
def endPacket (leaky : ℕ → Bool) (p : Parser) : Parser :=
  let p := { p with phase := .header 0, data := overwrite p.data 12 [0, 0, 0, 0] }
  if p.total ≤ p.acc.length then
    { p with
      acc := []
      held := false
      delivered := if leaky (p.reads - 1) then p.delivered else p.delivered ++ [p.acc] }
  else p

/-- Passes over a packet that has no body bytes. -/
def settle (leaky : ℕ → Bool) (p : Parser) : Parser :=
  if p.phase = .body ∧ p.left = 0 then p.endPacket leaky else p

/-- A header is complete. -/
def endHeader (p : Parser) : Parser :=
  if readLE p.data 0 4 = 0 ∧ readLE p.data 20 4 = 0 then
    { p with phase := .body, held := true, reads := if p.held then p.reads else p.reads + 1 }
  else { p with phase := .rejected }

/-- The parser after bytes of a header, `got` of which were there before. -/
def addHeader (p : Parser) (got : ℕ) (bs : List UInt8) : Parser :=
  { p with
    phase := .header (got + bs.length)
    data := overwrite p.data got bs
    consumed := p.consumed + bs.length }

/-- The parser after bytes of a body. -/
def addBody (p : Parser) (bs : List UInt8) : Parser :=
  { p with
    data := overwrite p.data 12 (leBytes 4 (p.left - bs.length))
    acc := p.acc ++ bs
    consumed := p.consumed + bs.length }

/-- The next byte, when no empty packet is in the way. -/
def next (leaky : ℕ → Bool) (p : Parser) (b : UInt8) : Parser :=
  match p.phase with
  | .header got =>
    if got + 1 < PacketHeader.size then p.addHeader got [b] else (p.addHeader got [b]).endHeader
  | .body =>
    if (p.addBody [b]).left = 0 then (p.addBody [b]).endPacket leaky else p.addBody [b]
  | .rejected => p

/-- The next byte. -/
def byte (leaky : ℕ → Bool) (p : Parser) (b : UInt8) : Parser := (p.settle leaky).next leaky b

/-- The parser before the first byte, over a header that still holds `data`. -/
def initial (data : Memory) : Parser where
  phase := .header 0
  data := overwrite data 12 [0, 0, 0, 0]
  acc := []
  held := false
  reads := 0
  delivered := []
  consumed := 0

/-! ## Steps of several bytes -/

variable {leaky : ℕ → Bool} {p : Parser}

theorem endPacket_phase (leaky : ℕ → Bool) (p : Parser) :
    (p.endPacket leaky).phase = .header 0 := by
  unfold endPacket
  dsimp only
  split_ifs <;> rfl

theorem settle_of_left (h : p.phase = .body → p.left ≠ 0) : p.settle leaky = p :=
  if_neg fun hp => h hp.1 hp.2

@[simp]
theorem settle_settle (leaky : ℕ → Bool) (p : Parser) :
    (p.settle leaky).settle leaky = p.settle leaky := by
  by_cases h : p.phase = .body ∧ p.left = 0
  · refine settle_of_left fun hbody => ?_
    rw [settle, if_pos h, endPacket_phase] at hbody
    cases hbody
  · have hs : p.settle leaky = p := if_neg h
    rw [hs, hs]

@[simp]
theorem byte_settle (leaky : ℕ → Bool) (p : Parser) (b : UInt8) :
    (p.settle leaky).byte leaky b = p.byte leaky b := by
  rw [byte, settle_settle, byte]

/-- What has settled to the same state reads the same rest of the stream. -/
theorem settle_foldl_congr {q : Parser} (h : p.settle leaky = q.settle leaky) (S : List UInt8) :
    (S.foldl (byte leaky) p).settle leaky = (S.foldl (byte leaky) q).settle leaky := by
  cases S with
  | nil => exact h
  | cons b S => rw [List.foldl_cons, List.foldl_cons, byte, h, ← byte]

/-- A rejected stream is not read further. -/
theorem foldl_rejected (h : p.phase = .rejected) (S : List UInt8) :
    S.foldl (byte leaky) p = p := by
  induction S with
  | nil => rfl
  | cons b S ih =>
    have hsettle : p.settle leaky = p := settle_of_left (by simp [h])
    have hnext : p.byte leaky b = p := by
      rw [byte, hsettle, next, h]
    rw [List.foldl_cons, hnext, ih]

/-- Bytes of a header that arrive together are bytes that arrive one after the other. -/
theorem addHeader_addHeader (p : Parser) (got : ℕ) (as bs : List UInt8) :
    (p.addHeader got as).addHeader (got + as.length) bs = p.addHeader got (as ++ bs) := by
  simp only [addHeader, overwrite_append, List.length_append, Nat.add_assoc]

/-- Bytes that do not complete a header. -/
theorem foldl_header {got : ℕ} (h : p.phase = .header got) {bs : List UInt8}
    (hlt : got + bs.length < PacketHeader.size) :
    bs.foldl (byte leaky) p = p.addHeader got bs := by
  induction bs generalizing p got with
  | nil =>
    cases p
    cases h
    simp [addHeader]
  | cons b bs ih =>
    rw [List.length_cons] at hlt
    have hlt' : got + 1 < PacketHeader.size := by omega
    have hbyte : p.byte leaky b = p.addHeader got [b] := by
      rw [byte, settle_of_left (by simp [h]), next, h]
      exact if_pos hlt'
    have hphase : (p.addHeader got [b]).phase = .header (got + [b].length) := rfl
    calc (b :: bs).foldl (byte leaky) p = bs.foldl (byte leaky) (p.addHeader got [b]) := by
          rw [List.foldl_cons, hbyte]
      _ = (p.addHeader got [b]).addHeader (got + 1) bs := ih hphase (by omega)
      _ = p.addHeader got (b :: bs) := addHeader_addHeader p got [b] bs

/-- Bytes that complete a header. -/
theorem foldl_header_end {got : ℕ} (h : p.phase = .header got) (hgot : got < PacketHeader.size)
    {bs : List UInt8} (heq : got + bs.length = PacketHeader.size) :
    bs.foldl (byte leaky) p = (p.addHeader got bs).endHeader := by
  obtain ⟨init, b, rfl⟩ : ∃ init b, bs = init ++ [b] := by
    refine ⟨bs.dropLast, bs.getLast ?_, (List.dropLast_append_getLast _).symm⟩
    rintro rfl
    simp at heq
    omega
  rw [List.length_append, List.length_singleton] at heq
  have hphase : (p.addHeader got init).phase = .header (got + init.length) := rfl
  calc (init ++ [b]).foldl (byte leaky) p = (p.addHeader got init).byte leaky b := by
        rw [List.foldl_append, foldl_header h (by omega), List.foldl_cons, List.foldl_nil]
    _ = ((p.addHeader got init).addHeader (got + init.length) [b]).endHeader := by
        rw [byte, settle_of_left (by simp [hphase]), next, hphase]
        exact if_neg (by omega)
    _ = (p.addHeader got (init ++ [b])).endHeader := by rw [addHeader_addHeader]

theorem left_lt (p : Parser) : p.left < 2 ^ 32 := readLE_lt _ _ _

/-- Body bytes are no longer missing. -/
theorem left_addBody (p : Parser) (bs : List UInt8) :
    (p.addBody bs).left = p.left - bs.length := by
  have hlt := p.left_lt
  rw [left, addBody, readLE_overwrite_self]
  exact Nat.mod_eq_of_lt (by omega)

/-- Bytes of a body that arrive together are bytes that arrive one after the other. -/
theorem addBody_addBody (p : Parser) (as bs : List UInt8) :
    (p.addBody as).addBody bs = p.addBody (as ++ bs) := by
  rw [addBody, left_addBody, addBody, addBody]
  dsimp only
  rw [overwrite_overwrite _ _ (by simp), List.length_append, List.append_assoc, Nat.sub_sub,
    Nat.add_assoc]

@[simp]
theorem addBody_nil (p : Parser) : p.addBody [] = p := by
  simp [addBody, left, overwrite_readLE]

/-- Bytes that do not complete a body. -/
theorem foldl_body (h : p.phase = .body) {bs : List UInt8} (hlt : bs.length < p.left) :
    bs.foldl (byte leaky) p = p.addBody bs := by
  induction bs generalizing p with
  | nil => rw [List.foldl_nil, addBody_nil]
  | cons b bs ih =>
    rw [List.length_cons] at hlt
    have hleft := left_addBody p [b]
    rw [List.length_singleton] at hleft
    have hbyte : p.byte leaky b = p.addBody [b] := by
      rw [byte, settle_of_left (by omega), next, h]
      exact if_neg (by omega)
    have hphase : (p.addBody [b]).phase = .body := h
    calc (b :: bs).foldl (byte leaky) p = bs.foldl (byte leaky) (p.addBody [b]) := by
          rw [List.foldl_cons, hbyte]
      _ = (p.addBody [b]).addBody bs := ih hphase (by omega)
      _ = p.addBody (b :: bs) := addBody_addBody p [b] bs

/-- Bytes that complete a body. -/
theorem foldl_body_end (h : p.phase = .body) {bs : List UInt8} (hne : bs ≠ [])
    (heq : bs.length = p.left) :
    bs.foldl (byte leaky) p = (p.addBody bs).endPacket leaky := by
  obtain ⟨init, b, rfl⟩ : ∃ init b, bs = init ++ [b] :=
    ⟨bs.dropLast, bs.getLast hne, (List.dropLast_append_getLast hne).symm⟩
  rw [List.length_append, List.length_singleton] at heq
  have hphase : (p.addBody init).phase = .body := h
  have hinit := left_addBody p init
  have hlast : (p.addBody (init ++ [b])).left = 0 := by
    rw [left_addBody, List.length_append, List.length_singleton]
    omega
  calc (init ++ [b]).foldl (byte leaky) p = (p.addBody init).byte leaky b := by
        rw [List.foldl_append, foldl_body h (by omega), List.foldl_cons, List.foldl_nil]
    _ = if (p.addBody (init ++ [b])).left = 0 then (p.addBody (init ++ [b])).endPacket leaky
          else p.addBody (init ++ [b]) := by
        rw [byte, settle_of_left (by omega), next, hphase, ← addBody_addBody]
    _ = (p.addBody (init ++ [b])).endPacket leaky := if_pos hlast

/-- The end of a packet does not look at the count of missing bytes. -/
theorem endPacket_addBody (leaky : ℕ → Bool) (p : Parser) (bs : List UInt8) :
    (p.addBody bs).endPacket leaky = endPacket leaky { p with
      acc := p.acc ++ bs
      consumed := p.consumed + bs.length } := by
  unfold endPacket addBody
  rw [overwrite_overwrite _ _ (by simp)]

/-- Up to empty packets, bytes that complete a body end the packet, also when there are none. -/
theorem settle_foldl_body_end (h : p.phase = .body) {bs : List UInt8} (heq : bs.length = p.left) :
    (bs.foldl (byte leaky) p).settle leaky = ((p.addBody bs).endPacket leaky).settle leaky := by
  by_cases hnil : bs = []
  · have hleft : p.left = 0 := by
      rw [← heq, hnil]
      rfl
    have hend : p.settle leaky = p.endPacket leaky := if_pos ⟨h, hleft⟩
    rw [hnil, List.foldl_nil, addBody_nil, ← hend, settle_settle]
  · rw [foldl_body_end h hnil heq]

end Parser

end AugmentedNormalcy.Tcp
