import AugmentedNormalcy.Tcp.Simulation

/-!
# A receiver is a function of the stream

However a stream is cut into completions, and whichever of the two classes reads it, the receiver
ends as the parser does (`Reads.simulates`), so any two readings agree (`reads_agree`): on the
messages delivered, on the verdict and where it falls, on the byte counter and on the header. The
one trace that the cuts leave is in `_data_length` while the next header is being read: it still
holds what the last body receive asked for.
-/

namespace AugmentedNormalcy.Tcp

open Bytes StepSystem

/-! ## The parser's message never outgrows the stream -/

namespace Parser

theorem length_acc_settle (leaky : ℕ → Bool) (p : Parser) :
    (p.settle leaky).acc.length ≤ p.acc.length := by
  unfold settle endPacket
  dsimp only
  split_ifs <;> simp

theorem length_acc_byte (leaky : ℕ → Bool) (p : Parser) (b : UInt8) :
    (p.byte leaky b).acc.length ≤ p.acc.length + 1 := by
  refine le_trans ?_ (Nat.add_le_add_right (length_acc_settle leaky p) 1)
  rw [byte]
  generalize p.settle leaky = q
  unfold next
  split
  · unfold endHeader
    split_ifs <;> simp [addHeader]
  · unfold endPacket
    dsimp only
    split_ifs <;> simp [addBody]
  · omega

theorem length_acc_foldl (leaky : ℕ → Bool) (p : Parser) (bs : List UInt8) :
    (bs.foldl (byte leaky) p).acc.length ≤ p.acc.length + bs.length := by
  induction bs generalizing p with
  | nil => simp
  | cons b bs ih =>
    have hb := length_acc_byte leaky p b
    have := ih (p.byte leaky b)
    rw [List.foldl_cons, List.length_cons]
    omega

/-- A parser that rejects once it has settled has rejected before. -/
theorem eq_of_settle_rejected {leaky : ℕ → Bool} {p : Parser}
    (h : (p.settle leaky).phase = .rejected) : p.settle leaky = p := by
  refine settle_of_left fun hbody hleft => ?_
  rw [settle, if_pos ⟨hbody, hleft⟩, endPacket_phase] at h
  cases h

end Parser

/-! ## Runs of completions -/

namespace Simulates

variable {get : ℕ → TcpBuffer} {e : Endpoint}

theorem length_acc_received (get : ℕ → TcpBuffer) (p : Parser) (bytes : List UInt8) :
    (received get p bytes).acc.length ≤ p.acc.length + bytes.length := by
  unfold received
  split_ifs
  · exact le_trans (Parser.length_acc_settle _ p) (Nat.le_add_right _ _)
  · exact Parser.length_acc_foldl _ p bytes

/-- A run of completions is the parser's reading of all their bytes. -/
theorem run {chunks : List (List UInt8)} :
    ∀ {r r' : Receiver} {p : Parser}, Simulates get r p →
      StepSystem.run (Receiver.step e get) r chunks = some r' →
      p.acc.length + chunks.flatten.length < 2 ^ 32 →
      ∃ p', Simulates get r' p' ∧ p'.settle (fun n => (get n).is_leaky) =
        (chunks.flatten.foldl (Parser.byte fun n => (get n).is_leaky) p).settle
          fun n => (get n).is_leaky := by
  induction chunks with
  | nil =>
    intro r r' p h hrun _
    cases hrun
    exact ⟨p, h, rfl⟩
  | cons bytes chunks ih =>
    intro r r' p h hrun hsize
    obtain ⟨r₁, hstep, hrest⟩ := run_cons_eq_some.mp hrun
    rw [List.flatten_cons, List.length_append] at hsize
    have h₁ := h.step hstep fun _ => by omega
    have hacc := length_acc_received get p bytes
    obtain ⟨p', hp', hsettle⟩ := ih h₁ hrest (by omega)
    refine ⟨p', hp', ?_⟩
    rw [hsettle, List.flatten_cons, List.foldl_append]
    exact Parser.settle_foldl_congr (settle_received get p bytes) _

end Simulates

/-- A receiver that has read a stream is where the parser is after the stream. -/
theorem Receiver.Reads.simulates {e : Endpoint} {get : ℕ → TcpBuffer} {r r' : Receiver}
    {p : Parser} {S : List UInt8} (hr : r.Reads e get S r') (h : Simulates get r p)
    (hS : p.acc.length + S.length < 2 ^ 32) :
    Simulates get r' ((S.foldl (Parser.byte fun n => (get n).is_leaky) p).settle
      fun n => (get n).is_leaky) := by
  obtain ⟨chunks, rest, hrun, rfl, hend⟩ := hr
  rw [List.length_append] at hS
  obtain ⟨p', hp', hsettle⟩ := h.run hrun (by omega)
  rw [List.foldl_append]
  rcases hend with hnone | ⟨rfl, hsettled⟩
  · -- The stream was rejected: the rest of it is not read.
    have hphase := hp'.phase_of_none hnone
    have hfix : p'.settle (fun n => (get n).is_leaky) = p' :=
      Parser.settle_of_left (by simp [hphase])
    rw [hfix] at hsettle
    have hq := Parser.eq_of_settle_rejected (hsettle ▸ hphase)
    rw [hq] at hsettle
    rw [← hsettle, Parser.foldl_rejected hphase, hfix]
    exact hp'
  · have hfix : p'.settle (fun n => (get n).is_leaky) = p' := by
      refine Parser.settle_of_left fun hbody hleft => ?_
      have hpending := hp'.pending
      rw [hbody] at hpending
      refine hsettled hpending ?_
      rw [Parser.left, hp'.data_of_body hbody] at hleft
      exact hleft
    rw [hfix] at hsettle
    rw [List.foldl_nil, ← hsettle]
    exact hp'

/-! ## Every stream can be read -/

/-- The outstanding header receive asks for at least one byte. -/
def Receiver.InHeader (r : Receiver) : Prop :=
  ∀ got, r.pending = some (.readHeader got) → got < PacketHeader.size

theorem Receiver.InHeader.step {e : Endpoint} {get : ℕ → TcpBuffer} {r r' : Receiver}
    {bytes : List UInt8} (hr : r.InHeader) (hs : Receiver.step e get r bytes = some r') :
    r'.InHeader := by
  -- A body receive is none of a header, and a new header starts at 0.
  have hbody : ∀ q : Receiver, (q.readBody get).InHeader := by
    intro q got hg
    simp [Receiver.readBody] at hg
  have hzero : ∀ q : Receiver, (q.readHeader 0).InHeader := by
    intro q got hg
    cases hg
    decide
  unfold Receiver.step at hs
  split at hs
  · cases hs
  · rename_i receive hp
    split_ifs at hs with hc
    cases receive with
    | readHeader last_bytes =>
      cases hs
      have hlast := hr last_bytes hp
      have hle : bytes.length ≤ PacketHeader.size - last_bytes := hc.1
      by_cases hlt : last_bytes + bytes.length < PacketHeader.size
      · rw [Receiver.onHeader_of_lt e get r hlt]
        intro got hg
        cases hg
        exact hlt
      · rw [Receiver.onHeader_of_eq e get r (by omega)]
        split_ifs
        · exact hbody _
        · exact fun got hg => by cases hg
    | readBody =>
      cases hs
      unfold Receiver.onBody
      dsimp only
      split_ifs
      · exact hbody _
      · exact hzero _
      · exact hzero _

/-- The outstanding receive of zero bytes, if it is one, completes. -/
theorem exists_settled {r : Receiver} (hr : r.InHeader) (e : Endpoint) (get : ℕ → TcpBuffer) :
    ∃ chunks r', run (Receiver.step e get) r chunks = some r' ∧ chunks.flatten = [] ∧
      r'.Settled ∧ r'.InHeader := by
  by_cases hsettled : r.Settled
  · exact ⟨[], r, rfl, rfl, hsettled, hr⟩
  obtain ⟨hp, hz⟩ := Classical.not_imp.mp hsettled
  have hz : r.header.dataLength = 0 := not_not.mp hz
  have hstep : Receiver.step e get r [] = some (r.onBody get []) := by
    simp [Receiver.step, hp, Receiver.Completes, Receiver.requested, hz]
  refine ⟨[[]], r.onBody get [], by simp [hstep], rfl, ?_, hr.step hstep⟩
  -- The packet is complete, so the next receive is one of a header.
  intro hbody
  have hlen : ¬ (([] : List UInt8).length ≠ (r.storeBody []).header.dataLength) :=
    not_not.mpr hz.symm
  unfold Receiver.onBody at hbody
  dsimp only at hbody
  rw [if_neg hlen] at hbody
  simp [Receiver.readHeader] at hbody

/-- Every stream can be read, to its end or until it is rejected. -/
theorem exists_reads (e : Endpoint) (get : ℕ → TcpBuffer) (S : List UInt8) :
    ∀ {r : Receiver}, r.InHeader → ∃ r', r.Reads e get S r' := by
  -- Byte by byte, with the receives of zero bytes in between.
  induction S with
  | nil =>
    intro r hr
    obtain ⟨chunks, r', hrun, hflat, hsettled, -⟩ := exists_settled hr e get
    exact ⟨r', chunks, [], hrun, by simp [hflat], Or.inr ⟨rfl, hsettled⟩⟩
  | cons b S ih =>
    intro r hr
    obtain ⟨chunks, r₁, hrun, hflat, hsettled, hr₁⟩ := exists_settled hr e get
    cases hp : r₁.pending with
    | none => exact ⟨r₁, chunks, b :: S, hrun, by simp [hflat], Or.inl hp⟩
    | some receive =>
      -- The receive asks for at least one byte, so it can complete with one.
      have hpos : 1 ≤ r₁.requested receive := by
        cases receive with
        | readHeader got =>
          have := hr₁ got hp
          change 1 ≤ PacketHeader.size - got
          omega
        | readBody => exact Nat.one_le_iff_ne_zero.mpr (hsettled hp)
      obtain ⟨r₂, hstep⟩ : ∃ r₂, Receiver.step e get r₁ [b] = some r₂ := by
        unfold Receiver.step
        rw [hp]
        dsimp only
        rw [if_pos ⟨hpos, by simp⟩]
        cases receive <;> exact ⟨_, rfl⟩
      obtain ⟨r', chunks', rest, hrun', hS, hend⟩ := ih (hr₁.step hstep)
      refine ⟨r', chunks ++ [b] :: chunks', rest, ?_, ?_, hend⟩
      · calc run (Receiver.step e get) r (chunks ++ [b] :: chunks')
            = run (Receiver.step e get) r₁ ([b] :: chunks') := by
              rw [run_append, hrun, Option.bind_some]
          _ = run (Receiver.step e get) r₂ chunks' := by rw [run_cons, hstep, Option.bind_some]
          _ = some r' := hrun'
      · simp [hflat, hS]

/-! ## Two readings of one stream -/

/-- The bytes of the unfinished message, and whether it will be delivered. -/
def Receiver.unfinished (r : Receiver) : Option (Bool × List UInt8) :=
  r.receive_buffer.map fun buffer =>
    (buffer.is_leaky, slice buffer.memory 0 r.header.bytes_written)

/-- Two receivers are in the same state, except that in the middle of a header the bytes of
`_data_length` that have not arrived may differ. -/
structure Agree (r₁ r₂ : Receiver) : Prop where
  delivered : r₁.delivered = r₂.delivered
  /-- The verdict, and where in the packet the reader is. -/
  pending : r₁.pending = r₂.pending
  consumed : r₁.consumed = r₂.consumed
  bytes_written : r₁.header.bytes_written = r₂.header.bytes_written
  unfinished : r₁.unfinished = r₂.unfinished
  data : ∀ i, r₁.header.data i = r₂.header.data i ∨
    ∃ got, r₁.pending = some (.readHeader got) ∧ got ≤ i ∧ 12 ≤ i ∧ i < 16

theorem Simulates.unfinished {get : ℕ → TcpBuffer} {r : Receiver} {p : Parser}
    (h : Simulates get r p) : r.unfinished =
      if p.held then some ((get (p.reads - 1)).is_leaky, p.acc) else none := by
  unfold Receiver.unfinished
  cases hheld : p.held with
  | true =>
    obtain ⟨buffer, hb, hholds⟩ := h.held hheld
    rw [hb, Option.map_some, hholds.is_leaky, h.bytes_written, hholds.slice]
    rfl
  | false =>
    rw [(h.free hheld).1]
    rfl

/-- Receivers that simulate one parser agree. -/
theorem Simulates.agree {get₁ get₂ : ℕ → TcpBuffer} {r₁ r₂ : Receiver} {p : Parser}
    (hget : ∀ n, (get₁ n).is_leaky = (get₂ n).is_leaky) (h₁ : Simulates get₁ r₁ p)
    (h₂ : Simulates get₂ r₂ p) : Agree r₁ r₂ where
  delivered := h₁.delivered.trans h₂.delivered.symm
  pending := h₁.pending.trans h₂.pending.symm
  consumed := h₁.consumed.trans h₂.consumed.symm
  bytes_written := h₁.bytes_written.trans h₂.bytes_written.symm
  unfinished := by rw [h₁.unfinished, h₂.unfinished, hget]
  data i := by
    have hd : p.phase.visible r₁.header.data i = p.phase.visible r₂.header.data i := by
      rw [← h₁.data, ← h₂.data]
    cases hp : p.phase with
    | header got =>
      rw [hp, visible_header, visible_header] at hd
      by_cases hi : got ≤ i ∧ 12 ≤ i ∧ i < 16
      · exact Or.inr ⟨got, by rw [h₁.pending, hp]; rfl, hi⟩
      · rw [if_neg hi, if_neg hi] at hd
        exact Or.inl hd
    | body =>
      rw [hp] at hd
      exact Or.inl hd
    | rejected =>
      rw [hp] at hd
      exact Or.inl hd

/-- Any two readings of a stream of fewer than `2 ^ 32` bytes, by either class and cut in any way,
with the same outcomes of `GetReadBuffer`, lead to the same state. -/
theorem reads_agree {e₁ e₂ : Endpoint} {get₁ get₂ : ℕ → TcpBuffer} {header : PacketHeader}
    {S : List UInt8} {r₁ r₂ : Receiver} (hS : S.length < 2 ^ 32)
    (hget : ∀ n, (get₁ n).is_leaky = (get₂ n).is_leaky)
    (h₁ : (Receiver.initial header).Reads e₁ get₁ S r₁)
    (h₂ : (Receiver.initial header).Reads e₂ get₂ S r₂) : Agree r₁ r₂ := by
  have hlen : (Parser.initial header.data).acc.length + S.length < 2 ^ 32 := by
    simpa [Parser.initial] using hS
  have hs₁ := h₁.simulates (Simulates.initial get₁ header) hlen
  have hs₂ := h₂.simulates (Simulates.initial get₂ header) hlen
  have hleaky : (fun n => (get₁ n).is_leaky) = fun n => (get₂ n).is_leaky := funext hget
  rw [hleaky] at hs₁
  exact hs₁.agree hget hs₂

/-- A message of two bytes in one packet. -/
def twoBytes : List UInt8 :=
  [0, 0, 0, 0, 1, 0, 0, 0, 0, 0, 0, 0, 2, 0, 0, 0, 2, 0, 0, 0, 0, 0, 0, 0, 7, 8]

/-- A pool that never runs out. -/
def freshBuffers : ℕ → TcpBuffer := fun _ => ⟨16, false, fun _ => 0, 0⟩

theorem reads_agree_twoBytes : ∃ r₁ r₂,
    (Receiver.initial .initial).Reads .tcpCameraSession freshBuffers twoBytes r₁ ∧
    (Receiver.initial .initial).Reads .tcpClient freshBuffers twoBytes r₂ ∧ Agree r₁ r₂ := by
  have h₁ : ∃ r₁, (Receiver.initial .initial).Reads .tcpCameraSession freshBuffers twoBytes r₁ :=
    ⟨_, [twoBytes.take 24, [7, 8]], [], rfl, rfl, Or.inr ⟨rfl, by decide⟩⟩
  have h₂ : ∃ r₂, (Receiver.initial .initial).Reads .tcpClient freshBuffers twoBytes r₂ :=
    ⟨_, [twoBytes.take 10, (twoBytes.drop 10).take 14, [7], [8]], [], rfl, rfl,
      Or.inr ⟨rfl, by decide⟩⟩
  obtain ⟨r₁, h₁⟩ := h₁
  obtain ⟨r₂, h₂⟩ := h₂
  exact ⟨r₁, r₂, h₁, h₂, reads_agree (by decide) (fun _ => rfl) h₁ h₂⟩

/-- The header itself depends on the cuts: after the message, `_data_length` is 2 when its bytes
came together, and 1 when they came one by one. -/
theorem data_length_depends_on_cuts : ∃ r₁ r₂,
    (Receiver.initial .initial).Reads .tcpCameraSession freshBuffers twoBytes r₁ ∧
    (Receiver.initial .initial).Reads .tcpCameraSession freshBuffers twoBytes r₂ ∧
    r₁.header.data 12 ≠ r₂.header.data 12 :=
  ⟨_, _, ⟨[twoBytes.take 24, [7, 8]], [], rfl, rfl, Or.inr ⟨rfl, by decide⟩⟩,
    ⟨[twoBytes.take 24, [7], [8]], [], rfl, rfl, Or.inr ⟨rfl, by decide⟩⟩, by decide⟩

end AugmentedNormalcy.Tcp
