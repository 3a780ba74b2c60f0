import AugmentedNormalcy.Tcp.Fragmentation

/-!
# The windows of the body receives

Neither receiver compares `_data_length` with the size of its buffer. `Fits cap acc S` cuts a stream
into headers and bodies and says that no packet reaches past `cap`, where `acc` bytes of the message
are there already. The windows and the sizes that are set stay inside a buffer of `cap` bytes
exactly when the stream fits (`inBounds_iff_fits`), and a stream that does not fit is read all the
same.

The stream side of the proof is `Clear`: in no prefix of the stream is the parser in a packet that
reaches past `cap`. `Fits` cuts along packets what `Clear` says of all prefixes (`fits_iff_clear`),
and the runs of a receiver meet `Clear` one completion at a time (`Track.step`,
`Track.clear_of_inBounds`).
-/

namespace AugmentedNormalcy.Tcp

open Bytes StepSystem

/-- No packet of the stream reaches past `cap`, when the message already has `acc` bytes. A stream
is read up to a header that is rejected. -/
def Fits (cap acc : ℕ) (S : List UInt8) : Prop :=
  if S.length < PacketHeader.size then True
  else if ¬(leNat (S.take 4) = 0 ∧ leNat ((S.drop 20).take 4) = 0) then True
  else
    let data_length := leNat ((S.drop 12).take 4)
    let total_bytes := leNat ((S.drop 16).take 4)
    acc + data_length ≤ cap ∧
      (S.length < PacketHeader.size + data_length ∨
        Fits cap (if total_bytes ≤ acc + data_length then 0 else acc + data_length)
          (S.drop (PacketHeader.size + data_length)))
termination_by S.length
decreasing_by
  simp only [List.length_drop, PacketHeader.size] at *
  omega

/-! ## The packets of the parser -/

namespace Parser

/-- The packet that is being read reaches past `cap`. -/
def Overruns (cap : ℕ) (p : Parser) : Prop := p.phase = .body ∧ cap < p.acc.length + p.left

/-- No prefix of the stream ends in a packet that reaches past `cap`. -/
def Clear (cap : ℕ) (leaky : ℕ → Bool) (p : Parser) (S : List UInt8) : Prop :=
  ∀ T, T <+: S → ¬ (T.foldl (byte leaky) p).Overruns cap

variable {cap : ℕ} {leaky : ℕ → Bool} {p : Parser}

theorem clear_nil : p.Clear cap leaky [] ↔ ¬ p.Overruns cap := by
  simp [Clear]

/-- A stream is clear when its first part is, and the rest is from there on. -/
theorem clear_append {A B : List UInt8} :
    p.Clear cap leaky (A ++ B) ↔
      p.Clear cap leaky A ∧ (A.foldl (byte leaky) p).Clear cap leaky B := by
  constructor
  · refine fun h => ⟨fun T hT => h T (hT.trans (List.prefix_append A B)), fun T hT => ?_⟩
    rw [← List.foldl_append]
    exact h (A ++ T) ((List.prefix_append_right_inj A).mpr hT)
  · rintro ⟨hA, hB⟩ T hT
    rcases List.prefix_or_prefix_of_prefix hT (List.prefix_append A B) with hTA | ⟨T', rfl⟩
    · exact hA T hTA
    · rw [List.foldl_append]
      exact hB T' ((List.prefix_append_right_inj A).mp hT)

theorem not_overruns_of_phase (h : p.phase ≠ .body) : ¬ p.Overruns cap := fun ho => h ho.1

theorem not_overruns_settle (h : ¬ p.Overruns cap) : ¬ (p.settle leaky).Overruns cap := by
  unfold settle
  split_ifs
  · exact not_overruns_of_phase (by rw [endPacket_phase]; simp)
  · exact h

/-- Settling does not change whether a stream is clear, once the packet at hand is. -/
theorem clear_settle (h : ¬ p.Overruns cap) {S : List UInt8} :
    (p.settle leaky).Clear cap leaky S ↔ p.Clear cap leaky S := by
  have hsettle : ¬ (p.settle leaky).Overruns cap := not_overruns_settle h
  refine forall₂_congr fun T hT => not_congr ?_
  cases T with
  | nil => exact iff_of_false hsettle h
  | cons b T => rw [List.foldl_cons, List.foldl_cons, byte_settle]

/-- The bytes of a header that is not complete are clear. -/
theorem clear_header {got : ℕ} (h : p.phase = .header got) {S : List UInt8}
    (hlt : got + S.length < PacketHeader.size) : p.Clear cap leaky S := by
  intro T hT
  have hle := hT.length_le
  rw [foldl_header h (by omega)]
  exact not_overruns_of_phase (by simp [addHeader])

/-- The bytes of a complete header are clear when the packet that it starts is. -/
theorem clear_header_end {got : ℕ} (h : p.phase = .header got) {S : List UInt8}
    (heq : got + S.length = PacketHeader.size) :
    p.Clear cap leaky S ↔ ¬ (S.foldl (byte leaky) p).Overruns cap := by
  refine ⟨fun hc => hc S (List.prefix_refl S), fun hS T hT => ?_⟩
  rcases hT.length_le.lt_or_eq with hlt | hle
  · exact clear_header h (by omega) T (List.prefix_refl T)
  · rwa [hT.eq_of_length hle]

/-- The bytes of a packet are clear when the packet is. -/
theorem clear_body (h : p.phase = .body) {S : List UInt8} (hle : S.length ≤ p.left) :
    p.Clear cap leaky S ↔ ¬ p.Overruns cap := by
  refine ⟨fun hc => hc [] (List.nil_prefix), fun hp T hT => ?_⟩
  have hTS := hT.length_le
  rcases Nat.lt_or_ge T.length p.left with hlt | hge
  · -- What has been read and what is missing add up to the same.
    rw [foldl_body h hlt]
    intro ho
    have hsum := ho.2
    rw [left_addBody] at hsum
    refine hp ⟨h, ?_⟩
    simp only [addBody, List.length_append] at hsum
    omega
  · cases T with
    | nil => exact hp
    | cons b T =>
      rw [foldl_body_end h (by simp) (by omega)]
      exact not_overruns_of_phase (by rw [endPacket_phase]; simp)

/-- After a rejection everything is clear. -/
theorem clear_rejected (h : p.phase = .rejected) (S : List UInt8) : p.Clear cap leaky S := by
  intro T _
  rw [foldl_rejected h]
  exact not_overruns_of_phase (by simp [h])

/-- A field of a header that has just been read. -/
theorem readLE_addHeader {H : List UInt8} {off k : ℕ} (hle : off + k ≤ H.length) :
    readLE (p.addHeader 0 H).data off k = leNat ((H.drop off).take k) := by
  rw [readLE]
  exact congrArg leNat (slice_overwrite_of_le hle)

/-- The end of a packet ends the message when all of it is there. -/
theorem endPacket_acc (leaky : ℕ → Bool) (p : Parser) :
    (p.endPacket leaky).acc = if p.total ≤ p.acc.length then [] else p.acc := by
  have htotal : readLE (overwrite p.data 12 [0, 0, 0, 0]) 16 4 = p.total :=
    readLE_overwrite_of_disjoint (Or.inr (by simp))
  unfold endPacket
  dsimp only
  rw [total, htotal]
  split_ifs <;> rfl

theorem total_addBody (p : Parser) (bs : List UInt8) : (p.addBody bs).total = p.total :=
  readLE_overwrite_of_disjoint (Or.inr (by simp))

/-- A stream in a packet is clear when the packet stays below `cap`, and the rest is clear after
it. -/
theorem clear_packet (h : p.phase = .body) (S : List UInt8) :
    (¬ p.Overruns cap ∧ p.Clear cap leaky S) ↔ p.acc.length + p.left ≤ cap ∧ (S.length < p.left ∨
      ((p.addBody (S.take p.left)).endPacket leaky).Clear cap leaky (S.drop p.left)) := by
  have hover : ¬ p.Overruns cap ↔ p.acc.length + p.left ≤ cap := by
    rw [Overruns, not_and, not_lt]
    exact ⟨fun hp => hp h, fun hp _ => hp⟩
  rw [← hover]
  refine and_congr_right fun hp => ?_
  rcases Nat.lt_or_ge S.length p.left with hlt | hge
  · exact iff_of_true ((clear_body h hlt.le).mpr hp) (Or.inl hlt)
  have hlen : (S.take p.left).length = p.left := by
    rw [List.length_take]
    omega
  -- The packet first, and then what follows it.
  have hcut : p.Clear cap leaky S ↔
      ((S.take p.left).foldl (byte leaky) p).Clear cap leaky (S.drop p.left) := by
    conv_lhs => rw [← List.take_append_drop p.left S]
    rw [clear_append, clear_body h hlen.le, and_iff_right hp]
  rw [hcut, or_iff_right (by omega)]
  by_cases hnil : S.take p.left = []
  · -- A packet without bytes, which the parser passes over with the next one.
    have hleft : p.left = 0 := by
      rw [← hlen, hnil]
      rfl
    have hsettle : p.settle leaky = p.endPacket leaky := if_pos ⟨h, hleft⟩
    rw [hnil, List.foldl_nil, addBody_nil, ← hsettle]
    exact (clear_settle hp).symm
  · rw [foldl_body_end h hnil hlen]

/-- A field of a stream's first header. -/
theorem take_drop_header (S : List UInt8) {off k : ℕ} (hle : off + k ≤ PacketHeader.size) :
    ((S.take PacketHeader.size).drop off).take k = (S.drop off).take k := by
  rw [List.drop_take, List.take_take, Nat.min_eq_left (by omega)]

/-- A stream fits exactly when it is clear. -/
theorem fits_iff_clear (h : p.phase = .header 0) (S : List UInt8) :
    Fits cap p.acc.length S ↔ p.Clear cap leaky S := by
  induction hn : S.length using Nat.strong_induction_on generalizing p S with
  | _ n ih =>
    subst hn
    -- The induction is on the length of the stream: each packet has a header, which is not empty.
    rw [Fits]
    by_cases hshort : S.length < PacketHeader.size
    · rw [if_pos hshort]
      exact iff_of_true trivial (clear_header h (by omega))
    rw [if_neg hshort]
    -- The header, and the parser behind it.
    obtain ⟨H, hH⟩ : ∃ H, S.take PacketHeader.size = H := ⟨_, rfl⟩
    have hHlen : H.length = PacketHeader.size := by
      rw [← hH, List.length_take]
      omega
    have hfield : ∀ off k : ℕ, off + k ≤ PacketHeader.size →
        leNat ((S.drop off).take k) = readLE (p.addHeader 0 H).data off k := by
      intro off k hle
      rw [readLE_addHeader (by omega), ← hH, take_drop_header S hle]
    have hq : H.foldl (byte leaky) p = (p.addHeader 0 H).endHeader :=
      foldl_header_end h (by decide) (by omega)
    have hsplit : p.Clear cap leaky S ↔ ¬ ((p.addHeader 0 H).endHeader).Overruns cap ∧
        ((p.addHeader 0 H).endHeader).Clear cap leaky (S.drop PacketHeader.size) := by
      conv_lhs => rw [← List.take_append_drop PacketHeader.size S, hH]
      rw [clear_append, clear_header_end h (by omega), hq]
    rw [hsplit]
    have hfront := hfield 0 4 (by decide)
    have hback := hfield 20 4 (by decide)
    rw [List.drop_zero] at hfront
    rw [hfront, hback]
    -- An accepted header, whose packet follows, or a rejected one, after which nothing is read.
    by_cases hok : readLE (p.addHeader 0 H).data 0 4 = 0 ∧ readLE (p.addHeader 0 H).data 20 4 = 0
    · rw [if_neg (not_not.mpr hok), hfield 12 4 (by decide), hfield 16 4 (by decide)]
      obtain ⟨q, hqdef⟩ : ∃ q, (p.addHeader 0 H).endHeader = q := ⟨_, rfl⟩
      have hbody : q.phase = .body ∧ q.acc = p.acc ∧ q.data = (p.addHeader 0 H).data := by
        rw [← hqdef, endHeader, if_pos hok]
        exact ⟨rfl, rfl, rfl⟩
      obtain ⟨hphase, hacc, hdata⟩ := hbody
      have hleft : readLE (p.addHeader 0 H).data 12 4 = q.left := by rw [left, hdata]
      have htotal : readLE (p.addHeader 0 H).data 16 4 = q.total := by rw [total, hdata]
      rw [hqdef, clear_packet hphase, hleft, htotal, hacc, List.length_drop, List.drop_drop]
      refine and_congr_right fun _ => ?_
      by_cases hcut : S.length < PacketHeader.size + q.left
      · exact iff_of_true (Or.inl hcut) (Or.inl (by omega))
      rw [or_iff_right hcut, or_iff_right (by omega)]
      -- What the message has after the packet.
      obtain ⟨B, hB⟩ : ∃ B, (S.drop PacketHeader.size).take q.left = B := ⟨_, rfl⟩
      have hBlen : B.length = q.left := by
        rw [← hB, List.length_take, List.length_drop]
        omega
      have hlen : ((q.addBody B).endPacket leaky).acc.length =
          if q.total ≤ p.acc.length + q.left then 0 else p.acc.length + q.left := by
        have hsum : (q.addBody B).acc.length = p.acc.length + q.left := by
          rw [addBody, List.length_append, hacc, hBlen]
        rw [endPacket_acc, total_addBody, hsum]
        split_ifs
        · rfl
        · exact hsum
      rw [hB, ← hlen]
      refine ih _ ?_ (endPacket_phase leaky _) _ rfl
      rw [List.length_drop]
      have : 0 < PacketHeader.size := by decide
      omega
    · rw [if_pos hok]
      have hphase : ((p.addHeader 0 H).endHeader).phase = .rejected := by
        rw [endHeader, if_neg hok]
      exact iff_of_true trivial
        ⟨not_overruns_of_phase (by simp [hphase]), clear_rejected hphase _⟩

end Parser

/-! ## The windows of a receiver -/

/-- Every body receive was issued inside its buffer, and no size was set beyond it. -/
def Receiver.InBounds (r : Receiver) : Prop :=
  (∀ w ∈ r.windows, w.offset + w.length ≤ w.max_size) ∧ ∀ s ∈ r.sizes, s.1 ≤ s.2

/-- The logs only grow. -/
theorem Receiver.InBounds.of_step {e : Endpoint} {get : ℕ → TcpBuffer} {r r' : Receiver}
    {bytes : List UInt8} (hs : Receiver.step e get r bytes = some r') (h : r'.InBounds) :
    r.InBounds := by
  -- `readBody` logs a window, and nothing takes one out.
  have hread : ∀ q : Receiver, (q.readBody get).InBounds → q.InBounds := fun q hq =>
    ⟨fun w hw => hq.1 w (by simp [Receiver.readBody, hw]), hq.2⟩
  unfold Receiver.step at hs
  split at hs
  · cases hs
  · split_ifs at hs
    split at hs
    · rename_i last_bytes _ _
      cases hs
      cases e with
      | tcpCameraSession =>
        simp only [Endpoint.onHeader, TcpCameraSession.onHeader] at h
        split_ifs at h
        · have := hread _ h
          exact this
        · exact h
        · exact h
      | tcpClient =>
        simp only [Endpoint.onHeader, TcpClient.onHeader] at h
        split_ifs at h
        · have := hread _ h
          exact this
        · exact h
        · exact h
    · cases hs
      unfold Receiver.onBody at h
      dsimp only at h
      split_ifs at h
      · have := hread _ h
        exact this
      · refine ⟨fun w hw => h.1 w ?_, fun x hx => h.2 x ?_⟩
        · simp only [Receiver.readHeader, Receiver.deliver]
          split
          · exact hw
          · split_ifs <;> exact hw
        · simp only [Receiver.readHeader, Receiver.deliver]
          split
          · exact hx
          · split_ifs
            · exact hx
            · exact List.mem_append_left _ hx
      · exact h

/-- The receiver has read the same bytes as the parser, and nothing has left its buffer yet. -/
structure Track (get : ℕ → TcpBuffer) (cap : ℕ) (r : Receiver) (p : Parser) : Prop where
  simulates : Simulates get r p
  inBounds : r.InBounds
  not_overruns : ¬ p.Overruns cap
  acc_le : p.acc.length ≤ cap

/-- A body receive is issued inside its buffer exactly when the packet does not reach past it. -/
theorem inBounds_iff_of_window {get : ℕ → TcpBuffer} {r r' : Receiver} {p' : Parser}
    {buffer : TcpBuffer} (h : r.InBounds) (hs : Simulates get r' p') (hp : p'.phase = .body)
    (hacc : p'.acc.length < 2 ^ 32) (hb : r'.receive_buffer = some buffer)
    (hw : r'.windows = r.windows ++
      [⟨r'.header.bytesWritten, r'.header.dataLength, buffer.max_size⟩])
    (hsizes : r'.sizes = r.sizes) :
    r'.InBounds ↔ p'.acc.length + p'.left ≤ (get (p'.reads - 1)).max_size := by
  obtain ⟨buffer', hb', hholds⟩ := hs.held (hs.body_held hp)
  rw [hb] at hb'
  cases hb'
  have hwritten : r'.header.bytesWritten = p'.acc.length := by
    rw [PacketHeader.bytesWritten, hs.bytes_written]
    omega
  have hleft : r'.header.dataLength = p'.left := by
    rw [Parser.left, hs.data_of_body hp]
    rfl
  rw [Receiver.InBounds, hw, hsizes, hwritten, hleft, hholds.max_size]
  constructor
  · exact fun hi => hi.1 _ (List.mem_append_right _ (List.mem_singleton_self _))
  · refine fun ho => ⟨fun w hmem => ?_, h.2⟩
    rcases List.mem_append.mp hmem with hmem | hmem
    · exact h.1 w hmem
    · rw [List.mem_singleton.mp hmem]
      exact ho

/-- `readBody` logs the window of its receive. -/
theorem exists_window (get : ℕ → TcpBuffer) (q : Receiver) :
    ∃ buffer, (q.readBody get).receive_buffer = some buffer ∧
      (q.readBody get).windows =
        q.windows ++ [⟨q.header.bytesWritten, q.header.dataLength, buffer.max_size⟩] := by
  cases hb : q.receive_buffer with
  | some buffer => exact ⟨buffer, by rw [Receiver.readBody_of_some hb]; exact hb,
      by rw [Receiver.readBody_of_some hb]⟩
  | none => exact ⟨get q.reads, by rw [Receiver.readBody_of_none hb],
      by rw [Receiver.readBody_of_none hb]⟩

namespace Parser

theorem endHeader_acc (p : Parser) : p.endHeader.acc = p.acc := by
  unfold endHeader
  split_ifs <;> rfl

theorem overruns_iff {cap : ℕ} {p : Parser} (h : p.phase = .body) :
    p.Overruns cap ↔ cap < p.acc.length + p.left :=
  and_iff_right h

end Parser

namespace Track

variable {e : Endpoint} {get : ℕ → TcpBuffer} {cap : ℕ} {r r' : Receiver} {p : Parser}
  {bytes : List UInt8}

/-- A connection that has just been made. -/
theorem initial (get : ℕ → TcpBuffer) (cap : ℕ) (header : PacketHeader) :
    Track get cap (.initial header) (.initial header.data) where
  simulates := Simulates.initial get header
  inBounds := ⟨by simp [Receiver.initial], by simp [Receiver.initial]⟩
  not_overruns := Parser.not_overruns_of_phase (by simp [Parser.initial])
  acc_le := Nat.zero_le _

theorem size_lt (hcap : cap < 2 ^ 32) (h : Track get cap r p) (hp : p.phase = .body)
    (hle : bytes.length ≤ p.left) : p.acc.length + bytes.length < 2 ^ 32 := by
  have hover := h.not_overruns
  rw [Parser.overruns_iff hp] at hover
  omega

/-- A completion is the parser's reading of its bytes. -/
theorem simulates_received (hcap : cap < 2 ^ 32) (h : Track get cap r p)
    (hs : Receiver.step e get r bytes = some r') :
    Simulates get r' (Simulates.received get p bytes) := by
  refine h.simulates.step hs fun hp => h.size_lt hcap hp ?_
  have hc := h.simulates.completion hs
  generalize Simulates.received get p bytes = p' at hc
  cases hc with
  | header hp' hlt => simp [hp] at hp'
  | headerEnd hp' heq => simp [hp] at hp'
  | body hp' hlt => exact hlt.le
  | bodyEnd hp' heq => exact heq.le

/-- A completion with bytes that are clear stays in bounds. -/
theorem step (hcap : cap < 2 ^ 32) (hget : ∀ n, cap ≤ (get n).max_size) (h : Track get cap r p)
    (hs : Receiver.step e get r bytes = some r')
    (hclear : p.Clear cap (fun n => (get n).is_leaky) bytes) :
    Track get cap r' (Simulates.received get p bytes) := by
  have hsim := h.simulates_received hcap hs
  have hc := h.simulates.completion hs
  have hacc_le := h.acc_le
  have hover := h.not_overruns
  -- The parser after the bytes does not overrun its buffer.
  have hnot : ¬ (Simulates.received get p bytes).Overruns cap := by
    unfold Simulates.received
    split_ifs with hnil
    · exact Parser.not_overruns_settle hover
    · exact hclear bytes (List.prefix_refl _)
  generalize Simulates.received get p bytes = p' at hc hsim hnot ⊢
  -- A body receive that is issued is inside its buffer.
  have hwindow : ∀ {buffer : TcpBuffer}, p'.phase = .body → p'.acc.length ≤ cap →
      r'.receive_buffer = some buffer → r'.windows = r.windows ++
        [⟨r'.header.bytesWritten, r'.header.dataLength, buffer.max_size⟩] →
      r'.sizes = r.sizes → r'.InBounds := by
    intro buffer hp hacc hb hw hsizes
    have hle := hget (p'.reads - 1)
    rw [Parser.overruns_iff hp] at hnot
    exact (inBounds_iff_of_window h.inBounds hsim hp (by omega) hb hw hsizes).mpr (by omega)
  cases hc with
  | header hp hlt => exact ⟨hsim, h.inBounds, hnot, hacc_le⟩
  | @headerEnd got hp heq =>
    have hacc : (p.addHeader got bytes).endHeader.acc.length ≤ cap := by
      rw [Parser.endHeader_acc]
      exact hacc_le
    split_ifs at hsim hwindow ⊢
    · have hbody : (p.addHeader got bytes).endHeader.phase = .body :=
        hsim.phase_of_readBody rfl
      obtain ⟨buffer, hb, hw⟩ := exists_window get (r.storeHeader got bytes)
      exact ⟨hsim, hwindow hbody hacc hb hw rfl, hnot, hacc⟩
    · exact ⟨hsim, h.inBounds, hnot, hacc⟩
  | body hp hlt =>
    obtain ⟨buffer, hb, -⟩ := h.simulates.held (h.simulates.body_held hp)
    have hne : bytes.length ≠ r.header.dataLength := by
      rw [h.simulates.dataLength_of_body hp]
      omega
    have hacc : (p.addBody bytes).acc.length ≤ cap := by
      rw [Parser.overruns_iff hp] at hover
      rw [Parser.addBody, List.length_append]
      omega
    rw [Receiver.onBody_of_ne hb hne] at hsim hwindow ⊢
    exact ⟨hsim, hwindow hp hacc rfl rfl rfl, hnot, hacc⟩
  | bodyEnd hp heq =>
    obtain ⟨buffer, hb, hholds⟩ := h.simulates.held (h.simulates.body_held hp)
    have hleft := h.simulates.dataLength_of_body hp
    rw [Parser.overruns_iff hp] at hover
    have hlen : (p.addBody bytes).acc.length ≤ cap := by
      rw [Parser.addBody, List.length_append]
      omega
    have hacc : ((p.addBody bytes).endPacket fun n => (get n).is_leaky).acc.length ≤ cap := by
      rw [Parser.endPacket_acc]
      split_ifs
      · exact Nat.zero_le _
      · exact hlen
    -- The size that is set is that of the bytes in the buffer.
    have hwritten : r.header.isFinished.1.bytesWritten ≤ buffer.max_size := by
      have hbw := h.simulates.bytes_written
      have hl : r.header.data_length = p.left := hleft
      have hle := hget (p.reads - 1)
      rw [hholds.max_size]
      change (r.header.bytes_written + r.header.data_length) % 2 ^ 64 % 2 ^ 32 ≤ _
      omega
    rw [Receiver.onBody_of_eq hb (by omega)] at hsim ⊢
    refine ⟨hsim, ?_, hnot, hacc⟩
    split_ifs
    · exact h.inBounds
    · refine ⟨h.inBounds.1, fun x hx => ?_⟩
      rcases List.mem_append.mp hx with hx | hx
      · exact h.inBounds.2 x hx
      · rw [List.mem_singleton.mp hx]
        exact hwritten
    · exact h.inBounds

/-- Behind a completion the rest of the stream is as clear as it was. -/
theorem clear_received (h : ¬ p.Overruns cap) {S : List UInt8} :
    (Simulates.received get p bytes).Clear cap (fun n => (get n).is_leaky) S ↔
      (bytes.foldl (Parser.byte fun n => (get n).is_leaky) p).Clear cap
        (fun n => (get n).is_leaky) S := by
  unfold Simulates.received
  split_ifs with hnil
  · rw [hnil, List.foldl_nil, Parser.clear_settle h]
  · rfl

/-- A completion that stays in bounds has bytes that are clear. -/
theorem clear_of_inBounds (hcap : cap < 2 ^ 32) (hget : ∀ n, (get n).max_size = cap)
    (h : Track get cap r p) (hs : Receiver.step e get r bytes = some r') (hin : r'.InBounds) :
    p.Clear cap (fun n => (get n).is_leaky) bytes := by
  have hsim := h.simulates_received hcap hs
  have hc := h.simulates.completion hs
  have hreceived : bytes ≠ [] → Simulates.received get p bytes =
      bytes.foldl (Parser.byte fun n => (get n).is_leaky) p := fun hnil => if_neg hnil
  generalize Simulates.received get p bytes = p' at hc hsim hreceived
  cases hc with
  | header hp hlt => exact Parser.clear_header hp hlt
  | @headerEnd got hp heq =>
    have hnil : bytes ≠ [] := by
      rintro rfl
      have := h.simulates.got_lt got hp
      simp only [List.length_nil] at heq
      omega
    rw [Parser.clear_header_end hp heq, ← hreceived hnil]
    split_ifs at hsim hin
    · have hbody : (p.addHeader got bytes).endHeader.phase = .body :=
        hsim.phase_of_readBody rfl
      have hacc : (p.addHeader got bytes).endHeader.acc.length < 2 ^ 32 := by
        have := h.acc_le
        rw [Parser.endHeader_acc]
        change p.acc.length < 2 ^ 32
        omega
      obtain ⟨buffer, hb, hw⟩ := exists_window get (r.storeHeader got bytes)
      -- The window that was issued says how far the packet reaches.
      have hle := (inBounds_iff_of_window h.inBounds hsim hbody hacc hb hw rfl).mp hin
      rw [Parser.overruns_iff hbody, not_lt]
      exact hle.trans_eq (hget _)
    · refine Parser.not_overruns_of_phase fun hbody => ?_
      have hpending := hsim.pending
      rw [hbody] at hpending
      cases hpending
  | body hp hlt => exact (Parser.clear_body hp hlt.le).mpr h.not_overruns
  | bodyEnd hp heq => exact (Parser.clear_body hp heq.le).mpr h.not_overruns

/-- A run of completions stays in bounds exactly when its bytes are clear. -/
theorem run (hcap : cap < 2 ^ 32) (hget : ∀ n, (get n).max_size = cap)
    {chunks : List (List UInt8)} :
    ∀ {r r' : Receiver} {p : Parser}, Track get cap r p →
      StepSystem.run (Receiver.step e get) r chunks = some r' →
      (r'.InBounds ↔ p.Clear cap (fun n => (get n).is_leaky) chunks.flatten) ∧
        (r'.InBounds → ∃ p', Track get cap r' p' ∧ p'.settle (fun n => (get n).is_leaky) =
          (chunks.flatten.foldl (Parser.byte fun n => (get n).is_leaky) p).settle
            fun n => (get n).is_leaky) := by
  induction chunks with
  | nil =>
    intro r r' p h hrun
    cases hrun
    exact ⟨iff_of_true h.inBounds (Parser.clear_nil.mpr h.not_overruns), fun _ => ⟨p, h, rfl⟩⟩
  | cons bytes chunks ih =>
    intro r r' p h hrun
    obtain ⟨r₁, hstep, hrest⟩ := run_cons_eq_some.mp hrun
    -- A receiver that is out of bounds stays so.
    have hback : ¬ r₁.InBounds → ¬ r'.InBounds := fun hnot =>
      run_invariant (fun s => ¬ s.InBounds) (fun _ _ _ hI hs hin => hI (hin.of_step hs)) hrest hnot
    rw [List.flatten_cons, Parser.clear_append]
    -- The first chunk is clear, and the others decide; or it is not, and nothing repairs that.
    by_cases hclear : p.Clear cap (fun n => (get n).is_leaky) bytes
    · obtain ⟨hiff, hnext⟩ := ih (h.step hcap (fun n => (hget n).ge) hstep hclear) hrest
      rw [and_iff_right hclear, ← clear_received h.not_overruns]
      refine ⟨hiff, fun hin => ?_⟩
      obtain ⟨p', hp', hsettle⟩ := hnext hin
      refine ⟨p', hp', ?_⟩
      rw [hsettle, List.foldl_append]
      exact Parser.settle_foldl_congr (Simulates.settle_received get p bytes) _
    · have hnot : ¬ r'.InBounds :=
        hback fun hin => hclear (h.clear_of_inBounds hcap hget hstep hin)
      exact ⟨iff_of_false hnot fun hc => hclear hc.1, fun hin => absurd hin hnot⟩

end Track

/-- The body receives of a stream stay inside the buffers, and a stream that would leave them is
rejected, exactly when the stream fits. -/
theorem inBounds_iff_fits {e : Endpoint} {get : ℕ → TcpBuffer} {cap : ℕ} {header : PacketHeader}
    {S : List UInt8} {r' : Receiver} (hcap : cap < 2 ^ 31) (hget : ∀ n, (get n).max_size = cap)
    (hr : (Receiver.initial header).Reads e get S r') :
    (r'.InBounds ∧ (¬ Fits cap 0 S → r'.pending = none)) ↔ Fits cap 0 S := by
  obtain ⟨chunks, rest, hrun, rfl, hend⟩ := hr
  have htrack := Track.initial get cap header
  obtain ⟨hiff, hlast⟩ := htrack.run (by omega) hget hrun
  have hfits : Fits cap 0 (chunks.flatten ++ rest) ↔
      (Parser.initial header.data).Clear cap (fun n => (get n).is_leaky) (chunks.flatten ++ rest) :=
    Parser.fits_iff_clear (p := Parser.initial header.data) rfl _
  rw [Parser.clear_append, ← hiff] at hfits
  constructor
  · rintro ⟨hin, -⟩
    refine hfits.mpr ⟨hin, ?_⟩
    rcases hend with hnone | ⟨rfl, -⟩
    · -- Behind a rejected header nothing is read.
      obtain ⟨p', hp', hsettle⟩ := hlast hin
      have hphase := hp'.simulates.phase_of_none hnone
      rw [Parser.settle_of_left (by simp [hphase])] at hsettle
      have hq := Parser.eq_of_settle_rejected (hsettle ▸ hphase)
      rw [hq] at hsettle
      rw [← hsettle]
      exact Parser.clear_rejected hphase rest
    · exact Parser.clear_nil.mpr (hiff.mp hin _ (List.prefix_refl _))
  · intro hf
    exact ⟨(hfits.mp hf).1, fun hnot => absurd hf hnot⟩

/-- A header that announces 100 bytes. -/
def hundredBytes : List UInt8 :=
  [0, 0, 0, 0, 1, 0, 0, 0, 0, 0, 0, 0, 100, 0, 0, 0, 100, 0, 0, 0, 0, 0, 0, 0]

theorem inBounds_iff_fits_twoBytes : ∃ r',
    (Receiver.initial .initial).Reads .tcpCameraSession freshBuffers twoBytes r' ∧
    ((r'.InBounds ∧ (¬ Fits 16 0 twoBytes → r'.pending = none)) ↔ Fits 16 0 twoBytes) := by
  obtain ⟨r', hr⟩ : ∃ r',
      (Receiver.initial .initial).Reads .tcpCameraSession freshBuffers twoBytes r' :=
    ⟨_, [twoBytes.take 24, [7, 8]], [], rfl, rfl, Or.inr ⟨rfl, by decide⟩⟩
  exact ⟨r', hr, inBounds_iff_fits (by decide) (fun _ => rfl) hr⟩

/-- Over a buffer of 16 bytes a body receive of 100 bytes is issued, and nothing is rejected. -/
theorem hundredBytes_not_inBounds : ∃ r',
    (Receiver.initial .initial).Reads .tcpCameraSession freshBuffers hundredBytes r' ∧
    ¬ r'.InBounds ∧ r'.pending = some .readBody := by
  refine ⟨_, ⟨[hundredBytes], [], rfl, rfl, Or.inr ⟨rfl, by decide⟩⟩, fun h => ?_, rfl⟩
  have := h.1 _ (List.mem_singleton_self _)
  revert this
  decide

end AugmentedNormalcy.Tcp
