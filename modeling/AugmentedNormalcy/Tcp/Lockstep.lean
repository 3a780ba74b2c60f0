import AugmentedNormalcy.Tcp.Bounds
import AugmentedNormalcy.Tcp.WriteChain

/-!
# The senders in step with the parser

A write chain and the parser that has read the bytes that the chain has sent are at the same place
of the same message (`Within`), or between two messages (`Between`), whatever number of bytes each
send transmits. So a chain that works through its queue leads the parser through the messages that
left the queue (`Lockstep`), and the parser delivers the ones that were not read into the leaky
buffer (`survivors`).

The bytes of a send are on the wire before its handler runs, and only the handler changes the
chain's header. `Lockstep` therefore compares the header with the parser from before these bytes.
Empty packets are no bytes for the parser, and everything here holds up to `settle`.
-/

namespace AugmentedNormalcy.Tcp

open Bytes

/-- The contents of the messages, without those whose number among the calls of `GetReadBuffer` is
that of the leaky buffer. -/
def survivors (leaky : ℕ → Bool) (messages : List Message) : List (List UInt8) :=
  (messages.zipIdx.filter fun m => !leaky m.2).map fun m => m.1.content

theorem survivors_concat (leaky : ℕ → Bool) (messages : List Message) (message : Message) :
    survivors leaky (messages ++ [message]) =
      if leaky messages.length then survivors leaky messages
      else survivors leaky messages ++ [message.content] := by
  simp only [survivors, List.zipIdx_append, List.filter_append, List.map_append, Nat.zero_add,
    List.zipIdx_singleton]
  cases h : leaky messages.length <;> simp [h]

theorem survivors_prefix (leaky : ℕ → Bool) {messages messages' : List Message}
    (h : messages <+: messages') : survivors leaky messages <+: survivors leaky messages' := by
  obtain ⟨rest, rfl⟩ := h
  simp only [survivors, List.zipIdx_append, List.filter_append, List.map_append]
  exact List.prefix_append _ _

theorem survivors_sublist (leaky : ℕ → Bool) (messages : List Message) :
    (survivors leaky messages).Sublist (messages.map Message.content) := by
  have hmap : messages.map Message.content = messages.zipIdx.map fun m => m.1.content := by
    conv_lhs => rw [← List.zipIdx_map_fst 0 messages, List.map_map]
    rfl
  rw [hmap]
  exact List.filter_sublist.map _

/-- The phase of the parser that waits for the bytes of a send. -/
def SendKind.phase : SendKind → ReadPhase
  | writeHeader last_bytes => .header last_bytes
  | writeBody => .body

/-- The bytes that a send is started with. -/
def SendKind.outgoing (h : PacketHeader) (message : Message) : SendKind → List UInt8
  | writeHeader last_bytes => slice h.data last_bytes (PacketHeader.size - last_bytes)
  | writeBody => slice message.memory h.bytesWritten h.dataLength

/-- The bytes of a send that are on the wire. -/
def Send.sent (send : Send) : List UInt8 :=
  match send.result with
  | some (.ok n) => send.bytes.take n
  | _ => []

/-- The parser has read the messages `finished` and waits for the next. -/
structure Between (leaky : ℕ → Bool) (finished : List Message) (p : Parser) : Prop where
  phase : p.phase = .header 0
  acc : p.acc = []
  held : p.held = false
  reads : p.reads = finished.length
  delivered : p.delivered = survivors leaky finished

/-- The parser has read the messages `finished`, and is in the packet of `message` that the header
`h` describes, where a send of the given kind goes on. -/
structure Within (leaky : ℕ → Bool) (finished : List Message) (message : Message)
    (h : PacketHeader) (kind : SendKind) (p : Parser) : Prop where
  total : h.total_bytes = message.size
  fits : h.bytes_written + h.data_length ≤ message.size
  ok : h.front = 0 ∧ h.back = 0
  phase : p.phase = kind.phase
  header : ∀ got, kind = .writeHeader got → got < PacketHeader.size ∧ ∀ i < got, p.data i = h.data i
  body : kind = .writeBody → p.held = true ∧ p.left = h.data_length ∧ p.total = h.total_bytes
  acc : p.acc = slice message.memory 0 h.bytes_written
  reads : p.reads = if p.held then finished.length + 1 else finished.length
  delivered : p.delivered = survivors leaky finished

section

variable {leaky : ℕ → Bool} {finished : List Message} {message : Message} {h : PacketHeader}
  {p : Parser}

theorem Between.settle (hp : Between leaky finished p) : p.settle leaky = p :=
  Parser.settle_of_left (by simp [hp.phase])

/-- The first packet of a message. -/
theorem Between.setupHeader (hp : Between leaky finished p) (h : PacketHeader)
    (hsize : message.size < 2 ^ 32) :
    Within leaky finished message (h.setupHeader message.size) (.writeHeader 0) p := by
  obtain ⟨hwritten, -, -, hfront, hback⟩ := h.setupHeader_spec message.size
  obtain ⟨htotal, hfits⟩ := PacketHeader.Counts.setupHeader h hsize
  refine ⟨htotal, hfits, ⟨hfront, hback⟩, hp.phase, fun got hg => ?_, fun hg => (by cases hg), ?_,
    ?_, hp.delivered⟩
  · cases hg
    exact ⟨by decide, fun i hi => absurd hi (Nat.not_lt_zero i)⟩
  · rw [hp.acc, hwritten]
    rfl
  · rw [hp.reads, hp.held]
    rfl

namespace Within

variable {kind : SendKind}

theorem counts (hp : Within leaky finished message h kind p) : h.Counts message.size :=
  ⟨hp.total, hp.fits⟩

theorem bytesWritten (hp : Within leaky finished message h kind p) :
    h.bytesWritten = h.bytes_written := hp.counts.bytesWritten

theorem length_acc (hp : Within leaky finished message h kind p) :
    p.acc.length = h.bytes_written := by
  rw [hp.acc, length_slice]

theorem not_overruns {cap : ℕ} (hp : Within leaky finished message h kind p)
    (hcap : message.size ≤ cap) : ¬ p.Overruns cap := by
  rintro ⟨hphase, hover⟩
  cases kind with
  | writeHeader got => simp [hp.phase, SendKind.phase] at hphase
  | writeBody =>
    have := hp.fits
    rw [hp.length_acc, (hp.body rfl).2.1] at hover
    omega

/-- Bytes of a header that do not complete it. -/
theorem header_bytes {got n : ℕ} (hp : Within leaky finished message h (.writeHeader got) p)
    (hlt : got + n < PacketHeader.size) :
    Within leaky finished message h (.writeHeader (got + n))
      ((slice h.data got n).foldl (Parser.byte leaky) p) := by
  rw [Parser.foldl_header hp.phase (by rwa [length_slice])]
  refine ⟨hp.total, hp.fits, hp.ok, ?_, fun got' hg => ?_, fun hg => (by cases hg), hp.acc,
    hp.reads, hp.delivered⟩
  · rw [Parser.addHeader, length_slice]
    rfl
  · cases hg
    refine ⟨hlt, fun i hi => ?_⟩
    exact overwrite_slice_of_lt (fun i hi => (hp.header got rfl).2 i hi) hi

/-- Bytes that complete a header: its fields are those of the sender's header. -/
theorem header_end {got n : ℕ} (hp : Within leaky finished message h (.writeHeader got) p)
    (heq : got + n = PacketHeader.size) :
    Within leaky finished message h .writeBody
      ((slice h.data got n).foldl (Parser.byte leaky) p) := by
  rw [Parser.foldl_header_end hp.phase (hp.header got rfl).1 (by rwa [length_slice])]
  -- The parser has the bytes of the sender's header.
  have hfield : ∀ off k, off + k ≤ PacketHeader.size →
      readLE (p.addHeader got (slice h.data got n)).data off k = readLE h.data off k := by
    intro off k hle
    refine congrArg leNat (slice_congr fun i hi => ?_)
    exact overwrite_slice_of_lt (fun i hi => (hp.header got rfl).2 i hi) (by omega)
  have hok : readLE (p.addHeader got (slice h.data got n)).data 0 4 = 0 ∧
      readLE (p.addHeader got (slice h.data got n)).data 20 4 = 0 := by
    rw [hfield 0 4 (by decide), hfield 20 4 (by decide)]
    exact hp.ok
  rw [Parser.endHeader, if_pos hok]
  refine ⟨hp.total, hp.fits, hp.ok, rfl, fun got' hg => (by cases hg), fun _ => ⟨rfl, ?_, ?_⟩,
    hp.acc, ?_, hp.delivered⟩
  · exact hfield 12 4 (by decide)
  · exact hfield 16 4 (by decide)
  · have hreads := hp.reads
    change (if p.held then p.reads else p.reads + 1) = finished.length + 1
    cases hheld : p.held <;> simp [hheld] at hreads ⊢ <;> exact hreads

/-- Bytes of a body that do not complete it. -/
theorem body_bytes {n : ℕ} (hp : Within leaky finished message h .writeBody p)
    (hlt : n < h.dataLength) :
    Within leaky finished message (h.offsetPacket n) .writeBody
      ((slice message.memory h.bytesWritten n).foldl (Parser.byte leaky) p) := by
  have hsize := hp.counts.size_lt
  have hfits := hp.fits
  obtain ⟨hheld, hleft, htotal⟩ := hp.body rfl
  obtain ⟨⟨htotal_bytes, hfits'⟩, hwritten⟩ := hp.counts.offsetPacket hlt.le
  change n < h.data_length at hlt
  rw [Parser.foldl_body hp.phase (by rwa [length_slice, hleft])]
  obtain ⟨hlength, -, htotal', hdata⟩ := h.offsetPacket_spec hlt.le (by omega)
  -- `OffsetPacket` changes the length only.
  have hfield : ∀ off k, off + k ≤ 12 ∨ 16 ≤ off →
      readLE (h.offsetPacket n).data off k = readLE h.data off k := by
    intro off k hd
    rw [hdata]
    exact readLE_overwrite_of_disjoint (by rw [length_leBytes]; exact hd)
  refine ⟨htotal_bytes, hfits', ⟨?_, ?_⟩, hp.phase, fun got hg => (by cases hg),
    fun _ => ⟨hheld, ?_, ?_⟩, ?_, hp.reads, hp.delivered⟩
  · exact (hfield 0 4 (.inl (by decide))).trans hp.ok.1
  · exact (hfield 20 4 (.inr (by decide))).trans hp.ok.2
  · rw [Parser.left_addBody, length_slice, hleft, hlength]
  · rw [Parser.total_addBody, htotal, htotal']
  · rw [hwritten, slice_append, ← hp.acc, Nat.zero_add, hp.bytesWritten]
    rfl

/-- The bytes of a body end its packet. -/
theorem settle_body (hp : Within leaky finished message h .writeBody p) :
    ((slice message.memory h.bytesWritten h.dataLength).foldl (Parser.byte leaky) p).settle leaky =
      Parser.endPacket leaky { p with
        acc := slice message.memory 0 (h.bytes_written + h.data_length)
        consumed := p.consumed + h.dataLength } := by
  have hacc : p.acc ++ slice message.memory h.bytesWritten h.dataLength =
      slice message.memory 0 (h.bytes_written + h.data_length) := by
    rw [slice_append, ← hp.acc, Nat.zero_add, hp.bytesWritten]
    rfl
  obtain ⟨body, hbody⟩ : ∃ body, slice message.memory h.bytesWritten h.dataLength = body :=
    ⟨_, rfl⟩
  have hlength : body.length = h.dataLength := by rw [← hbody, length_slice]
  have hleft : body.length = p.left := by
    rw [hlength, (hp.body rfl).2.1]
    rfl
  rw [hbody] at hacc ⊢
  calc (body.foldl (Parser.byte leaky) p).settle leaky
      = ((p.addBody body).endPacket leaky).settle leaky :=
        Parser.settle_foldl_body_end hp.phase hleft
    _ = (p.addBody body).endPacket leaky :=
        Parser.settle_of_left (by simp [Parser.endPacket_phase])
    _ = Parser.endPacket leaky { p with
          acc := p.acc ++ body
          consumed := p.consumed + body.length } := Parser.endPacket_addBody leaky p body
    _ = _ := by rw [hacc, hlength]

/-- What the header counts after the body, and when the message is complete. -/
theorem isFinished (hp : Within leaky finished message h .writeBody p) :
    h.isFinished.1.bytes_written = h.bytes_written + h.data_length ∧
      (h.isFinished.2 = true ↔ message.size = h.bytes_written + h.data_length) :=
  hp.counts.isFinished

/-- The parser ends the message when the sender does. -/
theorem total_le_iff (hp : Within leaky finished message h .writeBody p) :
    readLE (overwrite p.data 12 [0, 0, 0, 0]) 16 4 ≤
      (slice message.memory 0 (h.bytes_written + h.data_length)).length ↔
      h.isFinished.2 = true := by
  have hfits := hp.fits
  have htotal : readLE (overwrite p.data 12 [0, 0, 0, 0]) 16 4 = message.size := by
    rw [readLE_overwrite_of_disjoint (Or.inr (by simp)), ← hp.total]
    exact (hp.body rfl).2.2
  rw [htotal, length_slice, hp.isFinished.2]
  omega

/-- The bytes of the last body end the message. -/
theorem endMessage (hp : Within leaky finished message h .writeBody p)
    (hf : h.isFinished.2 = true) :
    Between leaky (finished ++ [message]) (((slice message.memory h.bytesWritten
      h.dataLength).foldl (Parser.byte leaky) p).settle leaky) := by
  have hsize := hp.isFinished.2.mp hf
  have hreads := hp.reads
  rw [(hp.body rfl).1, if_pos rfl] at hreads
  rw [hp.settle_body, Parser.endPacket]
  dsimp only
  rw [Parser.total, if_pos (hp.total_le_iff.mpr hf)]
  refine ⟨rfl, rfl, rfl, ?_, ?_⟩
  · rw [hreads, List.length_append]
    rfl
  · rw [survivors_concat, hreads, Nat.add_sub_cancel, hp.delivered, ← hsize]
    rfl

/-- The bytes of a body before the last one lead to the next packet. -/
theorem nextPacket (hp : Within leaky finished message h .writeBody p)
    (hf : h.isFinished.2 = false) :
    Within leaky finished message h.isFinished.1.setupNextHeader (.writeHeader 0)
      (((slice message.memory h.bytesWritten h.dataLength).foldl
        (Parser.byte leaky) p).settle leaky) := by
  have hfits := hp.fits
  have htotal : h.isFinished.1.total_bytes = message.size := hp.total
  obtain ⟨⟨htotal_bytes, hfits'⟩, hwritten⟩ := hp.counts.setupNextHeader
  obtain ⟨-, -, -, hfront, hback⟩ :=
    h.isFinished.1.setupNextHeader_spec (by rw [hp.isFinished.1, htotal]; exact hfits)
  rw [hp.settle_body, Parser.endPacket]
  dsimp only
  rw [Parser.total, if_neg (by rw [hp.total_le_iff, hf]; exact Bool.false_ne_true)]
  -- The header of the next packet says what is left of the message.
  refine ⟨htotal_bytes, hfits', ⟨?_, ?_⟩, rfl, fun got hg => ?_, fun hg => (by cases hg), ?_,
    hp.reads, hp.delivered⟩
  · rw [hfront]
    exact hp.ok.1
  · rw [hback]
    exact hp.ok.2
  · cases hg
    exact ⟨by decide, fun i hi => absurd hi (Nat.not_lt_zero i)⟩
  · rw [hwritten]

/-- Wherever a send is cut, the parser is in the message, or behind it. -/
theorem outgoing_bytes {n : ℕ} (hp : Within leaky finished message h kind p)
    (hn : n ≤ (kind.outgoing h message).length) :
    ∃ q, (((kind.outgoing h message).take n).foldl (Parser.byte leaky) p).settle leaky =
        q.settle leaky ∧
      (Between leaky (finished ++ [message]) q ∨
        ∃ h' kind', Within leaky finished message h' kind' q) := by
  -- A send of a header ends in it or behind it, one of a body in it or behind the packet.
  cases kind with
  | writeHeader got =>
    rw [SendKind.outgoing, length_slice] at hn
    have hgot := (hp.header got rfl).1
    rw [SendKind.outgoing, take_slice hn]
    by_cases hlt : got + n < PacketHeader.size
    · exact ⟨_, rfl, .inr ⟨h, _, hp.header_bytes hlt⟩⟩
    · exact ⟨_, rfl, .inr ⟨h, _, hp.header_end (by omega)⟩⟩
  | writeBody =>
    rw [SendKind.outgoing, length_slice] at hn
    rw [SendKind.outgoing, take_slice hn]
    by_cases hlt : n < h.dataLength
    · exact ⟨_, rfl, .inr ⟨_, _, hp.body_bytes hlt⟩⟩
    · have heq : n = h.dataLength := by omega
      subst heq
      refine ⟨_, (Parser.settle_settle leaky _).symm, ?_⟩
      cases hf : h.isFinished.2 with
      | true => exact .inl (hp.endMessage hf)
      | false => exact .inr ⟨_, _, hp.nextPacket hf⟩

/-- An empty packet leads to the next packet, or behind the message. -/
theorem settle_cases (hp : Within leaky finished message h kind p) :
    Between leaky (finished ++ [message]) (p.settle leaky) ∨
      ∃ h' kind', Within leaky finished message h' kind' (p.settle leaky) := by
  by_cases hempty : p.phase = .body ∧ p.left = 0
  · cases kind with
    | writeHeader got => simp [hp.phase, SendKind.phase] at hempty
    | writeBody =>
      have hzero : h.dataLength = 0 := (hp.body rfl).2.1.symm.trans hempty.2
      have hnil : slice message.memory h.bytesWritten h.dataLength = [] := by
        rw [hzero]
        rfl
      cases hf : h.isFinished.2 with
      | true =>
        have hend := hp.endMessage hf
        rw [hnil] at hend
        exact .inl hend
      | false =>
        have hnext := hp.nextPacket hf
        rw [hnil] at hnext
        exact .inr ⟨_, _, hnext⟩
  · have hs : p.settle leaky = p := if_neg hempty
    rw [hs]
    exact .inr ⟨h, kind, hp⟩

/-- The bytes of a send lead to no packet that reaches past a buffer with room for the message. -/
theorem clear_outgoing {cap n : ℕ} (hp : Within leaky finished message h kind p)
    (hcap : message.size ≤ cap) (hn : n ≤ (kind.outgoing h message).length) :
    p.Clear cap leaky ((kind.outgoing h message).take n) := by
  -- No header says more than the message has.
  cases kind with
  | writeHeader got =>
    rw [SendKind.outgoing, length_slice] at hn
    rw [SendKind.outgoing, take_slice hn]
    by_cases hlt : got + n < PacketHeader.size
    · exact Parser.clear_header hp.phase (by rwa [length_slice])
    · have heq : got + n = PacketHeader.size := by
        have := (hp.header got rfl).1
        omega
      rw [Parser.clear_header_end hp.phase (by rwa [length_slice])]
      exact (hp.header_end heq).not_overruns hcap
  | writeBody =>
    rw [SendKind.outgoing, length_slice] at hn
    refine (Parser.clear_body hp.phase ?_).mpr (hp.not_overruns hcap)
    rw [SendKind.outgoing, take_slice hn, length_slice, (hp.body rfl).2.1]
    exact hn

end Within

end

/-! ## The chain -/

/-- A queue with something in it is being sent. -/
def WriteChain.Busy (w : WriteChain) : Prop := w.sends = [] → w.queue = []

/-- Nothing is being sent: the parser has read the messages that left the queue. -/
def Waiting (leaky : ℕ → Bool) (finished : List Message) (w : WriteChain) (p : Parser) : Prop :=
  w.sends = [] ∧ Between leaky finished (p.settle leaky)

/-- The front of the queue is being sent: `q` is the parser from before the bytes of the send. -/
structure Sending (leaky : ℕ → Bool) (finished : List Message) (w : WriteChain) (send : Send)
    (message : Message) (q p : Parser) : Prop where
  sends : w.sends = [send]
  front : ∃ queue, w.queue = message :: queue
  bytes : send.bytes = send.kind.outgoing w.header message
  within : Within leaky finished message w.header send.kind q
  result : send.result = none ∨ ∃ n, send.result = some (.ok n) ∧ send.Transmits n
  parsed : p.settle leaky = (send.sent.foldl (Parser.byte leaky) q).settle leaky

namespace Sending

variable {leaky : ℕ → Bool} {finished : List Message} {w : WriteChain} {send : Send}
  {message : Message} {q p : Parser}

theorem finish (h : Sending leaky finished w send message q p) : (w.finish send).sends = [] := by
  simp only [WriteChain.finish, h.sends, List.erase_cons_head]

/-- What the send transmitted was read from where it was started. -/
theorem parsed_of_ok (h : Sending leaky finished w send message q p) {n : ℕ}
    (hresult : send.result = some (.ok n)) :
    n ≤ (send.kind.outgoing w.header message).length ∧ p.settle leaky =
      (((send.kind.outgoing w.header message).take n).foldl (Parser.byte leaky) q).settle
        leaky := by
  have hparsed := h.parsed
  rw [Send.sent, hresult] at hparsed
  rw [← h.bytes]
  refine ⟨?_, hparsed⟩
  obtain hnone | ⟨n', hok, hn⟩ := h.result
  · simp [hnone] at hresult
  · rw [hok] at hresult
    cases hresult
    exact hn.1

end Sending

/-- The parser has read what the chain has sent of the messages `accepted`. -/
def Lockstep (leaky : ℕ → Bool) (accepted : List Message) (w : WriteChain) (p : Parser) : Prop :=
  w.fault = false ∧ ∃ finished, accepted = finished ++ w.queue ∧
    (Waiting leaky finished w p ∨ ∃ send message q, Sending leaky finished w send message q p)

namespace Lockstep

variable {leaky : ℕ → Bool} {accepted : List Message} {w : WriteChain} {p : Parser}

/-- A chain that has not sent anything, and a parser before the first byte. -/
theorem initial (leaky : ℕ → Bool) (header : PacketHeader) (released : List Memory)
    (data : Memory) :
    Lockstep leaky [] ⟨header, [], released, [], 0, false⟩ (Parser.initial data) := by
  have hp : Between leaky [] (Parser.initial data) := ⟨rfl, rfl, rfl, rfl, rfl⟩
  refine ⟨rfl, [], rfl, .inl ⟨rfl, ?_⟩⟩
  rw [hp.settle]
  exact hp

theorem settle_congr {p' : Parser} (hp : p.settle leaky = p'.settle leaky)
    (h : Lockstep leaky accepted w p) : Lockstep leaky accepted w p' := by
  obtain ⟨hfault, finished, hsplit, ⟨hsends, hbetween⟩ | ⟨send, message, q, hs⟩⟩ := h
  · exact ⟨hfault, finished, hsplit, .inl ⟨hsends, hp ▸ hbetween⟩⟩
  · exact ⟨hfault, finished, hsplit, .inr ⟨send, message, q, hs.sends, hs.front, hs.bytes,
      hs.within, hs.result, hp.symm.trans hs.parsed⟩⟩

/-- What is in step is the header, the queue, and the send. -/
theorem of_eq {w' : WriteChain} (h : Lockstep leaky accepted w p) (hfault : w'.fault = w.fault)
    (hqueue : w'.queue = w.queue) (hsends : w'.sends = w.sends) (hheader : w'.header = w.header) :
    Lockstep leaky accepted w' p := by
  obtain ⟨hfault', finished, hsplit, ⟨hnone, hbetween⟩ | ⟨send, message, q, hs⟩⟩ := h
  · exact ⟨hfault.trans hfault', finished, hqueue ▸ hsplit, .inl ⟨hsends.trans hnone, hbetween⟩⟩
  · exact ⟨hfault.trans hfault', finished, hqueue ▸ hsplit, .inr ⟨send, message, q,
      hsends.trans hs.sends, hqueue ▸ hs.front, hheader ▸ hs.bytes, hheader ▸ hs.within, hs.result,
      hs.parsed⟩⟩

theorem push (h : Lockstep leaky accepted w p) (message : Message) :
    Lockstep leaky (accepted ++ [message]) (w.push message) p := by
  obtain ⟨hfault, finished, rfl, hw⟩ := h
  refine ⟨hfault, finished, List.append_assoc .., hw.imp id ?_⟩
  rintro ⟨send, front, q, hs⟩
  obtain ⟨queue, hq⟩ := hs.front
  refine ⟨send, front, q, hs.sends, ⟨queue ++ [message], ?_⟩, hs.bytes, hs.within, hs.result,
    hs.parsed⟩
  rw [WriteChain.push, hq]
  rfl

section

variable {finished : List Message} {message : Message} {queue : List Message} {q : Parser}

/-- The send of a header is started where the parser waits for it. -/
theorem writeHeader {got : ℕ} (hfault : w.fault = false) (hsplit : accepted = finished ++ w.queue)
    (hsends : w.sends = []) (hqueue : w.queue = message :: queue)
    (hq : Within leaky finished message w.header (.writeHeader got) q)
    (hp : p.settle leaky = q.settle leaky) (socket : ℕ) :
    Lockstep leaky accepted (w.writeHeader socket got) p := by
  refine ⟨hfault, finished, hsplit, .inr ⟨⟨.writeHeader got, socket, w.current,
    slice w.header.data got (PacketHeader.size - got), none⟩, message, q, ?_, ⟨queue, hqueue⟩, rfl,
    hq, .inl rfl, hp⟩⟩
  simp only [WriteChain.writeHeader, hsends]

/-- The send of a body is started where the parser waits for it. -/
theorem writeBody (hfault : w.fault = false) (hsplit : accepted = finished ++ w.queue)
    (hsends : w.sends = []) (hqueue : w.queue = message :: queue)
    (hq : Within leaky finished message w.header .writeBody q)
    (hp : p.settle leaky = q.settle leaky) (socket : ℕ) :
    Lockstep leaky accepted (w.writeBody socket) p := by
  rw [WriteChain.writeBody_of_cons hqueue]
  refine ⟨hfault, finished, hsplit, .inr ⟨⟨.writeBody, socket, message.serial,
    slice message.memory w.header.bytesWritten w.header.dataLength, none⟩, message, q, ?_,
    ⟨queue, hqueue⟩, rfl, hq, .inl rfl, hp⟩⟩
  simp only [hsends]

/-- The front is started where the parser waits for a message. -/
theorem start_of_between (hfault : w.fault = false) (hsplit : accepted = finished ++ w.queue)
    (hsends : w.sends = []) (hqueue : w.queue ≠ [])
    (hsize : ∀ message ∈ accepted, message.size < 2 ^ 32) (hq : Between leaky finished q)
    (hp : p.settle leaky = q.settle leaky) (socket : ℕ) :
    Lockstep leaky accepted (w.start socket) p ∧ (w.start socket).Busy := by
  obtain ⟨message, queue, hcons⟩ := List.exists_cons_of_ne_nil hqueue
  have hmem : message ∈ accepted := by simp [hsplit, hcons]
  rw [WriteChain.start, WriteChain.setupHeader_of_cons hcons]
  exact ⟨writeHeader (w := { w with
    header := w.header.setupHeader message.size
    current := message.serial }) hfault hsplit hsends hcons
    (hq.setupHeader w.header (hsize message hmem)) hp socket, fun hnil => by cases hnil⟩

end

/-- A message is started when nothing is being sent. -/
theorem start (h : Lockstep leaky accepted w p) (hsends : w.sends = []) (hqueue : w.queue ≠ [])
    (hsize : ∀ message ∈ accepted, message.size < 2 ^ 32) (socket : ℕ) :
    Lockstep leaky accepted (w.start socket) p ∧ (w.start socket).Busy := by
  obtain ⟨hfault, finished, hsplit, ⟨-, hbetween⟩ | ⟨send, message, q, hs⟩⟩ := h
  · exact start_of_between hfault hsplit hsends hqueue hsize hbetween
      (Parser.settle_settle leaky p).symm socket
  · rw [hs.sends] at hsends
    cases hsends

/-- The one send that is outstanding. -/
theorem exists_sending (h : Lockstep leaky accepted w p) {send : Send} (hmem : send ∈ w.sends) :
    w.fault = false ∧ ∃ finished message q, accepted = finished ++ w.queue ∧
      Sending leaky finished w send message q p := by
  obtain ⟨hfault, finished, hsplit, ⟨hsends, -⟩ | ⟨send', message, q, hs⟩⟩ := h
  · rw [hsends] at hmem
    cases hmem
  · rw [hs.sends, List.mem_singleton] at hmem
    subst hmem
    exact ⟨hfault, finished, message, q, hsplit, hs⟩

/-- No send has failed. -/
theorem result (h : Lockstep leaky accepted w p) {send : Send} (hmem : send ∈ w.sends)
    {result : SendResult} (hresult : send.result = some result) : ∃ n, result = .ok n := by
  obtain ⟨-, finished, message, q, -, hs⟩ := h.exists_sending hmem
  obtain hnone | ⟨n, hok, -⟩ := hs.result
  · simp [hnone] at hresult
  · exact ⟨n, by simpa [hok] using hresult.symm⟩

/-- A chain has come to rest when its send can neither transmit anything nor be handled. -/
theorem sends_eq_nil (h : Lockstep leaky accepted w p)
    (hblocked : ∀ send ∈ w.sends, (send.result = none → ∀ n, ¬ send.Transmits n) ∧
      ∀ result, send.result ≠ some result) : w.sends = [] := by
  obtain ⟨-, finished, -, ⟨hsends, -⟩ | ⟨send, message, q, hs⟩⟩ := h
  · exact hsends
  · obtain ⟨hnone, hsome⟩ := hblocked send (by simp [hs.sends])
    obtain hresult | ⟨n, hresult, -⟩ := hs.result
    · refine absurd ⟨le_rfl, fun hzero => ?_⟩ (hnone hresult send.bytes.length)
      exact List.length_eq_zero_iff.mp hzero
    · exact absurd hresult (hsome _)

/-- The bytes that a send transmits are clear for the parser, which then has read them. -/
theorem transmit {cap : ℕ} (h : Lockstep leaky accepted w p) (hover : ¬ p.Overruns cap)
    (hsize : ∀ message ∈ accepted, message.size ≤ cap) {send : Send} (hmem : send ∈ w.sends)
    (hresult : send.result = none) {n : ℕ} (hn : send.Transmits n) :
    p.Clear cap leaky (send.bytes.take n) ∧
      Lockstep leaky accepted (w.settle send (.ok n))
        ((send.bytes.take n).foldl (Parser.byte leaky) p) := by
  obtain ⟨hfault, finished, message, q, hsplit, hs⟩ := h.exists_sending hmem
  obtain ⟨queue, hqueue⟩ := hs.front
  have hsent : send.sent = [] := by rw [Send.sent, hresult]
  have hparsed : p.settle leaky = q.settle leaky := by rw [hs.parsed, hsent, List.foldl_nil]
  have hcap : message.size ≤ cap := hsize message (by simp [hsplit, hqueue])
  have hover' := hs.within.not_overruns hcap
  refine ⟨?_, hfault, finished, hsplit, .inr ⟨{ send with result := some (.ok n) }, message, q,
    ?_, hs.front, hs.bytes, hs.within, .inr ⟨n, rfl, hn⟩, Parser.settle_foldl_congr hparsed _⟩⟩
  · rw [← Parser.clear_settle hover, hparsed, Parser.clear_settle hover']
    rw [hs.bytes]
    exact hs.within.clear_outgoing hcap (hs.bytes ▸ hn.1)
  · simp only [WriteChain.settle, hs.sends, List.erase_cons_head]

/-- The handler of the send of a header goes on where the parser is. -/
theorem onHeader (h : Lockstep leaky accepted w p) {send : Send} (hmem : send ∈ w.sends)
    {last_bytes n : ℕ} (hkind : send.kind = .writeHeader last_bytes)
    (hresult : send.result = some (.ok n)) (socket : ℕ) :
    ∃ w', (w.finish send).onHeader socket last_bytes n = some w' ∧ w'.sends ≠ [] ∧
      Lockstep leaky accepted w' p := by
  obtain ⟨hfault, finished, message, q, hsplit, hs⟩ := h.exists_sending hmem
  obtain ⟨queue, hqueue⟩ := hs.front
  have hsends := hs.finish
  have hq := hs.within
  obtain ⟨hn, hparsed⟩ := hs.parsed_of_ok hresult
  rw [hkind] at hq hn hparsed
  rw [SendKind.outgoing, length_slice] at hn
  rw [SendKind.outgoing, take_slice hn] at hparsed
  have hgot := (hq.header last_bytes rfl).1
  unfold WriteChain.onHeader
  dsimp only
  -- The rest of the header is sent, or the body.
  by_cases hlt : last_bytes + n < PacketHeader.size
  · rw [if_neg hlt.ne, if_pos hlt]
    exact ⟨_, rfl, List.cons_ne_nil _ _, writeHeader (w := w.finish send) hfault hsplit hsends
      hqueue (hq.header_bytes hlt) hparsed socket⟩
  · have heq : last_bytes + n = PacketHeader.size := by omega
    rw [if_pos heq]
    exact ⟨_, rfl, WriteChain.sends_writeBody_ne_nil (w := w.finish send) hqueue socket,
      writeBody (w := w.finish send) hfault hsplit hsends hqueue (hq.header_end heq) hparsed socket⟩

/-- The handler of the send of a body goes on where the parser is: in the body, at the next packet,
or at the next message. -/
theorem onBody (h : Lockstep leaky accepted w p)
    (hsize : ∀ message ∈ accepted, message.size < 2 ^ 32) {send : Send} (hmem : send ∈ w.sends)
    (hkind : send.kind = .writeBody) {n : ℕ} (hresult : send.result = some (.ok n)) (socket : ℕ) :
    ((w.finish send).onBody socket n).Busy ∧
      Lockstep leaky accepted ((w.finish send).onBody socket n) p := by
  obtain ⟨hfault, finished, message, q, hsplit, hs⟩ := h.exists_sending hmem
  obtain ⟨queue, hqueue⟩ := hs.front
  have hsends := hs.finish
  have hq := hs.within
  obtain ⟨hn, hparsed⟩ := hs.parsed_of_ok hresult
  rw [hkind] at hq hn hparsed
  rw [SendKind.outgoing, length_slice] at hn
  rw [SendKind.outgoing, take_slice hn] at hparsed
  -- The rest of the body is sent,
  by_cases hlt : n < w.header.dataLength
  · rw [WriteChain.onBody_of_ne (w := w.finish send) hlt.ne]
    exact ⟨fun hnil => absurd hnil (WriteChain.sends_writeBody_ne_nil
        (w := { w.finish send with header := w.header.offsetPacket n }) hqueue socket),
      writeBody (w := { w.finish send with header := w.header.offsetPacket n }) hfault hsplit
        hsends hqueue (hq.body_bytes hlt) hparsed socket⟩
  have heq : n = w.header.dataLength := by omega
  rw [heq] at hparsed
  have hparsed := hparsed.trans (Parser.settle_settle leaky _).symm
  cases hf : w.header.isFinished.2 with
  -- or the next packet of the message,
  | false =>
    rw [WriteChain.onBody_of_unfinished (w := w.finish send) heq hf]
    exact ⟨fun hnil => (by cases hnil),
      writeHeader (w := { w.finish send with header := w.header.isFinished.1.setupNextHeader })
        hfault hsplit hsends hqueue (hq.nextPacket hf) hparsed socket⟩
  -- or the next message, if there is one.
  | true =>
    have hbetween := hq.endMessage hf
    have hsplit' : accepted = (finished ++ [message]) ++ queue := by
      rw [hsplit, hqueue, List.append_assoc]
      rfl
    rw [WriteChain.onBody_of_finished (w := w.finish send) heq hf hqueue]
    dsimp only
    split
    · refine ⟨fun _ => ‹_›, hfault, finished ++ [message], hsplit', .inl ⟨hsends, ?_⟩⟩
      rw [hparsed, hbetween.settle]
      exact hbetween
    · rename_i hne
      have hstart := start_of_between (w := { w.finish send with
        header := w.header.isFinished.1
        queue := queue
        released := w.released ++ [message.memory] }) hfault hsplit' hsends hne hsize hbetween
        hparsed socket
      exact ⟨hstart.2, hstart.1⟩

theorem sends_of_queue_nil (h : Lockstep leaky accepted w p) (hqueue : w.queue = []) :
    w.sends = [] := by
  obtain ⟨-, finished, -, ⟨hsends, -⟩ | ⟨send, message, q, hs⟩⟩ := h
  · exact hsends
  · obtain ⟨queue, hcons⟩ := hs.front
    rw [hqueue] at hcons
    cases hcons

/-- A chain that has sent everything leaves the parser behind the last message. -/
theorem between (h : Lockstep leaky accepted w p) (hqueue : w.queue = []) (hsends : w.sends = []) :
    Between leaky accepted (p.settle leaky) := by
  obtain ⟨-, finished, hsplit, ⟨-, hq⟩ | ⟨send, message, q, hs⟩⟩ := h
  · rw [hqueue, List.append_nil] at hsplit
    rw [hsplit]
    exact hq
  · rw [hs.sends] at hsends
    cases hsends

/-- The parser has not rejected anything, and has delivered nothing but what it should. -/
theorem settled (h : Lockstep leaky accepted w p) : (p.settle leaky).phase ≠ .rejected ∧
    (p.settle leaky).delivered <+: survivors leaky accepted := by
  -- Between two messages the parser has delivered those before.
  have hbetween : ∀ {finished rest : List Message} {q : Parser}, Between leaky finished q →
      accepted = finished ++ rest →
      q.phase ≠ .rejected ∧ q.delivered <+: survivors leaky accepted := by
    rintro finished rest q hq rfl
    refine ⟨by simp [hq.phase], ?_⟩
    rw [hq.delivered]
    exact survivors_prefix leaky (List.prefix_append ..)
  obtain ⟨-, finished, hsplit, ⟨-, hq⟩ | ⟨send, message, q, hs⟩⟩ := h
  · exact hbetween hq hsplit
  obtain ⟨queue, hqueue⟩ := hs.front
  have hsplit' : accepted = (finished ++ [message]) ++ queue := by
    rw [hsplit, hqueue, List.append_assoc]
    rfl
  -- What the send has transmitted leaves the parser in the message or behind it.
  obtain ⟨q', hq', hor⟩ : ∃ q', p.settle leaky = q'.settle leaky ∧
      (Between leaky (finished ++ [message]) q' ∨
        ∃ h' kind', Within leaky finished message h' kind' q') := by
    obtain hnone | ⟨n, hok, -⟩ := hs.result
    · refine ⟨q, ?_, .inr ⟨_, _, hs.within⟩⟩
      rw [hs.parsed, Send.sent, hnone]
      rfl
    · obtain ⟨hn, hparsed⟩ := hs.parsed_of_ok hok
      obtain ⟨q', hq', hor⟩ := hs.within.outgoing_bytes hn
      exact ⟨q', hparsed.trans hq', hor⟩
  rw [hq']
  obtain hq | ⟨h', kind', hq⟩ := hor
  · rw [hq.settle]
    exact hbetween hq hsplit'
  obtain hq | ⟨h'', kind'', hq⟩ := hq.settle_cases
  · exact hbetween hq hsplit'
  · refine ⟨by rw [hq.phase]; cases kind'' <;> simp [SendKind.phase], ?_⟩
    rw [hq.delivered]
    exact survivors_prefix leaky (by rw [hsplit]; exact List.prefix_append ..)

end Lockstep

end AugmentedNormalcy.Tcp
