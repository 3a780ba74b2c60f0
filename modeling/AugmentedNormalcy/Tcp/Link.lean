import AugmentedNormalcy.Foundation.Run
import AugmentedNormalcy.Tcp.Lockstep

/-!
# A sender, a wire, and a receiver

`Link S e` is one connection: a sending class `S`, the bytes on the wire, and the receiver of the
class `e`. What a send transmits is appended to the wire, and a receive completes with a first part
of what is there, so that the two sides cut the stream independently of each other.

`Sender.Sound` says what the class must keep: its write chain stays in step with a parser of what it
has sent. Then the receiver delivers the accepted messages (`Sender.Sound.roundTrip`), since it
reads as the parser does. -/

namespace AugmentedNormalcy.Tcp

open Bytes StepSystem

/-- The bytes of a buffer. -/
def SizedBuffer.content (b : SizedBuffer) : List UInt8 := slice b.memory 0 b.size

/-- A class that sends messages over a connection. -/
structure Sender (σ ε : Type) where
  step : σ → ε → Option σ
  chain : σ → WriteChain
  /-- The messages that were put into the queue. -/
  accepted : σ → List Message
  /-- The buffers that were posted and neither accepted nor dropped yet. -/
  offered : σ → List SizedBuffer
  /-- The buffer that an event posts. -/
  posts : ε → Option SizedBuffer
  /-- The bytes that an event puts on the wire. -/
  emits : ε → List UInt8
  /-- The event is not one of a connection that is made, fails, times out, or is closed. -/
  undisturbed : ε → Prop

structure Link (σ : Type) where
  sender : σ
  wire : List UInt8
  receiver : Receiver

inductive LinkEvent (ε : Type) where
  | send (ev : ε)
  | receive (bytes : List UInt8)

variable {σ ε : Type}

def Link.step (S : Sender σ ε) (e : Endpoint) (get : ℕ → TcpBuffer) (l : Link σ) :
    LinkEvent ε → Option (Link σ)
  | .send ev => (S.step l.sender ev).map fun s =>
    { l with sender := s, wire := l.wire ++ S.emits ev }
  | .receive bytes =>
    if bytes <+: l.wire then
      (Receiver.step e get l.receiver bytes).map fun r =>
        { l with wire := l.wire.drop bytes.length, receiver := r }
    else none

/-- The sender is left alone, and what is posted has a size below `2 ^ 32` and at most
`max_size`. -/
def LinkEvent.Allowed (S : Sender σ ε) (max_size : ℕ) : LinkEvent ε → Prop
  | .send ev => S.undisturbed ev ∧ ∀ b, S.posts ev = some b → b.size < 2 ^ 32 ∧ b.size ≤ max_size
  | .receive _ => True

/-- The buffer that an event posts. -/
def LinkEvent.posts (S : Sender σ ε) : LinkEvent ε → Option SizedBuffer
  | .send ev => S.posts ev
  | .receive _ => none

/-- Nothing can happen in the sender but the next post. -/
def Sender.Quiet (S : Sender σ ε) (s : σ) : Prop :=
  ∀ ev, S.undisturbed ev → S.posts ev = none → S.step s ev = none

/-- Nothing can happen on the connection but the next post. -/
def Link.Quiet (S : Sender σ ε) (e : Endpoint) (get : ℕ → TcpBuffer) (l : Link σ) : Prop :=
  S.Quiet l.sender ∧ ∀ bytes, Link.step S e get l (.receive bytes) = none

/-- What the receiver has of the messages that the sender has accepted, after the buffers `posted`
were posted. -/
structure RoundTrip (S : Sender σ ε) (e : Endpoint) (get : ℕ → TcpBuffer)
    (posted : List SizedBuffer) (l : Link σ) : Prop where
  /-- The accepted messages are posted ones, in the order of posting. -/
  accepted : ((S.accepted l.sender).map Message.content).Sublist (posted.map SizedBuffer.content)
  /-- The messages are handed to the manager in this order, without those that are read into the
  leaky buffer. -/
  delivered : l.receiver.delivered <+:
    survivors (fun n => (get n).is_leaky) (S.accepted l.sender)
  /-- The receiver does not give up, and stays inside its buffers. -/
  pending : l.receiver.pending ≠ none
  inBounds : l.receiver.InBounds
  /-- When nothing but the next post can happen, all of them have been handed over, and both sides
  are at the start of a message. -/
  complete : l.Quiet S e get →
    l.receiver.delivered = survivors (fun n => (get n).is_leaky) (S.accepted l.sender) ∧
      (S.chain l.sender).queue = [] ∧ (S.chain l.sender).sends = [] ∧ l.wire = [] ∧
      l.receiver.pending = some (.readHeader 0) ∧ l.receiver.receive_buffer = none ∧
      l.receiver.header.bytes_written = 0

/-- What the round trip needs of a sender: it keeps `Inv`, and its chain stays in step with a parser
of the bytes that it sends, none of which leads past a buffer of `cap` bytes. -/
structure Sender.Sound (S : Sender σ ε) (cap : ℕ) (Inv : σ → Prop) : Prop where
  step : ∀ {leaky s ev s' p}, Inv s → Lockstep leaky (S.accepted s) (S.chain s) p →
    ¬ p.Overruns cap → S.undisturbed ev → (∀ b, S.posts ev = some b → b.size ≤ cap) →
    S.step s ev = some s' →
    Inv s' ∧ p.Clear cap leaky (S.emits ev) ∧
      Lockstep leaky (S.accepted s') (S.chain s') ((S.emits ev).foldl (Parser.byte leaky) p)
  /-- Buffers are accepted in the order of posting, and nothing else is. -/
  accepts : ∀ {s ev s'}, S.undisturbed ev → S.step s ev = some s' →
    ((S.accepted s').map Message.content ++ (S.offered s').map SizedBuffer.content).Sublist
      ((S.accepted s).map Message.content ++ (S.offered s).map SizedBuffer.content ++
        (S.posts ev).toList.map SizedBuffer.content)
  /-- A sender that has come to rest has sent all it has. -/
  quiet : ∀ {leaky s p}, Inv s → Lockstep leaky (S.accepted s) (S.chain s) p → S.Quiet s →
    (S.chain s).queue = [] ∧ (S.chain s).sends = []

/-! ## The parser delivers more and more -/

namespace Parser

variable {leaky : ℕ → Bool}

/-- The end of a packet takes back nothing that was delivered. -/
theorem delivered_endPacket (leaky : ℕ → Bool) (p : Parser) :
    p.delivered <+: (p.endPacket leaky).delivered := by
  unfold endPacket
  dsimp only
  split_ifs
  · exact List.prefix_rfl
  · exact List.prefix_append ..
  · exact List.prefix_rfl

/-- Nor does what follows from it. -/
theorem delivered_settle (leaky : ℕ → Bool) (p : Parser) :
    p.delivered <+: (p.settle leaky).delivered := by
  unfold settle
  split_ifs
  · exact delivered_endPacket leaky p
  · exact List.prefix_rfl

/-- Nor does a byte. -/
theorem delivered_byte (leaky : ℕ → Bool) (p : Parser) (b : UInt8) :
    p.delivered <+: (p.byte leaky b).delivered := by
  refine (delivered_settle leaky p).trans ?_
  rw [byte]
  generalize p.settle leaky = q
  unfold next
  split
  · unfold endHeader
    split_ifs <;> exact List.prefix_rfl
  · split_ifs
    · exact delivered_endPacket leaky (q.addBody [b])
    · exact List.prefix_rfl
  · exact List.prefix_rfl

/-- Nor do many. -/
theorem delivered_foldl (leaky : ℕ → Bool) (p : Parser) (S : List UInt8) :
    p.delivered <+: (S.foldl (byte leaky) p).delivered := by
  induction S generalizing p with
  | nil => exact List.prefix_rfl
  | cons b S ih => exact (delivered_byte leaky p b).trans (ih _)

end Parser

/-! ## The connection -/

/-- The receiver is a parser's, and the sender is in step with what that parser will be when it has
read the wire. -/
def Linked (S : Sender σ ε) (get : ℕ → TcpBuffer) (cap : ℕ) (Inv : σ → Prop) (l : Link σ) : Prop :=
  Inv l.sender ∧ ∃ q, Track get cap l.receiver q ∧
    q.Clear cap (fun n => (get n).is_leaky) l.wire ∧
    Lockstep (fun n => (get n).is_leaky) (S.accepted l.sender) (S.chain l.sender)
      (l.wire.foldl (Parser.byte fun n => (get n).is_leaky) q)

section

variable {S : Sender σ ε} {e : Endpoint} {get : ℕ → TcpBuffer} {cap : ℕ} {Inv : σ → Prop}

/-- Every step of the sender keeps the two ends in step. -/
theorem Linked.send (hS : S.Sound cap Inv) {l : Link σ} (h : Linked S get cap Inv l) {ev : ε}
    {s : σ} (hev : S.undisturbed ev) (hsize : ∀ b, S.posts ev = some b → b.size ≤ cap)
    (hs : S.step l.sender ev = some s) :
    Linked S get cap Inv { l with sender := s, wire := l.wire ++ S.emits ev } := by
  obtain ⟨hinv, q, htrack, hclear, hstep⟩ := h
  have hover := hclear l.wire List.prefix_rfl
  obtain ⟨hinv', hclear', hstep'⟩ := hS.step hinv hstep hover hev hsize hs
  refine ⟨hinv', q, htrack, Parser.clear_append.mpr ⟨hclear, hclear'⟩, ?_⟩
  rw [List.foldl_append]
  exact hstep'

/-- So does every receive. -/
theorem Linked.receive (hcap : cap < 2 ^ 32) (hget : ∀ n, cap ≤ (get n).max_size) {l : Link σ}
    (h : Linked S get cap Inv l) {bytes : List UInt8} {r : Receiver} (hbytes : bytes <+: l.wire)
    (hs : Receiver.step e get l.receiver bytes = some r) :
    Linked S get cap Inv { l with wire := l.wire.drop bytes.length, receiver := r } := by
  obtain ⟨hinv, q, htrack, hclear, hstep⟩ := h
  obtain ⟨rest, hrest⟩ := hbytes
  rw [← hrest] at hclear hstep
  obtain ⟨hclear, hclear'⟩ := Parser.clear_append.mp hclear
  refine ⟨hinv, _, htrack.step hcap hget hs hclear, ?_, ?_⟩
  · rw [← hrest, List.drop_left, Track.clear_received htrack.not_overruns]
    exact hclear'
  · rw [List.foldl_append] at hstep
    rw [← hrest, List.drop_left]
    exact hstep.settle_congr
      (Parser.settle_foldl_congr (Simulates.settle_received get q bytes).symm rest)

/-- So does every step of the link. -/
theorem Linked.step (hS : S.Sound cap Inv) (hcap : cap < 2 ^ 32)
    (hget : ∀ n, cap ≤ (get n).max_size) {max_size : ℕ}
    (hmax : ∀ n, n < 2 ^ 32 → n ≤ max_size → n ≤ cap) {l l' : Link σ} {ev : LinkEvent ε}
    (h : Linked S get cap Inv l) (hev : ev.Allowed S max_size)
    (hs : Link.step S e get l ev = some l') : Linked S get cap Inv l' := by
  cases ev with
  | send ev =>
    obtain ⟨s, hs', rfl⟩ := Option.map_eq_some_iff.mp hs
    obtain ⟨hev, hsize⟩ := hev
    exact h.send hS hev (fun b hb => hmax _ (hsize b hb).1 (hsize b hb).2) hs'
  | receive bytes =>
    unfold Link.step at hs
    dsimp only at hs
    split_ifs at hs with hbytes
    obtain ⟨r, hs', rfl⟩ := Option.map_eq_some_iff.mp hs
    exact h.receive hcap hget hbytes hs'

/-- The receiver always asks for more. -/
theorem Linked.pending {l : Link σ} (h : Linked S get cap Inv l) : l.receiver.pending ≠ none := by
  obtain ⟨-, q, htrack, -, hstep⟩ := h
  intro hnone
  have hphase := htrack.simulates.phase_of_none hnone
  rw [Parser.foldl_rejected hphase] at hstep
  have hsettled := hstep.settled.1
  rw [Parser.settle_of_left (by simp [hphase])] at hsettled
  exact hsettled hphase

/-- A receiver that waits for a byte can receive it. -/
theorem Simulates.step_singleton {r : Receiver} {q : Parser} (h : Simulates get r q)
    (hq : q.phase ≠ .rejected) (hleft : q.phase = .body → q.left ≠ 0) (b : UInt8) :
    Receiver.step e get r [b] ≠ none := by
  -- Whatever it waits for is at least one byte.
  have hrequested : ∀ receive, r.pending = some receive → 1 ≤ r.requested receive := by
    intro receive hr
    rw [h.pending] at hr
    cases hp : q.phase with
    | header got =>
      have := h.got_lt got hp
      rw [hp] at hr
      cases hr
      change 1 ≤ PacketHeader.size - got
      omega
    | body =>
      rw [hp] at hr
      cases hr
      change 1 ≤ r.header.dataLength
      rw [h.dataLength_of_body hp]
      exact Nat.one_le_iff_ne_zero.mpr (hleft hp)
    | rejected => exact absurd hp hq
  unfold Receiver.step
  cases hr : r.pending with
  | none => exact fun _ => hq (h.phase_of_none hr)
  | some receive =>
    have hc : Receiver.Completes (r.requested receive) [b] := ⟨hrequested receive hr, by simp⟩
    dsimp only
    rw [if_pos hc]
    cases receive <;> simp

/-- A receive of zero bytes completes. -/
theorem Simulates.step_nil {r : Receiver} {q : Parser} (h : Simulates get r q)
    (hq : q.phase = .body) (hleft : q.left = 0) : Receiver.step e get r [] ≠ none := by
  have hr : r.pending = some .readBody := by
    rw [h.pending, hq]
    rfl
  have hc : Receiver.Completes (r.requested .readBody) [] := by
    refine ⟨Nat.zero_le _, fun _ => ?_⟩
    rw [← hleft, ← h.dataLength_of_body hq]
    rfl
  unfold Receiver.step
  rw [hr]
  dsimp only
  rw [if_pos hc]
  simp

/-- A receiver that waits for bytes that are not there is between two bytes of the stream. -/
theorem Linked.settled {l : Link σ} (h : Linked S get cap Inv l)
    (hquiet : ∀ bytes, Link.step S e get l (.receive bytes) = none) :
    l.wire = [] ∧ ∃ q, Track get cap l.receiver q ∧ q.settle (fun n => (get n).is_leaky) = q ∧
      Lockstep (fun n => (get n).is_leaky) (S.accepted l.sender) (S.chain l.sender) q := by
  have hblocked : ∀ bytes, bytes <+: l.wire → Receiver.step e get l.receiver bytes = none := by
    intro bytes hbytes
    have hnone := hquiet bytes
    unfold Link.step at hnone
    dsimp only at hnone
    rw [if_pos hbytes, Option.map_eq_none_iff] at hnone
    exact hnone
  have hpending := h.pending
  obtain ⟨-, q, htrack, -, hstep⟩ := h
  have hsim := htrack.simulates
  -- A receive of zero bytes would complete, and so would one of the first byte on the wire.
  have hleft : q.phase = .body → q.left ≠ 0 := fun hp hzero =>
    hsim.step_nil hp hzero (hblocked [] List.nil_prefix)
  have hphase : q.phase ≠ .rejected := fun hp => hpending <| by
    rw [hsim.pending, hp]
    rfl
  have hwire : l.wire = [] := by
    cases hw : l.wire with
    | nil => rfl
    | cons b rest =>
      refine absurd (hblocked [b] ?_) (hsim.step_singleton hphase hleft b)
      rw [hw]
      exact ⟨rest, rfl⟩
  rw [hwire] at hstep
  exact ⟨hwire, q, htrack, Parser.settle_of_left hleft, hstep⟩

/-- What has been accepted or is offered comes from the posts. -/
theorem accepted_sublist (hS : S.Sound cap Inv) {max_size : ℕ} {es : List (LinkEvent ε)} :
    ∀ {l l' : Link σ}, (∀ ev ∈ es, ev.Allowed S max_size) →
      run (Link.step S e get) l es = some l' →
      ((S.accepted l'.sender).map Message.content ++
        (S.offered l'.sender).map SizedBuffer.content).Sublist
      ((S.accepted l.sender).map Message.content ++ (S.offered l.sender).map SizedBuffer.content ++
        (es.filterMap (LinkEvent.posts S)).map SizedBuffer.content) := by
  induction es with
  | nil =>
    intro l l' _ hrun
    cases hrun
    simp
  | cons ev es ih =>
    intro l l' hes hrun
    obtain ⟨l₁, hstep, hrest⟩ := run_cons_eq_some.mp hrun
    have hes' : ∀ ev ∈ es, ev.Allowed S max_size :=
      fun ev hev => hes ev (List.mem_cons_of_mem _ hev)
    refine (ih hes' hrest).trans ?_
    cases ev with
    | send ev =>
      obtain ⟨s, hs, rfl⟩ := Option.map_eq_some_iff.mp hstep
      have hfirst := hS.accepts (hes _ List.mem_cons_self).1 hs
      -- Only the first event may post, and `accepts` says what becomes of it.
      have hposts : ((LinkEvent.send ev :: es).filterMap (LinkEvent.posts S)).map
          SizedBuffer.content = (S.posts ev).toList.map SizedBuffer.content ++
            (es.filterMap (LinkEvent.posts S)).map SizedBuffer.content := by
        cases hpost : S.posts ev with
        | none => simp [LinkEvent.posts, hpost]
        | some b => simp [LinkEvent.posts, hpost]
      rw [hposts, ← List.append_assoc]
      exact hfirst.append_right _
    | receive bytes =>
      unfold Link.step at hstep
      dsimp only at hstep
      split_ifs at hstep
      obtain ⟨r, -, rfl⟩ := Option.map_eq_some_iff.mp hstep
      simp [List.filterMap_cons, LinkEvent.posts]

/-- Both sides stay linked along a run. -/
theorem Sender.Sound.linked (hS : S.Sound cap Inv) (hcap : cap < 2 ^ 32)
    (hget : ∀ n, cap ≤ (get n).max_size) {max_size : ℕ}
    (hmax : ∀ n, n < 2 ^ 32 → n ≤ max_size → n ≤ cap) {s : σ} (hinv : Inv s)
    (haccepted : S.accepted s = []) {header header' : PacketHeader} {released : List Memory}
    (hchain : S.chain s = ⟨header, [], released, [], 0, false⟩) {es : List (LinkEvent ε)}
    {l : Link σ} (hes : ∀ ev ∈ es, ev.Allowed S max_size)
    (hrun : run (Link.step S e get) ⟨s, [], .initial header'⟩ es = some l) :
    Linked S get cap Inv l := by
  have hinit : Linked S get cap Inv ⟨s, [], .initial header'⟩ := by
    have htrack := Track.initial get cap header'
    refine ⟨hinv, _, htrack, Parser.clear_nil.mpr htrack.not_overruns, ?_⟩
    rw [haccepted, hchain]
    exact Lockstep.initial _ header released header'.data
  exact (along_of_forall hes _).run_invariant (Linked S get cap Inv)
    (fun _ _ _ h hev hs => h.step hS hcap hget hmax hev hs) hrun hinit

/-- The receiver of a sender that is sound gets what the sender accepts. -/
theorem Sender.Sound.roundTrip (hS : S.Sound cap Inv) (hcap : cap < 2 ^ 32)
    (hget : ∀ n, cap ≤ (get n).max_size) {max_size : ℕ}
    (hmax : ∀ n, n < 2 ^ 32 → n ≤ max_size → n ≤ cap) {s : σ} (hinv : Inv s)
    (haccepted : S.accepted s = []) (hoffered : S.offered s = [])
    {header header' : PacketHeader} {released : List Memory}
    (hchain : S.chain s = ⟨header, [], released, [], 0, false⟩) {es : List (LinkEvent ε)}
    {l : Link σ} (hes : ∀ ev ∈ es, ev.Allowed S max_size)
    (hrun : run (Link.step S e get) ⟨s, [], .initial header'⟩ es = some l) :
    RoundTrip S e get (es.filterMap (LinkEvent.posts S)) l := by
  have hlinked := hS.linked hcap hget hmax hinv haccepted hchain hes hrun
  refine ⟨?_, ?_, hlinked.pending, ?_, fun hquiet => ?_⟩
  -- What is accepted comes from the posts.
  · have hsub := accepted_sublist hS hes hrun
    rw [haccepted, hoffered] at hsub
    exact (List.sublist_append_left ..).trans hsub
  -- What has been delivered is a beginning of what should be.
  · obtain ⟨-, q, htrack, -, hstep⟩ := hlinked
    rw [htrack.simulates.delivered]
    have hwire := Parser.delivered_foldl (fun n => (get n).is_leaky) q l.wire
    exact hwire.trans ((Parser.delivered_settle _ _).trans hstep.settled.2)
  · obtain ⟨-, q, htrack, -⟩ := hlinked
    exact htrack.inBounds
  -- When both sides have come to rest, all of it has been delivered.
  · obtain ⟨hwire, q, htrack, hsettle, hstep⟩ := hlinked.settled hquiet.2
    obtain ⟨hqueue, hsends⟩ := hS.quiet hlinked.1 hstep hquiet.1
    have hsim := htrack.simulates
    have hq := hstep.between hqueue hsends
    rw [hsettle] at hq
    obtain ⟨hbuffer, -⟩ := hsim.free hq.held
    refine ⟨hsim.delivered.trans hq.delivered, hqueue, hsends, hwire, ?_, hbuffer, ?_⟩
    · rw [hsim.pending, hq.phase]
      rfl
    · rw [hsim.bytes_written, hq.acc]
      rfl

end

/-! ## The past of a connection -/

/-- The connection has come from `l` to `l'` by allowed events, which have posted `posted`. -/
def Traced (S : Sender σ ε) (e : Endpoint) (get : ℕ → TcpBuffer) (max_size : ℕ) (l : Link σ)
    (posted : List SizedBuffer) (l' : Link σ) : Prop :=
  ∃ es, run (Link.step S e get) l es = some l' ∧ es.filterMap (LinkEvent.posts S) = posted ∧
    ∀ ev ∈ es, ev.Allowed S max_size

section

variable {S : Sender σ ε} {e : Endpoint} {get : ℕ → TcpBuffer} {max_size : ℕ} {l l' l'' : Link σ}
  {posted : List SizedBuffer}

/-- No step, no post. -/
theorem Traced.refl (l : Link σ) : Traced S e get max_size l [] l := ⟨[], rfl, rfl, by simp⟩

/-- One more step adds its post. -/
theorem Traced.next (h : Traced S e get max_size l posted l') {ev : LinkEvent ε}
    (hev : ev.Allowed S max_size) (hs : Link.step S e get l' ev = some l'') :
    Traced S e get max_size l (posted ++ (ev.posts S).toList) l'' := by
  obtain ⟨es, hrun, hposted, hes⟩ := h
  refine ⟨es ++ [ev], run_concat_eq_some.mpr ⟨l', hrun, hs⟩, ?_, ?_⟩
  · rw [List.filterMap_append, hposted]
    cases hpost : ev.posts S <;> simp [hpost]
  · intro ev' hmem
    obtain hmem | hmem := List.mem_append.mp hmem
    · exact hes ev' hmem
    · rw [List.mem_singleton.mp hmem]
      exact hev

/-- What was posted has an allowed size. -/
theorem Traced.size_le (h : Traced S e get max_size l posted l') {b : SizedBuffer}
    (hb : b ∈ posted) : b.size < 2 ^ 32 ∧ b.size ≤ max_size := by
  obtain ⟨es, -, rfl, hes⟩ := h
  obtain ⟨ev, hmem, hpost⟩ := List.mem_filterMap.mp hb
  cases ev with
  | send ev => exact (hes _ hmem).2 b hpost
  | receive bytes => cases hpost

end

end AugmentedNormalcy.Tcp
