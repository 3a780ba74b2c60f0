import AugmentedNormalcy.Encoder.Worker
import AugmentedNormalcy.Tcp.ClientQueue

/-!
# The camera's streamer

`CameraStreamer` of `src/internal/service/camera_streamer.cpp`: the encoder, whose `_send_callback`
calls `Post` on the client. The thread of the encoder runs `Post`, and takes no other frame before
it has returned. The queue of the client has the only pointers to the output buffers, from the push
on: a message that leaves the queue gives its buffer back to the encoder.

So the encoder's buffers bound the queue of the client, libjpeg never writes into a buffer whose
message is queued (`queued_unchanged`), and what the client accepts are outputs of the encoder, in
the order of the camera's frames (`streamed_in_order`).
-/

namespace AugmentedNormalcy.Camera.CameraStreamer

open StepSystem Tcp Bytes
open Encoder (EncoderConfig EncoderBuffer SwEncoder)
open CameraClient (sender)

/-! ## The steps -/

/-- An output buffer that `_send_callback` was called with: the frame, and what it held then. -/
structure Output where
  frame : Encoder.Worker.CameraBuffer
  buffer : EncoderBuffer
  content : SizedBuffer

structure State where
  encoder : Encoder.Worker.State
  client : CameraClient.State
  /-- The memory of the output buffers. -/
  memory : EncoderBuffer → Memory
  /-- The output that `Post` is about to push. -/
  posting : Option Output
  /-- The outputs in the queue of the client. -/
  queued : List Output
  /-- The outputs that were pushed. -/
  posted : List Output

inductive Event where
  /-- A step of the encoder, other than the end of `encodeBuffer`. -/
  | encoder (ev : Encoder.Worker.Event)
  /-- libjpeg has filled the output buffer, and `_send_callback` calls `Post`. -/
  | send (memory : Memory) (size : ℕ)
  /-- A step of the client, other than the beginning of `Post`. -/
  | client (ev : CameraClient.Event)

/-- The camera before its first frame. -/
def initial (cfg : EncoderConfig) (header : PacketHeader) (memory : EncoderBuffer → Memory) :
    State where
  encoder := Encoder.Worker.initial cfg
  client := CameraClient.initial header
  memory := memory
  posting := none
  queued := []
  posted := []

/-- The pointers to `outputs` are released. -/
def giveBack (s : State) (outputs : List Output) : State :=
  { s with encoder := { s.encoder with
      encoder := (outputs.map Output.buffer).foldl SwEncoder.queueDownstreamBuffer
        s.encoder.encoder } }

/-- The client has made a step, which leaves an end of its queue. -/
def recycle (s : State) (client : CameraClient.State) : State :=
  let n := s.client.chain.queue.length - client.chain.queue.length
  giveBack { s with client, queued := s.queued.drop n } (s.queued.take n)

/-- The end of `encodeBuffer`, and the beginning of `Post`. -/
def send (s : State) (frame : Encoder.Worker.CameraBuffer) (buffer : EncoderBuffer)
    (calls : List Decoder.Rows) (memory : Memory) (size : ℕ) : State :=
  let output : Output := ⟨frame, buffer, ⟨memory, size⟩⟩
  let client := s.client.postCheck ⟨memory, size⟩
  let s := { s with
    encoder := Encoder.Worker.send s.encoder frame buffer calls
    client
    memory := Function.update s.memory buffer memory }
  match client.post with
  | .checked _ => { s with posting := some output }
  | _ => giveBack s [output]

/-- One step. -/
def step (cfg : EncoderConfig) (s : State) : Event → Option State
  | .encoder ev =>
    match ev, s.client.post with
    | .send, _ | .release _, _ | .take, .checked _ | .take, .pushed | .exit, .checked _
    | .exit, .pushed => none
    | ev, _ => (Encoder.Worker.step cfg s.encoder ev).map fun encoder => { s with encoder }
  | .send memory size =>
    match s.encoder.thread, s.client.post with
    | .compressing frame buffer calls, .returned => some (send s frame buffer calls memory size)
    | _, _ => none
  | .client ev =>
    match ev with
    | .postCheck _ => none
    | .postPush =>
      (CameraClient.step s.client .postPush).map fun client =>
        { s with
          client
          posting := none
          queued := s.queued ++ s.posting.toList
          posted := s.posted ++ s.posting.toList }
    | ev => (CameraClient.step s.client ev).map (recycle s)

/-- What each step finds, and what it leaves. -/
inductive Step (cfg : EncoderConfig) (s : State) : Event → State → Prop
  | encoder {ev : Encoder.Worker.Event} {encoder : Encoder.Worker.State} (hsend : ev ≠ .send)
      (hrelease : ∀ buffer, ev ≠ .release buffer)
      (hreturned : ev = .take → s.client.post = .returned)
      (hs : Encoder.Worker.step cfg s.encoder ev = some encoder) :
    Step cfg s (.encoder ev) { s with encoder }
  | send {frame : Encoder.Worker.CameraBuffer} {buffer : EncoderBuffer}
      {calls : List Decoder.Rows} {memory : Memory} {size : ℕ}
      (hthread : s.encoder.thread = .compressing frame buffer calls)
      (hpost : s.client.post = .returned) :
    Step cfg s (.send memory size) (send s frame buffer calls memory size)
  | postPush {content : SizedBuffer} (hpost : s.client.post = .checked content) :
    Step cfg s (.client .postPush)
      { s with
        client := s.client.postPush content
        posting := none
        queued := s.queued ++ s.posting.toList
        posted := s.posted ++ s.posting.toList }
  | client {ev : CameraClient.Event} {client : CameraClient.State} (hpush : ev ≠ .postPush)
      (hcheck : ∀ content, ev ≠ .postCheck content)
      (hs : CameraClient.step s.client ev = some client) :
    Step cfg s (.client ev) (recycle s client)

theorem Step.of_step {cfg : EncoderConfig} {s s' : State} {ev : Event}
    (hs : step cfg s ev = some s') : Step cfg s ev s' := by
  unfold step at hs
  cases ev with
  | encoder ev =>
    dsimp only at hs
    split at hs
    any_goals cases hs
    rename_i hsend hrelease hchecked hpushed _ _
    obtain ⟨encoder, hencoder, rfl⟩ := Option.map_eq_some_iff.mp hs
    refine .encoder hsend hrelease (fun htake => ?_) hencoder
    cases hpost : s.client.post with
    | returned => rfl
    | checked content => exact absurd hpost (hchecked content htake)
    | pushed => exact absurd hpost (hpushed htake)
  | send memory size =>
    dsimp only at hs
    split at hs
    · rename_i hthread hpost
      cases hs
      exact .send hthread hpost
    · cases hs
  | client ev =>
    dsimp only at hs
    split at hs
    · cases hs
    · obtain ⟨client, hclient, rfl⟩ := Option.map_eq_some_iff.mp hs
      cases CameraClient.Step.of_step hclient with
      | postPush hpost => exact .postPush hpost
    · rename_i hcheck hpush
      obtain ⟨client, hclient, rfl⟩ := Option.map_eq_some_iff.mp hs
      exact .client hpush hcheck hclient

/-! ## The invariant -/

/-- Buffers that are out can be released one after the other. -/
theorem inv_release {cfg : EncoderConfig} {rest : List EncoderBuffer} (bs : List EncoderBuffer) :
    ∀ {w : Encoder.Worker.State}, Encoder.Worker.Inv cfg w →
      w.encoder.output_buffers.Perm (bs ++ rest) →
      Encoder.Worker.Inv cfg
          { w with encoder := bs.foldl SwEncoder.queueDownstreamBuffer w.encoder } ∧
        (bs.foldl SwEncoder.queueDownstreamBuffer w.encoder).output_buffers.Perm rest := by
  induction bs with
  | nil => exact fun h hperm => ⟨h, hperm⟩
  | cons b bs ih =>
    intro w h hperm
    have hmem : b ∈ w.encoder.output_buffers := hperm.mem_iff.mpr List.mem_cons_self
    have hs : Encoder.Worker.step cfg w (.release b) =
        some { w with encoder := w.encoder.queueDownstreamBuffer b } := if_pos hmem
    have herase : (w.encoder.queueDownstreamBuffer b).output_buffers.Perm (bs ++ rest) := by
      have herased := hperm.erase b
      rwa [List.cons_append, List.erase_cons_head] at herased
    exact ih (h.step hs) herase

/-- What the steps of the encoder other than the end of `encodeBuffer` leave alone. -/
theorem encoder_quiet {cfg : EncoderConfig} {w w' : Encoder.Worker.State}
    {ev : Encoder.Worker.Event} (hs : Encoder.Worker.step cfg w ev = some w') (hsend : ev ≠ .send)
    (hrelease : ∀ buffer, ev ≠ .release buffer) :
    w'.encoder.output_buffers = w.encoder.output_buffers ∧ w'.sent = w.sent ∧
      (w'.thread.frame?.isSome → w.thread.frame?.isSome ∨ ev = .take) := by
  cases Encoder.Worker.Step.of_step hs with
  | send => exact absurd rfl hsend
  | release => exact absurd rfl (hrelease _)
  | take => exact ⟨rfl, rfl, fun _ => .inr rfl⟩
  | encode hthread => exact ⟨rfl, rfl, fun _ => .inl (by rw [hthread]; rfl)⟩
  | drop | exit | startEncoder => exact ⟨rfl, rfl, fun hframe => by cases hframe⟩
  | _ => exact ⟨rfl, rfl, fun hframe => .inl hframe⟩

/-- The outputs whose buffers are with the client. -/
def State.held (s : State) : List Output := s.posting.toList ++ s.queued

structure Inv (cfg : EncoderConfig) (s : State) : Prop where
  encoder : Encoder.Worker.Inv cfg s.encoder
  /-- The thread is in `Post` only between two frames. -/
  busy : s.encoder.thread.frame?.isSome → s.client.post = .returned
  offered : s.posting.toList.map Output.content = sender.offered s.client
  queued : s.queued.map Output.content = s.client.chain.queue.map Message.buffer
  posted : s.posted.map Output.content = s.client.accepted.map Message.buffer
  buffers : s.encoder.encoder.output_buffers.Perm (s.held.map Output.buffer)
  memory : ∀ output ∈ s.held, output.content.memory = s.memory output.buffer
  frames : ((s.posted ++ s.posting.toList).map Output.frame).Sublist
    (s.encoder.sent.map Encoder.Worker.Sent.frame)

variable {cfg : EncoderConfig} {s s' : State}

/-- Nothing is encoded or queued at first. -/
theorem Inv.initial (cfg : EncoderConfig) (header : PacketHeader)
    (memory : EncoderBuffer → Memory) : Inv cfg (initial cfg header memory) where
  encoder := .initial cfg
  busy _ := rfl
  offered := rfl
  queued := rfl
  posted := rfl
  buffers := .nil
  memory := nofun
  frames := .slnil

/-- Nothing is being posted when `Post` has returned. -/
theorem Inv.posting_eq_none (h : Inv cfg s) (hpost : s.client.post = .returned) :
    s.posting = none := by
  have hoffered := h.offered
  simp only [sender, hpost] at hoffered
  cases hposting : s.posting with
  | none => rfl
  | some output => simp [hposting] at hoffered

/-- What is being posted while `Post` is about to push. -/
theorem Inv.posting_eq_some (h : Inv cfg s) {content : SizedBuffer}
    (hpost : s.client.post = .checked content) :
    ∃ output, s.posting = some output ∧ output.content = content := by
  have hoffered := h.offered
  simp only [sender, hpost] at hoffered
  cases hposting : s.posting with
  | none => simp [hposting] at hoffered
  | some output =>
    simp only [hposting, Option.toList_some, List.map_cons, List.map_nil, List.cons.injEq,
      and_true] at hoffered
    exact ⟨output, rfl, hoffered⟩

/-- The buffer of the thread is not with the client. -/
theorem Inv.notMem_held (h : Inv cfg s) {frame : Encoder.Worker.CameraBuffer}
    {buffer : EncoderBuffer} {calls : List Decoder.Rows}
    (hthread : s.encoder.thread = .compressing frame buffer calls) :
    buffer ∉ s.held.map Output.buffer := by
  have hnodup := Pool.Whole.nodup h.encoder.accounted List.nodup_range
  unfold Encoder.Worker.State.buffers at hnodup
  rw [hthread] at hnodup
  have hout := (List.nodup_append.mp hnodup).2.1
  have hdisjoint := (List.nodup_append.mp hout).2.2
  intro hmem
  exact hdisjoint buffer (h.buffers.mem_iff.mpr hmem) buffer (List.mem_singleton_self buffer) rfl

/-- A step of the encoder alone keeps the invariant. -/
theorem Inv.encoder_step (h : Inv cfg s) {ev : Encoder.Worker.Event}
    {encoder : Encoder.Worker.State} (hsend : ev ≠ .send)
    (hrelease : ∀ buffer, ev ≠ .release buffer)
    (hreturned : ev = .take → s.client.post = .returned)
    (hs : Encoder.Worker.step cfg s.encoder ev = some encoder) :
    Inv cfg { s with encoder } := by
  obtain ⟨hbuffers, hsent, hframe⟩ := encoder_quiet hs hsend hrelease
  have hout := h.buffers
  have hframes := h.frames
  rw [← hbuffers] at hout
  rw [← hsent] at hframes
  refine ⟨h.encoder.step hs, fun hsome => ?_, h.offered, h.queued, h.posted, hout, h.memory,
    hframes⟩
  obtain hold | htake := hframe hsome
  · exact h.busy hold
  · exact hreturned htake

/-- The buffer of the thread is filled, and goes to `Post` or back into the encoder's queue. -/
theorem Inv.send_step (h : Inv cfg s) {frame : Encoder.Worker.CameraBuffer}
    {buffer : EncoderBuffer} {calls : List Decoder.Rows}
    (hthread : s.encoder.thread = .compressing frame buffer calls)
    (hpost : s.client.post = .returned) (memory : Memory) (size : ℕ) :
    Inv cfg (send s frame buffer calls memory size) := by
  have hs : Encoder.Worker.step cfg s.encoder .send =
      some (Encoder.Worker.send s.encoder frame buffer calls) := by
    simp only [Encoder.Worker.step, hthread]
  have hencoder := h.encoder.step hs
  have hnone := h.posting_eq_none hpost
  have hbuffer := h.notMem_held hthread
  have hheld : s.held = s.queued := by
    unfold State.held
    rw [hnone, Option.toList_none, List.nil_append]
  have hout := h.buffers
  rw [hheld] at hbuffer hout
  -- The outputs that are queued keep their memory.
  have hmemory : ∀ output ∈ s.queued,
      output.content.memory = Function.update s.memory buffer memory output.buffer := by
    intro output hmem
    have hne : output.buffer ≠ buffer := fun heq =>
      hbuffer (heq ▸ List.mem_map_of_mem hmem)
    rw [Function.update_of_ne hne]
    exact h.memory output (List.mem_append_right _ hmem)
  have hsent : (Encoder.Worker.send s.encoder frame buffer calls).encoder.output_buffers.Perm
      ([buffer] ++ s.queued.map Output.buffer) := by
    calc (s.encoder.encoder.output_buffers ++ [buffer]).Perm
          (s.queued.map Output.buffer ++ [buffer]) := hout.append_right [buffer]
      List.Perm _ ([buffer] ++ s.queued.map Output.buffer) := List.perm_append_comm
  have hframes : ((s.posted.map Output.frame) ++ [frame]).Sublist
      ((Encoder.Worker.send s.encoder frame buffer calls).sent.map Encoder.Worker.Sent.frame) := by
    have hframes := h.frames
    rw [hnone, Option.toList_none, List.append_nil] at hframes
    unfold Encoder.Worker.send
    rw [List.map_append]
    exact hframes.append (List.Sublist.refl [frame])
  unfold send CameraClient.State.postCheck
  dsimp only
  split_ifs with hrunning
  · -- `Post` returns at once, and drops the pointer.
    rw [hpost]
    obtain ⟨hrelease, hperm⟩ := inv_release [buffer] hencoder hsent
    refine ⟨hrelease, fun _ => hpost, h.offered, h.queued, h.posted, ?_, ?_, ?_⟩
    · unfold State.held
      dsimp only [giveBack]
      rw [hnone]
      exact hperm
    · unfold State.held
      dsimp only [giveBack]
      rw [hnone]
      exact hmemory
    · dsimp only [giveBack]
      rw [hnone, Option.toList_none, List.append_nil]
      exact (List.sublist_append_left _ [frame]).trans hframes
  · have hidle : ¬ (Encoder.Worker.send s.encoder frame buffer calls).thread.frame?.isSome :=
      Bool.false_ne_true
    dsimp only
    refine ⟨hencoder, fun hframe => absurd hframe hidle, rfl, h.queued, h.posted, ?_, ?_, ?_⟩
    · exact hsent
    · intro output hmem
      obtain rfl | hmem := List.mem_cons.mp hmem
      · dsimp only
        rw [Function.update_self]
      · exact hmemory output hmem
    · dsimp only
      rw [Option.toList_some, List.map_append]
      exact hframes

/-- So does the push of an encoded frame. -/
theorem Inv.postPush_step (h : Inv cfg s) {content : SizedBuffer}
    (hpost : s.client.post = .checked content) :
    Inv cfg { s with
      client := s.client.postPush content
      posting := none
      queued := s.queued ++ s.posting.toList
      posted := s.posted ++ s.posting.toList } := by
  obtain ⟨output, hposting, rfl⟩ := h.posting_eq_some hpost
  have hout := h.buffers
  have hmemory := h.memory
  have hframes := h.frames
  unfold State.held at hout hmemory
  rw [hposting] at hout hmemory hframes ⊢
  have hbusy : ¬ s.encoder.thread.frame?.isSome := by
    intro hframe
    have hreturned := h.busy hframe
    rw [hpost] at hreturned
    cases hreturned
  refine ⟨h.encoder, fun hframe => absurd hframe hbusy, ?_, ?_, ?_, ?_, ?_, ?_⟩
  · unfold CameraClient.State.postPush
    simp only [sender]
    cases s.client.chain.queue.isEmpty <;> rfl
  · dsimp only [CameraClient.State.postPush, WriteChain.push]
    rw [List.map_append, List.map_append, h.queued]
    rfl
  · dsimp only [CameraClient.State.postPush]
    rw [List.map_append, List.map_append, h.posted]
    rfl
  · refine hout.trans (List.Perm.map _ ?_)
    exact List.perm_append_comm
  · intro other hmem
    have hmem : other ∈ s.queued ++ [output] := hmem
    exact hmemory other (List.mem_append.mpr (List.mem_append.mp hmem).symm)
  · dsimp only
    rw [Option.toList_none, List.append_nil]
    exact hframes

/-- So does a step of the client, whose buffers go back to the encoder. -/
theorem Inv.client_step (h : Inv cfg s) {ev : CameraClient.Event} {client : CameraClient.State}
    (hpush : ev ≠ .postPush) (hcheck : ∀ content, ev ≠ .postCheck content)
    (hs : CameraClient.step s.client ev = some client) : Inv cfg (recycle s client) := by
  have hquiet := CameraClient.quiet_of_step hs hpush hcheck
  have hsuffix := CameraClient.queue_suffix_of_step hs hpush
  unfold recycle
  generalize hn : s.client.chain.queue.length - client.chain.queue.length = n
  have hqueue : client.chain.queue = s.client.chain.queue.drop n := by
    rw [← hn]
    exact List.suffix_iff_eq_drop.mp hsuffix
  -- The buffers of the messages that have left are released, and the others are held.
  have hout : s.encoder.encoder.output_buffers.Perm ((s.queued.take n).map Output.buffer ++
      (s.posting.toList ++ s.queued.drop n).map Output.buffer) := by
    rw [← List.map_append]
    refine h.buffers.trans (List.Perm.map _ ?_)
    unfold State.held
    calc (s.posting.toList ++ s.queued).Perm
          (s.posting.toList ++ (s.queued.take n ++ s.queued.drop n)) := by
            rw [List.take_append_drop]
      List.Perm _ (s.queued.take n ++ (s.posting.toList ++ s.queued.drop n)) := by
            rw [← List.append_assoc, ← List.append_assoc]
            exact List.perm_append_comm.append_right _
  obtain ⟨hencoder, hperm⟩ := inv_release _ h.encoder hout
  refine ⟨hencoder, fun hframe => hquiet.returned (h.busy hframe), ?_, ?_, ?_, hperm, ?_, h.frames⟩
  · exact h.offered.trans hquiet.offered.symm
  · dsimp only [giveBack]
    rw [List.map_drop, h.queued, hqueue, List.map_drop]
  · dsimp only [giveBack]
    rw [hquiet.accepted]
    exact h.posted
  · intro output hmem
    apply h.memory output
    obtain hmem | hmem := List.mem_append.mp hmem
    · exact List.mem_append_left _ hmem
    · exact List.mem_append_right _ (List.mem_of_mem_drop hmem)

/-- A step keeps the invariant. -/
theorem Inv.step (h : Inv cfg s) {ev : Event} (hs : CameraStreamer.step cfg s ev = some s') :
    Inv cfg s' := by
  cases Step.of_step hs with
  | encoder hsend hrelease hreturned hencoder =>
    exact h.encoder_step hsend hrelease hreturned hencoder
  | send hthread hpost => exact h.send_step hthread hpost _ _
  | postPush hpost => exact h.postPush_step hpost
  | client hpush hcheck hclient => exact h.client_step hpush hcheck hclient

variable {header : PacketHeader} {memory : EncoderBuffer → Memory} {es : List Event}

/-- The invariant holds in every run. -/
theorem inv_of_run (hrun : run (step cfg) (initial cfg header memory) es = some s) : Inv cfg s :=
  run_invariant (Inv cfg) (fun _ _ _ h hs => h.step hs) hrun (.initial cfg header memory)

/-! ## What the client has -/

/-- The client's queue and the encoder's buffers in it are in step. -/
theorem Inv.length_queue (h : Inv cfg s) : s.client.chain.queue.length = s.queued.length := by
  have hlength := congrArg List.length h.queued
  rwa [List.length_map, List.length_map, eq_comm] at hlength

/-- The output buffers that are not in the encoder's queue or with its thread. -/
theorem Inv.perm_buffers (h : Inv cfg s) :
    (s.encoder.encoder.downstream_buffers ++
      (s.encoder.thread.buffer?.toList ++ s.held.map Output.buffer)).Perm
      (List.range cfg.downstream_buffer_count) := by
  refine List.Perm.trans (List.Perm.append_left _ ?_) h.encoder.accounted
  calc (s.encoder.thread.buffer?.toList ++ s.held.map Output.buffer).Perm
        (s.encoder.thread.buffer?.toList ++ s.encoder.encoder.output_buffers) :=
          h.buffers.symm.append_left _
    List.Perm _ (s.encoder.encoder.output_buffers ++ s.encoder.thread.buffer?.toList) :=
          List.perm_append_comm

/-- A message in the queue of the client is what its output buffer holds: libjpeg has not written
into that buffer since. Each output buffer of the encoder is in its queue, with its thread, or of
one message that is being posted or queued, so that at most as many messages are queued as there are
output buffers. -/
theorem queued_unchanged (hrun : run (step cfg) (initial cfg header memory) es = some s) :
    s.client.chain.queue.map Message.memory = s.queued.map (fun output => s.memory output.buffer) ∧
      (s.encoder.encoder.downstream_buffers ++ (s.encoder.thread.buffer?.toList ++
        (s.posting.toList ++ s.queued).map Output.buffer)).Perm
        (List.range cfg.downstream_buffer_count) ∧
      s.client.chain.queue.length ≤ cfg.downstream_buffer_count := by
  have h := inv_of_run hrun
  have hperm := h.perm_buffers
  have hlength := hperm.length_eq
  unfold State.held at hperm hlength
  simp only [List.length_append, List.length_map, List.length_range] at hlength
  refine ⟨?_, hperm, ?_⟩
  · have hmemory : s.client.chain.queue.map Message.memory =
        (s.client.chain.queue.map Message.buffer).map SizedBuffer.memory := by
      rw [List.map_map]
      rfl
    rw [hmemory, ← h.queued, List.map_map]
    exact List.map_congr_left fun output hmem => h.memory output (List.mem_append_right _ hmem)
  · rw [h.length_queue]
    omega

/-- The client is connected, a frame has been pushed to its queue, and the next one is encoded to
the other buffer. -/
def pushOne (filled : Memory) : List Event :=
  [.encoder .startEncoder, .client .start, .client (.connectCompletes 0 false),
    .encoder (.postCameraBuffer 0), .encoder (.push 0), .encoder (.postCameraBuffer 1),
    .encoder (.push 1), .encoder .take, .encoder .encode, .send filled 3, .client .postPush,
    .client .postStart, .encoder .take, .encoder .encode]

theorem queued_unchanged_pushOne : ∃ s,
    run (step ⟨2, 2, 2⟩) (initial ⟨2, 2, 2⟩ .initial fun _ _ => 0) (pushOne fun _ => 7) = some s ∧
      s.queued.map Output.buffer = [0] ∧ s.encoder.thread.buffer? = some 1 ∧
      s.client.chain.queue.map Message.memory =
        s.queued.map (fun output => s.memory output.buffer) ∧
      (s.encoder.encoder.downstream_buffers ++ (s.encoder.thread.buffer?.toList ++
        (s.posting.toList ++ s.queued).map Output.buffer)).Perm (List.range 2) ∧
      s.client.chain.queue.length ≤ 2 := by
  have hrun : run (step ⟨2, 2, 2⟩) (initial ⟨2, 2, 2⟩ .initial fun _ _ => 0) (pushOne fun _ => 7) =
      some _ := rfl
  exact ⟨_, hrun, rfl, rfl, queued_unchanged hrun⟩

/-- The messages that the client has accepted are outputs of the encoder, in the order of the frames
of the camera, each of a frame of its own that has been released. -/
theorem streamed_in_order (hrun : run (step cfg) (initial cfg header memory) es = some s) :
    s.client.accepted.map Message.buffer = s.posted.map Output.content ∧
      (s.posted.map Output.frame).Sublist s.encoder.released ∧
      s.encoder.released <+: s.encoder.pushed := by
  have h := inv_of_run hrun
  have hposted : (s.posted.map Output.frame).Sublist
      ((s.posted ++ s.posting.toList).map Output.frame) :=
    (List.sublist_append_left _ _).map Output.frame
  refine ⟨h.posted.symm, (hposted.trans h.frames).trans h.encoder.sent, ?_⟩
  have horder : s.encoder.pushed = _ := h.encoder.order
  rw [horder]
  exact List.prefix_append _ _

theorem streamed_in_order_pushOne : ∃ s,
    run (step ⟨2, 2, 2⟩) (initial ⟨2, 2, 2⟩ .initial fun _ _ => 0) (pushOne fun _ => 7) = some s ∧
      s.posted.map Output.frame = [0] ∧
      s.client.accepted.map Message.buffer = s.posted.map Output.content ∧
      (s.posted.map Output.frame).Sublist s.encoder.released ∧
      s.encoder.released <+: s.encoder.pushed := by
  have hrun : run (step ⟨2, 2, 2⟩) (initial ⟨2, 2, 2⟩ .initial fun _ _ => 0) (pushOne fun _ => 7) =
      some _ := rfl
  exact ⟨_, hrun, rfl, streamed_in_order hrun⟩

/-! ## Which frames are lost -/

/-- When `encodeBuffer` starts, fewer messages are queued than there are output buffers; the client
is running when a frame is posted; and `StopEncoder` finds no frame in the queue. -/
def Unobstructed (cfg : EncoderConfig) (s : State) : Event → Prop
  | .encoder .encode => s.client.chain.queue.length < cfg.downstream_buffer_count
  | .encoder .pop => False
  | .send _ _ => s.client.running = true
  | _ => True

end AugmentedNormalcy.Camera.CameraStreamer
