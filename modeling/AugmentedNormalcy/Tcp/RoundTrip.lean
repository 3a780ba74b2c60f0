import AugmentedNormalcy.Tcp.CameraClient
import AugmentedNormalcy.Tcp.HeadsetSession
import AugmentedNormalcy.Tcp.Link
import Mathlib.Data.List.Induction

/-!
# The round trip of both directions

A camera's `TcpClient` sends to a `TcpCameraSession`, and a `TcpHeadsetSession` sends to the
`TcpClient` of a headset or a display. Both senders are `Sender.Sound` on a connection that stays
up, so both pairs hand the accepted messages to the manager, however the posts, the completions, and
their lengths fall out (`round_trip`). -/

namespace AugmentedNormalcy.Tcp

open Bytes StepSystem

/-- The sizes of the messages, once another one is accepted. -/
theorem sizes_concat {cap : ℕ} {accepted : List Message} (message : Message)
    (h : ∀ m ∈ accepted, m.size ≤ cap) (hm : message.size ≤ cap) :
    ∀ m ∈ accepted ++ [message], m.size ≤ cap := by
  intro m hmem
  obtain hmem | hmem := List.mem_append.mp hmem
  · exact h m hmem
  · rw [List.mem_singleton.mp hmem]
    exact hm

/-! ## `TcpClient` on a camera -/

namespace CameraClient

/-- The client that `Start` was called on, and whose connection was then made. -/
def connected (header : PacketHeader) : State where
  chain := ⟨header.resetHeader, [], [], [], 0, false⟩
  is_stopped := false
  is_connected := true
  socket := some 0
  sockets := 1
  connects := []
  post := .returned
  accepted := []

example (header : PacketHeader) :
    run step (initial header) [.start, .connectCompletes 0 false] = some (connected header) := rfl

def sender : Sender State Event where
  step := step
  chain := State.chain
  accepted := State.accepted
  offered s :=
    match s.post with
    | .checked buffer => [buffer]
    | _ => []
  posts
    | .postCheck buffer => some buffer
    | _ => none
  emits
    | .transmit send n => send.bytes.take n
    | _ => []
  undisturbed
    | .start | .stop | .connectCompletes _ _ | .fail _ => False
    | _ => True

/-- A client that is connected, and sends unless `Post` is about to. -/
structure Posting (cap : ℕ) (s : State) : Prop where
  running : s.running = true
  opened : s.socket = some 0
  sizes : ∀ message ∈ s.accepted, message.size ≤ cap
  checked : ∀ buffer, s.post = .checked buffer → buffer.size ≤ cap
  busy : s.post ≠ .pushed → s.chain.Busy
  pushed : s.post = .pushed → s.chain.sends = [] ∧ s.chain.queue ≠ []

variable {cap : ℕ} {leaky : ℕ → Bool} {s s' : State} {p : Parser}

/-- A completion handler leaves the post alone, and keeps the client in step. -/
theorem onSend_lockstep (hcap : cap < 2 ^ 32) (h : Posting cap s)
    (hp : Lockstep leaky s.accepted s.chain p) {send : Send} (hmem : send ∈ s.chain.sends)
    {result : SendResult} (hresult : send.result = some result) :
    ∃ w, { s with chain := s.chain.finish send }.onSend send result = { s with chain := w } ∧
      w.Busy ∧ Lockstep leaky s.accepted w p := by
  obtain ⟨n, rfl⟩ := hp.result hmem hresult
  have hsize : ∀ message ∈ s.accepted, message.size < 2 ^ 32 :=
    fun message hm => (h.sizes message hm).trans_lt hcap
  have hrunning : { s with chain := s.chain.finish send }.running = true := h.running
  unfold State.onSend
  rw [if_neg (by simp [hrunning])]
  dsimp only
  rw [h.opened]
  dsimp only
  -- The sender goes on with the header or with the body, and the parser with it.
  cases hk : send.kind with
  | writeHeader last_bytes =>
    obtain ⟨w, hw, hsends, hlock⟩ := hp.onHeader hmem hk hresult 0
    dsimp only
    rw [hw]
    exact ⟨w, rfl, fun hnil => absurd hnil hsends, hlock⟩
  | writeBody =>
    obtain ⟨hbusy, hlock⟩ := hp.onBody hsize hmem hk hresult 0
    exact ⟨_, rfl, hbusy, hlock⟩

/-- A reconnect leaves the post alone. -/
theorem reconnect_post (s : State) :
    s.reconnect.accepted = s.accepted ∧ s.reconnect.post = s.post := by
  unfold State.reconnect State.startConnection State.disconnect
  dsimp only
  split
  · exact ⟨rfl, rfl⟩
  · exact ⟨rfl, rfl⟩

/-- A completion handler leaves the post alone. -/
theorem onSend_post (s : State) (send : Send) (result : SendResult) :
    (s.onSend send result).accepted = s.accepted ∧ (s.onSend send result).post = s.post := by
  unfold State.onSend
  split
  · exact ⟨rfl, rfl⟩
  split
  · exact ⟨rfl, rfl⟩
  split
  · exact reconnect_post s
  · exact reconnect_post s
  split
  · split
    · exact ⟨rfl, rfl⟩
    · exact reconnect_post s
  · exact ⟨rfl, rfl⟩

/-- The contents of the messages that were accepted, and of the buffer that is about to be. -/
def taken (s : State) : List (List UInt8) :=
  (sender.accepted s).map Message.content ++ (sender.offered s).map SizedBuffer.content

/-- A client that is connected takes what is posted; nothing else is taken. -/
theorem taken_of_step {ev : Event} (hev : sender.undisturbed ev) (hs : step s ev = some s') :
    taken s' = taken s ++
      if s.running then (sender.posts ev).toList.map SizedBuffer.content else [] := by
  unfold taken
  cases Step.of_step hs with
  | start | stop | connectCompletes | fail => exact hev.elim
  | transmit => simp [sender]
  | @handle send result =>
    obtain ⟨haccepted, hpost⟩ := onSend_post { s with chain := s.chain.finish send } send result
    simp only [sender, hpost, haccepted]
    simp
  | @postCheck buffer hpost =>
    unfold State.postCheck
    split_ifs with hnot hrunning hrunning
    · rw [hrunning] at hnot
      cases hnot
    · exact (List.append_nil _).symm
    · simp [sender, hpost]
    · exact absurd (by simpa using hrunning) hnot
  | @postPush buffer hpost =>
    -- What was offered is accepted.
    have hnone : sender.offered (s.postPush buffer) = [] := by
      simp only [sender, State.postPush]
      cases s.chain.queue.isEmpty <;> rfl
    have haccepted : sender.accepted (s.postPush buffer) =
        s.accepted ++ [⟨s.accepted.length, buffer.memory, buffer.size⟩] := rfl
    rw [hnone, haccepted]
    simp [sender, hpost, Message.content, SizedBuffer.content]
  | postStart hpost =>
    unfold State.postStart
    dsimp only
    split
    · simp [sender, hpost]
    · split <;> simp [sender, hpost]

theorem accepts {ev : Event} (hev : sender.undisturbed ev) (hs : step s ev = some s') :
    ((sender.accepted s').map Message.content ++
      (sender.offered s').map SizedBuffer.content).Sublist
    ((sender.accepted s).map Message.content ++ (sender.offered s).map SizedBuffer.content ++
      (sender.posts ev).toList.map SizedBuffer.content) := by
  have htaken := taken_of_step hev hs
  unfold taken at htaken
  rw [htaken]
  split_ifs
  · exact List.Sublist.refl _
  · rw [List.append_nil]
    exact List.sublist_append_left ..

/-- In a run whose states are connected, all that is posted is taken. -/
theorem taken_of_run {get : ℕ → TcpBuffer} {l : Link State}
    (hinit : taken l.sender = []) {max_size : ℕ}
    (hrunning : ∀ {es l'}, (∀ ev ∈ es, ev.Allowed sender max_size) →
      run (Link.step sender .tcpCameraSession get) l es = some l' → l'.sender.running = true)
    {es : List (LinkEvent Event)} {l' : Link State}
    (hes : ∀ ev ∈ es, ev.Allowed sender max_size)
    (hrun : run (Link.step sender .tcpCameraSession get) l es = some l') :
    taken l'.sender = (es.filterMap (LinkEvent.posts sender)).map SizedBuffer.content := by
  induction es using List.reverseRecOn generalizing l' with
  | nil =>
    cases hrun
    exact hinit
  | append_singleton es ev ih =>
    obtain ⟨t, ht, hlast⟩ := run_concat_eq_some.mp hrun
    have hes' : ∀ ev' ∈ es, ev'.Allowed sender max_size :=
      fun ev' hmem => hes ev' (List.mem_append_left _ hmem)
    rw [List.filterMap_append, List.map_append, ← ih hes' ht]
    cases ev with
    | send ev =>
      obtain ⟨s, hs, rfl⟩ := Option.map_eq_some_iff.mp hlast
      have hallowed := hes _ (List.mem_append_right _ List.mem_cons_self)
      have htaken := taken_of_step hallowed.1 hs
      rw [if_pos (hrunning hes' ht)] at htaken
      rw [htaken]
      cases hposts : sender.posts ev <;> simp [LinkEvent.posts, hposts]
    | receive bytes =>
      unfold Link.step at hlast
      dsimp only at hlast
      split_ifs at hlast
      obtain ⟨r, -, rfl⟩ := Option.map_eq_some_iff.mp hlast
      simp [LinkEvent.posts]

theorem step_lockstep (hcap : cap < 2 ^ 32) (h : Posting cap s)
    (hp : Lockstep leaky s.accepted s.chain p) (hover : ¬ p.Overruns cap) {ev : Event}
    (hev : sender.undisturbed ev) (hsize : ∀ b, sender.posts ev = some b → b.size ≤ cap)
    (hs : step s ev = some s') :
    Posting cap s' ∧ p.Clear cap leaky (sender.emits ev) ∧
      Lockstep leaky s'.accepted s'.chain ((sender.emits ev).foldl (Parser.byte leaky) p) := by
  have hclear : p.Clear cap leaky [] := Parser.clear_nil.mpr hover
  cases Step.of_step hs with
  | start | stop | connectCompletes | fail => exact hev.elim
  | transmit hmem hresult hn =>
    obtain ⟨hclear', hlock⟩ := hp.transmit hover h.sizes hmem hresult hn
    refine ⟨⟨h.running, h.opened, h.sizes, h.checked, fun _ hnil => (by cases hnil),
      fun hpost => ?_⟩, hclear', hlock⟩
    rw [(h.pushed hpost).1] at hmem
    cases hmem
  | handle hmem hresult =>
    obtain ⟨w, hw, hbusy, hlock⟩ := onSend_lockstep hcap h hp hmem hresult
    rw [hw]
    refine ⟨⟨h.running, h.opened, h.sizes, h.checked, fun _ => hbusy, fun hpost => ?_⟩, hclear,
      hlock⟩
    rw [(h.pushed hpost).1] at hmem
    cases hmem
  -- The client runs, so the buffer is kept for the second step.
  | @postCheck buffer hpost =>
    unfold State.postCheck
    rw [h.running, if_neg (by decide)]
    refine ⟨⟨h.running, h.opened, h.sizes, fun b hb => ?_, fun _ => h.busy (by simp [hpost]),
      fun hpost' => by cases hpost'⟩, hclear, hp⟩
    cases hb
    exact hsize buffer rfl
  | @postPush buffer hpost =>
    -- The message waits behind the others, or for the third step.
    have hbusy := h.busy (by simp [hpost])
    refine ⟨⟨h.running, h.opened, sizes_concat _ h.sizes (h.checked buffer hpost), fun b hb => ?_,
      fun hne => ?_, fun hpushed => ?_⟩, hclear, hp.push _⟩
    · cases hq : s.chain.queue.isEmpty <;> simp [State.postPush, hq] at hb
    · intro hnil
      have hq := hbusy hnil
      simp [State.postPush, hq] at hne
    · cases hq : s.chain.queue.isEmpty with
      | false => simp [State.postPush, hq] at hpushed
      | true =>
        rw [List.isEmpty_iff] at hq
        exact ⟨hp.sends_of_queue_nil hq, by simp [State.postPush, WriteChain.push]⟩
  | postStart hpost =>
    obtain ⟨hsends, hqueue⟩ := h.pushed hpost
    obtain ⟨hlock, hbusy⟩ := hp.start hsends hqueue
      (fun message hm => (h.sizes message hm).trans_lt hcap) 0
    -- A client that runs starts the front on its socket.
    have hstart : s.postStart = { s with post := .returned, chain := s.chain.start 0 } := by
      have hrunning : { s with post := .returned, chain := s.chain.setupHeader }.running = true :=
        h.running
      unfold State.postStart
      dsimp only
      rw [hrunning, if_neg (by decide), h.opened]
      rfl
    rw [hstart]
    exact ⟨⟨h.running, h.opened, h.sizes, fun b hb => (by cases hb), fun _ => hbusy,
      fun hpost' => by cases hpost'⟩, hclear, hlock⟩

/-- A client that has nothing left to do but the next post has sent everything. -/
theorem quiet (h : Posting cap s) (hp : Lockstep leaky s.accepted s.chain p)
    (hquiet : sender.Quiet s) : s.chain.queue = [] ∧ s.chain.sends = [] := by
  have hblocked : ∀ ev, sender.undisturbed ev → sender.posts ev = none → step s ev = none := hquiet
  have hfault := hp.1
  -- A post that is half done could go on.
  have hpost : s.post = .returned := by
    cases hpost : s.post with
    | returned => rfl
    | checked buffer =>
      have := hblocked .postPush trivial rfl
      simp [step, hfault, hpost] at this
    | pushed =>
      have := hblocked .postStart trivial rfl
      simp [step, hfault, hpost] at this
  -- A send that is outstanding could transmit or be handled.
  have hsends : s.chain.sends = [] := hp.sends_eq_nil fun send hmem => by
    constructor
    · intro hnone n hn
      have := hblocked (.transmit send n) trivial rfl
      simp [step, hfault, hmem, hnone, hn] at this
    · intro result hsome
      have := hblocked (.handle send) trivial rfl
      simp [step, hfault, hmem, hsome] at this
  exact ⟨h.busy (by simp [hpost]) hsends, hsends⟩

theorem sound (hcap : cap < 2 ^ 32) : sender.Sound cap (Posting cap) where
  step h hp hover hev hsize hs := step_lockstep hcap h hp hover hev hsize hs
  accepts hev hs := accepts hev hs
  quiet h hp hquiet := quiet h hp hquiet

end CameraClient

/-! ## `TcpHeadsetSession` -/

namespace TcpHeadsetSession

def sender : Sender State Event where
  step := step
  chain := State.chain
  accepted := State.accepted
  offered s := s.posted.filterMap fun
    | .write copy_buffer => some copy_buffer
    | .doClose => none
  posts
    | .write buffer => some buffer
    | _ => none
  emits
    | .transmit send n => send.bytes.take n
    | _ => []
  undisturbed
    | .tryClose | .fail _ _ | .timerExpires | .runTimer => False
    | _ => True

/-- A session that is live, with room in the copies for what was posted. -/
structure Writing (cap : ℕ) (s : State) : Prop where
  live : s.is_live = true
  opened : s.is_shut_down = false
  sizes : ∀ message ∈ s.accepted, message.size ≤ cap
  posted : ∀ x ∈ s.posted, ∃ copy_buffer, x = .write copy_buffer ∧ copy_buffer.size ≤ cap
  busy : s.chain.Busy
  room : cap ≤ s.buffer_size
  overrun : s.overrun = false

variable {cap : ℕ} {leaky : ℕ → Bool} {s s' : State} {p : Parser}

/-- A completion handler goes on with the chain, and leaves the posts alone. -/
theorem onSend_lockstep (hcap : cap < 2 ^ 32) (h : Writing cap s)
    (hp : Lockstep leaky s.accepted s.chain p) {send : Send} (hmem : send ∈ s.chain.sends)
    {result : SendResult} (hresult : send.result = some result) :
    ∃ w timer_armed, s.onSend send result = { s with chain := w, timer_armed := timer_armed } ∧
      w.Busy ∧ Lockstep leaky s.accepted w p := by
  obtain ⟨n, rfl⟩ := hp.result hmem hresult
  have hsize : ∀ message ∈ s.accepted, message.size < 2 ^ 32 :=
    fun message hm => (h.sizes message hm).trans_lt hcap
  unfold State.onSend
  cases hk : send.kind with
  | writeHeader last_bytes =>
    obtain ⟨w, hw, hsends, hlock⟩ := hp.onHeader hmem hk hresult 0
    dsimp only
    rw [hw]
    exact ⟨w, _, rfl, fun hnil => absurd hnil hsends, hlock⟩
  | writeBody =>
    obtain ⟨hbusy, hlock⟩ := hp.onBody hsize hmem hk hresult 0
    exact ⟨_, _, rfl, hbusy, hlock⟩

/-- The lambda of `Write` drops its buffer, or accepts a copy of it. -/
theorem write_cases (s : State) (copy_buffer : SizedBuffer) :
    s.write copy_buffer = s ∨ ∃ released, ∃ message : Message,
      message.content = copy_buffer.content ∧ message.size = copy_buffer.size ∧
      s.write copy_buffer = { s with
        accepted := s.accepted ++ [message]
        overrun := s.overrun || decide (s.buffer_size < copy_buffer.size)
        chain :=
          let w := { s.chain with released := released }.push message
          if s.chain.queue = [] then w.start 0 else w
        timer_armed := (s.write copy_buffer).timer_armed } := by
  by_cases hlive : s.is_live = false
  · exact .inl (if_pos hlive)
  cases hreleased : s.chain.released with
  | nil =>
    refine .inl ?_
    unfold State.write
    rw [if_neg hlive, hreleased]
  | cons memory released =>
    refine .inr ⟨released, ⟨s.accepted.length,
      overwrite memory 0 (slice copy_buffer.memory 0 copy_buffer.size), copy_buffer.size⟩, ?_, rfl,
      ?_⟩
    · have hcopy := slice_overwrite_self memory 0 (slice copy_buffer.memory 0 copy_buffer.size)
      rwa [length_slice] at hcopy
    · rw [write_of_cons (by simpa using hlive) hreleased]
      rfl

/-- `TryClose` leaves the buffers that were posted, and what was accepted of them. -/
theorem tryClose_posted (s : State) (internal_close : Bool) :
    (s.tryClose internal_close).accepted = s.accepted ∧
      sender.offered (s.tryClose internal_close) = sender.offered s := by
  unfold State.tryClose State.doClose
  dsimp only
  split_ifs
  · exact ⟨rfl, rfl⟩
  · exact ⟨rfl, rfl⟩
  · simp [sender]

theorem onSend_posted (s : State) (send : Send) (result : SendResult) :
    (s.onSend send result).accepted = s.accepted ∧
      sender.offered (s.onSend send result) = sender.offered s := by
  unfold State.onSend
  dsimp only
  split
  · exact ⟨rfl, rfl⟩
  · exact tryClose_posted _ true
  split
  · split
    · exact ⟨rfl, rfl⟩
    · exact tryClose_posted _ true
  · exact ⟨rfl, rfl⟩

theorem accepts {ev : Event} (hev : sender.undisturbed ev) (hs : step s ev = some s') :
    ((sender.accepted s').map Message.content ++
      (sender.offered s').map SizedBuffer.content).Sublist
    ((sender.accepted s).map Message.content ++ (sender.offered s).map SizedBuffer.content ++
      (sender.posts ev).toList.map SizedBuffer.content) := by
  cases Step.of_step hs with
  | tryClose | fail | timerExpires | runTimer => exact hev.elim
  | write => simp [sender]
  | @runWrite copy_buffer posted hposted =>
    have hoffered :
      sender.offered s = copy_buffer :: sender.offered { s with posted := posted } := by
      simp [sender, hposted]
    rw [hoffered]
    -- The copy is accepted, or the buffer is dropped.
    obtain heq | ⟨released, message, hcontent, -, heq⟩ :=
      write_cases { s with posted := posted } copy_buffer
    · rw [heq]
      simp [sender]
    · rw [heq]
      simp [sender, hcontent]
  | runClose hposted => simp [sender, State.doClose, hposted]
  | transmit => simp [sender]
  | @handle send result =>
    obtain ⟨haccepted, hoffered⟩ := onSend_posted s send result
    rw [hoffered, show sender.accepted (s.onSend send result) = sender.accepted s from haccepted]
    simp

theorem write_lockstep (hcap : cap < 2 ^ 32) (h : Writing cap s)
    (hp : Lockstep leaky s.accepted s.chain p) {copy_buffer : SizedBuffer}
    (hsize : copy_buffer.size ≤ cap) :
    Writing cap (s.write copy_buffer) ∧
      Lockstep leaky (s.write copy_buffer).accepted (s.write copy_buffer).chain p := by
  obtain heq | ⟨released, message, -, hmessage, heq⟩ := write_cases s copy_buffer
  · rw [heq]
    exact ⟨h, hp⟩
  rw [heq]
  have hsizes := sizes_concat message h.sizes (hmessage.trans_le hsize)
  have hreleased : Lockstep leaky s.accepted { s.chain with released := released } p :=
    hp.of_eq rfl rfl rfl rfl
  have hpush := hreleased.push message
  have hroom : (s.overrun || decide (s.buffer_size < copy_buffer.size)) = false := by
    have := h.room
    simp [h.overrun]
    omega
  dsimp only
  -- An empty queue is started, another one is busy.
  split
  · rename_i hq
    obtain ⟨hlock, hbusy⟩ := hpush.start (hp.sends_of_queue_nil hq) (by simp [WriteChain.push])
      (fun m hm => (hsizes m hm).trans_lt hcap) 0
    exact ⟨⟨h.live, h.opened, hsizes, h.posted, hbusy, h.room, hroom⟩, hlock⟩
  · rename_i hq
    exact ⟨⟨h.live, h.opened, hsizes, h.posted, fun hnil => absurd (h.busy hnil) hq, h.room, hroom⟩,
      hpush⟩

theorem step_lockstep (hcap : cap < 2 ^ 32) (h : Writing cap s)
    (hp : Lockstep leaky s.accepted s.chain p) (hover : ¬ p.Overruns cap) {ev : Event}
    (hev : sender.undisturbed ev) (hsize : ∀ b, sender.posts ev = some b → b.size ≤ cap)
    (hs : step s ev = some s') :
    Writing cap s' ∧ p.Clear cap leaky (sender.emits ev) ∧
      Lockstep leaky s'.accepted s'.chain ((sender.emits ev).foldl (Parser.byte leaky) p) := by
  have hclear : p.Clear cap leaky [] := Parser.clear_nil.mpr hover
  cases Step.of_step hs with
  | tryClose | fail | timerExpires | runTimer => exact hev.elim
  | write buffer =>
    refine ⟨⟨h.live, h.opened, h.sizes, fun x hx => ?_, h.busy, h.room, h.overrun⟩, hclear, hp⟩
    obtain hx | hx := List.mem_append.mp hx
    · exact h.posted x hx
    · exact ⟨buffer, List.mem_singleton.mp hx, hsize buffer rfl⟩
  | @runWrite copy_buffer posted hposted =>
    obtain ⟨b, hb, hle⟩ := h.posted (.write copy_buffer) (by simp [hposted])
    cases hb
    have h' : Writing cap { s with posted := posted } :=
      ⟨h.live, h.opened, h.sizes, fun x hx => h.posted x (by simp [hposted, hx]), h.busy, h.room,
        h.overrun⟩
    have hlock := write_lockstep hcap h' hp hle
    exact ⟨hlock.1, hclear, hlock.2⟩
  | runClose hposted =>
    -- Nothing but writes is posted on a session that is not closed.
    obtain ⟨b, hb, -⟩ := h.posted .doClose (by simp [hposted])
    cases hb
  | transmit hmem hresult hn =>
    obtain ⟨hclear', hlock⟩ := hp.transmit hover h.sizes hmem hresult hn
    exact ⟨⟨h.live, h.opened, h.sizes, h.posted, fun hnil => (by cases hnil), h.room, h.overrun⟩,
      hclear', hlock⟩
  | handle hmem hresult =>
    obtain ⟨w, timer_armed, hw, hbusy, hlock⟩ := onSend_lockstep hcap h hp hmem hresult
    rw [hw]
    exact ⟨⟨h.live, h.opened, h.sizes, h.posted, hbusy, h.room, h.overrun⟩, hclear, hlock⟩

/-- A session that has nothing left to do but the next post has sent everything. -/
theorem quiet (h : Writing cap s) (hp : Lockstep leaky s.accepted s.chain p)
    (hquiet : sender.Quiet s) : s.chain.queue = [] ∧ s.chain.sends = [] := by
  have hblocked : ∀ ev, sender.undisturbed ev → sender.posts ev = none → step s ev = none := hquiet
  have hfault := hp.1
  have hsends : s.chain.sends = [] := hp.sends_eq_nil fun send hmem => by
    constructor
    · intro hnone n hn
      have := hblocked (.transmit send n) trivial rfl
      simp [step, hfault, hmem, hnone, hn, h.opened] at this
    · intro result hsome
      have := hblocked (.handle send) trivial rfl
      simp [step, hfault, hmem, hsome] at this
  exact ⟨h.busy hsends, hsends⟩

theorem sound (hcap : cap < 2 ^ 32) : sender.Sound cap (Writing cap) where
  step h hp hover hev hsize hs := step_lockstep hcap h hp hover hev hsize hs
  accepts hev hs := accepts hev hs
  quiet h hp hquiet := quiet h hp hquiet

end TcpHeadsetSession

/-! ## Both pairs -/

/-- For both pairs of a sender and a receiver, any headers that they start with, and any outcomes of
`GetReadBuffer`: in every run without error, timeout, or close, over messages that fit into the
buffers, the receiver hands over the accepted messages. A camera's client accepts all that it is
given, a headset's session what it has a buffer for. -/
theorem round_trip (get : ℕ → TcpBuffer) (max_size : ℕ) (hget : ∀ n, max_size ≤ (get n).max_size)
    (header header' : PacketHeader) :
    (∀ es l, (∀ ev ∈ es, ev.Allowed CameraClient.sender max_size) →
      run (Link.step CameraClient.sender .tcpCameraSession get)
        ⟨CameraClient.connected header, [], .initial header'⟩ es = some l →
      RoundTrip CameraClient.sender .tcpCameraSession get
        (es.filterMap (LinkEvent.posts CameraClient.sender)) l ∧
      CameraClient.taken l.sender =
        (es.filterMap (LinkEvent.posts CameraClient.sender)).map SizedBuffer.content) ∧
    ∀ pool buffer_size es l,
      (∀ ev ∈ es, ev.Allowed TcpHeadsetSession.sender (min max_size buffer_size)) →
      run (Link.step TcpHeadsetSession.sender .tcpClient get)
        ⟨TcpHeadsetSession.initial header pool buffer_size, [], .initial header'⟩ es = some l →
      RoundTrip TcpHeadsetSession.sender .tcpClient get
        (es.filterMap (LinkEvent.posts TcpHeadsetSession.sender)) l ∧ l.sender.overrun = false := by
  -- The camera first: its cap is that of the receiver's buffers.
  constructor
  · intro es l hes hrun
    have hcap : min max_size (2 ^ 32 - 1) < 2 ^ 32 := by omega
    have hget' : ∀ n, min max_size (2 ^ 32 - 1) ≤ (get n).max_size :=
      fun n => (min_le_left _ _).trans (hget n)
    have hinit : CameraClient.Posting (min max_size (2 ^ 32 - 1))
        (CameraClient.connected header) :=
      ⟨rfl, rfl, by simp [CameraClient.connected], by simp [CameraClient.connected],
        fun _ _ => rfl, by simp [CameraClient.connected]⟩
    have hsound := CameraClient.sound hcap
    have hmax : ∀ n, n < 2 ^ 32 → n ≤ max_size → n ≤ min max_size (2 ^ 32 - 1) :=
      fun n h32 hle => by omega
    refine ⟨hsound.roundTrip hcap hget' hmax hinit rfl rfl rfl hes hrun, ?_⟩
    have hrunning : ∀ {es' l'}, (∀ ev ∈ es', ev.Allowed CameraClient.sender max_size) →
        run (Link.step CameraClient.sender .tcpCameraSession get)
          ⟨CameraClient.connected header, [], .initial header'⟩ es' = some l' →
        l'.sender.running = true := fun hes' hrun' =>
      (hsound.linked hcap hget' hmax hinit rfl rfl hes' hrun').1.running
    exact CameraClient.taken_of_run rfl hrunning hes hrun
  · intro pool buffer_size es l hes hrun
    have hcap : min (min max_size buffer_size) (2 ^ 32 - 1) < 2 ^ 32 := by omega
    have hget' : ∀ n, min (min max_size buffer_size) (2 ^ 32 - 1) ≤ (get n).max_size := by
      intro n
      have := hget n
      omega
    -- A headset's copies have to hold the frame too.
    have hinit : TcpHeadsetSession.Writing (min (min max_size buffer_size) (2 ^ 32 - 1))
        (TcpHeadsetSession.initial header pool buffer_size) :=
      ⟨rfl, rfl, by simp [TcpHeadsetSession.initial], by simp [TcpHeadsetSession.initial],
        fun _ => rfl, by simp only [TcpHeadsetSession.initial]; omega, rfl⟩
    have hsound := TcpHeadsetSession.sound hcap
    have hmax : ∀ n, n < 2 ^ 32 → n ≤ min max_size buffer_size →
        n ≤ min (min max_size buffer_size) (2 ^ 32 - 1) := fun n h32 hle => by omega
    have hlinked := hsound.linked hcap hget' hmax hinit rfl rfl hes hrun
    exact ⟨hsound.roundTrip hcap hget' hmax hinit rfl rfl rfl hes hrun, hlinked.1.overrun⟩

/-- The header of a first message of two bytes. -/
def twoBytesHeader : List UInt8 :=
  slice (PacketHeader.initial.setupHeader 2).data 0 PacketHeader.size

/-- A send of a first message. -/
def firstSendOf (kind : SendKind) (bytes : List UInt8) (result : Option SendResult) : Send :=
  ⟨kind, 0, 0, bytes, result⟩

/-- A message of two bytes is posted and sent, the bytes of its body one by one. -/
def postTwoBytes : List (LinkEvent CameraClient.Event) :=
  [.send (.postCheck ⟨fun _ => 7, 2⟩), .send .postPush, .send .postStart,
   .send (.transmit (firstSendOf (.writeHeader 0) twoBytesHeader none) 24),
   .receive twoBytesHeader,
   .send (.handle (firstSendOf (.writeHeader 0) twoBytesHeader (some (.ok 24)))),
   .send (.transmit (firstSendOf .writeBody [7, 7] none) 1),
   .send (.handle (firstSendOf .writeBody [7, 7] (some (.ok 1)))),
   .receive [7],
   .send (.transmit (firstSendOf .writeBody [7] none) 1),
   .receive [7]]

/-- A frame of two bytes is copied and sent, and then received. -/
def writeTwoBytes : List (LinkEvent TcpHeadsetSession.Event) :=
  [.send (.write ⟨fun _ => 7, 2⟩), .send .runPosted,
   .send (.transmit (firstSendOf (.writeHeader 0) twoBytesHeader none) 24),
   .send (.handle (firstSendOf (.writeHeader 0) twoBytesHeader (some (.ok 24)))),
   .send (.transmit (firstSendOf .writeBody [7, 7] none) 2),
   .receive twoBytesHeader,
   .receive [7, 7]]

theorem round_trip_twoBytes :
    (∃ l, run (Link.step CameraClient.sender .tcpCameraSession freshBuffers)
        ⟨CameraClient.connected .initial, [], .initial .initial⟩ postTwoBytes = some l ∧
      l.receiver.delivered = [[7, 7]] ∧
      RoundTrip CameraClient.sender .tcpCameraSession freshBuffers [⟨fun _ => 7, 2⟩] l ∧
      CameraClient.taken l.sender = [[7, 7]]) ∧
    ∃ l, run (Link.step TcpHeadsetSession.sender .tcpClient freshBuffers)
        ⟨TcpHeadsetSession.initial .initial [fun _ => 0] 16, [], .initial .initial⟩
          writeTwoBytes = some l ∧
      l.receiver.delivered = [[7, 7]] ∧
      RoundTrip TcpHeadsetSession.sender .tcpClient freshBuffers [⟨fun _ => 7, 2⟩] l := by
  obtain ⟨hcamera, hheadset⟩ := round_trip freshBuffers 16 (fun _ => le_rfl) .initial .initial
  refine ⟨⟨_, rfl, by decide, hcamera postTwoBytes _ ?_ rfl⟩,
    ⟨_, rfl, by decide, (hheadset [fun _ => 0] 16 writeTwoBytes _ ?_ rfl).1⟩⟩
  · simp [postTwoBytes, LinkEvent.Allowed, CameraClient.sender]
  · simp [writeTwoBytes, LinkEvent.Allowed, TcpHeadsetSession.sender]

end AugmentedNormalcy.Tcp
