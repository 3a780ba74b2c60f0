import AugmentedNormalcy.Websocket.Fencing

/-!
# The send queue

A write is live when the handshake of its stream had completed before it was started: only a live
write can succeed. `Core` says that at most one live write is pending and that it carries the front
of the queue, and relates streams to pending operations so that no live write is left when a
handshake completes. `Chained` says that a queue with something in it has a write pending once the
handshake of the session has completed. The messages that left, the queue, and the posted ones
always spell out what was accepted.
-/

namespace AugmentedNormalcy.Websocket

open StepSystem

/-- A step of making a new stream usable. -/
def OperationKind.isSetup : OperationKind → Bool
  | connect | handshake => true
  | _ => false

/-- The message of a live write. -/
def Operation.liveWrite (op : Operation) : Option Message :=
  match op.kind with
  | .write message true => some message
  | _ => none

namespace WebsocketClient

/-- The messages of the pending writes that may still succeed. -/
def liveWrites (s : WebsocketClient) : List Message := s.pending.filterMap Operation.liveWrite

/-- The messages that left, those in the queue, those on the strand, and all accepted ones. -/
def queues (s : WebsocketClient) : List Message × List Message × List Message × List Message :=
  (s.written, s.send_queue, s.posted, s.accepted)

/-- A stream is ready when some session's handshake on it has succeeded. -/
theorem handshaken_eq_true {s : WebsocketClient} {stream : ℕ} :
    s.handshaken stream = true ↔ ∃ n, (n, stream) ∈ s.handshakes := by
  simp [handshaken]

/-! ## What leaves the queues alone -/

section Frame

variable (s : WebsocketClient) (n : ℕ)

/-- Starting an operation leaves the messages alone. -/
@[simp]
theorem queues_startOperation (kind : OperationKind) :
    (s.startOperation kind n).queues = s.queues := by
  unfold startOperation
  split <;> rfl

/-- So does a connect. -/
@[simp]
theorem queues_startConnection : (s.startConnection n).queues = s.queues := by
  unfold startConnection
  split
  · rfl
  · rw [queues_startOperation]
    rfl

/-- So does a disconnect, whether or not it closes the stream first. -/
@[simp]
theorem queues_disconnect (is_open : Bool) : (s.disconnect n is_open).queues = s.queues := by
  unfold disconnect
  dsimp only
  split_ifs
  · rfl
  · rw [queues_startOperation]
    rfl
  · rw [queues_startConnection]
    rfl

/-- The handler of a close leaves the messages alone. -/
@[simp]
theorem queues_onDisconnect : (s.onDisconnect n).queues = s.queues := by
  unfold onDisconnect
  split_ifs <;> simp

/-- The handler of a connect leaves the messages alone. -/
@[simp]
theorem queues_onConnection (ec : Bool) : (s.onConnection n ec).queues = s.queues := by
  unfold onConnection
  split_ifs <;> simp

/-- So does a read. -/
@[simp]
theorem queues_read : (s.read n).queues = s.queues := by
  unfold read
  split_ifs <;> simp

/-- `doWrite` reads the front of the queue, and leaves it there. -/
@[simp]
theorem queues_doWrite : (s.doWrite n).queues = s.queues := by
  unfold doWrite
  split_ifs
  · rfl
  · split
    · rfl
    · rfl
    · simp

/-- The handler of a handshake leaves the messages alone. -/
@[simp]
theorem queues_onHandshake (ec is_open : Bool) :
    (s.onHandshake n ec is_open).queues = s.queues := by
  have h : { s with connected := true }.queues = s.queues := rfl
  unfold onHandshake
  dsimp only
  split_ifs <;> simp [h]

/-- The handler of a read leaves the messages alone. -/
@[simp]
theorem queues_onRead (ec : Bool) (bytes_transferred : ℕ) (accepted is_open : Bool) :
    (s.onRead n ec bytes_transferred accepted is_open).queues = s.queues := by
  unfold onRead
  split_ifs
  · rfl
  · simp
  · simp
  · rw [queues_read]
    rfl
  · simp

/-- A read keeps the session. -/
theorem read_session_number : (s.read n).session_number = s.session_number := by
  unfold read startOperation
  split_ifs
  · rfl
  · split <;> rfl

/-- A read is no write. -/
theorem liveWrites_read : (s.read n).liveWrites = s.liveWrites := by
  unfold read startOperation
  split_ifs
  · rfl
  · split
    · rfl
    · exact List.filterMap_cons_none rfl

end Frame

end WebsocketClient

/-- What ties streams, pending operations, and the queue together. -/
structure Core (s : WebsocketClient) : Prop where
  older : ∀ op ∈ s.pending, op.stream < s.streams
  newest : ∀ stream, s.ws = some stream → stream + 1 = s.streams
  running : s.is_stopped = false → s.ws.isSome
  recorded : ∀ h ∈ s.handshakes, h.1 ≤ s.session_number ∧
    (s.is_stopped = true → h.1 ≠ s.session_number) ∧ h.2 < s.streams
  /-- While the current session connects or shakes hands, its stream is new and its own. -/
  setup : ∀ op ∈ s.pending, op.kind.isSetup = true → op.session_number = s.session_number →
    s.ws = some op.stream ∧ s.handshaken op.stream = false ∧
      ∀ o ∈ s.pending, o.kind.isSetup = true → o.stream = op.stream →
        o.session_number = s.session_number
  live : ∀ op ∈ s.pending, op.liveWrite.isSome → s.handshaken op.stream = true
  front : s.liveWrites = [] ∨
    ∃ message, s.liveWrites = [message] ∧ s.send_queue.head? = some message
  noFault : s.fault = false

/-- When the handshake of the current session has completed and the queue is not empty, a write of
the session is pending. -/
def Chained (s : WebsocketClient) : Prop :=
  s.is_stopped = false → (∃ stream, (s.session_number, stream) ∈ s.handshakes) →
    s.send_queue ≠ [] → ∃ op ∈ s.pending, op.kind.isWrite = true ∧
      op.session_number = s.session_number

namespace Core

variable {s s' : WebsocketClient} {n : ℕ} {op : Operation}

/-- Nothing is pending at first. -/
theorem initial : Core initial := by
  refine ⟨?_, ?_, ?_, ?_, ?_, ?_, .inl rfl, rfl⟩ <;> simp [Websocket.initial]

/-- The read buffer and what the manager was told do not matter. -/
theorem of_eq (h : Core s) {read_buffer : List UInt8} {connected : Bool}
    (hs : s' = { s with read_buffer := read_buffer, connected := connected }) : Core s' := by
  subst hs
  exact ⟨h.older, h.newest, h.running, h.recorded, h.setup, h.live, h.front, h.noFault⟩

/-- An operation that has completed leaves the others as they are. -/
theorem finish (h : Core s) (op : Operation) : Core (s.finish op) := by
  have hsub : (s.pending.erase op).Sublist s.pending := List.erase_sublist
  refine ⟨fun o ho => h.older o (hsub.mem ho), h.newest, h.running, h.recorded,
    fun o ho hk hn => ?_, fun o ho => h.live o (hsub.mem ho), ?_, h.noFault⟩
  · obtain ⟨hws, hnew, hown⟩ := h.setup o (hsub.mem ho) hk hn
    exact ⟨hws, hnew, fun o' ho' => hown o' (hsub.mem ho')⟩
  · have hlive : List.Sublist (s.finish op).liveWrites s.liveWrites :=
      hsub.filterMap _
    obtain hnil | ⟨message, hone, hhead⟩ := h.front
    · exact .inl (List.eq_nil_of_sublist_nil (hnil ▸ hlive))
    · rw [hone] at hlive
      obtain hnil | hcons := List.sublist_singleton.mp hlive
      · exact .inl hnil
      · exact .inr ⟨message, hcons, hhead⟩

/-- A live write carries the front, and no other is pending. -/
theorem front_of_mem (h : Core s) {message : Message} {stream : ℕ}
    (hop : ⟨.write message true, n, stream⟩ ∈ s.pending) :
    s.send_queue.head? = some message ∧
      (s.finish ⟨.write message true, n, stream⟩).liveWrites = [] := by
  have hperm : s.liveWrites.Perm (message ::
      (s.finish ⟨.write message true, n, stream⟩).liveWrites) :=
    (List.perm_cons_erase hop).filterMap Operation.liveWrite
  obtain hnil | ⟨m, hone, hhead⟩ := h.front
  · have hlen := hperm.length_eq
    simp [hnil] at hlen
  · have hlen := hperm.length_eq
    have hmem : message ∈ s.liveWrites := hperm.symm.subset List.mem_cons_self
    rw [hone, List.mem_singleton] at hmem
    simp only [hone, List.length_cons, List.length_nil] at hlen
    exact ⟨hmem ▸ hhead, List.length_eq_zero_iff.mp (by omega)⟩

/-! ## Starting an operation -/

/-- An operation may be started when it is the only set-up of its stream, and a write when it is the
only one on it. -/
theorem cons (h : Core s) (hws : s.ws = some op.stream)
    (hsetup : op.kind.isSetup = true → op.session_number = s.session_number ∧
      s.handshaken op.stream = false ∧ ∀ o ∈ s.pending, o.kind.isSetup = true →
        o.stream = op.stream → o.session_number = s.session_number)
    (hwrite : ∀ message, op.liveWrite = some message → s.handshaken op.stream = true ∧
      s.liveWrites = [] ∧ s.send_queue.head? = some message) :
    Core { s with pending := op :: s.pending } := by
  refine ⟨?_, h.newest, h.running, h.recorded, ?_, ?_, ?_, h.noFault⟩
  · rw [List.forall_mem_cons]
    exact ⟨Nat.lt_of_lt_of_eq (Nat.lt_succ_self _) (h.newest _ hws), h.older⟩
  · rw [List.forall_mem_cons]
    refine ⟨fun hk hn => ⟨hws, (hsetup hk).2.1, ?_⟩, fun o ho hk hn => ?_⟩
    · rw [List.forall_mem_cons]
      exact ⟨fun _ _ => hn, (hsetup hk).2.2⟩
    · obtain ⟨hws', hnew, hown⟩ := h.setup o ho hk hn
      refine ⟨hws', hnew, ?_⟩
      rw [List.forall_mem_cons]
      exact ⟨fun hk' _ => (hsetup hk').1, hown⟩
  · rw [List.forall_mem_cons]
    refine ⟨fun hlive => ?_, h.live⟩
    obtain ⟨message, hm⟩ := Option.isSome_iff_exists.mp hlive
    exact (hwrite message hm).1
  · cases hm : op.liveWrite with
    | none =>
      have hsame : { s with pending := op :: s.pending }.liveWrites = s.liveWrites :=
        List.filterMap_cons_none hm
      rw [hsame]
      exact h.front
    | some message =>
      obtain ⟨-, hnil, hhead⟩ := hwrite message hm
      refine .inr ⟨message, ?_, hhead⟩
      exact (List.filterMap_cons_some hm).trans (congrArg (message :: ·) hnil)

/-- No setup operation of the current session is pending. -/
theorem no_setup (hfree : s.exclusive = []) :
    ∀ o ∈ s.pending, o.kind.isSetup = true → o.session_number ≠ s.session_number := by
  intro o ho hk hn
  have hmem : o ∈ s.exclusive := by
    refine List.mem_filter.mpr ⟨WebsocketClient.mem_current.mpr ⟨ho, hn⟩, ?_⟩
    cases hkind : o.kind <;> simp_all [OperationKind.isSetup, OperationKind.isWrite]
  rw [hfree] at hmem
  cases hmem

/-- A new stream, and its connection started. -/
theorem newStream (h : Core s) (hfree : s.exclusive = []) {is_stopped : Bool}
    (hs : is_stopped = true → s.is_stopped = true) :
    Core { s with
      is_stopped := is_stopped
      ws := some s.streams
      streams := s.streams + 1
      pending := ⟨.connect, s.session_number, s.streams⟩ :: s.pending } := by
  have hnew : s.handshaken s.streams = false := by
    rw [Bool.eq_false_iff, ne_eq, WebsocketClient.handshaken_eq_true]
    rintro ⟨m, hm⟩
    exact absurd (h.recorded _ hm).2.2 (Nat.lt_irrefl _)
  have h' : Core { s with
      is_stopped := is_stopped, ws := some s.streams, streams := s.streams + 1 } := by
    refine ⟨fun op hop => Nat.lt_succ_of_lt (h.older op hop), ?_, fun _ => rfl, fun x hx => ?_,
      fun op hop hk hn => absurd hn (no_setup hfree op hop hk), h.live, h.front, h.noFault⟩
    · rintro stream ⟨⟩
      rfl
    · obtain ⟨hle, hne, hlt⟩ := h.recorded x hx
      exact ⟨hle, fun hs' => hne (hs hs'), Nat.lt_succ_of_lt hlt⟩
  refine h'.cons rfl (fun _ => ⟨rfl, hnew, fun o ho _ heq => ?_⟩) (fun _ hm => by cases hm)
  exact absurd (h.older o ho) (heq ▸ Nat.lt_irrefl _)

/-- A connect starts on a stream of its own. -/
theorem startConnection (h : Core s) (hfree : n = s.session_number → s.exclusive = []) :
    Core (s.startConnection n) := by
  unfold WebsocketClient.startConnection
  split_ifs with hg
  · exact h
  · obtain ⟨-, rfl⟩ : s.is_stopped = false ∧ n = s.session_number := by simpa using hg
    exact h.newStream (hfree rfl) id

/-- Starting a read or a close. -/
theorem startOperation (h : Core s) (hrun : s.is_stopped = false) {kind : OperationKind}
    (hk : kind.isSetup = false) (hw : kind.isWrite = false) : Core (s.startOperation kind n) := by
  obtain ⟨stream, hws⟩ := Option.isSome_iff_exists.mp (h.running hrun)
  rw [WebsocketClient.startOperation_of_some hws]
  refine h.cons hws (fun hk' => ?_) (fun message hm => ?_)
  · simp only [hk] at hk'
    cases hk'
  · cases kind <;> simp_all [Operation.liveWrite, OperationKind.isWrite]

/-- A read needs nothing. -/
theorem read (h : Core s) : Core (s.read n) := by
  unfold WebsocketClient.read
  split_ifs with hg
  · exact h
  · exact h.startOperation (by simpa using fun hs => hg (.inl hs)) rfl rfl

/-- What holds of a running client holds when it goes on to the next session, which has nothing
pending. -/
theorem next (h : Core s) (hf : Fenced s) (hrun : s.is_stopped = false) :
    Core { s with session_number := s.session_number + 1, connected := false } := by
  refine ⟨h.older, h.newest, h.running, fun x hx => ?_, fun op hop _ hn => ?_, h.live, h.front,
    h.noFault⟩
  · obtain ⟨hle, -, hlt⟩ := h.recorded x hx
    exact ⟨Nat.le_succ_of_le hle, fun hs => by simp [hrun] at hs, hlt⟩
  · have := hf.le op hop
    simp only at hn
    omega

/-- A disconnect starts a session in which nothing is pending yet. -/
theorem disconnect (h : Core s) (hf : Fenced s) (is_open : Bool) :
    Core (s.disconnect n is_open) := by
  unfold WebsocketClient.disconnect
  by_cases hg : s.is_stopped ∨ s.session_number ≠ n
  · rw [if_pos hg]
    exact h
  rw [if_neg hg]
  have hrun : s.is_stopped = false := by simpa using fun hs => hg (.inl hs)
  have h' := h.next hf hrun
  have hfree : { s with
      session_number := s.session_number + 1, connected := false }.exclusive = [] :=
    hf.exclusive_next rfl rfl
  dsimp only
  split_ifs
  · exact h'.startOperation hrun rfl rfl
  · exact h'.startConnection fun _ => hfree

/-- Nothing is live, so the front is written next. -/
theorem doWrite (h : Core s) (hnone : s.liveWrites = []) (hq : s.send_queue ≠ []) :
    Core (s.doWrite n) := by
  unfold WebsocketClient.doWrite
  split_ifs
  · exact h
  cases hws : s.ws with
  | none => exact h
  | some stream =>
    cases hqueue : s.send_queue with
    | nil => exact absurd hqueue hq
    | cons message queue =>
      dsimp only
      rw [WebsocketClient.startOperation_of_some hws]
      refine h.cons hws (fun hk => Bool.noConfusion hk) (fun m hm => ?_)
      cases hh : s.handshaken stream with
      | false => simp [Operation.liveWrite, hh] at hm
      | true =>
        simp only [Operation.liveWrite, hh, Option.some.injEq] at hm
        exact ⟨rfl, hnone, by rw [hqueue, hm]; rfl⟩

/-- A handshake of the stream `stream` succeeds, and every operation on an earlier stream has
completed. -/
theorem handshake (h : Core s) (hf : Fenced s) {stream : ℕ}
    (hop : ⟨.handshake, n, stream⟩ ∈ s.pending) :
    Core { s.finish ⟨.handshake, n, stream⟩ with handshakes := (n, stream) :: s.handshakes } := by
  have he := h.finish ⟨.handshake, n, stream⟩
  have hmono : ∀ x, s.handshaken x = true →
      { s with handshakes := (n, stream) :: s.handshakes }.handshaken x = true := by
    simp only [WebsocketClient.handshaken_eq_true]
    exact fun x ⟨m, hm⟩ => ⟨m, List.mem_cons_of_mem _ hm⟩
  refine ⟨he.older, he.newest, he.running, ?_, fun o ho hk hn => ?_,
    fun o ho hlive => hmono _ (he.live o ho hlive), he.front, he.noFault⟩
  · rw [List.forall_mem_cons]
    refine ⟨⟨hf.le _ hop, fun hs hn => ?_, h.older _ hop⟩, h.recorded⟩
    have hmem := WebsocketClient.mem_current.mpr ⟨hop, hn⟩
    rw [hf.stopped hs] at hmem
    cases hmem
  · obtain ⟨hws, hnew, hown⟩ := he.setup o ho hk hn
    refine ⟨hws, ?_, hown⟩
    -- The handshake of `o`'s stream would be of the current session, which has only `o`.
    have hne : stream ≠ o.stream := by
      intro heq
      have hn' := (h.setup o (List.mem_of_mem_erase ho) hk hn).2.2 _ hop rfl heq
      exact no_setup (hf.exclusive_eq_nil hop rfl hn') o ho hk hn
    rw [Bool.eq_false_iff, ne_eq, WebsocketClient.handshaken_eq_true] at hnew ⊢
    rintro ⟨m, hm⟩
    obtain heq | hm := List.mem_cons.mp hm
    · exact hne (congrArg Prod.snd heq).symm
    · exact hnew ⟨m, hm⟩

/-- No live write is left when the handshake of the current session succeeds. -/
theorem no_live (h : Core s) {stream : ℕ}
    (hop : ⟨.handshake, s.session_number, stream⟩ ∈ s.pending)
    (hlater : ∀ op ∈ s.pending, stream ≤ op.stream) : s.liveWrites = [] := by
  obtain ⟨hws, hnew, -⟩ := h.setup _ hop rfl rfl
  rw [WebsocketClient.liveWrites, List.filterMap_eq_nil_iff]
  intro op hmem
  by_contra hlive
  have hdone := h.live op hmem (Option.isSome_iff_ne_none.mpr hlive)
  have hlt := h.older op hmem
  have hge := hlater op hmem
  have hlast := h.newest _ hws
  have heq : op.stream = stream := by
    simp only at hlast
    omega
  rw [heq] at hdone
  simp only at hnew
  rw [hnew] at hdone
  cases hdone

end Core

/-! ## The chain of writes -/

namespace Chained

variable {s s' : WebsocketClient} {n : ℕ} {op : Operation}

/-- More pending operations do no harm. -/
theorem mono (h : Chained s) (hs : s'.is_stopped = s.is_stopped)
    (hn : s'.session_number = s.session_number) (hh : s'.handshakes = s.handshakes)
    (hq : s'.send_queue = s.send_queue) (hp : ∀ op ∈ s.pending, op ∈ s'.pending) : Chained s' := by
  intro hrun hdone hne
  rw [hs] at hrun
  rw [hn, hh] at hdone
  rw [hq] at hne
  obtain ⟨op, hop, hw, hcur⟩ := h hrun hdone hne
  exact ⟨op, hp op hop, hw, hcur.trans hn.symm⟩

/-- A completion, unless it is that of a write of the session. -/
theorem finish (h : Chained s) (op : Operation)
    (hop : op.kind.isWrite = true → op.session_number ≠ s.session_number) :
    Chained (s.finish op) := by
  intro hrun hdone hne
  obtain ⟨o, ho, hw, hcur⟩ := h hrun hdone hne
  refine ⟨o, (List.mem_erase_of_ne ?_).mpr ho, hw, hcur⟩
  rintro rfl
  exact hop hw hcur

/-- One more operation does not take the write away. -/
theorem startOperation (h : Chained s) (kind : OperationKind) :
    Chained (s.startOperation kind n) := by
  unfold WebsocketClient.startOperation
  split
  · exact h.mono rfl rfl rfl rfl fun _ => id
  · exact h.mono rfl rfl rfl rfl fun _ => List.mem_cons_of_mem _

/-- A connect that starts an operation leaves the write. -/
theorem startConnection (h : Chained s) : Chained (s.startConnection n) := by
  unfold WebsocketClient.startConnection
  split_ifs
  · exact h
  · have h' : Chained { s with ws := some s.streams, streams := s.streams + 1 } :=
      h.mono rfl rfl rfl rfl fun _ => id
    exact h'.startOperation _

/-- No handshake of the next session has completed. -/
theorem disconnect (hc : Core s) (h : n ≠ s.session_number → Chained s) (is_open : Bool) :
    Chained (s.disconnect n is_open) := by
  unfold WebsocketClient.disconnect
  by_cases hg : s.is_stopped ∨ s.session_number ≠ n
  · rw [if_pos hg]
    intro hrun
    obtain hs | hn := hg
    · rw [hs] at hrun
      cases hrun
    · exact h hn.symm hrun
  rw [if_neg hg]
  have h' : Chained { s with session_number := s.session_number + 1, connected := false } := by
    rintro - ⟨stream, hmem⟩
    have := (hc.recorded _ hmem).1
    simp only at this
    omega
  dsimp only
  split_ifs
  · exact h'.startOperation _
  · exact h'.startConnection

/-- `doWrite` starts the write that the queue waits for. -/
theorem doWrite (hc : Core s) (hq : s.send_queue ≠ []) :
    Chained (s.doWrite s.session_number) := by
  unfold WebsocketClient.doWrite
  split_ifs with hg
  · intro hrun
    simp [hrun] at hg
  have hrun : s.is_stopped = false := by simpa using hg
  obtain ⟨stream, hws⟩ := Option.isSome_iff_exists.mp (hc.running hrun)
  obtain ⟨message, queue, hqueue⟩ := List.exists_cons_of_ne_nil hq
  rw [hws, hqueue]
  dsimp only
  rw [WebsocketClient.startOperation_of_some hws]
  exact fun _ _ _ => ⟨_, List.mem_cons_self, rfl, rfl⟩

end Chained

/-! ## The handlers -/

/-- The invariant of the send queue. -/
structure Safe (s : WebsocketClient) : Prop where
  core : Core s
  chained : Chained s

namespace Safe

variable {s s' : WebsocketClient} {n : ℕ} {op : Operation}

/-- The queue is empty at first. -/
theorem initial : Safe initial := ⟨.initial, fun hs => by cases hs⟩

/-- A connect, when the session has no other operation that excludes it. -/
theorem startConnection (h : Safe s) (hfree : n = s.session_number → s.exclusive = []) :
    Safe (s.startConnection n) :=
  ⟨h.core.startConnection hfree, h.chained.startConnection⟩

/-- A disconnect: the next session has completed no handshake yet. -/
theorem disconnect (h : Safe s) (hf : Fenced s) (is_open : Bool) :
    Safe (s.disconnect n is_open) :=
  ⟨h.core.disconnect hf is_open, .disconnect h.core (fun _ => h.chained) is_open⟩

/-- The handler of a close connects again. -/
theorem onDisconnect (h : Safe s) (hfree : n = s.session_number → s.exclusive = []) :
    Safe (s.onDisconnect n) := by
  unfold WebsocketClient.onDisconnect
  split_ifs
  · exact h.startConnection hfree
  · exact h

/-- A read. -/
theorem read (h : Safe s) : Safe (s.read n) := by
  refine ⟨h.core.read, ?_⟩
  unfold WebsocketClient.read
  split_ifs
  · exact h.chained
  · exact h.chained.startOperation _

/-- The handler of a read reads on, or disconnects. -/
theorem onRead (h : Safe s) (hf : Fenced s) (ec : Bool) (bytes_transferred : ℕ)
    (accepted is_open : Bool) : Safe (s.onRead n ec bytes_transferred accepted is_open) := by
  have h' : Safe { s with read_buffer := s.read_buffer.drop bytes_transferred } :=
    ⟨h.core.of_eq rfl, h.chained⟩
  unfold WebsocketClient.onRead
  split_ifs
  · exact h
  · exact h.disconnect hf is_open
  · exact h.read
  · exact h'.read
  · exact h.disconnect hf is_open

/-- The connection of the current session is made: its stream shakes hands. -/
theorem onConnection (h : Safe s) (hf : Fenced s) {stream : ℕ}
    (hop : ⟨.connect, n, stream⟩ ∈ s.pending) (ec : Bool) :
    Safe ((s.finish ⟨.connect, n, stream⟩).onConnection n ec) := by
  have h' : Safe (s.finish ⟨.connect, n, stream⟩) :=
    ⟨h.core.finish _, h.chained.finish _ fun hw => by cases hw⟩
  unfold WebsocketClient.onConnection
  split_ifs with hg
  · exact h'
  · exact h'.startConnection (hf.exclusive_eq_nil hop rfl)
  · obtain ⟨-, rfl⟩ : s.is_stopped = false ∧ n = s.session_number := by
      simpa [WebsocketClient.finish] using hg
    obtain ⟨hws, hnew, hown⟩ := h.core.setup _ hop rfl rfl
    have hws' : (s.finish ⟨.connect, s.session_number, stream⟩).ws = some stream := hws
    refine ⟨?_, h'.chained.startOperation _⟩
    rw [WebsocketClient.startOperation_of_some hws']
    refine h'.core.cons hws' (fun _ => ⟨rfl, hnew, fun o ho hk heq => ?_⟩) (fun _ hm => by cases hm)
    exact hown o (List.mem_of_mem_erase ho) hk heq

/-- The handler of a handshake starts the write of a queue that is not empty: no earlier stream has
an operation left by then. -/
theorem onHandshake (h : Safe s) (hf : Fenced s) {stream : ℕ}
    (hop : ⟨.handshake, n, stream⟩ ∈ s.pending) (hlater : ∀ o ∈ s.pending, stream ≤ o.stream)
    (is_open : Bool) :
    Safe ({ s.finish ⟨.handshake, n, stream⟩ with
      handshakes := (n, stream) :: s.handshakes }.onHandshake n false is_open) := by
  have hc := h.core.handshake hf hop
  unfold WebsocketClient.onHandshake
  split_ifs with hg hec
  · -- The handshake of another session says nothing about the current one.
    refine ⟨hc, fun hrun hdone hne => ?_⟩
    have hn : n ≠ s.session_number := hg.resolve_left (by simpa using hrun)
    obtain ⟨x, hx⟩ := hdone
    have hx' : (s.session_number, x) ∈ s.handshakes :=
      (List.mem_cons.mp hx).resolve_left fun heq => hn (congrArg Prod.fst heq).symm
    exact (h.chained.finish ⟨.handshake, n, stream⟩ fun hw => by cases hw) hrun ⟨x, hx'⟩ hne
  · cases hec
  obtain ⟨-, rfl⟩ : s.is_stopped = false ∧ n = s.session_number := by
    simpa [WebsocketClient.finish] using hg
  have hlive : { s.finish ⟨.handshake, s.session_number, stream⟩ with
      handshakes := (s.session_number, stream) :: s.handshakes
      connected := true }.liveWrites = [] := by
    refine List.eq_nil_of_sublist_nil ?_
    rw [← h.core.no_live hop hlater]
    exact List.erase_sublist.filterMap _
  have hc' : Core { s.finish ⟨.handshake, s.session_number, stream⟩ with
      handshakes := (s.session_number, stream) :: s.handshakes
      connected := true } := hc.of_eq rfl
  dsimp only
  generalize hu : WebsocketClient.read _ _ = u
  have hcu : Core u := hu ▸ hc'.read
  have hnu :
    u.session_number = s.session_number := by rw [← hu, WebsocketClient.read_session_number]; rfl
  have hlu : u.liveWrites = [] := by rw [← hu, WebsocketClient.liveWrites_read, hlive]
  split_ifs with hq
  · rw [← hnu]
    exact ⟨hcu.doWrite hlu hq, .doWrite hcu hq⟩
  · exact ⟨hcu, fun _ _ hne => absurd hne hq⟩

/-- The handler of a write pops its message and writes the next one, or disconnects. -/
theorem onWrite (hc : Core s) (hn : n ≠ s.session_number → Chained s) (hf : Fenced s) (ec : Bool)
    (hok : ec = false → s.send_queue ≠ [] ∧ s.liveWrites = []) (bytes_transferred : ℕ)
    (is_open : Bool) : Safe (s.onWrite n ec bytes_transferred is_open) := by
  have hdisconnect : Safe (s.disconnect n is_open) :=
    ⟨hc.disconnect hf is_open, .disconnect hc hn is_open⟩
  unfold WebsocketClient.onWrite
  split
  · rename_i hs
    exact ⟨hc, fun hrun => by rw [hs] at hrun; cases hrun⟩
  split
  · split
    · exact ⟨hc, hn ‹_›⟩
    · exact hdisconnect
  rename_i hec
  obtain ⟨hq, hlive⟩ := hok (by simpa using hec)
  split
  · exact absurd ‹_› hq
  rename_i message queue hqueue
  split
  · have hc' : Core { s with send_queue := queue, written := s.written ++ [message] } :=
      ⟨hc.older, hc.newest, hc.running, hc.recorded, hc.setup, hc.live, .inl hlive, hc.noFault⟩
    dsimp only
    split_ifs with hnext
    · obtain ⟨rfl, hne⟩ := hnext
      exact ⟨hc'.doWrite hlive hne, .doWrite hc' hne⟩
    · refine ⟨hc', fun hrun hdone hne => ?_⟩
      exact hn (fun heq => hnext ⟨heq, hne⟩) hrun hdone hq
  · split
    · exact ⟨hc, hn ‹_›⟩
    · exact hdisconnect

/-- A message that comes first is written; any other waits for the one before it. -/
theorem write (h : Safe s) (message : Message) : Safe (s.write message) := by
  have hc : Core { s with send_queue := s.send_queue ++ [message] } := by
    refine ⟨h.core.older, h.core.newest, h.core.running, h.core.recorded, h.core.setup,
      h.core.live, h.core.front.imp_right ?_, h.core.noFault⟩
    rintro ⟨m, hone, hhead⟩
    exact ⟨m, hone, by rw [List.head?_append, hhead]; rfl⟩
  unfold WebsocketClient.write
  dsimp only
  split_ifs with hlen
  · -- The queue was empty, so no live write is pending.
    have hempty : s.send_queue = [] := by simpa using hlen
    have hlive : s.liveWrites = [] := by
      obtain hnil | ⟨m, -, hhead⟩ := h.core.front
      · exact hnil
      · rw [hempty] at hhead
        cases hhead
    exact ⟨hc.doWrite hlive (by simp), .doWrite hc (by simp)⟩
  · refine ⟨hc, fun hrun hdone _ => h.chained hrun hdone ?_⟩
    rintro hempty
    simp [hempty] at hlen

/-- `Start` connects when no session is open. -/
theorem start (h : Safe s) (hf : Fenced s) : Safe s.start := by
  unfold WebsocketClient.start
  split_ifs with hs
  · have hfree : s.exclusive = [] := congrArg (List.filter _) (hf.stopped hs)
    unfold WebsocketClient.startConnection
    rw [if_neg (by simp)]
    refine ⟨h.core.newStream hfree (fun hfalse => by cases hfalse), ?_⟩
    -- No handshake of this session has completed.
    rintro - ⟨stream, hmem⟩
    exact absurd rfl ((h.core.recorded _ hmem).2.1 hs)
  · exact h

/-- `Stop`, whether or not the shutdown throws. -/
theorem stop (h : Safe s) (hf : Fenced s) (shutdown_throws : Bool) :
    Safe (s.stop shutdown_throws) := by
  unfold WebsocketClient.stop
  by_cases hs : s.is_stopped
  · rw [if_pos hs]
    exact h
  rw [if_neg hs]
  -- The new session number has no handshake and no operation yet.
  have hrecorded : ∀ x ∈ s.handshakes, x.1 ≤ s.session_number + 1 ∧
      (true = true → x.1 ≠ s.session_number + 1) ∧ x.2 < s.streams := by
    intro x hx
    obtain ⟨hle, -, hlt⟩ := h.core.recorded x hx
    exact ⟨by omega, fun _ => by omega, hlt⟩
  have hsetup : ∀ op ∈ s.pending, op.session_number ≠ s.session_number + 1 := by
    intro op hop
    have := hf.le op hop
    omega
  dsimp only
  split_ifs
  · exact ⟨⟨h.core.older, h.core.newest, fun hrun => (by cases hrun), hrecorded,
      fun op hop _ hn => absurd hn (hsetup op hop), h.core.live, h.core.front, h.core.noFault⟩,
      fun hrun => by cases hrun⟩
  · exact ⟨⟨h.core.older, fun _ hws => (by cases hws), fun hrun => (by cases hrun), hrecorded,
      fun op hop _ hn => absurd hn (hsetup op hop), h.core.live, h.core.front, h.core.noFault⟩,
      fun hrun => by cases hrun⟩

/-- Each completion handler. -/
theorem complete (h : Safe s) (hf : Fenced s) (hop : op ∈ s.pending) (c : Completion)
    (hb : Beast s (.complete op c)) : Safe (complete (s.finish op) op c) := by
  have hf' := hf.finish op
  have hc' := h.core.finish op
  have hchain := h.chained.finish op
  have hfree := hf.exclusive_eq_nil hop
  obtain ⟨kind, n, stream⟩ := op
  cases kind with
  | connect => exact h.onConnection hf hop _
  | handshake =>
    rw [complete_handshake]
    cases hec : c.ec with
    | true =>
      have h' : Safe (s.finish ⟨.handshake, n, stream⟩) := ⟨hc', hchain fun hw => by cases hw⟩
      unfold WebsocketClient.onHandshake
      simp only [if_true]
      split_ifs
      · exact h'
      · exact h'.disconnect hf' _
    | false => exact h.onHandshake hf hop (hb hec) _
  | read =>
    have h' : Safe { s.finish ⟨.read, n, stream⟩ with
        read_buffer := s.read_buffer ++ c.received } :=
      ⟨hc'.of_eq rfl, hchain fun hw => by cases hw⟩
    exact h'.onRead (hf'.of_eq rfl rfl rfl) _ _ _ _
  | write message handshaken =>
    refine onWrite hc' (fun hn => hchain fun _ => hn) hf' _ (fun hec => ?_) _ _
    -- A write that succeeded was made after the handshake, so it carries the front.
    obtain rfl : handshaken = true := hb hec
    obtain ⟨hhead, hlive⟩ := h.core.front_of_mem hop
    refine ⟨fun hnil => ?_, hlive⟩
    have hnil' : s.send_queue = [] := hnil
    rw [hnil'] at hhead
    cases hhead
  | close =>
    have h' : Safe (s.finish ⟨.close, n, stream⟩) := ⟨hc', hchain fun hw => by cases hw⟩
    exact h'.onDisconnect (hfree rfl)

/-- A step that Beast allows. -/
theorem step (h : Safe s) (hf : Fenced s) {e : Event} (hb : Beast s e)
    (hs : step s e = some s') : Safe s' := by
  cases Step.of_step hs with
  | start => exact h.start hf
  | stop shutdown_throws => exact h.stop hf shutdown_throws
  | post =>
    unfold WebsocketClient.postWebsocketClientMessage
    split_ifs
    · exact h
    · exact ⟨⟨h.core.older, h.core.newest, h.core.running, h.core.recorded, h.core.setup,
        h.core.live, h.core.front, h.core.noFault⟩, h.chained⟩
  | @write message posted =>
    have h' : Safe { s with posted := posted } :=
      ⟨⟨h.core.older, h.core.newest, h.core.running, h.core.recorded, h.core.setup,
        h.core.live, h.core.front, h.core.noFault⟩, h.chained⟩
    exact h'.write message
  | complete hop c => exact h.complete hf hop c hb

end Safe

/-! ## What a step does to the messages -/

section Messages

variable {s s' : WebsocketClient} {n : ℕ}

/-- `write` puts its message at the end of the queue. -/
theorem queues_write (message : Message) : (s.write message).queues =
    (s.written, s.send_queue ++ [message], s.posted, s.accepted) := by
  unfold WebsocketClient.write
  dsimp only
  split_ifs
  · rw [WebsocketClient.queues_doWrite]
    rfl
  · rfl

/-- A message leaves in the handler of a write that sent as many bytes as the message has. -/
theorem queues_onWrite (ec : Bool) (bytes_transferred : ℕ) (is_open : Bool) :
    (s.onWrite n ec bytes_transferred is_open).queues = s.queues ∨
      ∃ message queue, ec = false ∧ s.send_queue = message :: queue ∧
        bytes_transferred = message.data.length ∧
        (s.onWrite n ec bytes_transferred is_open).queues =
          (s.written ++ [message], queue, s.posted, s.accepted) := by
  unfold WebsocketClient.onWrite
  split
  · exact .inl rfl
  split
  · split
    · exact .inl rfl
    · exact .inl (WebsocketClient.queues_disconnect ..)
  rename_i hec
  split
  · exact .inl rfl
  rename_i message queue hqueue
  split
  · rename_i hlen
    refine .inr ⟨message, queue, by simpa using hec, hqueue, hlen, ?_⟩
    dsimp only
    split_ifs
    · rw [WebsocketClient.queues_doWrite]
      rfl
    · rfl
  · split
    · exact .inl rfl
    · exact .inl (WebsocketClient.queues_disconnect ..)

/-- What is posted while the client is running. -/
def posts (s : WebsocketClient) : Event → List (List UInt8)
  | .post data => if s.is_stopped then [] else [data]
  | _ => []

/-- Everything that a step can do to the messages. -/
theorem step_queues {e : Event} (hs : step s e = some s') :
    (posts s e = [] ∧ s'.queues = s.queues) ∨
    (∃ message : Message, posts s e = [message.data] ∧ s'.queues =
      (s.written, s.send_queue, s.posted ++ [message], s.accepted ++ [message])) ∨
    (∃ message posted, e = .write ∧ s.posted = message :: posted ∧ s'.queues =
      (s.written, s.send_queue ++ [message], posted, s.accepted)) ∨
    ∃ message queue op c, e = .complete op c ∧ op ∈ s.pending ∧ op.kind.isWrite = true ∧
      c.ec = false ∧ c.bytes_transferred = message.data.length ∧
      s.send_queue = message :: queue ∧ s'.queues =
        (s.written ++ [message], queue, s.posted, s.accepted) := by
  cases Step.of_step hs with
  | start =>
    unfold WebsocketClient.start
    split_ifs
    · exact .inl ⟨rfl, WebsocketClient.queues_startConnection ..⟩
    · exact .inl ⟨rfl, rfl⟩
  | stop =>
    unfold WebsocketClient.stop
    dsimp only
    split_ifs
    · exact .inl ⟨rfl, rfl⟩
    · exact .inl ⟨rfl, rfl⟩
    · exact .inl ⟨rfl, rfl⟩
  | post =>
    unfold WebsocketClient.postWebsocketClientMessage posts
    split_ifs
    · exact .inl ⟨rfl, rfl⟩
    · exact .inr (.inl ⟨_, rfl, rfl⟩)
  | @write message posted hposted =>
    exact .inr (.inr (.inl ⟨message, posted, rfl, hposted, queues_write message⟩))
  | @complete op hop c =>
    -- Of the handlers only that of a write touches the messages.
    obtain ⟨kind, n, stream⟩ := op
    cases kind with
    | connect => exact .inl ⟨rfl, WebsocketClient.queues_onConnection ..⟩
    | handshake =>
      refine .inl ⟨rfl, ?_⟩
      rw [complete_handshake, WebsocketClient.queues_onHandshake]
      split_ifs <;> rfl
    | read => exact .inl ⟨rfl, WebsocketClient.queues_onRead ..⟩
    | write message handshaken =>
      obtain h | ⟨m, queue, hec, hqueue, hlen, h⟩ := queues_onWrite
        (s := s.finish ⟨.write message handshaken, n, stream⟩) (n := n) c.ec c.bytes_transferred
        c.is_open
      · exact .inl ⟨rfl, h⟩
      · exact .inr (.inr (.inr ⟨m, queue, _, c, rfl, hop, rfl, hec, hlen, hqueue, h⟩))
    | close => exact .inl ⟨rfl, WebsocketClient.queues_onDisconnect ..⟩

/-- The messages that left, the queue, and the posted ones are the accepted ones, in order. -/
def Logged (s : WebsocketClient) : Prop := s.written ++ s.send_queue ++ s.posted = s.accepted

/-- A step accepts what it posts while the client is running. -/
theorem accepted_of_step {e : Event} (hs : step s e = some s') :
    s'.accepted.map Message.data = s.accepted.map Message.data ++ posts s e := by
  obtain ⟨hposts, hq⟩ | ⟨message, hposts, hq⟩ | ⟨message, posted, rfl, -, hq⟩ |
    ⟨message, queue, op, c, rfl, -, -, -, -, -, hq⟩ := step_queues hs
  all_goals
    simp only [WebsocketClient.queues, Prod.mk.injEq] at hq
    obtain ⟨-, -, -, haccepted⟩ := hq
    rw [haccepted]
  · rw [hposts, List.append_nil]
  · rw [hposts, List.map_append]
    rfl
  · exact (List.append_nil _).symm
  · exact (List.append_nil _).symm

/-- No step loses or reorders a message. -/
theorem Logged.step (h : Logged s) {e : Event} (hs : step s e = some s') : Logged s' := by
  unfold Logged at h ⊢
  obtain ⟨-, hq⟩ | ⟨message, -, hq⟩ | ⟨message, posted, -, hp, hq⟩ |
    ⟨message, queue, op, c, -, -, -, -, -, hp, hq⟩ := step_queues hs
  all_goals
    simp only [WebsocketClient.queues, Prod.mk.injEq] at hq
    obtain ⟨hw, hsend, hposted, haccepted⟩ := hq
    rw [hw, hsend, hposted, haccepted]
  · exact h
  · rw [← h]
    simp
  · rw [← h, hp]
    simp
  · rw [← h, hp]
    simp

end Messages

/-! ## Every run -/

/-- What holds in every state that Beast can bring about. -/
theorem safe_of_run {s : WebsocketClient} {es : List Event} (hb : Along step Beast initial es)
    (hrun : run step initial es = some s) : Fenced s ∧ Safe s ∧ Logged s :=
  hb.run_invariant (fun s => Fenced s ∧ Safe s ∧ Logged s)
    (fun _ _ _ ⟨hf, hs, hl⟩ hb hstep => ⟨hf.step hstep, hs.step hf hb hstep, hl.step hstep⟩)
    hrun ⟨.initial, .initial, rfl⟩

/-- In every state of a run that Beast can produce: no null stream is used and no empty queue is
read; the accepted messages are what the run has posted while the client was running, and those that
left the queue are the first ones of these, the rest is still queued or posted, in order; a queue
with something in it has a write of the current session pending once the handshake of the session
has completed. The next step takes nothing from the queue, unless it is the completion of a write of
the front that sent all of it. -/
theorem send_queue_safe {s : WebsocketClient} {es : List Event}
    (hb : Along step Beast initial es) (hrun : run step initial es = some s) :
    s.fault = false ∧ s.accepted.map Message.data = emitted step posts initial es ∧
      s.written ++ s.send_queue ++ s.posted = s.accepted ∧
      (s.is_stopped = false → (∃ stream, (s.session_number, stream) ∈ s.handshakes) →
        s.send_queue ≠ [] → ∃ op ∈ s.pending, op.kind.isWrite = true ∧
          op.session_number = s.session_number) ∧
      ∀ e s', Beast s e → step s e = some s' → s.send_queue <+: s'.send_queue ∨
        ∃ message n stream c, e = .complete ⟨.write message true, n, stream⟩ c ∧
          c.ec = false ∧ c.bytes_transferred = message.data.length ∧
          s.send_queue = message :: s'.send_queue ∧ s'.written = s.written ++ [message] := by
  obtain ⟨-, hsafe, hlogged⟩ := safe_of_run hb hrun
  have haccepted : s.accepted.map Message.data = [] ++ emitted step posts initial es :=
    (along_true initial es).emitted_invariant
      (fun l (s : WebsocketClient) => s.accepted.map Message.data = l)
      (fun _ _ _ _ h _ hs => by rw [accepted_of_step hs, h]) hrun rfl
  -- The invariants give all parts but the last, which is what one step does.
  refine ⟨hsafe.core.noFault, haccepted, hlogged, hsafe.chained, fun e s' hbe hs => ?_⟩
  obtain ⟨-, hq⟩ | ⟨message, -, hq⟩ | ⟨message, posted, -, hp, hq⟩ |
    ⟨message, queue, op, c, rfl, hop, hw, hec, hlen, hp, hq⟩ := step_queues hs
  all_goals
    simp only [WebsocketClient.queues, Prod.mk.injEq] at hq
    obtain ⟨hwritten, hsend, -, -⟩ := hq
    rw [hsend]
  · exact .inl List.prefix_rfl
  · exact .inl List.prefix_rfl
  · exact .inl (List.prefix_append ..)
  · obtain ⟨kind, n, stream⟩ := op
    cases kind with
    | write m handshaken =>
      obtain rfl : handshaken = true := hbe hec
      -- The write that completed carries the front.
      obtain ⟨hhead, -⟩ := hsafe.core.front_of_mem hop
      rw [hp] at hhead
      obtain rfl : message = m := Option.some.inj hhead
      exact .inr ⟨message, n, stream, c, rfl, hec, hlen, hp, hwritten⟩
    | _ => cases hw

/-- The first message is posted while the stream connects, and written again when its handshake has
completed. -/
def earlyWriteRun : List Event :=
  [.start,
   .post [1],
   .write,
   .complete ⟨.connect, 0, 0⟩ ⟨false, 0, [], false, false⟩,
   .complete ⟨.handshake, 0, 0⟩ ⟨false, 0, [], false, false⟩,
   .post [2, 3],
   .write,
   .complete ⟨.write ⟨0, [1]⟩ true, 0, 0⟩ ⟨false, 1, [], false, false⟩]

theorem send_queue_safe_earlyWriteRun :
    ∃ s, run step initial earlyWriteRun = some s ∧ s.written = [⟨0, [1]⟩] ∧
      s.send_queue = [⟨1, [2, 3]⟩] ∧ s.fault = false ∧
      s.accepted.map Message.data = emitted step posts initial earlyWriteRun ∧
      ∃ op ∈ s.pending, op.kind.isWrite = true ∧ op.session_number = s.session_number := by
  obtain ⟨hfault, haccepted, -, hchained, -⟩ :=
    @send_queue_safe _ earlyWriteRun (by decide) rfl
  exact ⟨_, rfl, rfl, rfl, hfault, haccepted, hchained rfl ⟨0, List.mem_cons_self⟩ (by decide)⟩

end AugmentedNormalcy.Websocket
