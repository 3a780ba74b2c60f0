import AugmentedNormalcy.Websocket.WebsocketClient

/-!
# Session fencing

Every operation is started with the session number of its time, and every handler returns at once
when that number is no longer the current one. So at most one pending operation other than a write
carries the current number (`session_fenced`): one connect, one handshake, one close, or one read.
Nothing is assumed about the order of the completions or about their results.

`Fenced` is the invariant. A handler of the current session finds no other operation of the session
pending, which is what the lemmas about handlers ask for.
-/

namespace AugmentedNormalcy.Websocket

open StepSystem

/-- A step of getting from one stream to the next. -/
def OperationKind.isAttempt : OperationKind → Bool
  | connect | handshake | close => true
  | _ => false

/-- A write; any other operation excludes a second one in its session. -/
def OperationKind.isWrite : OperationKind → Bool
  | write _ _ => true
  | _ => false

namespace WebsocketClient

/-- The pending operations of the current session. -/
def current (s : WebsocketClient) : List Operation :=
  s.pending.filter fun op => op.session_number = s.session_number

/-- The attempts of the current session to get or to give up a connection. -/
def attempts (s : WebsocketClient) : List Operation := s.current.filter (·.kind.isAttempt)

/-- The reads of the current session. -/
def reads (s : WebsocketClient) : List Operation := s.current.filter (·.kind = .read)

/-- The operations of which a session has one at a time. -/
def exclusive (s : WebsocketClient) : List Operation := s.current.filter (!·.kind.isWrite)

/-- The current session's operations are the pending ones with its number. -/
theorem mem_current {s : WebsocketClient} {op : Operation} :
    op ∈ s.current ↔ op ∈ s.pending ∧ op.session_number = s.session_number := by
  simp [current]

end WebsocketClient

/-- No operation is from a later session, none is of the session of a stopped client, and at most
one of the exclusive ones is of the current session. -/
structure Fenced (s : WebsocketClient) : Prop where
  le : ∀ op ∈ s.pending, op.session_number ≤ s.session_number
  stopped : s.is_stopped = true → s.current = []
  single : s.exclusive.length ≤ 1

namespace Fenced

variable {s s' : WebsocketClient} {n : ℕ} {op : Operation}

/-- Nothing is pending at first. -/
theorem initial : Fenced initial := ⟨by simp [Websocket.initial], fun _ => rfl, Nat.zero_le 1⟩

/-- The other fields do not matter. -/
theorem of_eq (h : Fenced s) (hs : s'.is_stopped = s.is_stopped)
    (hn : s'.session_number = s.session_number) (hp : s'.pending = s.pending) : Fenced s' := by
  have hcurrent : s'.current = s.current := by
    rw [WebsocketClient.current, WebsocketClient.current, hp, hn]
  refine ⟨?_, ?_, ?_⟩
  · rw [hp, hn]
    exact h.le
  · rw [hs, hcurrent]
    exact h.stopped
  · rw [WebsocketClient.exclusive, hcurrent]
    exact h.single

/-! ## Completing an operation -/

/-- The completion of an operation that excludes others makes room for one. -/
theorem exclusive_finish (hop : op ∈ s.pending) (hn : op.session_number = s.session_number)
    (hw : op.kind.isWrite = false) :
    (s.finish op).exclusive.length + 1 = s.exclusive.length := by
  have hmem : op ∈ s.exclusive := by
    simp only [WebsocketClient.exclusive, List.mem_filter, WebsocketClient.mem_current, hop, hn, hw]
    decide
  have herase : (s.finish op).exclusive = s.exclusive.erase op := by
    simp only [WebsocketClient.exclusive, WebsocketClient.current, List.erase_filter]
    rfl
  rw [herase, List.length_erase_of_mem hmem]
  have := List.length_pos_of_mem hmem
  omega

/-- A completion adds nothing. -/
theorem finish (h : Fenced s) (op : Operation) : Fenced (s.finish op) := by
  have hsub : (s.pending.erase op).Sublist s.pending := List.erase_sublist
  refine ⟨fun o ho => h.le o (hsub.mem ho), fun hs => ?_, ?_⟩
  · exact List.eq_nil_of_sublist_nil (h.stopped hs ▸ hsub.filter _)
  · exact Nat.le_trans ((hsub.filter _).filter _).length_le h.single

/-- The handler of an exclusive operation of the current session finds no other one. -/
theorem exclusive_eq_nil (h : Fenced s) (hop : op ∈ s.pending) (hw : op.kind.isWrite = false)
    (hn : op.session_number = s.session_number) :
    (s.finish op).exclusive = [] := by
  have := exclusive_finish hop hn hw
  have := h.single
  rw [← List.length_eq_zero_iff]
  omega

/-! ## Starting an operation -/

/-- An operation may be started when it is a write or nothing excludes it. -/
theorem startOperation (h : Fenced s) (hrun : s.is_stopped = false) {kind : OperationKind}
    (hfree : kind.isWrite = true ∨ s.exclusive = []) :
    Fenced (s.startOperation kind s.session_number) := by
  unfold WebsocketClient.startOperation
  cases s.ws with
  | none => exact h.of_eq rfl rfl rfl
  | some stream =>
    refine ⟨fun o ho => ?_, fun hs => ?_, ?_⟩
    · obtain rfl | ho := List.mem_cons.mp ho
      · exact Nat.le_refl _
      · exact h.le o ho
    · rw [hrun] at hs
      cases hs
    · have hsingle := h.single
      simp only [WebsocketClient.exclusive, WebsocketClient.current] at hsingle hfree ⊢
      obtain hw | hnil := hfree
      · simpa [hw] using hsingle
      · cases hk : kind.isWrite <;> simp [hk, hnil]

/-- A connect, when nothing excludes it. -/
theorem startConnection (h : Fenced s) (hfree : n = s.session_number → s.exclusive = []) :
    Fenced (s.startConnection n) := by
  unfold WebsocketClient.startConnection
  split_ifs with hg
  · exact h
  · obtain ⟨hrun, rfl⟩ : s.is_stopped = false ∧ n = s.session_number := by simpa using hg
    have h' : Fenced { s with ws := some s.streams, streams := s.streams + 1 } :=
      h.of_eq rfl rfl rfl
    exact h'.startOperation hrun (.inr (hfree rfl))

/-- Nothing carries the next number yet. -/
theorem current_next (h : Fenced s) (hp : s'.pending = s.pending)
    (hn : s'.session_number = s.session_number + 1) : s'.current = [] := by
  rw [WebsocketClient.current, List.filter_eq_nil_iff, hp, hn]
  intro op hop
  have := h.le op hop
  simp only [decide_eq_true_eq]
  omega

/-- Nothing is pending in the next session yet. -/
theorem exclusive_next (h : Fenced s) (hp : s'.pending = s.pending)
    (hn : s'.session_number = s.session_number + 1) : s'.exclusive = [] := by
  rw [WebsocketClient.exclusive, h.current_next hp hn]
  rfl

/-- A session number that goes up leaves all that is pending behind. -/
theorem next (h : Fenced s) (hp : s'.pending = s.pending)
    (hn : s'.session_number = s.session_number + 1) : Fenced s' := by
  refine ⟨fun op hop => ?_, fun _ => h.current_next hp hn, ?_⟩
  · rw [hp] at hop
    rw [hn]
    exact Nat.le_succ_of_le (h.le op hop)
  · rw [h.exclusive_next hp hn]
    exact Nat.zero_le 1

/-- A disconnect starts the next session, with one operation. -/
theorem disconnect (h : Fenced s) (is_open : Bool) : Fenced (s.disconnect n is_open) := by
  unfold WebsocketClient.disconnect
  by_cases hg : s.is_stopped ∨ s.session_number ≠ n
  · rw [if_pos hg]
    exact h
  rw [if_neg hg]
  have hrun : s.is_stopped = false := by simpa using fun hs => hg (.inl hs)
  have h' : Fenced { s with session_number := s.session_number + 1, connected := false } :=
    h.next rfl rfl
  have hfree : { s with
      session_number := s.session_number + 1, connected := false }.exclusive = [] :=
    h.exclusive_next rfl rfl
  dsimp only
  split_ifs
  · exact h'.startOperation hrun (.inr hfree)
  · exact h'.startConnection fun _ => hfree

/-! ## The handlers -/

/-- The handler of a close. -/
theorem onDisconnect (h : Fenced s) (hfree : n = s.session_number → s.exclusive = []) :
    Fenced (s.onDisconnect n) := by
  unfold WebsocketClient.onDisconnect
  split_ifs
  · exact h.startConnection hfree
  · exact h

/-- The handler of a connect. -/
theorem onConnection (h : Fenced s) (hfree : n = s.session_number → s.exclusive = []) (ec : Bool) :
    Fenced (s.onConnection n ec) := by
  unfold WebsocketClient.onConnection
  split_ifs with hg hec
  · exact h
  · exact h.startConnection hfree
  · obtain ⟨hrun, rfl⟩ : s.is_stopped = false ∧ n = s.session_number := by simpa using hg
    exact h.startOperation hrun (.inr (hfree rfl))

/-- A read, when nothing excludes it. -/
theorem read (h : Fenced s) (hfree : n = s.session_number → s.exclusive = []) :
    Fenced (s.read n) := by
  unfold WebsocketClient.read
  split_ifs with hg
  · exact h
  · obtain ⟨hrun, rfl⟩ : s.is_stopped = false ∧ n = s.session_number := by simpa using hg
    exact h.startOperation hrun (.inr (hfree rfl))

/-- A write excludes nothing. -/
theorem doWrite (h : Fenced s) : Fenced (s.doWrite n) := by
  unfold WebsocketClient.doWrite
  split_ifs with hg
  · exact h
  obtain ⟨hrun, rfl⟩ : s.is_stopped = false ∧ n = s.session_number := by simpa using hg
  split
  · exact h
  · exact h.of_eq rfl rfl rfl
  · exact h.startOperation hrun (.inl rfl)

/-- The handler of a handshake: a read, and a write if there is something to write. -/
theorem onHandshake (h : Fenced s) (hfree : n = s.session_number → s.exclusive = [])
    (ec is_open : Bool) : Fenced (s.onHandshake n ec is_open) := by
  have h' : Fenced { s with connected := true } := h.of_eq rfl rfl rfl
  unfold WebsocketClient.onHandshake
  dsimp only
  split_ifs
  · exact h
  · exact h.disconnect is_open
  · exact (h'.read hfree).doWrite
  · exact h'.read hfree

/-- The handler of a read. -/
theorem onRead (h : Fenced s) (hfree : n = s.session_number → s.exclusive = []) (ec : Bool)
    (bytes_transferred : ℕ) (accepted is_open : Bool) :
    Fenced (s.onRead n ec bytes_transferred accepted is_open) := by
  have h' : Fenced { s with read_buffer := s.read_buffer.drop bytes_transferred } :=
    h.of_eq rfl rfl rfl
  unfold WebsocketClient.onRead
  split_ifs
  · exact h
  · exact h.disconnect is_open
  · exact h.read hfree
  · exact h'.read hfree
  · exact h.disconnect is_open

/-- The handler of a write. -/
theorem onWrite (h : Fenced s) (ec : Bool) (bytes_transferred : ℕ) (is_open : Bool) :
    Fenced (s.onWrite n ec bytes_transferred is_open) := by
  unfold WebsocketClient.onWrite
  split
  · exact h
  split
  · split
    · exact h
    · exact h.disconnect is_open
  split
  · exact h.of_eq rfl rfl rfl
  split
  · rename_i message queue _ _
    have h' : Fenced { s with send_queue := queue, written := s.written ++ [message] } :=
      h.of_eq rfl rfl rfl
    dsimp only
    split
    · exact h'.doWrite
    · exact h'
  · split
    · exact h
    · exact h.disconnect is_open

/-- The handler of a post. -/
theorem write (h : Fenced s) (message : Message) : Fenced (s.write message) := by
  have h' : Fenced { s with send_queue := s.send_queue ++ [message] } :=
    h.of_eq rfl rfl rfl
  unfold WebsocketClient.write
  dsimp only
  split_ifs
  · exact h'.doWrite
  · exact h'

/-- `Start`. -/
theorem start (h : Fenced s) : Fenced s.start := by
  unfold WebsocketClient.start
  split_ifs with hs
  · have hnil := h.stopped hs
    have h' : Fenced { s with is_stopped := false } := ⟨h.le, fun _ => hnil, h.single⟩
    refine h'.startConnection fun _ => ?_
    change s.current.filter _ = []
    rw [hnil]
    rfl
  · exact h

/-- `Stop` leaves the operations pending, and starts none. -/
theorem stop (h : Fenced s) (shutdown_throws : Bool) : Fenced (s.stop shutdown_throws) := by
  have h' : Fenced { s with is_stopped := true, session_number := s.session_number + 1 } :=
    h.next rfl rfl
  unfold WebsocketClient.stop
  dsimp only
  split_ifs
  · exact h
  · exact h'
  · exact h'.of_eq rfl rfl rfl

/-- Each completion handler, after its operation has left. -/
theorem complete (h : Fenced s) (hop : op ∈ s.pending) (c : Completion) :
    Fenced (complete (s.finish op) op c) := by
  have h' := h.finish op
  have hfree := h.exclusive_eq_nil hop
  obtain ⟨kind, n, stream⟩ := op
  cases kind with
  | connect => exact h'.onConnection (hfree rfl) _
  | handshake =>
    have h'' : Fenced { s.finish ⟨.handshake, n, stream⟩ with
        handshakes := (n, stream) :: s.handshakes } := h'.of_eq rfl rfl rfl
    rw [complete_handshake]
    split_ifs
    · exact h'.onHandshake (hfree rfl) _ _
    · exact h''.onHandshake (hfree rfl) _ _
  | read =>
    have h'' : Fenced { s.finish ⟨.read, n, stream⟩ with
        read_buffer := s.read_buffer ++ c.received } := h'.of_eq rfl rfl rfl
    exact h''.onRead (hfree rfl) _ _ _ _
  | write message handshaken => exact h'.onWrite _ _ _
  | close => exact h'.onDisconnect (hfree rfl)

/-- Every step keeps the fence. -/
theorem step (h : Fenced s) {e : Event} (hs : step s e = some s') : Fenced s' := by
  cases Step.of_step hs with
  | start => exact h.start
  | stop shutdown_throws => exact h.stop shutdown_throws
  | post =>
    unfold WebsocketClient.postWebsocketClientMessage
    split_ifs
    · exact h
    · exact h.of_eq rfl rfl rfl
  | @write message posted =>
    have h' : Fenced { s with posted := posted } := h.of_eq rfl rfl rfl
    exact h'.write message
  | complete hop c => exact h.complete hop c

end Fenced

/-! ## Completions of older sessions -/

section Stale

variable {s s' : WebsocketClient} {n : ℕ} {op : Operation}

/-- The completion of another session's operation leaves the current ones. -/
theorem current_finish_of_ne (hn : op.session_number ≠ s.session_number) :
    (s.finish op).current = s.current := by
  have hmem : op ∉ s.current := fun h => hn (WebsocketClient.mem_current.mp h).2
  exact (List.erase_filter ..).symm.trans (List.erase_of_not_mem hmem)

/-- A connect of another session does nothing when it completes. -/
theorem onConnection_of_ne (hn : n ≠ s.session_number) (ec : Bool) : s.onConnection n ec = s :=
  if_pos (.inr hn)

/-- Nor does a handshake. -/
theorem onHandshake_of_ne (hn : n ≠ s.session_number) (ec is_open : Bool) :
    s.onHandshake n ec is_open = s := if_pos (.inr hn)

/-- Nor does a read. -/
theorem onRead_of_ne (hn : n ≠ s.session_number) (ec : Bool) (bytes_transferred : ℕ)
    (accepted is_open : Bool) : s.onRead n ec bytes_transferred accepted is_open = s :=
  if_pos (.inr hn)

/-- Nor does a close. -/
theorem onDisconnect_of_ne (hn : n ≠ s.session_number) : s.onDisconnect n = s :=
  if_neg fun h => hn h.2

/-- A write of an older session may still pop the message that it wrote, and does nothing else. -/
theorem onWrite_of_ne (hn : n ≠ s.session_number) (ec : Bool) (bytes_transferred : ℕ)
    (is_open : Bool) : ∃ queue written fault, s.onWrite n ec bytes_transferred is_open =
      { s with send_queue := queue, written := written, fault := fault } := by
  unfold WebsocketClient.onWrite
  simp only [hn, ne_eq, not_false_eq_true, if_true, false_and, if_false]
  split
  · exact ⟨_, _, _, rfl⟩
  split
  · exact ⟨_, _, _, rfl⟩
  split
  · exact ⟨_, _, _, rfl⟩
  split
  · exact ⟨_, _, _, rfl⟩
  · exact ⟨_, _, _, rfl⟩

/-- The handler of an operation of an older session leaves the session number, the stream, and the
operations of the current session as they were. -/
theorem complete_of_ne (hn : op.session_number ≠ s.session_number) (c : Completion)
    (hs : s' = complete (s.finish op) op c) :
    s'.session_number = s.session_number ∧ s'.ws = s.ws ∧ s'.current = s.current := by
  have hcurrent := current_finish_of_ne hn
  obtain ⟨kind, n, stream⟩ := op
  have hn' : n ≠ (s.finish ⟨kind, n, stream⟩).session_number := hn
  subst hs
  -- Each handler compares the session number before it does anything.
  cases kind with
  | connect =>
    rw [complete_connect, onConnection_of_ne hn']
    exact ⟨rfl, rfl, hcurrent⟩
  | handshake =>
    rw [complete_handshake]
    split_ifs
    · rw [onHandshake_of_ne hn']
      exact ⟨rfl, rfl, hcurrent⟩
    · rw [onHandshake_of_ne (by exact hn)]
      exact ⟨rfl, rfl, hcurrent⟩
  | read =>
    rw [complete_read, onRead_of_ne (by exact hn)]
    exact ⟨rfl, rfl, hcurrent⟩
  | write message handshaken =>
    obtain ⟨queue, written, fault, h⟩ :=
      onWrite_of_ne hn' c.ec c.bytes_transferred c.is_open
    rw [complete_write, h]
    exact ⟨rfl, rfl, hcurrent⟩
  | close =>
    rw [complete_close, onDisconnect_of_ne hn']
    exact ⟨rfl, rfl, hcurrent⟩

end Stale

/-! ## Every run -/

/-- The fence holds in every reachable state. -/
theorem fenced_of_reachable {s : WebsocketClient} (h : Reachable step initial s) : Fenced s :=
  h.invariant Fenced (fun _ _ _ hI hs => hI.step hs) Fenced.initial

/-- At any time at most one pending connect, handshake, or close carries the current session number,
at most one read does, and not both; nothing does while the client is stopped. The completion of an
operation of another session leaves the session number, the stream, and the pending operations of
the current session unchanged. -/
theorem session_fenced {s : WebsocketClient} (h : Reachable step initial s) :
    s.attempts.length ≤ 1 ∧ s.reads.length ≤ 1 ∧ (s.attempts = [] ∨ s.reads = []) ∧
      (s.is_stopped = true → s.current = []) ∧
      ∀ op c s', op.session_number ≠ s.session_number → step s (.complete op c) = some s' →
        s'.session_number = s.session_number ∧ s'.ws = s.ws ∧ s'.current = s.current := by
  have hf := fenced_of_reachable h
  -- Attempts and reads are among the exclusive operations, of which there is one.
  have hattempts : s.attempts.Sublist s.exclusive := by
    refine List.monotone_filter_right _ fun op hop => ?_
    cases hk : op.kind <;> simp_all [OperationKind.isAttempt, OperationKind.isWrite]
  have hreads : s.reads.Sublist s.exclusive := by
    refine List.monotone_filter_right _ fun op hop => ?_
    simp_all [OperationKind.isWrite]
  have hnot : ∀ op ∈ s.attempts, op ∉ s.reads := by
    intro op ha hr
    have hk : op.kind = .read := by simpa using (List.mem_filter.mp hr).2
    have hattempt := (List.mem_filter.mp ha).2
    rw [hk] at hattempt
    cases hattempt
  refine ⟨Nat.le_trans hattempts.length_le hf.single, Nat.le_trans hreads.length_le hf.single,
    ?_, hf.stopped, fun op c s' hn hs => ?_⟩
  · rw [List.eq_nil_iff_forall_not_mem, List.eq_nil_iff_forall_not_mem]
    by_contra hboth
    simp only [not_or, not_forall, not_not] at hboth
    obtain ⟨⟨a, ha⟩, ⟨r, hr⟩⟩ := hboth
    -- Both are the one exclusive operation.
    obtain ⟨x, hx⟩ : ∃ x, s.exclusive = [x] := by
      rw [← List.length_eq_one_iff]
      have := List.length_pos_of_mem (hattempts.mem ha)
      have := hf.single
      omega
    have hax := hattempts.mem ha
    have hrx := hreads.mem hr
    rw [hx, List.mem_singleton] at hax hrx
    rw [hrx, ← hax] at hr
    exact hnot a ha hr
  · cases Step.of_step hs with
    | complete => exact complete_of_ne hn c rfl

/-- A write is pending when the server goes away, and the reader closes the stream. -/
def closingRun : List Event :=
  [.start,
   .complete ⟨.connect, 0, 0⟩ ⟨false, 0, [], false, false⟩,
   .complete ⟨.handshake, 0, 0⟩ ⟨false, 0, [], false, false⟩,
   .post [1],
   .write,
   .complete ⟨.read, 0, 0⟩ ⟨true, 0, [], false, true⟩]

theorem session_fenced_closingRun :
    ∃ s, run step initial closingRun = some s ∧ s.attempts = [⟨.close, 1, 0⟩] ∧
      s.pending = [⟨.close, 1, 0⟩, ⟨.write ⟨0, [1]⟩ true, 0, 0⟩] ∧ s.attempts.length ≤ 1 ∧
      ∀ c s', step s (.complete ⟨.write ⟨0, [1]⟩ true, 0, 0⟩ c) = some s' →
        s'.session_number = 1 ∧ s'.current = s.current := by
  refine ⟨_, rfl, rfl, rfl, (session_fenced ⟨closingRun, rfl⟩).1, fun c s' hs => ?_⟩
  obtain ⟨-, -, -, -, hstale⟩ := session_fenced ⟨closingRun, rfl⟩
  obtain ⟨hn, -, hcurrent⟩ := hstale _ c s' (by decide) hs
  exact ⟨hn, hcurrent⟩

end AugmentedNormalcy.Websocket
