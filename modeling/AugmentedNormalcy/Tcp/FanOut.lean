import AugmentedNormalcy.Tcp.ReadBufferPool

/-!
# A posted frame does not change

The receiver writes only into the buffer that `_receive_buffer` points at, and it gives that pointer
away when it posts the frame. So a frame that a lambda has still to copy is in a buffer that nobody
writes into: it is not free, because the lambda refers to its block; it is not the receiver's,
because the receiver's block has no other reference; and it is not the leaky one, because that is
never posted. `Frames` is this invariant, and `frames_unchanged` says what follows in every
reachable state, for any number of buffers and of writers. -/

namespace AugmentedNormalcy.Tcp.FanOut

open Bytes SharedPtr StepSystem

/-! ## The references -/

/-- The posted pointers, each with the buffer as it was posted: that of a `PostMessage` under way,
and those of the lambdas. -/
def State.posts (s : State) : List (BufferPtr × TcpBuffer) :=
  (s.posting.map fun p => (p.buffer, p.posted)).toList ++
    s.lambdas.map fun l => (l.copy_buffer, l.posted)

/-- All pointers to buffers. -/
def State.pointers (s : State) : List BufferPtr := s.receive_buffer.toList ++ s.posts.map Prod.fst

/-- The references to control blocks that are counted. -/
def State.holders (s : State) : List ℕ := s.pointers.filterMap BufferPtr.block?

/-- The copy is of the frame that was posted. -/
def WriteCopy.Faithful (c : WriteCopy) : Prop :=
  c.size = c.posted.size ∧ c.bytes = slice c.posted.memory 0 c.posted.size

variable {n : ℕ} {s s' : State} {p : BufferPtr} {ps : List BufferPtr} {b : ℕ}

/-- The blocks of the pointers are those of the counted ones. -/
theorem mem_blocks : b ∈ ps.filterMap BufferPtr.block? ↔ .counted b ∈ ps := by
  rw [List.mem_filterMap]
  constructor
  · rintro ⟨q, hq, hb⟩
    cases q with
    | leaky => cases hb
    | counted block =>
      cases hb
      exact hq
  · exact fun h => ⟨_, h, rfl⟩

/-- The leaky buffer is not of the pool. -/
theorem mem_poolBuffers {id : BufferId} (h : id ∈ poolBuffers n) : id ≠ .leaky := by
  obtain ⟨i, -, rfl⟩ := List.mem_map.mp h
  simp

/-- The pool has every buffer once. -/
theorem poolBuffers_nodup (n : ℕ) : (poolBuffers n).Nodup :=
  List.nodup_range.map fun _ _ h => BufferId.pool.inj h

/-! ## Copying and dropping a pointer -/

/-- A copy of a pointer leaves what each pointer points to. -/
@[simp]
theorem get_retain (q : BufferPtr) : (s.retain p).get q = s.get q := by
  cases p <;> cases q <;> rfl

/-- So does the end of one. -/
@[simp]
theorem get_release (q : BufferPtr) : (s.release p).get q = s.get q := by
  cases p <;> cases q <;> rfl

/-- So does writing into a buffer. -/
@[simp]
theorem get_setBuffer (id : BufferId) (buffer : TcpBuffer) (q : BufferPtr) :
    (s.setBuffer id buffer).get q = s.get q := by
  cases q <;> rfl

/-- The other fields stay. -/
theorem retain_eq : s.retain p = { s with pool := (s.retain p).pool } := by
  cases p <;> rfl

/-- The end of a pointer changes the pool only. -/
theorem release_eq : s.release p = { s with pool := (s.release p).pool } := by
  cases p <;> rfl

/-- A copy of a pointer that is there keeps the counts right. -/
theorem owned_retain (h : Owned (poolBuffers n) s.pool (ps.filterMap BufferPtr.block?))
    (hp : p ∈ ps) :
    Owned (poolBuffers n) (s.retain p).pool ((p :: ps).filterMap BufferPtr.block?) := by
  cases p with
  | leaky => exact h
  | counted block => exact h.retain (mem_blocks.mpr hp)

/-- So does the end of one. -/
theorem owned_release (h : Owned (poolBuffers n) s.pool ((p :: ps).filterMap BufferPtr.block?)) :
    Owned (poolBuffers n) (s.release p).pool (ps.filterMap BufferPtr.block?) := by
  cases p with
  | leaky => exact h
  | counted block => exact h.release

/-! ## The invariant -/

/-- Who refers to which buffer, and that the posted ones are as they were posted. -/
structure Frames (n : ℕ) (s : State) : Prop where
  owned : Owned (poolBuffers n) s.pool s.holders
  is_leaky : ∀ id, (s.buffers id).is_leaky = true ↔ id = .leaky
  /-- The receiver's reference is the only one to its block. -/
  exclusive : ∀ b, s.receive_buffer = some (.counted b) → ∀ q ∈ s.posts, q.1 ≠ .counted b
  not_leaky : ∀ q ∈ s.posts, q.1 ≠ .leaky
  unchanged : ∀ q ∈ s.posts, s.buffers (s.get q.1) = q.2
  faithful : ∀ c ∈ s.copies, c.Faithful

namespace Frames

/-- Before the first frame there is nothing to change. -/
theorem initial (n max_size : ℕ) (memory : BufferId → Memory) (size : BufferId → ℕ) :
    Frames n (initial n max_size memory size) where
  owned := Owned.initial _
  is_leaky := by simp [FanOut.initial]
  exclusive := by simp [FanOut.initial]
  not_leaky := by simp [FanOut.initial, State.posts]
  unchanged := by simp [FanOut.initial, State.posts]
  faithful := by simp [FanOut.initial]

/-- A pointer to a block points at a buffer of the pool. -/
theorem get_eq_leaky (h : Frames n s) (hp : p ∈ s.pointers) : s.get p = .leaky ↔ p = .leaky := by
  cases p with
  | leaky => simp [State.get]
  | counted block =>
    have hne := mem_poolBuffers (h.owned.ptr_mem (mem_blocks.mpr hp))
    simpa [State.get] using hne

/-- A posted pointer is one to a block. -/
theorem posted_eq (h : Frames n s) {q : BufferPtr × TcpBuffer} (hq : q ∈ s.posts) :
    ∃ b, q.1 = .counted b ∧ b ∈ s.holders := by
  cases hp : q.1 with
  | leaky => exact absurd hp (h.not_leaky q hq)
  | counted block =>
    have hmem : q.1 ∈ s.pointers := List.mem_append_right _ (List.mem_map_of_mem hq)
    exact ⟨block, rfl, mem_blocks.mpr (hp ▸ hmem)⟩

/-- The buffer to receive into is one of the pointers. -/
theorem receive_mem (hp : s.receive_buffer = some p) : p ∈ s.pointers :=
  List.mem_append_left _ (by simp [hp])

/-- The receiver's buffer is not a posted one. -/
theorem get_ne (h : Frames n s) (hp : s.receive_buffer = some p) {q : BufferPtr × TcpBuffer}
    (hq : q ∈ s.posts) : s.get q.1 ≠ s.get p := by
  obtain ⟨b, hb, hmem⟩ := h.posted_eq hq
  intro heq
  cases p with
  | leaky =>
    rw [hb] at heq
    exact mem_poolBuffers (h.owned.ptr_mem hmem) heq
  | counted block =>
    rw [hb] at heq
    have hblock := h.owned.ptr_injective (poolBuffers_nodup n) hmem
      (mem_blocks.mpr (receive_mem hp)) heq
    exact h.exclusive block hp q hq (hblock ▸ hb)

/-! ### The receiver -/

/-- Asking for a buffer changes no frame. -/
theorem getReadBuffer (h : Frames n s) (hnone : s.receive_buffer = none) :
    Frames n s.getReadBuffer := by
  have hpointers : s.holders = (s.posts.map Prod.fst).filterMap BufferPtr.block? := by
    simp [State.holders, State.pointers, hnone]
  have howned := h.owned
  rw [hpointers] at howned
  unfold State.getReadBuffer
  split
  · exact ⟨howned, h.is_leaky, by simp, h.not_leaky, h.unchanged, h.faithful⟩
  -- The block is new, so nobody else has a reference to it.
  · rename_i pool block htake
    obtain ⟨hnew, hfresh, hptr⟩ := howned.take htake
    refine ⟨hnew, h.is_leaky, ?_, h.not_leaky, ?_, h.faithful⟩
    · rintro b hb q hq rfl'
      cases hb
      exact hfresh (mem_blocks.mpr (rfl' ▸ List.mem_map_of_mem hq))
    · intro q hq
      obtain ⟨b, hb, hmem⟩ := h.posted_eq hq
      have hsame : pool.ptr b = s.pool.ptr b := hptr b (hpointers ▸ hmem)
      have := h.unchanged q hq
      rw [hb] at this ⊢
      simp only [State.get] at this ⊢
      rw [hsame]
      exact this

/-- The receiver changes its own buffer only. -/
theorem setBuffer (h : Frames n s) (hp : s.receive_buffer = some p) {buffer : TcpBuffer}
    (hleaky : buffer.is_leaky = (s.buffers (s.get p)).is_leaky) :
    Frames n (s.setBuffer (s.get p) buffer) := by
  refine ⟨h.owned, fun id => ?_, h.exclusive, h.not_leaky, fun q hq => ?_, h.faithful⟩
  · dsimp only [State.setBuffer]
    by_cases hid : id = s.get p
    · rw [hid, Function.update_self, hleaky]
      exact h.is_leaky _
    · rw [Function.update_of_ne hid]
      exact h.is_leaky id
  · exact (Function.update_of_ne (h.get_ne hp hq) _ _).trans (h.unchanged q hq)

/-- The receiver drops its pointer. -/
theorem dropReceive (h : Frames n s) (hp : s.receive_buffer = some p) (closed : Bool) :
    Frames n { s.release p with receive_buffer := none, closed := closed } := by
  have howned := h.owned
  rw [State.holders, State.pointers, hp] at howned
  rw [release_eq]
  refine ⟨owned_release howned, h.is_leaky, by simp, h.not_leaky, fun q hq => ?_, h.faithful⟩
  have hget := get_release (s := s) (p := p) q.1
  rw [release_eq] at hget
  exact (congrArg s.buffers hget).trans (h.unchanged q hq)

/-- The receiver gives its pointer away, to a buffer that is not the leaky one. -/
theorem post (h : Frames n s) (hp : s.receive_buffer = some p) (hnone : s.posting = none)
    {buffer : TcpBuffer} (hbuffer : s.buffers (s.get p) = buffer)
    (hleaky : ¬ buffer.is_leaky = true)
    (connections : List Server.Writer) :
    Frames n { s with receive_buffer := none, posting := some ⟨p, connections, buffer⟩ } := by
  have hne : p ≠ .leaky := by
    rintro rfl
    exact hleaky (hbuffer ▸ (h.is_leaky _).mpr rfl)
  have howned := h.owned
  rw [State.holders, State.pointers, hp] at howned
  -- The other posts are those of the lambdas.
  have hold : ∀ q ∈ s.lambdas.map fun l => (l.copy_buffer, l.posted), q ∈ s.posts :=
    fun q hq => List.mem_append_right _ hq
  have hposts : s.posts = s.lambdas.map fun l => (l.copy_buffer, l.posted) := by
    simp [State.posts, hnone]
  rw [hposts] at howned
  refine ⟨howned, h.is_leaky, by simp, fun q hq => ?_, fun q hq => ?_, h.faithful⟩
  · obtain rfl | hq := List.mem_cons.mp hq
    · exact hne
    · exact h.not_leaky q (hold q hq)
  · obtain rfl | hq := List.mem_cons.mp hq
    · exact hbuffer
    · exact h.unchanged q (hold q hq)

/-! ### The posted pointers -/

/-- `PostMessage` copies its pointer for a writer. -/
theorem write (h : Frames n s) {session : Server.Writer} {connections : List Server.Writer}
    {posted : TcpBuffer} (hposting : s.posting = some ⟨p, session :: connections, posted⟩) :
    Frames n { s.retain p with
      posting := some ⟨p, connections, posted⟩
      lambdas := s.lambdas ++ [⟨session, p, posted⟩] } := by
  have hmem : (p, posted) ∈ s.posts := by simp [State.posts, hposting]
  have hpointer : p ∈ s.pointers := List.mem_append_right _ (List.mem_map_of_mem hmem)
  have howned := owned_retain h.owned hpointer
  rw [retain_eq]
  generalize hpool : (s.retain p).pool = pool at howned
  -- The new lambda's pointer, and those from before.
  have hposts : (State.posts { s with
      pool := pool
      posting := some ⟨p, connections, posted⟩
      lambdas := s.lambdas ++ [⟨session, p, posted⟩] }).Perm ((p, posted) :: s.posts) := by
    simp only [State.posts, hposting, Option.map_some, Option.toList_some, List.map_append,
      List.map_singleton, List.singleton_append]
    exact (List.perm_append_singleton _ _).cons _
  have hget : ∀ q, State.get { s with
      pool := pool
      posting := some ⟨p, connections, posted⟩
      lambdas := s.lambdas ++ [⟨session, p, posted⟩] } q = s.get q := by
    intro q
    have hq := get_retain (s := s) (p := p) q
    rw [retain_eq, hpool] at hq
    exact hq
  have hsub : ∀ q ∈ State.posts { s with
      pool := pool
      posting := some ⟨p, connections, posted⟩
      lambdas := s.lambdas ++ [⟨session, p, posted⟩] }, q ∈ s.posts := by
    intro q hq
    obtain rfl | hq := List.mem_cons.mp (hposts.mem_iff.mp hq)
    · exact hmem
    · exact hq
  refine ⟨howned.perm ?_, h.is_leaky, fun b hb q hq => h.exclusive b hb q (hsub q hq),
    fun q hq => h.not_leaky q (hsub q hq), fun q hq => ?_, h.faithful⟩
  · refine List.Perm.filterMap _ ?_
    have hperm := (hposts.map Prod.fst).symm.append_left s.receive_buffer.toList
    exact List.perm_middle.symm.trans hperm
  · rw [hget]
    exact h.unchanged q (hsub q hq)

/-- A posted pointer is dropped; what is copied before that is the frame. -/
theorem dropPost (h : Frames n s) {q : BufferPtr × TcpBuffer}
    (hs : s' = { s.release q.1 with
      posting := s'.posting
      lambdas := s'.lambdas
      copies := s'.copies })
    (hposts : s.posts.Perm (q :: s'.posts)) (hcopies : ∀ c ∈ s'.copies, c.Faithful) :
    Frames n s' := by
  have hpool : s'.pool = (s.release q.1).pool := by rw [hs]
  have hbuffers : s'.buffers = s.buffers := by rw [hs, release_eq]
  have hreceive : s'.receive_buffer = s.receive_buffer := by rw [hs, release_eq]
  have hsub : ∀ r ∈ s'.posts, r ∈ s.posts :=
    fun r hr => hposts.mem_iff.mpr (List.mem_cons_of_mem _ hr)
  -- The reference count is not looked at when a pointer is followed.
  have hget : ∀ r, s'.get r = s.get r := by
    intro r
    rw [← get_release (s := s) (p := q.1) r]
    cases r with
    | leaky => rfl
    | counted block => simp only [State.get, hpool]
  have hpointers : s.pointers.Perm (q.1 :: s'.pointers) := by
    rw [State.pointers, State.pointers, hreceive]
    calc (s.receive_buffer.toList ++ s.posts.map Prod.fst).Perm
          (s.receive_buffer.toList ++ q.1 :: s'.posts.map Prod.fst) :=
        (hposts.map Prod.fst).append_left _
      List.Perm _ (q.1 :: (s.receive_buffer.toList ++ s'.posts.map Prod.fst)) := List.perm_middle
  refine ⟨?_, ?_, ?_, fun r hr => h.not_leaky r (hsub r hr), fun r hr => ?_, hcopies⟩
  · rw [hpool]
    exact owned_release (h.owned.perm (hpointers.filterMap _))
  · rw [hbuffers]
    exact h.is_leaky
  · rw [hreceive]
    exact fun b hb r hr => h.exclusive b hb r (hsub r hr)
  · rw [hbuffers, hget]
    exact h.unchanged r (hsub r hr)

/-- The lambda at an index is one of the posted pointers. -/
theorem posts_eraseIdx {index : ℕ} {l : WriteLambda} (hl : s.lambdas[index]? = some l) :
    s.posts.Perm ((l.copy_buffer, l.posted) ::
      ((s.posting.map fun p => (p.buffer, p.posted)).toList ++
        (s.lambdas.eraseIdx index).map fun l => (l.copy_buffer, l.posted))) := by
  obtain ⟨hlt, rfl⟩ := List.getElem?_eq_some_iff.mp hl
  have hperm := (List.getElem_cons_eraseIdx_perm hlt).symm.map
    fun l => (l.copy_buffer, l.posted)
  exact (hperm.append_left _).trans List.perm_middle

/-- No step does. -/
theorem step (h : Frames n s) {e : Event} (hs : step s e = some s') : Frames n s' := by
  cases e with
  | getReadBuffer =>
    simp only [FanOut.step, Option.ite_none_right_eq_some] at hs
    obtain ⟨⟨-, -, hnone⟩, ⟨⟩⟩ := hs
    exact h.getReadBuffer hnone
  | receive offset bytes =>
    simp only [FanOut.step] at hs
    split at hs
    · rename_i p hp hnone
      cases hs
      exact h.setBuffer hp rfl
    · cases hs
  | finish bytes_written connections =>
    simp only [FanOut.step] at hs
    split at hs
    · rename_i p hp hnone
      split_ifs at hs with hleaky
      · cases hs
        -- A leaky buffer is dropped, not posted.
        obtain rfl := (h.get_eq_leaky (receive_mem hp)).mp ((h.is_leaky _).mp hleaky)
        exact h.dropReceive hp s.closed
      · cases hs
        have hsized : ∀ buffer, (s.setBuffer (s.get p) buffer).buffers
            ((s.setBuffer (s.get p) buffer).get p) = buffer := by
          intro buffer
          rw [get_setBuffer]
          exact Function.update_self _ _ _
        -- `SetSize` changes the size of the receiver's own buffer.
        have hset : Frames n (s.setBuffer (s.get p)
            { s.buffers (s.get p) with size := bytes_written }) := h.setBuffer hp rfl
        exact hset.post hp hnone (hsized _) hleaky connections
    · cases hs
  | write =>
    simp only [FanOut.step] at hs
    split at hs
    · rename_i p session connections posted hposting
      cases hs
      exact h.write hposting
    · cases hs
  | reset =>
    simp only [FanOut.step] at hs
    split at hs
    · rename_i p posted hposting
      cases hs
      refine h.dropPost (q := (p, posted)) rfl ?_ ?_
      · rw [release_eq]
        simp [State.posts, hposting]
      · rw [release_eq]
        exact h.faithful
    · cases hs
  | copy index =>
    simp only [FanOut.step] at hs
    split at hs
    · rename_i l hl
      cases hs
      have hperm := posts_eraseIdx hl
      have hsame := h.unchanged _ (hperm.mem_iff.mpr List.mem_cons_self)
      refine h.dropPost (q := (l.copy_buffer, l.posted)) rfl ?_ ?_
      · rw [release_eq]
        exact hperm
      · intro c hc
        obtain rfl | hc := List.mem_cons.mp hc
        · -- The buffer is as it was posted, and the copy is of the buffer.
          rw [hsame]
          exact ⟨rfl, rfl⟩
        · exact h.faithful c hc
    · cases hs
  | drop index =>
    simp only [FanOut.step] at hs
    split at hs
    · rename_i l hl
      cases hs
      refine h.dropPost (q := (l.copy_buffer, l.posted)) rfl ?_ ?_
      · rw [release_eq]
        exact posts_eraseIdx hl
      · rw [release_eq]
        exact h.faithful
    · cases hs
  | close =>
    simp only [FanOut.step, Option.ite_none_right_eq_some] at hs
    obtain ⟨-, ⟨⟩⟩ := hs
    cases hp : s.receive_buffer with
    | none =>
      refine ⟨?_, h.is_leaky, by simp, h.not_leaky, h.unchanged, h.faithful⟩
      have howned := h.owned
      rw [State.holders, State.pointers, hp] at howned
      exact howned
    | some p => exact h.dropReceive hp true

end Frames

/-! ## Every reachable state -/

/-- What a frame's readers rely on. -/
structure Unchanged (s : State) : Prop where
  /-- While a lambda waits, the buffer that it will copy is as it was when `PostMessage` was
  called. -/
  waiting : ∀ l ∈ s.lambdas, s.buffers (s.get l.copy_buffer) = l.posted
  /-- What was copied is the frame that was posted, in size and in bytes. -/
  copied : ∀ c ∈ s.copies, c.Faithful
  /-- No buffer is in the queue twice, -/
  free_nodup : s.pool.free.Nodup
  /-- or there while somebody refers to it, -/
  not_free : ∀ p ∈ s.pointers, s.get p ∉ s.pool.free
  /-- or handed out twice. -/
  once : ∀ b b', .counted b ∈ s.pointers → .counted b' ∈ s.pointers →
    s.pool.ptr b = s.pool.ptr b' → b = b'
  /-- The leaky buffer is not posted. -/
  not_leaky : ∀ q ∈ s.posts, (s.buffers (s.get q.1)).is_leaky = false

/-- Which says that what was handed out is unchanged. -/
theorem Frames.unchanged_of (h : Frames n s) : Unchanged s where
  waiting l hl :=
    h.unchanged (l.copy_buffer, l.posted)
      (List.mem_append_right _ (List.mem_map_of_mem (f := fun l => (l.copy_buffer, l.posted)) hl))
  copied := h.faithful
  free_nodup := h.owned.free_nodup (poolBuffers_nodup n)
  not_free p hp := by
    cases p with
    | leaky =>
      intro hfree
      exact mem_poolBuffers (h.owned.whole.mem_iff.mpr (.inl hfree)) rfl
    | counted block => exact h.owned.ptr_not_mem_free (poolBuffers_nodup n) (mem_blocks.mpr hp)
  once b b' hb hb' :=
    h.owned.ptr_injective (poolBuffers_nodup n) (mem_blocks.mpr hb) (mem_blocks.mpr hb')
  not_leaky q hq := by
    obtain ⟨b, hb, hmem⟩ := h.posted_eq hq
    rw [← Bool.not_eq_true, h.is_leaky, hb]
    exact mem_poolBuffers (h.owned.ptr_mem hmem)

/-- For any number of buffers, whatever they hold at first, and in every order of receives, posts,
copies and drops: a frame is copied as it was posted, no buffer is both free and referred to or
handed out twice, and the leaky buffer is never posted. -/
theorem frames_unchanged {buffer_count max_size : ℕ} {memory : BufferId → Memory}
    {size : BufferId → ℕ}
    (h : Reachable step (FanOut.initial buffer_count max_size memory size) s) : Unchanged s :=
  (h.invariant (Frames buffer_count) (fun _ _ _ hI hs => hI.step hs)
    (Frames.initial buffer_count max_size memory size)).unchanged_of

/-- One buffer and two headsets: the second frame goes into the leaky buffer while the first one
waits to be copied, and the third into the first one's buffer. -/
def twoHeadsetsRun (headset headset' : Server.Writer) : List Event :=
  [.getReadBuffer, .receive 0 [1, 2], .receive 2 [3], .finish 3 [headset, headset'], .write, .write,
    .reset, .getReadBuffer, .receive 0 [9], .copy 1, .finish 1 [headset], .copy 0, .getReadBuffer,
    .receive 0 [7]]

theorem frames_unchanged_twoHeadsetsRun :
    ∃ s, run step (FanOut.initial 1 8 (fun _ _ => 0) fun _ => 0)
        (twoHeadsetsRun ⟨1, 100⟩ ⟨2, 101⟩) = some s ∧
      s.copies.map (·.bytes) = [[1, 2, 3], [1, 2, 3]] ∧ s.receive_buffer = some (.counted 1) ∧
      Unchanged s := by
  obtain ⟨s, hs, hcopies, hreceive⟩ :
      ∃ s, run step (FanOut.initial 1 8 (fun _ _ => 0) fun _ => 0)
          (twoHeadsetsRun ⟨1, 100⟩ ⟨2, 101⟩) = some s ∧
        s.copies.map (·.bytes) = [[1, 2, 3], [1, 2, 3]] ∧ s.receive_buffer = some (.counted 1) :=
    ⟨_, rfl, by decide +kernel, rfl⟩
  exact ⟨s, hs, hcopies, hreceive, frames_unchanged ⟨_, hs⟩⟩

end AugmentedNormalcy.Tcp.FanOut
