import AugmentedNormalcy.Prototype.BufferPool

/-!
# The clients of the buffer pool

Clients take buffers with `New`, copy the shared pointers and drop their copies. A buffer is handed
out until it is given back: by the `Free` of its last copy, or by a `FreeRaw` when there is no copy
left. Whether `Free` gives a buffer back is decided here by the copies that the clients have, and in
the pool by the use count; the two agree (`Inv`), so the pool keeps exactly the buffers that are not
handed out, in the order in which they became available.
-/

namespace AugmentedNormalcy.Prototype

open StepSystem BufferPool

structure Clients where
  pool : BufferPool
  /-- The shared pointers to a buffer that clients have. -/
  copies : BufferPtr → ℕ
  /-- The buffers that are handed out. -/
  outbound : List BufferPtr
  /-- The buffers in the order in which they became available, from the constructor on. -/
  became_available : List BufferPtr
  /-- The buffers in the order in which `New` returned them. -/
  taken : List BufferPtr

inductive ClientEvent where
  | new
  | copy (buffer_ptr : BufferPtr)
  | drop (buffer_ptr : BufferPtr)
  | free (buffer_ptr : BufferPtr)
  | freeRaw (buffer_ptr : BufferPtr)
deriving DecidableEq, Repr

namespace Clients

/-- Every buffer is free. -/
def initial (buffer_count : ℕ) : Clients where
  pool := .initial buffer_count
  copies := fun _ => 0
  outbound := []
  became_available := List.range buffer_count
  taken := []

/-- A client has `n` shared pointers to `b`. -/
def setCopies (s : Clients) (b : BufferPtr) (n : ℕ) : Clients :=
  { s with copies := Function.update s.copies b n }

/-- The count is what it was set to. -/
@[simp]
theorem copies_setCopies_self (s : Clients) (b : BufferPtr) (n : ℕ) :
    (s.setCopies b n).copies b = n :=
  Function.update_self _ _ _

/-- The other counts are what they were. -/
theorem copies_setCopies_of_ne (s : Clients) {b c : BufferPtr} (h : c ≠ b) (n : ℕ) :
    (s.setCopies b n).copies c = s.copies c :=
  Function.update_of_ne h _ _

/-- The buffer `b` is given back. -/
def giveBack (s : Clients) (b : BufferPtr) : Clients :=
  { s with outbound := s.outbound.erase b, became_available := s.became_available ++ [b] }

/-- One step. Clients copy, drop and free only what they have, and use `FreeRaw` for a buffer that
is handed out only when they have no copy left. -/
def step (s : Clients) : ClientEvent → Option Clients
  | .new =>
    match s.pool.new with
    | (.ok (some b), pool) =>
      some { s.setCopies b (s.copies b + 1) with
        pool, outbound := b :: s.outbound, taken := s.taken ++ [b] }
    | (_, pool) => some { s with pool }
  | .copy b =>
    if 0 < s.copies b then
      some { s.setCopies b (s.copies b + 1) with pool := s.pool.retain b }
    else none
  | .drop b =>
    if 0 < s.copies b then
      some { s.setCopies b (s.copies b - 1) with pool := s.pool.reset (some b) }
    else none
  | .free b =>
    if 0 < s.copies b then
      let s' := if s.copies b = 1 then s.giveBack b else s
      some { s'.setCopies b (s.copies b - 1) with pool := s.pool.free (some b) }
    else none
  | .freeRaw b =>
    match s.pool.freeRaw b with
    | (.ok (), pool) =>
      if b ∈ s.outbound ∧ s.copies b = 0 then some { s.giveBack b with pool } else none
    | (.error _, pool) => some { s with pool }

/-- The pool keeps `bs`, everything else is handed out, and the use counts are those of the pool's
pointers and of the clients' copies. -/
structure Inv (buffer_count : ℕ) (s : Clients) (l : List NodePtr) (bs : List BufferPtr) :
    Prop where
  keeps : s.pool.Keeps l bs
  buffer_store : s.pool.buffer_store = List.range buffer_count
  whole : Pool.Whole (List.range buffer_count) bs s.outbound
  order : s.became_available = s.taken ++ bs
  available : ∀ b ∈ bs, s.pool.use_count b = 2
  handedOut : ∀ b ∈ s.outbound, s.pool.use_count b = 1 + s.copies b
  held : ∀ b, 0 < s.copies b → b ∈ s.outbound

theorem Inv.initial (buffer_count : ℕ) :
    Inv buffer_count (.initial buffer_count) (List.range' 3 buffer_count)
      (List.range buffer_count) where
  keeps := keeps_initial buffer_count
  buffer_store := (attached_initial buffer_count).buffer_store
  whole := .initial _
  order := rfl
  available := by
    intro b hb
    have huse := (attached_initial buffer_count).use_count b
    rw [List.count_eq_one_of_mem List.nodup_range hb] at huse
    show (BufferPool.initial buffer_count).use_count b = 2
    rw [huse]
    show (if b < buffer_count then 1 else 0) + 1 = 2
    rw [if_pos (List.mem_range.mp hb)]
  handedOut b hb := by cases hb
  held b hb := absurd hb (Nat.lt_irrefl 0)

namespace Inv

variable {buffer_count : ℕ} {s : Clients} {l : List NodePtr} {bs : List BufferPtr} {b : BufferPtr}

/-- No buffer is both taken and free. -/
theorem nodup (h : Inv buffer_count s l bs) : (bs ++ s.outbound).Nodup :=
  h.whole.nodup List.nodup_range

/-- A buffer that is handed out is not in the pool. -/
theorem not_mem (h : Inv buffer_count s l bs) (hb : b ∈ s.outbound) : b ∉ bs :=
  fun hbs => (List.nodup_append.mp h.nodup).2.2 b hbs b hb rfl

/-- The clients have `n` copies of `b` now. -/
theorem setCopies (h : Inv buffer_count s l bs) (hb : b ∈ s.outbound) (n : ℕ) :
    Inv buffer_count
      { s.setCopies b n with
        pool := { s.pool with use_count := Function.update s.pool.use_count b (1 + n) } } l bs where
  keeps := h.keeps.congr_use_count _
  buffer_store := h.buffer_store
  whole := h.whole
  order := h.order
  available c hc := by
    have hcb : c ≠ b := by
      rintro rfl
      exact h.not_mem hb hc
    exact (Function.update_of_ne hcb _ _).trans (h.available c hc)
  handedOut c hc := by
    show Function.update s.pool.use_count b (1 + n) c = 1 + (s.setCopies b n).copies c
    by_cases hcb : c = b
    · subst hcb
      rw [Function.update_self, copies_setCopies_self]
    · rw [Function.update_of_ne hcb, s.copies_setCopies_of_ne hcb]
      exact h.handedOut c hc
  held c hc := by
    by_cases hcb : c = b
    · exact hcb ▸ hb
    · exact h.held c (s.copies_setCopies_of_ne hcb n ▸ hc)

/-- A buffer without copies is appended to the pool. -/
theorem giveBack (h : Inv buffer_count s l bs) (hb : b ∈ s.outbound) (hcopies : s.copies b = 0)
    {pool : BufferPool} (hkeeps : pool.Keeps l bs)
    (hstore : pool.buffer_store = s.pool.buffer_store) (huse : pool.use_count b = 2)
    (hother : ∀ c, c ≠ b → pool.use_count c = s.pool.use_count c) :
    Inv buffer_count { s.giveBack b with pool := pool.append (some b) } (l ++ [pool.next_node])
      (bs ++ [b]) where
  keeps := hkeeps.append b
  buffer_store := hstore.trans h.buffer_store
  whole := h.whole.give (List.perm_cons_erase hb)
  order := by
    show s.became_available ++ [b] = s.taken ++ (bs ++ [b])
    rw [h.order, List.append_assoc]
  available c hc := by
    show pool.use_count c = 2
    rcases List.mem_append.mp hc with hold | hnew
    · have hcb : c ≠ b := by
        rintro rfl
        exact h.not_mem hb hold
      rw [hother c hcb, h.available c hold]
    · rw [List.mem_singleton.mp hnew, huse]
  handedOut c hc := by
    obtain ⟨hcb, hc⟩ := ((List.nodup_append.mp h.nodup).2.1.mem_erase_iff).mp hc
    exact (hother c hcb).trans (h.handedOut c hc)
  held c hc := by
    have hcb : c ≠ b := by
      rintro rfl
      exact absurd hcopies (Nat.ne_of_gt hc)
    exact (List.mem_erase_of_ne hcb).mpr (h.held c hc)

/-- `New` takes the first buffer, if there is one. -/
theorem new (h : Inv buffer_count s l bs) {s' : Clients} (hs : s.step .new = some s') :
    ∃ l' bs', Inv buffer_count s' l' bs' := by
  cases bs with
  | nil =>
    simp only [step, h.keeps.new_nil, Option.some.injEq] at hs
    exact ⟨l, [], hs ▸ h⟩
  | cons b bs =>
    obtain ⟨n, l, rfl⟩ : ∃ n l', l = n :: l' := by
      cases l with
      | nil => exact absurd h.keeps.buffers (by simp)
      | cons n l => exact ⟨n, l, rfl⟩
    obtain ⟨pool, hnew, hkeeps, hstore, huse⟩ := h.keeps.new_cons
    simp only [step, hnew, Option.some.injEq] at hs
    subst hs
    have hout : b ∉ s.outbound := fun hmem => h.not_mem hmem List.mem_cons_self
    have hcopies : s.copies b = 0 := Nat.eq_zero_of_not_pos fun hpos => hout (h.held b hpos)
    refine ⟨l, bs, hkeeps, hstore.trans h.buffer_store, h.whole.take, ?_, ?_, ?_, ?_⟩
    · show s.became_available = s.taken ++ [b] ++ bs
      rw [h.order, List.append_assoc]
      rfl
    · intro c hc
      show pool.use_count c = 2
      rw [huse]
      exact h.available c (List.mem_cons_of_mem b hc)
    · intro c hc
      show pool.use_count c = 1 + (s.setCopies b (s.copies b + 1)).copies c
      rw [huse]
      rcases List.mem_cons.mp hc with rfl | hold
      · rw [copies_setCopies_self, hcopies, h.available c List.mem_cons_self]
      · have hcb : c ≠ b := by
          rintro rfl
          exact hout hold
        rw [s.copies_setCopies_of_ne hcb]
        exact h.handedOut c hold
    · intro c hc
      by_cases hcb : c = b
      · exact hcb ▸ List.mem_cons_self
      · exact List.mem_cons_of_mem b (h.held c (s.copies_setCopies_of_ne hcb _ ▸ hc))

/-- The use count of a copy that a client has. -/
theorem useCount_eq (h : Inv buffer_count s l bs) (hb : 0 < s.copies b) :
    s.pool.useCount (some b) = 1 + s.copies b :=
  h.handedOut b (h.held b hb)

/-- A copy keeps the invariant. -/
theorem copy (h : Inv buffer_count s l bs) {s' : Clients} (hs : s.step (.copy b) = some s') :
    Inv buffer_count s' l bs := by
  obtain ⟨hb, ⟨⟩⟩ := Option.ite_none_right_eq_some.mp hs
  have hset := h.setCopies (h.held b hb) (s.copies b + 1)
  rwa [← Nat.add_assoc, ← h.handedOut b (h.held b hb)] at hset

/-- A copy less, which the pool does not take back. -/
theorem reset (h : Inv buffer_count s l bs) (hb : 0 < s.copies b) :
    Inv buffer_count
      { s.setCopies b (s.copies b - 1) with pool := s.pool.reset (some b) } l bs := by
  have hset := h.setCopies (h.held b hb) (s.copies b - 1)
  rwa [← Nat.add_sub_assoc hb, ← h.handedOut b (h.held b hb)] at hset

/-- So does the end of one. -/
theorem drop (h : Inv buffer_count s l bs) {s' : Clients} (hs : s.step (.drop b) = some s') :
    Inv buffer_count s' l bs := by
  obtain ⟨hb, ⟨⟩⟩ := Option.ite_none_right_eq_some.mp hs
  exact h.reset hb

/-- `Free` gives the buffer back exactly when it gets the last copy. -/
theorem free (h : Inv buffer_count s l bs) {s' : Clients} (hs : s.step (.free b) = some s') :
    ∃ l' bs', Inv buffer_count s' l' bs' := by
  obtain ⟨hb, ⟨⟩⟩ := Option.ite_none_right_eq_some.mp hs
  have huse := h.useCount_eq hb
  unfold BufferPool.free
  by_cases hlast : s.copies b = 1
  · rw [if_pos hlast, if_neg (by omega), hlast]
    -- The copy moves into the new node.
    have hgiven := (h.setCopies (h.held b hb) 0).giveBack (h.held b hb)
      (s.copies_setCopies_self b 0) h.keeps rfl (huse.trans (by rw [hlast]))
      fun c hcb => (Function.update_of_ne hcb _ _).symm
    exact ⟨_, _, hgiven⟩
  · rw [if_neg hlast, if_pos (by omega)]
    exact ⟨l, bs, h.reset hb⟩

/-- The store finds its own buffers. -/
theorem find?_buffer_store (h : Inv buffer_count s l bs) :
    s.pool.buffer_store.find? (fun store_buffer => store_buffer = b) =
      if b < buffer_count then some b else none := by
  rw [h.buffer_store]
  split_ifs with hb
  · rw [List.find?_range_eq_some]
    exact ⟨by simp, List.mem_range.mpr hb, fun c hc => by simp [Nat.ne_of_lt hc]⟩
  · rw [List.find?_eq_none]
    intro c hc
    have hcb := List.mem_range.mp hc
    simp only [decide_eq_true_eq]
    rintro rfl
    exact hb hcb

/-- So does a free. -/
theorem freeRaw (h : Inv buffer_count s l bs) {s' : Clients} (hs : s.step (.freeRaw b) = some s') :
    ∃ l' bs', Inv buffer_count s' l' bs' := by
  simp only [step, BufferPool.freeRaw, h.find?_buffer_store] at hs
  by_cases hb : b < buffer_count
  · rw [if_pos hb] at hs
    obtain ⟨⟨hout, hcopies⟩, ⟨⟩⟩ := Option.ite_none_right_eq_some.mp hs
    have huse := h.handedOut b hout
    rw [hcopies] at huse
    have hkeeps : (s.pool.retain b).Keeps l bs := h.keeps.congr_use_count _
    have hgiven := h.giveBack hout hcopies hkeeps rfl
      ((Function.update_self _ _ _).trans (by rw [huse]))
      fun c hcb => Function.update_of_ne hcb _ _
    exact ⟨_, _, hgiven⟩
  · rw [if_neg hb] at hs
    obtain ⟨⟩ := hs
    exact ⟨l, bs, h⟩

/-- So does every step. -/
theorem step (h : Inv buffer_count s l bs) {s' : Clients} {e : ClientEvent}
    (hs : s.step e = some s') : ∃ l' bs', Inv buffer_count s' l' bs' := by
  cases e with
  | new => exact h.new hs
  | copy b => exact ⟨l, bs, h.copy hs⟩
  | drop b => exact ⟨l, bs, h.drop hs⟩
  | free b => exact h.free hs
  | freeRaw b => exact h.freeRaw hs

end Inv

/-- What holds of the pool at any time. -/
structure Sound (buffer_count : ℕ) (s : Clients) : Prop where
  /-- The links forward and back agree; they hold no buffer twice and none that is handed out, and
  these are the buffers that have become available and were not taken since, in this order. -/
  linked : ∃ l bs, s.pool.Keeps l bs ∧ l.length = s.pool.availableBuffers ∧ bs.Nodup ∧
    (∀ b ∈ bs, b ∉ s.outbound) ∧ s.became_available = s.taken ++ bs
  counted : s.pool.availableBuffers + s.pool.outboundBuffers = buffer_count
  outbound : s.pool.outboundBuffers = s.outbound.length
  /-- `New` returns the buffer that became available first, of those that were not taken. -/
  new_first : s.pool.availableBuffers ≠ 0 →
    ∃ b, s.became_available[s.taken.length]? = some b ∧ s.pool.new.1 = .ok (some b)
  new_empty : s.pool.availableBuffers = 0 →
    s.pool.new = (.error (.underflow_error "No available buffers"), s.pool)
  freeRaw_untracked : ∀ b ∉ s.pool.buffer_store,
    s.pool.freeRaw b = (.error (.runtime_error "Trying to free untracked buffer"), s.pool)

/-- The invariant says that the pool is sound. -/
theorem Inv.sound {buffer_count : ℕ} {s : Clients} {l : List NodePtr} {bs : List BufferPtr}
    (h : Inv buffer_count s l bs) : Sound buffer_count s := by
  have hlength : bs.length = s.pool.availableBuffers := h.keeps.length_eq
  have hwhole := h.whole.length_eq
  rw [List.length_range, hlength] at hwhole
  have houtbound : s.pool.outboundBuffers = s.outbound.length := by
    unfold outboundBuffers
    rw [h.buffer_store, List.length_range]
    show buffer_count - s.pool.availableBuffers = _
    omega
  refine ⟨⟨l, bs, h.keeps, h.keeps.available_buffers.symm, ?_, ?_, h.order⟩, by omega, houtbound,
    fun hne => ?_, fun hzero => ?_, fun b hb => ?_⟩
  · exact (List.nodup_append.mp h.nodup).1
  · exact fun b hb hout => h.not_mem hout hb
  · cases bs with
    | nil => exact absurd hlength.symm hne
    | cons b bs =>
      cases l with
      | nil => exact absurd h.keeps.buffers (by simp)
      | cons n l =>
        obtain ⟨pool, hnew, -⟩ := h.keeps.new_cons
        exact ⟨b, by simp [h.order], by rw [hnew]⟩
  · obtain rfl := List.eq_nil_of_length_eq_zero (hlength.trans hzero)
    exact h.keeps.new_nil
  · rw [h.buffer_store, List.mem_range] at hb
    rw [BufferPool.freeRaw, h.find?_buffer_store, if_neg hb]

/-- In every state that clients bring about, the pool keeps exactly the buffers that are not handed
out, in the order in which they became available. -/
theorem bufferPool_sound {buffer_count : ℕ} {s : Clients}
    (h : Reachable step (initial buffer_count) s) : Sound buffer_count s := by
  obtain ⟨l, bs, hinv⟩ := h.invariant (fun s => ∃ l bs, Inv buffer_count s l bs)
    (fun _ _ _ ⟨_, _, hinv⟩ hs => hinv.step hs) ⟨_, _, .initial buffer_count⟩
  exact hinv.sound

/-- Two buffers: one goes out twice and comes back from its second copy, the other is given back
raw. -/
def bothWays : List ClientEvent :=
  [.new, .copy 0, .free 0, .new, .free 0, .drop 1, .freeRaw 1]

theorem bufferPool_sound_bothWays : ∃ s, run step (initial 2) bothWays = some s ∧
    s.taken = [0, 1] ∧ s.became_available = [0, 1, 0, 1] ∧ Sound 2 s := by
  obtain ⟨s, hs, htaken, hbecame⟩ : ∃ s, run step (initial 2) bothWays = some s ∧
      s.taken = [0, 1] ∧ s.became_available = [0, 1, 0, 1] := ⟨_, rfl, rfl, rfl⟩
  exact ⟨s, hs, htaken, hbecame, bufferPool_sound ⟨bothWays, hs⟩⟩

end Clients

end AugmentedNormalcy.Prototype
