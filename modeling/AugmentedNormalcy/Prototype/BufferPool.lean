import AugmentedNormalcy.Foundation.LinkedList
import AugmentedNormalcy.Foundation.Pool
import AugmentedNormalcy.Foundation.Run

/-!
# The buffer pool of the prototype

`BufferPool` of `src/prototype/internal/utility/buffer_pool.hpp`, with its nodes and the use counts
of its buffers. A node is a number, and so is a buffer: the number of the call of the initializer
that made it. The buffers that `New` hands out are held by clients, who copy the shared pointer,
drop their copies, and give the buffer back, with `Free` of a copy or with `FreeRaw` when they have
none.

`Keeps` says which buffers the links hold, in which order. What `New`, `Free` and `FreeRaw` do is
stated with it (`Keeps.new`, `Keeps.append`), and in every reachable state the pool keeps the
buffers that are not handed out, in the order in which they became available
(`bufferPool_sound`). -/

namespace AugmentedNormalcy.Prototype

open LinkedList StepSystem

/-- A `std::shared_ptr<BufferNode>`. -/
abbrev NodePtr := ℕ

/-- A `BufferType *`. -/
abbrev BufferPtr := ℕ

inductive Exception where
  | underflow_error (what : String)
  | runtime_error (what : String)
deriving DecidableEq, Repr

structure BufferPool where
  available_buffer_head : NodePtr
  available_buffer_tail : NodePtr
  buffer_store : List BufferPtr
  available_buffers : ℕ
  /-- `_next_node` and `_previous_node`. -/
  links : Links NodePtr
  /-- `_buffer`, which is null in a new node and when it has been moved from. -/
  buffer : NodePtr → Option BufferPtr
  /-- How many shared pointers to a buffer there are. -/
  use_count : BufferPtr → ℕ
  /-- The number of the next node. -/
  next_node : ℕ

namespace BufferPool

/-! ## Shared pointers to the buffers -/

/-- `use_count`, which is 0 for a null pointer. -/
def useCount (pool : BufferPool) : Option BufferPtr → ℕ
  | none => 0
  | some b => pool.use_count b

/-- A shared pointer to `b` is copied. -/
def retain (pool : BufferPool) (b : BufferPtr) : BufferPool :=
  { pool with use_count := Function.update pool.use_count b (pool.use_count b + 1) }

/-- A shared pointer is reset. -/
def reset (pool : BufferPool) : Option BufferPtr → BufferPool
  | none => pool
  | some b => { pool with use_count := Function.update pool.use_count b (pool.use_count b - 1) }

/-! ## The constructor -/

/-- The nodes of the constructor, behind `node`, and then the tail. -/
def attach (pool : BufferPool) (node : NodePtr) : List BufferPtr → BufferPool
  | [] =>
    let links := pool.links.setNext node pool.available_buffer_tail
    { pool with links := links.setPrevious pool.available_buffer_tail node }
  | buffer_ptr :: buffer_ptrs =>
    let new_node := pool.next_node
    let links := pool.links.setNext node new_node
    let pool := { pool.retain buffer_ptr with
      links := links.setPrevious new_node node
      buffer := Function.update pool.buffer new_node (some buffer_ptr)
      next_node := pool.next_node + 1 }
    pool.attach new_node buffer_ptrs

/-- The pool with its two dummies, before the nodes are attached. Node 0 is the null pointer. -/
def unattached (buffer_count : ℕ) : BufferPool where
  available_buffer_head := 1
  available_buffer_tail := 2
  buffer_store := List.range buffer_count
  available_buffers := buffer_count
  links := ⟨fun _ => 0, fun _ => 0⟩
  buffer := fun _ => none
  use_count := fun b => if b < buffer_count then 1 else 0
  next_node := 3

def initial (buffer_count : ℕ) : BufferPool :=
  (unattached buffer_count).attach (unattached buffer_count).available_buffer_head
    (unattached buffer_count).buffer_store

/-! ## The operations -/

/-- `New`. -/
def new (pool : BufferPool) : Except Exception (Option BufferPtr) × BufferPool :=
  let head := pool.available_buffer_head
  if pool.links.next head = pool.available_buffer_tail then
    (.error (.underflow_error "No available buffers"), pool)
  else
    let ret_node := pool.links.next head
    let links := pool.links.setNext head (pool.links.next ret_node)
    let links := links.setPrevious (links.next ret_node) head
    (.ok (pool.buffer ret_node), { pool with
      links
      buffer := Function.update pool.buffer ret_node none
      available_buffers := pool.available_buffers - 1 })

/-- A new node with the buffer before the tail, as at the end of `Free` and of `FreeRaw`. -/
def append (pool : BufferPool) (buffer_ptr : Option BufferPtr) : BufferPool :=
  let tail := pool.available_buffer_tail
  let node := pool.next_node
  let links := pool.links.setPrevious node (pool.links.previous tail)
  let links := links.setNext (links.previous tail) node
  let links := links.setNext node tail
  let links := links.setPrevious tail node
  { pool with
    links
    buffer := Function.update pool.buffer node buffer_ptr
    available_buffers := pool.available_buffers + 1
    next_node := pool.next_node + 1 }

/-- `Free`, which moves from its argument. -/
def free (pool : BufferPool) (buffer_ptr : Option BufferPtr) : BufferPool :=
  -- someone is still using the buffer
  if 2 < pool.useCount buffer_ptr then pool.reset buffer_ptr
  else pool.append buffer_ptr

/-- `FreeRaw`. -/
def freeRaw (pool : BufferPool) (buffer_ptr : BufferPtr) : Except Exception Unit × BufferPool :=
  match pool.buffer_store.find? fun store_buffer => store_buffer = buffer_ptr with
  | none => (.error (.runtime_error "Trying to free untracked buffer"), pool)
  | some store_buffer => (.ok (), (pool.retain store_buffer).append (some store_buffer))

/-- `AvailableBuffers`. -/
def availableBuffers (pool : BufferPool) : ℕ := pool.available_buffers

/-- `OutboundBuffers`. -/
def outboundBuffers (pool : BufferPool) : ℕ := pool.buffer_store.length - pool.available_buffers

/-! ## The buffers that the links hold -/

/-- The links between the dummies lead over the nodes `l`, which hold the buffers `bs`. -/
structure Keeps (pool : BufferPool) (l : List NodePtr) (bs : List BufferPtr) : Prop where
  segment : pool.links.Segment pool.available_buffer_head l pool.available_buffer_tail
  nodup : (pool.available_buffer_head :: (l ++ [pool.available_buffer_tail])).Nodup
  /-- Nodes that are made later are new. -/
  made : ∀ n ∈ pool.available_buffer_head :: (l ++ [pool.available_buffer_tail]),
    n < pool.next_node
  buffers : l.map pool.buffer = bs.map some
  available_buffers : pool.available_buffers = l.length

namespace Keeps

variable {pool : BufferPool} {l : List NodePtr} {bs : List BufferPtr} {n b : ℕ}

theorem length_eq (h : Keeps pool l bs) : bs.length = pool.available_buffers := by
  rw [h.available_buffers, ← List.length_map (f := some), ← h.buffers, List.length_map]

/-- The links say which nodes there are, and so which buffers. -/
theorem unique {l' : List NodePtr} {bs' : List BufferPtr} (h : Keeps pool l bs)
    (h' : Keeps pool l' bs') : l = l' ∧ bs = bs' := by
  have htail : ∀ {k : List NodePtr},
      (pool.available_buffer_head :: (k ++ [pool.available_buffer_tail])).Nodup →
        pool.available_buffer_tail ∉ k := fun hnodup hmem =>
    (List.nodup_append.mp (List.nodup_cons.mp hnodup).2).2.2 _ hmem _ (List.mem_singleton_self _)
      rfl
  obtain rfl := h.segment.unique h'.segment (htail h.nodup) (htail h'.nodup)
  exact ⟨rfl, List.map_injective_iff.mpr (fun _ _ => Option.some.inj)
    (h.buffers.symm.trans h'.buffers)⟩

/-- Without buffers there are no nodes. -/
theorem eq_nil (h : Keeps pool l []) : l = [] := List.map_eq_nil_iff.mp h.buffers

/-- The use counts are no part of the list. -/
theorem congr_use_count (h : Keeps pool l bs) (use_count : BufferPtr → ℕ) :
    Keeps { pool with use_count } l bs :=
  ⟨h.segment, h.nodup, h.made, h.buffers, h.available_buffers⟩

/-- `New` of an empty pool throws, and changes nothing. -/
theorem new_nil (h : Keeps pool l []) :
    pool.new = (.error (.underflow_error "No available buffers"), pool) := by
  have hsegment := h.segment
  rw [h.eq_nil] at hsegment
  unfold new
  rw [if_pos hsegment.1]

/-- What `New` returns is the first buffer, and the rest stays. -/
theorem new_cons (h : Keeps pool (n :: l) (b :: bs)) :
    ∃ pool', pool.new = (.ok (some b), pool') ∧ Keeps pool' l bs ∧
      pool'.buffer_store = pool.buffer_store ∧ pool'.use_count = pool.use_count := by
  obtain ⟨⟨hnext, -⟩, -⟩ := h.segment
  have hnodup := h.nodup
  obtain ⟨hhead, htail⟩ := List.nodup_cons.mp hnodup
  obtain ⟨hn, hrest⟩ := List.nodup_cons.mp htail
  obtain ⟨hbuffer, hbuffers⟩ := List.cons.inj h.buffers
  have hne : n ≠ pool.available_buffer_tail := fun e => hn (by simp [e])
  have hnhead : n ≠ pool.available_buffer_head := fun e => hhead (by simp [e])
  unfold new
  dsimp only
  rw [hnext, if_neg hne, hbuffer, Links.setNext_next_of_ne _ _ hnhead]
  refine ⟨_, rfl, ⟨h.segment.unlink hnodup, ?_, ?_, ?_, ?_⟩, rfl, rfl⟩
  · exact hnodup.sublist (((List.sublist_cons_self n _)).cons_cons _)
  · intro m hm
    refine h.made m ?_
    rcases List.mem_cons.mp hm with rfl | hm
    · exact List.mem_cons_self
    · exact List.mem_cons_of_mem _ (List.mem_cons_of_mem n hm)
  · rw [← hbuffers]
    refine List.map_congr_left fun m hm => Function.update_of_ne ?_ _ _
    rintro rfl
    exact hn (List.mem_append_left _ hm)
  · show pool.available_buffers - 1 = l.length
    rw [h.available_buffers]
    rfl

/-- A buffer that is appended is the last one. -/
theorem append (h : Keeps pool l bs) (b : BufferPtr) :
    Keeps (pool.append (some b)) (l ++ [pool.next_node]) (bs ++ [b]) := by
  have hnew : pool.next_node ∉
      pool.available_buffer_head :: (l ++ [pool.available_buffer_tail]) :=
    fun hmem => Nat.lt_irrefl _ (h.made _ hmem)
  have htail : pool.available_buffer_tail ≠ pool.next_node := fun e => hnew (by simp [e])
  refine ⟨?_, ?_, ?_, ?_, ?_⟩
  · have hlink := h.segment.link h.nodup hnew
    unfold BufferPool.append
    dsimp only
    rwa [Links.setPrevious_previous_of_ne _ _ htail]
  · have hperm : (pool.available_buffer_head ::
        (l ++ [pool.next_node] ++ [pool.available_buffer_tail])).Perm
        (pool.next_node :: pool.available_buffer_head :: (l ++ [pool.available_buffer_tail])) := by
      rw [List.append_assoc]
      exact (List.perm_middle.cons _).trans (List.Perm.swap _ _ _)
    exact hperm.nodup_iff.mpr (List.nodup_cons.mpr ⟨hnew, h.nodup⟩)
  · intro m hm
    show m < pool.next_node + 1
    rcases List.mem_cons.mp hm with rfl | hm
    · exact Nat.lt_succ_of_lt (h.made _ List.mem_cons_self)
    rcases List.mem_append.mp hm with hm | hm
    · rcases List.mem_append.mp hm with hm | hm
      · exact Nat.lt_succ_of_lt
          (h.made m (List.mem_cons_of_mem _ (List.mem_append_left _ hm)))
      · exact List.mem_singleton.mp hm ▸ Nat.lt_succ_self _
    · exact Nat.lt_succ_of_lt (h.made m (List.mem_cons_of_mem _ (List.mem_append_right _ hm)))
  · rw [List.map_append, List.map_append, ← h.buffers]
    congr 1
    · refine List.map_congr_left fun m hm => Function.update_of_ne ?_ _ _
      rintro rfl
      exact hnew (List.mem_cons_of_mem _ (List.mem_append_left _ hm))
    · simp [BufferPool.append]
  · show pool.available_buffers + 1 = (l ++ [pool.next_node]).length
    rw [h.available_buffers, List.length_append, List.length_singleton]

end Keeps

/-! ## What the constructor makes -/

/-- From `node` on, `attach` has made one node for each buffer, with the next numbers. -/
structure Attached (pool : BufferPool) (node : NodePtr) (bs : List BufferPtr)
    (pool' : BufferPool) : Prop where
  segment : pool'.links.Segment node (List.range' pool.next_node bs.length)
    pool.available_buffer_tail
  buffers : (List.range' pool.next_node bs.length).map pool'.buffer = bs.map some
  next_node : pool'.next_node = pool.next_node + bs.length
  use_count : ∀ b, pool'.use_count b = pool.use_count b + bs.count b
  /-- What was there before has changed at `node` and at the tail only. -/
  next : ∀ m < pool.next_node, m ≠ node → pool'.links.next m = pool.links.next m
  previous : ∀ m < pool.next_node, m ≠ pool.available_buffer_tail →
    pool'.links.previous m = pool.links.previous m
  buffer : ∀ m < pool.next_node, pool'.buffer m = pool.buffer m
  head : pool'.available_buffer_head = pool.available_buffer_head
  tail : pool'.available_buffer_tail = pool.available_buffer_tail
  buffer_store : pool'.buffer_store = pool.buffer_store
  available_buffers : pool'.available_buffers = pool.available_buffers

theorem attached_attach (bs : List BufferPtr) : ∀ {pool : BufferPool} {node : NodePtr},
    node < pool.next_node → pool.available_buffer_tail < pool.next_node →
    Attached pool node bs (pool.attach node bs) := by
  induction bs with
  | nil =>
    intro pool node _ _
    refine ⟨⟨by simp [attach], by simp [attach]⟩, rfl, rfl, fun _ => rfl, fun m _ hm => ?_,
      fun m _ hm => ?_, fun _ _ => rfl, rfl, rfl, rfl, rfl⟩
    · exact Links.setNext_next_of_ne pool.links _ hm
    · exact Links.setPrevious_previous_of_ne _ _ hm
  | cons b bs ih =>
    intro pool node hnode htail
    -- The pool after one turn of the loop.
    let pool₁ : BufferPool := { pool.retain b with
      links := (pool.links.setNext node pool.next_node).setPrevious pool.next_node node
      buffer := Function.update pool.buffer pool.next_node (some b)
      next_node := pool.next_node + 1 }
    have h : Attached pool₁ pool.next_node bs (pool.attach node (b :: bs)) :=
      ih (Nat.lt_succ_self _) (Nat.lt_succ_of_lt htail)
    have hrange : List.range' pool.next_node (b :: bs).length =
        pool.next_node :: List.range' pool₁.next_node bs.length := rfl
    have hnext : pool₁.links.next node = pool.next_node := Links.setNext_next_self pool.links _ _
    have hprevious : pool₁.links.previous pool.next_node = node :=
      Links.setPrevious_previous_self _ _ _
    have hbuffer : pool₁.buffer pool.next_node = some b := Function.update_self _ _ _
    refine ⟨?_, ?_, ?_, fun c => ?_, fun m hm hne => ?_, fun m hm hne => ?_, fun m hm => ?_,
      h.head, h.tail, h.buffer_store, h.available_buffers⟩
    · rw [hrange]
      refine ⟨⟨?_, ?_⟩, h.segment⟩
      · rw [h.next node (Nat.lt_succ_of_lt hnode) (Nat.ne_of_lt hnode), hnext]
      · rw [h.previous _ (Nat.lt_succ_self _) (Nat.ne_of_gt htail), hprevious]
    · rw [hrange, List.map_cons, List.map_cons, h.buffer _ (Nat.lt_succ_self _), hbuffer,
        h.buffers]
    · rw [h.next_node, List.length_cons]
      show pool.next_node + 1 + bs.length = _
      omega
    · rw [h.use_count, List.count_cons]
      show (pool.retain b).use_count c + _ = _
      unfold retain
      by_cases hcb : c = b
      · subst hcb
        simp
        omega
      · simp [hcb, Ne.symm hcb]
    · rw [h.next m (Nat.lt_succ_of_lt hm) (Nat.ne_of_lt hm)]
      exact Links.setNext_next_of_ne pool.links _ hne
    · rw [h.previous m (Nat.lt_succ_of_lt hm) hne]
      exact Links.setPrevious_previous_of_ne _ _ (Nat.ne_of_lt hm)
    · rw [h.buffer m (Nat.lt_succ_of_lt hm)]
      exact Function.update_of_ne (Nat.ne_of_lt hm) _ _

theorem attached_initial (buffer_count : ℕ) :
    Attached (unattached buffer_count) 1 (List.range buffer_count) (initial buffer_count) :=
  attached_attach _ (show 1 < 3 by decide) (show 2 < 3 by decide)

/-- The constructor makes every buffer available, in the order of the store. -/
theorem keeps_initial (buffer_count : ℕ) :
    Keeps (initial buffer_count) (List.range' 3 buffer_count) (List.range buffer_count) := by
  have h := attached_initial buffer_count
  have hlength : (List.range buffer_count).length = buffer_count := List.length_range
  have hsegment := h.segment
  have hbuffers := h.buffers
  have hnext := h.next_node
  rw [hlength] at hsegment hbuffers hnext
  refine ⟨?_, ?_, ?_, hbuffers, ?_⟩
  · rw [h.head, h.tail]
    exact hsegment
  · rw [h.head, h.tail]
    show (1 :: (List.range' 3 buffer_count ++ [2])).Nodup
    have htail : (List.range' 3 buffer_count ++ [2]).Nodup := by
      refine List.Nodup.append List.nodup_range' (List.nodup_singleton 2) fun n hn h2 => ?_
      obtain rfl := List.mem_singleton.mp h2
      exact absurd (List.mem_range'_1.mp hn).1 (by decide)
    refine List.nodup_cons.mpr ⟨fun h1 => ?_, htail⟩
    rcases List.mem_append.mp h1 with h1 | h1
    · exact absurd (List.mem_range'_1.mp h1).1 (by decide)
    · exact absurd (List.mem_singleton.mp h1) (by decide)
  · rw [h.head, h.tail, hnext]
    show ∀ n ∈ 1 :: (List.range' 3 buffer_count ++ [2]), n < 3 + buffer_count
    intro n hn
    simp only [List.mem_cons, List.mem_append, List.mem_range'_1, List.not_mem_nil, or_false] at hn
    omega
  · rw [h.available_buffers, List.length_range']
    rfl

end BufferPool

end AugmentedNormalcy.Prototype
