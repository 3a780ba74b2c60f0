import Mathlib.Data.List.Nodup
import Mathlib.Data.List.Perm.Basic
import Mathlib.Logic.Function.Basic
import AugmentedNormalcy.Foundation.Pool

/-!
# Shared pointers into a pool

A shared pointer is a reference to a control block, which holds the pointer, the number of
references, and a deleter. Here the deleter gives the pointer back to the queue of a pool, and the
only way to a new block is to take the front of that queue. A reference is the number of its block.

`Owned all h holders` is the ownership invariant: the count of a block is the number of its
references among the `holders`, and the pool's elements are free or in one live block each. `take`,
`retain` and `release` keep it, and it says what a holder may rely on: what it points at is not free
and is in no other block.
-/

namespace SharedPtr

variable {α : Type*}

/-- The queue of the pool and the control blocks. -/
structure Heap (α : Type*) where
  free : List α
  ptr : ℕ → α
  use_count : ℕ → ℕ
  /-- The number of the next block. -/
  next : ℕ

namespace Heap

/-- Everything is free. -/
def initial [Inhabited α] (all : List α) : Heap α := ⟨all, fun _ => default, fun _ => 0, 0⟩

/-- A new block for `a`, with one reference. -/
def wrap (h : Heap α) (a : α) (free : List α) : Heap α where
  free := free
  ptr := Function.update h.ptr h.next a
  use_count := Function.update h.use_count h.next 1
  next := h.next + 1

/-- A new block for the front of the queue. -/
def take (h : Heap α) : Option (Heap α × ℕ) :=
  match h.free with
  | [] => none
  | a :: free => some (h.wrap a free, h.next)

/-- The reference is copied. -/
def retain (h : Heap α) (b : ℕ) : Heap α :=
  { h with use_count := Function.update h.use_count b (h.use_count b + 1) }

/-- A reference is dropped; the last one calls the deleter. -/
def release (h : Heap α) (b : ℕ) : Heap α :=
  { h with
    use_count := Function.update h.use_count b (h.use_count b - 1)
    free := if h.use_count b - 1 = 0 then h.free ++ [h.ptr b] else h.free }

/-- The blocks that somebody refers to. -/
def live (h : Heap α) : List ℕ := (List.range h.next).filter fun b => 0 < h.use_count b

/-- What the live blocks point at. -/
def out (h : Heap α) : List α := h.live.map h.ptr

theorem live_nodup (h : Heap α) : h.live.Nodup := List.nodup_range.filter _

end Heap

/-- The counts are those of the references held, and nothing of the pool is lost or in two
places. -/
structure Owned (all : List α) (h : Heap α) (holders : List ℕ) : Prop where
  whole : Pool.Whole all h.free h.out
  fresh : ∀ b, h.next ≤ b → h.use_count b = 0
  counts : ∀ b, h.use_count b = holders.count b

namespace Owned

variable {all : List α} {h h' : Heap α} {holders holders' : List ℕ} {a : α} {b b' : ℕ}

theorem initial [Inhabited α] (all : List α) : Owned all (Heap.initial all) [] :=
  ⟨Pool.Whole.initial all, fun _ _ => rfl, fun _ => rfl⟩

/-- In which order the references are listed does not matter. -/
theorem perm (ho : Owned all h holders) (hp : holders.Perm holders') : Owned all h holders' :=
  ⟨ho.whole, ho.fresh, fun b => (ho.counts b).trans (hp.count_eq b)⟩

theorem pos_iff (ho : Owned all h holders) : 0 < h.use_count b ↔ b ∈ holders := by
  rw [ho.counts, List.count_pos_iff]

theorem mem_live (ho : Owned all h holders) : b ∈ h.live ↔ b ∈ holders := by
  rw [Heap.live, List.mem_filter, List.mem_range, decide_eq_true_eq, ho.pos_iff]
  refine ⟨And.right, fun hb => ⟨?_, hb⟩⟩
  by_contra hge
  have hzero := ho.fresh b (by omega)
  have hpos := ho.pos_iff.mpr hb
  omega

theorem lt_next (ho : Owned all h holders) (hb : b ∈ holders) : b < h.next :=
  List.mem_range.mp (List.mem_filter.mp (ho.mem_live.mpr hb)).1

/-! ## The operations -/

theorem next_not_mem (ho : Owned all h holders) : h.next ∉ holders :=
  fun hmem => Nat.lt_irrefl _ (ho.lt_next hmem)

/-- The blocks from before point where they pointed. -/
theorem ptr_wrap (ho : Owned all h holders) (hb : b ∈ holders) (free : List α) :
    (h.wrap a free).ptr b = h.ptr b :=
  Function.update_of_ne (ne_of_mem_of_not_mem hb ho.next_not_mem) _ _

/-- The live blocks are those from before and the new one. -/
theorem out_wrap (ho : Owned all h holders) (free : List α) :
    (a :: h.out).Perm (h.wrap a free).out := by
  -- The new block is live, and the last one.
  have hlive : (h.wrap a free).live = h.live ++ [h.next] := by
    have hrange : List.range (h.wrap a free).next = List.range h.next ++ [h.next] :=
      List.range_succ
    rw [Heap.live, hrange, List.filter_append]
    congr 1
    · refine List.filter_congr fun x hx => ?_
      have hne : x ≠ h.next := Nat.ne_of_lt (List.mem_range.mp hx)
      simp [Heap.wrap, Function.update_of_ne hne]
    · simp [Heap.wrap]
  -- The blocks from before point where they pointed.
  have hold : h.live.map (h.wrap a free).ptr = h.out :=
    List.map_congr_left fun b' hb' => ho.ptr_wrap (ho.mem_live.mp hb') free
  have hnew : (h.wrap a free).ptr h.next = a := Function.update_self _ _ _
  have hout : (h.wrap a free).out = h.out ++ [a] :=
    calc (h.wrap a free).live.map (h.wrap a free).ptr
        = h.live.map (h.wrap a free).ptr ++ [(h.wrap a free).ptr h.next] := by
          rw [hlive, List.map_append, List.map_singleton]
      _ = h.out ++ [a] := by rw [hold, hnew]
  rw [hout]
  exact (List.perm_append_singleton a _).symm

/-- A new block has one holder. -/
theorem wrap (ho : Owned all h holders) {free : List α} (hfree : h.free = a :: free) :
    Owned all (h.wrap a free) (h.next :: holders) := by
  refine ⟨?_, ?_, ?_⟩
  · have hwhole := ho.whole
    rw [hfree] at hwhole
    exact hwhole.take.perm_out (ho.out_wrap free)
  · intro b' hb'
    have hlt : h.next + 1 ≤ b' := hb'
    exact (Function.update_of_ne (by omega) _ _).trans (ho.fresh b' (by omega))
  · intro b'
    by_cases hb' : b' = h.next
    · subst hb'
      simp [Heap.wrap, List.count_eq_zero.mpr ho.next_not_mem]
    · simp [Heap.wrap, Function.update_of_ne hb', ho.counts b',
        List.count_cons_of_ne (Ne.symm hb')]

theorem take (ho : Owned all h holders) (ht : h.take = some (h', b)) :
    Owned all h' (b :: holders) ∧ b ∉ holders ∧ ∀ b' ∈ holders, h'.ptr b' = h.ptr b' := by
  unfold Heap.take at ht
  split at ht
  · cases ht
  · rename_i a free hfree
    cases ht
    exact ⟨ho.wrap hfree, ho.next_not_mem, fun b' hb' => ho.ptr_wrap hb' free⟩

/-- A copy of a reference that somebody holds. -/
theorem retain (ho : Owned all h holders) (hb : b ∈ holders) :
    Owned all (h.retain b) (b :: holders) := by
  have hlt := ho.lt_next hb
  have hpos := ho.pos_iff.mpr hb
  refine ⟨?_, ?_, ?_⟩
  -- The same blocks are live: one of them is counted once more.
  · have hlive : (h.retain b).live = h.live := by
      refine List.filter_congr fun x _ => ?_
      by_cases hx : x = b
      · subst hx
        simp [Heap.retain, hpos]
      · simp [Heap.retain, Function.update_of_ne hx]
    have hout : (h.retain b).out = h.out := by
      rw [Heap.out, hlive]
      rfl
    rw [hout]
    exact ho.whole
  · intro b' hb'
    have hne : b' ≠ b := by
      have : h.next ≤ b' := hb'
      omega
    exact (Function.update_of_ne hne _ _).trans (ho.fresh b' hb')
  · intro b'
    by_cases hb' : b' = b
    · subst hb'
      simp [Heap.retain, ho.counts b']
    · simp [Heap.retain, Function.update_of_ne hb', ho.counts b',
      List.count_cons_of_ne (Ne.symm hb')]

/-- A reference that somebody holds is dropped. -/
theorem release (ho : Owned all h (b :: holders)) : Owned all (h.release b) holders := by
  have hlt := ho.lt_next List.mem_cons_self
  have hcount : h.use_count b = holders.count b + 1 := by rw [ho.counts, List.count_cons_self]
  -- What is counted after the drop, and which blocks are live.
  have hcounts : ∀ b', (h.release b).use_count b' = holders.count b' := by
    intro b'
    by_cases hb' : b' = b
    · subst hb'
      simp [Heap.release, hcount]
    · simp [Heap.release, Function.update_of_ne hb', ho.counts b',
        List.count_cons_of_ne (Ne.symm hb')]
  have hfresh : ∀ b', (h.release b).next ≤ b' → (h.release b).use_count b' = 0 := by
    intro b' hb'
    have hne : b' ≠ b := by
      have : h.next ≤ b' := hb'
      omega
    exact (Function.update_of_ne hne _ _).trans (ho.fresh b' hb')
  have hmem : ∀ b', b' ∈ (h.release b).live ↔ b' ∈ holders := by
    intro b'
    rw [Heap.live, List.mem_filter, List.mem_range, decide_eq_true_eq, hcounts, List.count_pos_iff]
    exact ⟨And.right, fun hb' => ⟨ho.lt_next (List.mem_cons_of_mem _ hb'), hb'⟩⟩
  refine ⟨?_, hfresh, hcounts⟩
  by_cases hlast : b ∈ holders
  · -- Somebody else refers to the block.
    have hfree : (h.release b).free = h.free :=
      if_neg (by have := List.count_pos_iff.mpr hlast; omega)
    have hout : h.out.Perm (h.release b).out := by
      refine List.Perm.map _ ((List.perm_ext_iff_of_nodup h.live_nodup
        (h.release b).live_nodup).mpr fun b' => ?_)
      rw [ho.mem_live, hmem, List.mem_cons]
      exact ⟨fun hb' => hb'.elim (fun heq => heq ▸ hlast) id, .inr⟩
    rw [hfree]
    exact ho.whole.perm_out hout
  · -- The last reference: the deleter runs.
    have hfree : (h.release b).free = h.free ++ [h.ptr b] :=
      if_pos (by have := List.count_eq_zero.mpr hlast; omega)
    have hlive : h.live.Perm (b :: (h.release b).live) := by
      refine (List.perm_ext_iff_of_nodup h.live_nodup ?_).mpr fun b' => ?_
      · exact List.nodup_cons.mpr ⟨fun hb' => hlast ((hmem b).mp hb'), (h.release b).live_nodup⟩
      · rw [ho.mem_live, List.mem_cons, List.mem_cons, hmem]
    rw [hfree]
    exact ho.whole.give (hlive.map h.ptr)

/-! ## What a holder may rely on -/

theorem ptr_mem_out (ho : Owned all h holders) (hb : b ∈ holders) : h.ptr b ∈ h.out :=
  List.mem_map_of_mem (ho.mem_live.mpr hb)

/-- What a reference points at belongs to the pool. -/
theorem ptr_mem (ho : Owned all h holders) (hb : b ∈ holders) : h.ptr b ∈ all :=
  ho.whole.mem_iff.mpr (.inr (ho.ptr_mem_out hb))

theorem free_nodup (ho : Owned all h holders) (hall : all.Nodup) : h.free.Nodup :=
  (List.nodup_append.mp (ho.whole.nodup hall)).1

/-- What a reference points at is not free. -/
theorem ptr_not_mem_free (ho : Owned all h holders) (hall : all.Nodup) (hb : b ∈ holders) :
    h.ptr b ∉ h.free :=
  fun hfree => (List.nodup_append.mp (ho.whole.nodup hall)).2.2 _ hfree _ (ho.ptr_mem_out hb) rfl

/-- Different blocks point at different things. -/
theorem ptr_injective (ho : Owned all h holders) (hall : all.Nodup) (hb : b ∈ holders)
    (hb' : b' ∈ holders) (heq : h.ptr b = h.ptr b') : b = b' :=
  List.inj_on_of_nodup_map (List.nodup_append.mp (ho.whole.nodup hall)).2.1 (ho.mem_live.mpr hb)
    (ho.mem_live.mpr hb') heq

end Owned

end SharedPtr
