import Mathlib.Data.List.Basic

/-!
# Queues with one worker

Elements are put into a queue at its end, and a worker takes them out at the front, one at a time.
`InOrder put out current waiting` says that nothing is lost, doubled, or overtaken: what was put in
is what is out again, then what the worker has, then what waits. -/

namespace Fifo

variable {α : Type*} {put out waiting : List α} {current : Option α} {a : α}

/-- What was put in, in this order: what is out, what the worker has, and what waits. -/
def InOrder (put out : List α) (current : Option α) (waiting : List α) : Prop :=
  put = out ++ (current.toList ++ waiting)

theorem InOrder.initial : InOrder (α := α) [] [] none [] := rfl

theorem InOrder.push (h : InOrder put out current waiting) (a : α) :
    InOrder (put ++ [a]) out current (waiting ++ [a]) := by
  unfold InOrder at h ⊢
  rw [h, List.append_assoc, List.append_assoc]

/-- The worker takes the front of the queue. -/
theorem InOrder.take (h : InOrder put out none (a :: waiting)) :
    InOrder put out (some a) waiting := h

/-- The worker lets go of what it has, if it has anything. -/
theorem InOrder.release (h : InOrder put out current waiting) :
    InOrder put (out ++ current.toList) none waiting := by
  unfold InOrder at h ⊢
  rw [h, List.append_assoc]
  rfl

/-- The worker is done with what it has. -/
theorem InOrder.finish (h : InOrder put out (some a) waiting) :
    InOrder put (out ++ [a]) none waiting :=
  h.release

/-- A first part of the queue is thrown away. -/
theorem InOrder.skip {l : List α} (h : InOrder put out none (l ++ waiting)) :
    InOrder put (out ++ l) none waiting := by
  unfold InOrder at h ⊢
  rw [h, List.append_assoc]
  rfl

/-- The front of the queue is thrown away. -/
theorem InOrder.drop (h : InOrder put out none (a :: waiting)) :
    InOrder put (out ++ [a]) none waiting :=
  h.take.finish

/-- The whole queue is thrown away. -/
theorem InOrder.clear (h : InOrder put out none waiting) :
    InOrder put (out ++ waiting) none [] := by
  unfold InOrder at h ⊢
  rw [h, Option.toList_none, List.nil_append, List.append_nil, List.append_nil]

/-- With nothing in the queue and no work, everything is out. -/
theorem InOrder.out_eq (h : InOrder put out none []) : out = put := by
  unfold InOrder at h
  rw [h, Option.toList_none, List.append_nil, List.append_nil]

end Fifo
