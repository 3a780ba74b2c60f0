import AugmentedNormalcy.Foundation.Fifo
import AugmentedNormalcy.Foundation.Run

/-!
# The worker thread of the prototype

`WorkerThread` of `src/prototype/internal/utility/worker_thread.hpp`: a thread that calls a callback
for everything that is posted. `Start` and `Stop` are called by one thread, the owner; `PostWork` by
any. `wait` tests its predicate with the lock and blocks later, in a step of its own, and
`request_stop` sets the flag and calls `notify_all` without the lock. So the notification may come
when the predicate has been tested and the thread does not wait yet. Nobody will wake it then, and
`Stop` joins it for ever (`stop_returns_iff`).
-/

namespace AugmentedNormalcy.Prototype.WorkerThread

open StepSystem

variable {DataType : Type*}

/-! ## The steps -/

/-- Where `Run` is. -/
inductive Thread (DataType : Type*) where
  /-- There is no `_thread`. -/
  | absent
  /-- `Run` has not registered its stop callback. -/
  | starting
  /-- `_startup` is called. -/
  | startup
  /-- It is before the lock. -/
  | unlocked
  /-- `wait` has found that there is nothing to do, and does not wait yet. It has the lock. -/
  | blocking
  | waiting
  /-- `wait` has returned. It has the lock. -/
  | passed
  | calling (msg : DataType)
  /-- It has left the loop, and destroys the stop callback. -/
  | leaving
  | returned
deriving DecidableEq

/-- It has `_mutex`. -/
def Thread.locks : Thread DataType → Bool
  | .blocking | .passed => true
  | _ => false

/-- `request_stop` finds the callback. -/
def Thread.registered : Thread DataType → Bool
  | .absent | .starting | .returned => false
  | _ => true

/-- A notification of `_cv`. -/
def Thread.notified : Thread DataType → Thread DataType
  | .waiting => .unlocked
  | thread => thread

/-- What the callback is called with. -/
def Thread.msg? : Thread DataType → Option DataType
  | .calling msg => some msg
  | _ => none

/-- A wake-up leaves the thread with the item that it holds. -/
theorem msg?_notified (thread : Thread DataType) : thread.notified.msg? = thread.msg? := by
  cases thread <;> rfl

/-- What the owner is doing. -/
inductive Owner where
  | idle
  /-- `Start` has emptied the queue. -/
  | creating
  /-- `request_stop` has set the flag, and calls the callback. -/
  | notifying
  | joining
  /-- `Stop` is about to empty the queue. -/
  | clearing
deriving DecidableEq

structure State (DataType : Type*) where
  queue : List DataType
  thread : Thread DataType
  stop_requested : Bool
  owner : Owner
  posted : List DataType
  /-- What is out of the queue again. -/
  out : List DataType
  /-- What the callback has been called with. -/
  called : List DataType
deriving DecidableEq

inductive Event (DataType : Type*) where
  /-- `Start` empties the queue. -/
  | start
  /-- `Start` makes a thread, if there is none. -/
  | create
  | postWork (msg : DataType)
  /-- `Stop` looks at `_thread`, and sets the flag. -/
  | stop
  /-- The stop callback, called by the owner. -/
  | notify
  | join
  /-- `Stop` empties the queue. -/
  | clear
  /-- `Run` registers its stop callback. -/
  | register
  /-- `_startup` returns. -/
  | startup
  /-- `wait` locks, and tests its predicate. -/
  | test
  /-- `wait` unlocks and waits. -/
  | block
  /-- A spurious wake-up. -/
  | wake
  /-- What comes after `wait`, with the lock. -/
  | take
  /-- `_callback` returns. -/
  | callback
  /-- `Run` returns. -/
  | ret
deriving DecidableEq

/-- The worker thread as it is created. -/
def initial : State DataType where
  queue := []
  thread := .absent
  stop_requested := false
  owner := .idle
  posted := []
  out := []
  called := []

/-- `_queue = {}`. -/
def State.wipe (s : State DataType) : State DataType :=
  { s with queue := [], out := s.out ++ s.queue }

def step (s : State DataType) : Event DataType → Option (State DataType)
  | .start =>
    if s.owner = .idle ∧ s.thread.locks = false then some { s.wipe with owner := .creating }
    else none
  | .create =>
    if s.owner = .creating then
      match s.thread with
      | .absent => some { s with thread := .starting, stop_requested := false, owner := .idle }
      | _ => some { s with owner := .idle }
    else none
  | .postWork msg =>
    if s.thread.locks = false then
      some { s with
        queue := s.queue ++ [msg]
        thread := s.thread.notified
        posted := s.posted ++ [msg] }
    else none
  | .stop =>
    if s.owner = .idle then
      match s.thread with
      | .absent => some { s with owner := .clearing }
      | thread =>
        some { s with
          stop_requested := true
          -- A callback that is not registered yet will be called by `Run` itself.
          owner := if thread.registered then .notifying else .joining }
    else none
  | .notify =>
    if s.owner = .notifying then some { s with thread := s.thread.notified, owner := .joining }
    else none
  | .join =>
    match s.owner, s.thread with
    | .joining, .returned => some { s with thread := .absent, owner := .clearing }
    | _, _ => none
  | .clear =>
    if s.owner = .clearing ∧ s.thread.locks = false then some { s.wipe with owner := .idle }
    else none
  | .register =>
    match s.thread with
    | .starting => some { s with thread := .startup }
    | _ => none
  | .startup =>
    match s.thread with
    | .startup => some { s with thread := .unlocked }
    | _ => none
  | .test =>
    match s.thread with
    | .unlocked =>
      some { s with thread := if s.stop_requested ∨ s.queue ≠ [] then .passed else .blocking }
    | _ => none
  | .block =>
    match s.thread with
    | .blocking => some { s with thread := .waiting }
    | _ => none
  | .wake =>
    match s.thread with
    | .waiting => some { s with thread := .unlocked }
    | _ => none
  | .take =>
    match s.thread with
    | .passed =>
      if s.stop_requested then some { s with thread := .leaving }
      else
        match s.queue with
        | [] => some { s with thread := .unlocked }
        | msg :: queue =>
          some { s with
            queue
            thread := .calling msg
            out := s.out ++ [msg]
            called := s.called ++ [msg] }
    | _ => none
  | .callback =>
    match s.thread with
    | .calling _ => some { s with thread := .unlocked }
    | _ => none
  | .ret =>
    match s.thread with
    -- The destructor of the callback waits until the owner has called it.
    | .leaving => if s.owner = .notifying then none else some { s with thread := .returned }
    | _ => none

/-- What each step finds, and what it leaves. -/
inductive Step (s : State DataType) : Event DataType → State DataType → Prop
  | start (howner : s.owner = .idle) (hfree : s.thread.locks = false) :
    Step s .start { s.wipe with owner := .creating }
  | created (howner : s.owner = .creating) (hthread : s.thread = .absent) :
    Step s .create { s with thread := .starting, stop_requested := false, owner := .idle }
  | kept (howner : s.owner = .creating) (hthread : s.thread ≠ .absent) :
    Step s .create { s with owner := .idle }
  | postWork (msg : DataType) (hfree : s.thread.locks = false) :
    Step s (.postWork msg)
      { s with
        queue := s.queue ++ [msg]
        thread := s.thread.notified
        posted := s.posted ++ [msg] }
  | stopAbsent (howner : s.owner = .idle) (hthread : s.thread = .absent) :
    Step s .stop { s with owner := .clearing }
  | stopRegistered (howner : s.owner = .idle) (hthread : s.thread.registered = true) :
    Step s .stop { s with stop_requested := true, owner := .notifying }
  | stopUnregistered (howner : s.owner = .idle) (hthread : s.thread ≠ .absent)
      (hregistered : s.thread.registered = false) :
    Step s .stop { s with stop_requested := true, owner := .joining }
  | notify (howner : s.owner = .notifying) :
    Step s .notify { s with thread := s.thread.notified, owner := .joining }
  | join (howner : s.owner = .joining) (hthread : s.thread = .returned) :
    Step s .join { s with thread := .absent, owner := .clearing }
  | clear (howner : s.owner = .clearing) (hfree : s.thread.locks = false) :
    Step s .clear { s.wipe with owner := .idle }
  | register (hthread : s.thread = .starting) : Step s .register { s with thread := .startup }
  | startup (hthread : s.thread = .startup) : Step s .startup { s with thread := .unlocked }
  | passes (hthread : s.thread = .unlocked) (hpred : s.stop_requested = true ∨ s.queue ≠ []) :
    Step s .test { s with thread := .passed }
  | blocks (hthread : s.thread = .unlocked) (hstop : s.stop_requested = false)
      (hqueue : s.queue = []) :
    Step s .test { s with thread := .blocking }
  | block (hthread : s.thread = .blocking) : Step s .block { s with thread := .waiting }
  | wake (hthread : s.thread = .waiting) : Step s .wake { s with thread := .unlocked }
  | leave (hthread : s.thread = .passed) (hstop : s.stop_requested = true) :
    Step s .take { s with thread := .leaving }
  | again (hthread : s.thread = .passed) (hstop : s.stop_requested = false)
      (hqueue : s.queue = []) :
    Step s .take { s with thread := .unlocked }
  | take {msg : DataType} {queue : List DataType} (hthread : s.thread = .passed)
      (hstop : s.stop_requested = false) (hqueue : s.queue = msg :: queue) :
    Step s .take
      { s with
        queue
        thread := .calling msg
        out := s.out ++ [msg]
        called := s.called ++ [msg] }
  | callback {msg : DataType} (hthread : s.thread = .calling msg) :
    Step s .callback { s with thread := .unlocked }
  | ret (hthread : s.thread = .leaving) (howner : s.owner ≠ .notifying) :
    Step s .ret { s with thread := .returned }

theorem Step.of_step {s s' : State DataType} {ev : Event DataType} (hs : step s ev = some s') :
    Step s ev s' := by
  unfold step at hs
  cases ev with
  | start =>
    obtain ⟨⟨howner, hfree⟩, ⟨⟩⟩ := Option.ite_none_right_eq_some.mp hs
    exact .start howner hfree
  | create =>
    obtain ⟨howner, hs⟩ := Option.ite_none_right_eq_some.mp hs
    split at hs
    · rename_i hthread
      cases hs
      exact .created howner hthread
    · rename_i hthread
      cases hs
      exact .kept howner hthread
  | postWork msg =>
    obtain ⟨hfree, ⟨⟩⟩ := Option.ite_none_right_eq_some.mp hs
    exact .postWork msg hfree
  | stop =>
    obtain ⟨howner, hs⟩ := Option.ite_none_right_eq_some.mp hs
    split at hs
    · rename_i hthread
      cases hs
      exact .stopAbsent howner hthread
    · rename_i hthread
      cases hs
      split_ifs with hregistered
      · exact .stopRegistered howner hregistered
      · exact .stopUnregistered howner hthread (Bool.eq_false_iff.mpr hregistered)
  | notify =>
    obtain ⟨howner, ⟨⟩⟩ := Option.ite_none_right_eq_some.mp hs
    exact .notify howner
  | join =>
    dsimp only at hs
    split at hs
    · rename_i howner hthread
      cases hs
      exact .join howner hthread
    · cases hs
  | clear =>
    obtain ⟨⟨howner, hfree⟩, ⟨⟩⟩ := Option.ite_none_right_eq_some.mp hs
    exact .clear howner hfree
  | register =>
    dsimp only at hs
    split at hs <;> cases hs
    exact .register ‹_›
  | startup =>
    dsimp only at hs
    split at hs <;> cases hs
    exact .startup ‹_›
  | test =>
    dsimp only at hs
    split at hs <;> cases hs
    rename_i hthread
    split_ifs with hpred
    · exact .passes hthread hpred
    · rw [not_or, Bool.not_eq_true, not_not] at hpred
      exact .blocks hthread hpred.1 hpred.2
  | block =>
    dsimp only at hs
    split at hs <;> cases hs
    exact .block ‹_›
  | wake =>
    dsimp only at hs
    split at hs <;> cases hs
    exact .wake ‹_›
  | take =>
    dsimp only at hs
    split at hs
    · rename_i hthread
      split_ifs at hs with hstop
      · cases hs
        exact .leave hthread hstop
      · split at hs
        · rename_i hqueue
          cases hs
          exact .again hthread (Bool.eq_false_iff.mpr hstop) hqueue
        · rename_i hqueue
          cases hs
          exact .take hthread (Bool.eq_false_iff.mpr hstop) hqueue
    · cases hs
  | callback =>
    dsimp only at hs
    split at hs <;> cases hs
    exact .callback ‹_›
  | ret =>
    dsimp only at hs
    split at hs
    · rename_i hthread
      split_ifs at hs with howner
      cases hs
      exact .ret hthread howner
    · cases hs

/-! ## The work -/

variable {s s' : State DataType} {ev : Event DataType}

/-- What was posted is out again, or in the queue, in this order, and what the callback was called
with is some of it, in this order. -/
structure Worked (s : State DataType) : Prop where
  order : Fifo.InOrder s.posted s.out none s.queue
  called : s.called.Sublist s.out

/-- At first nothing was posted. -/
theorem Worked.initial : Worked (initial : State DataType) where
  order := Fifo.InOrder.initial
  called := List.Sublist.slnil

/-- Emptying the queue keeps it. -/
theorem Worked.wipe (h : Worked s) : Worked s.wipe where
  order := h.order.clear
  called := h.called.trans (List.sublist_append_left _ _)

/-- Every step keeps it. -/
theorem Worked.step (h : Worked s) (hs : step s ev = some s') : Worked s' := by
  cases Step.of_step hs with
  | start | clear => exact ⟨h.wipe.order, h.wipe.called⟩
  | postWork msg => exact ⟨h.order.push msg, h.called⟩
  | @take msg queue _ _ hqueue =>
    have horder := h.order
    rw [hqueue] at horder
    exact ⟨horder.drop, h.called.append_right [msg]⟩
  | _ => exact ⟨h.order, h.called⟩

/-- Whatever is posted, started and stopped: the callback is called with what was posted, in this
order, each once, and what it is not called with was in the queue when `Start` or `Stop` emptied
it. -/
theorem worked_in_order {es : List (Event DataType)}
    (hrun : run WorkerThread.step initial es = some s) :
    s.called.Sublist s.out ∧ s.posted = s.out ++ s.queue := by
  have h : Worked s := run_invariant Worked (fun _ _ _ h hs => h.step hs) hrun .initial
  exact ⟨h.called, h.order⟩

/-- The callback has been called with everything that was posted and is out of the queue, in this
order. -/
def AllCalled (s : State DataType) : Prop := Fifo.InOrder s.posted s.called none s.queue

/-- The event does not empty a queue that holds something. -/
def KeepsWork (s : State DataType) : Event DataType → Prop
  | .start | .clear => s.queue = []
  | _ => True

/-- A step that keeps the work leaves nothing uncalled. -/
theorem AllCalled.step (h : AllCalled s) (hkeeps : KeepsWork s ev) (hs : step s ev = some s') :
    AllCalled s' := by
  unfold AllCalled at h ⊢
  cases Step.of_step hs with
  | start | clear =>
    have hqueue : s.queue = [] := hkeeps
    rw [hqueue] at h
    exact h
  | postWork msg => exact h.push msg
  | take _ _ hqueue =>
    rw [hqueue] at h
    exact h.drop
  | _ => exact h

/-- A step that does not keep the work loses some of it. -/
theorem AllCalled.not_of_step (h : AllCalled s) (hkeeps : ¬ KeepsWork s ev)
    (hs : WorkerThread.step s ev = some s') : ¬ AllCalled s' := by
  unfold AllCalled at h ⊢
  cases Step.of_step hs with
  | start | clear =>
    -- With an empty queue, the callback would have been called with everything that was posted.
    intro h'
    have heq : s.called ++ s.queue = s.called := h.symm.trans h'.out_eq.symm
    exact hkeeps (List.append_right_eq_self.mp heq)
  | _ => exact absurd trivial hkeeps

/-- Nothing that is posted is lost, throughout a run, exactly when `Start` and `Stop` find the queue
empty whenever they empty it. -/
theorem throughout_allCalled_iff (es : List (Event DataType)) :
    Throughout WorkerThread.step AllCalled initial es ↔
      Along WorkerThread.step KeepsWork initial es :=
  throughout_iff_along AllCalled (fun _ h => h) (fun _ _ _ h => h.step)
    (fun _ _ _ h => h.not_of_step) rfl

/-! ## The notification -/

/-- The flag, the owner and the thread. -/
structure Managed (s : State DataType) : Prop where
  requested : s.owner = .notifying ∨ s.owner = .joining →
    s.stop_requested = true ∧ s.thread ≠ .absent
  stopping :
    s.stop_requested = true → s.owner = .notifying ∨ s.owner = .joining ∨ s.thread = .absent
  left : s.thread = .leaving ∨ s.thread = .returned → s.stop_requested = true
  clearing : s.owner = .clearing → s.thread = .absent

/-- Before the first start there is no thread to manage. -/
theorem Managed.initial : Managed (initial : State DataType) where
  requested h := by obtain h | h := h <;> cases h
  stopping h := by cases h
  left h := by obtain h | h := h <;> cases h
  clearing h := by cases h

/-- While there is a thread, only the owner's `Stop` has requested that it stops. -/
theorem Managed.owner_of_requested (h : Managed s) (hstop : s.stop_requested = true)
    (hpresent : s.thread ≠ .absent) : s.owner = .notifying ∨ s.owner = .joining := by
  obtain howner | howner | habsent := h.stopping hstop
  · exact .inl howner
  · exact .inr howner
  · exact absurd habsent hpresent

/-- Outside `Stop`, a request that is left over has no thread. -/
theorem Managed.absent_of_requested (h : Managed s) (hstop : s.stop_requested = true)
    (hnotifying : s.owner ≠ .notifying) (hjoining : s.owner ≠ .joining) : s.thread = .absent := by
  obtain howner | howner | habsent := h.stopping hstop
  · exact absurd howner hnotifying
  · exact absurd howner hjoining
  · exact habsent

/-- A step of the thread, from a place with the stop callback to another. -/
theorem Managed.of_thread (h : Managed s) {thread : Thread DataType}
    (hregistered : s.thread.registered = true) (hregistered' : thread.registered = true)
    (hleft : thread = .leaving → s.stop_requested = true) : Managed { s with thread } := by
  have hpresent : s.thread ≠ .absent := by
    intro heq
    rw [heq] at hregistered
    cases hregistered
  have hpresent' : thread ≠ .absent := by
    rintro rfl
    cases hregistered'
  refine ⟨fun howner => ⟨(h.requested howner).1, hpresent'⟩, fun hstop => ?_, ?_, fun howner => ?_⟩
  · exact or_assoc.mp (.inl (h.owner_of_requested hstop hpresent))
  · rintro (hthread | rfl)
    · exact hleft hthread
    · cases hregistered'
  · exact absurd (h.clearing howner) hpresent

/-- A notification only lets the thread go on. -/
theorem notified_eq (thread : Thread DataType) :
    thread.notified = thread ∨ thread = .waiting ∧ thread.notified = .unlocked := by
  cases thread with
  | waiting => exact .inr ⟨rfl, rfl⟩
  | _ => exact .inl rfl

/-- A wake-up keeps the owner and its thread in step. -/
theorem Managed.notified (h : Managed s) : Managed { s with thread := s.thread.notified } := by
  obtain heq | ⟨hwaiting, heq⟩ := notified_eq s.thread
  · rw [heq]
    exact h
  · rw [heq]
    exact h.of_thread (by rw [hwaiting]; rfl) rfl fun hleft => by cases hleft

/-- So does every step. -/
theorem Managed.step (h : Managed s) (hs : step s ev = some s') : Managed s' := by
  have hthread : ∀ {place : Thread DataType}, s.thread = place → place.registered = true →
      s.thread.registered = true := by
    intro place heq hregistered
    rwa [heq]
  cases Step.of_step hs with
  | start howner =>
    refine ⟨fun hstop => ?_, fun hstop => .inr (.inr ?_), h.left, fun hclear => by cases hclear⟩
    · obtain hstop | hstop := hstop <;> cases hstop
    · apply h.absent_of_requested hstop
      · rw [howner]
        exact Owner.noConfusion
      · rw [howner]
        exact Owner.noConfusion
  | created =>
    refine ⟨fun hstop => ?_, fun hstop => ?_, fun hleft => ?_, fun hclear => by cases hclear⟩
    · obtain hstop | hstop := hstop <;> cases hstop
    · cases hstop
    · obtain hleft | hleft := hleft <;> cases hleft
  | kept howner =>
    refine ⟨fun hstop => ?_, fun hstop => .inr (.inr ?_), h.left, fun hclear => by cases hclear⟩
    · obtain hstop | hstop := hstop <;> cases hstop
    · apply h.absent_of_requested hstop
      · rw [howner]
        exact Owner.noConfusion
      · rw [howner]
        exact Owner.noConfusion
  | postWork msg =>
    have hnotified := h.notified
    exact ⟨hnotified.requested, hnotified.stopping, hnotified.left, hnotified.clearing⟩
  | stopAbsent howner habsent =>
    refine ⟨fun hstop => ?_, fun _ => .inr (.inr habsent), h.left, fun _ => habsent⟩
    obtain hstop | hstop := hstop <;> cases hstop
  | stopRegistered howner hregistered =>
    refine ⟨fun _ => ⟨rfl, ?_⟩, fun _ => .inl rfl, fun _ => rfl, fun hclear => by cases hclear⟩
    intro habsent
    rw [habsent] at hregistered
    cases hregistered
  | stopUnregistered howner hpresent =>
    exact ⟨fun _ => ⟨rfl, hpresent⟩, fun _ => .inr (.inl rfl), fun _ => rfl,
      fun hclear => by cases hclear⟩
  | notify howner =>
    have hnotified := h.notified
    obtain ⟨hstop, hpresent⟩ := hnotified.requested (.inl howner)
    exact ⟨fun _ => ⟨hstop, hpresent⟩, fun _ => .inr (.inl rfl), hnotified.left,
      fun hclear => by cases hclear⟩
  | join howner =>
    refine ⟨fun hstop => ?_, fun _ => .inr (.inr rfl), fun hleft => ?_, fun _ => rfl⟩
    · obtain hstop | hstop := hstop <;> cases hstop
    · obtain hleft | hleft := hleft <;> cases hleft
  | clear howner =>
    refine ⟨fun hstop => ?_, fun _ => .inr (.inr (h.clearing howner)), h.left,
      fun hclear => by cases hclear⟩
    obtain hstop | hstop := hstop <;> cases hstop
  | register hstarting =>
    have hpresent : s.thread ≠ .absent := by
      rw [hstarting]
      intro heq
      cases heq
    refine ⟨fun hstop => ⟨(h.requested hstop).1, fun heq => by cases heq⟩, fun hstop => ?_,
      fun hleft => ?_, fun hclear => absurd (h.clearing hclear) hpresent⟩
    · exact or_assoc.mp (.inl (h.owner_of_requested hstop hpresent))
    · obtain hleft | hleft := hleft <;> cases hleft
  | startup hplace => exact h.of_thread (hthread hplace rfl) rfl fun hleft => by cases hleft
  | passes hplace => exact h.of_thread (hthread hplace rfl) rfl fun hleft => by cases hleft
  | blocks hplace => exact h.of_thread (hthread hplace rfl) rfl fun hleft => by cases hleft
  | block hplace => exact h.of_thread (hthread hplace rfl) rfl fun hleft => by cases hleft
  | wake hplace => exact h.of_thread (hthread hplace rfl) rfl fun hleft => by cases hleft
  | leave hplace hstop => exact h.of_thread (hthread hplace rfl) rfl fun _ => hstop
  | again hplace => exact h.of_thread (hthread hplace rfl) rfl fun hleft => by cases hleft
  | @take msg _ hplace =>
    have hcalling : Managed { s with thread := .calling msg } :=
      h.of_thread (hthread hplace rfl) rfl fun hleft => by cases hleft
    exact ⟨hcalling.requested, hcalling.stopping, hcalling.left, hcalling.clearing⟩
  | callback hplace => exact h.of_thread (hthread hplace rfl) rfl fun hleft => by cases hleft
  | ret hplace howner =>
    have hstop := h.left (.inl hplace)
    have hpresent : s.thread ≠ .absent := by
      rw [hplace]
      intro heq
      cases heq
    refine ⟨fun _ => ⟨hstop, fun heq => by cases heq⟩, fun _ => ?_, fun _ => hstop,
      fun hclear => absurd (h.clearing hclear) hpresent⟩
    exact or_assoc.mp (.inl (h.owner_of_requested hstop hpresent))

/-- The owner joins a thread that waits, or is about to, and the notification is over. -/
def Lost (s : State DataType) : Prop :=
  s.owner = .joining ∧ (s.thread = .blocking ∨ s.thread = .waiting)

/-- The notification does not come between the test of the predicate and the wait. -/
def InTime (s : State DataType) : Event DataType → Prop
  | .notify => s.thread ≠ .blocking
  | _ => True

/-- The notification is lost only while the owner joins. -/
theorem not_lost_of_owner (howner : s.owner ≠ .joining) : ¬ Lost s := fun h => howner h.1

/-- It is not lost by a step in time. -/
theorem not_lost_step (h : Managed s) (hlost : ¬ Lost s) (hintime : InTime s ev)
    (hs : step s ev = some s') : ¬ Lost s' := by
  cases Step.of_step hs with
  | start | created | kept | stopAbsent | stopRegistered | join | clear =>
    apply not_lost_of_owner
    intro heq
    cases heq
  | postWork msg =>
    obtain heq | ⟨hwaiting, heq⟩ := notified_eq s.thread
    · rw [heq]
      exact hlost
    · rw [heq]
      rintro ⟨-, hthread | hthread⟩ <;> cases hthread
  | stopUnregistered _ _ hregistered =>
    rintro ⟨-, hthread | hthread⟩ <;> rw [hthread] at hregistered <;> cases hregistered
  | notify =>
    rintro ⟨-, hthread⟩
    obtain heq | ⟨hwaiting, heq⟩ := notified_eq s.thread
    · rw [heq] at hthread
      obtain hthread | hthread := hthread
      · exact hintime hthread
      · rw [hthread] at heq
        cases heq
    · rw [heq] at hthread
      obtain hthread | hthread := hthread <;> cases hthread
  | blocks _ hstop =>
    rintro ⟨howner, -⟩
    rw [(h.requested (.inr howner)).1] at hstop
    cases hstop
  | block hthread =>
    rintro ⟨howner, -⟩
    exact hlost ⟨howner, .inl hthread⟩
  | _ =>
    rintro ⟨-, hthread | hthread⟩ <;> cases hthread

/-- And it is lost by a step that is not in time. -/
theorem lost_of_not_inTime (hintime : ¬ InTime s ev) (hs : step s ev = some s') : Lost s' := by
  cases Step.of_step hs with
  | notify =>
    have hthread : s.thread = .blocking := not_not.mp hintime
    refine ⟨rfl, .inl ?_⟩
    dsimp only
    rw [hthread]
    rfl
  | _ => exact absurd trivial hintime

/-- Throughout a run, `Stop` never joins a thread that nobody will wake, exactly when none of its
notifications comes between the test of the predicate and the wait. -/
theorem throughout_not_lost_iff (es : List (Event DataType)) :
    Throughout step (fun s => ¬ Lost s) initial es ↔ Along step InTime initial es :=
  throughout_iff_along (fun s => Managed s ∧ ¬ Lost s) (fun _ h => h.2)
    (fun _ _ _ h hintime hs => ⟨h.1.step hs, not_lost_step h.1 h.2 hintime hs⟩)
    (fun _ _ _ _ hintime hs => not_not.mpr (lost_of_not_inTime hintime hs))
    ⟨.initial, fun h => by cases h.1⟩

/-! ## Stopping -/

/-- The steps of the thread and of `Stop`, but for spurious wake-ups. -/
def Event.isOwn : Event DataType → Bool
  | .start | .create | .postWork _ | .stop | .wake => false
  | _ => true

/-- What the thread has to do before it returns, once it is asked to stop. -/
def Thread.toDo : Thread DataType → ℕ
  | .absent | .returned => 0
  | .leaving => 1
  | .passed => 2
  | .unlocked | .waiting => 3
  | .startup | .blocking | .calling _ => 4
  | .starting => 5

/-- What the owner has to do before `Stop` returns. -/
def Owner.toDo : Owner → ℕ
  | .idle | .creating => 0
  | .clearing => 1
  | .joining => 2
  | .notifying => 3

/-- `Stop` is under way, or has returned. -/
structure Stopping (s : State DataType) : Prop where
  managed : Managed s
  owner : s.owner ≠ .creating
  /-- When it has returned, nothing is left. -/
  idle : s.owner = .idle → s.thread = .absent ∧ s.queue = []

/-- What the owner and the thread have to do before `Stop` returns. -/
def State.toDo (s : State DataType) : ℕ := s.owner.toDo + s.thread.toDo

/-- While the owner stops the thread, the thread has been asked to stop. -/
theorem Stopping.stop_requested (h : Stopping s) (hthread : s.thread ≠ .absent) :
    s.stop_requested = true := by
  cases howner : s.owner with
  | idle => exact absurd (h.idle howner).1 hthread
  | creating => exact absurd howner h.owner
  | notifying => exact (h.managed.requested (.inl howner)).1
  | joining => exact (h.managed.requested (.inr howner)).1
  | clearing => exact absurd (h.managed.clearing howner) hthread

/-- A step of the thread that brings it nearer to its end. -/
theorem Stopping.of_thread (h : Stopping s) {thread : Thread DataType}
    (hmanaged : Managed { s with thread }) (hpresent : s.thread ≠ .absent)
    (hlt : thread.toDo < s.thread.toDo) :
    Stopping { s with thread } ∧ State.toDo { s with thread } < s.toDo := by
  refine ⟨⟨hmanaged, h.owner, fun howner => absurd (h.idle howner).1 hpresent⟩, ?_⟩
  unfold State.toDo
  dsimp only
  omega

/-- A wake-up leaves the thread no more to do. -/
theorem toDo_notified_le (thread : Thread DataType) : thread.notified.toDo ≤ thread.toDo := by
  cases thread <;> exact Nat.le_refl _

/-- Every step of the owner and the thread brings the stop nearer. -/
theorem Stopping.step (h : Stopping s) (hown : ev.isOwn = true) (hs : step s ev = some s') :
    Stopping s' ∧ s'.toDo < s.toDo := by
  have hmanaged := h.managed.step hs
  have hpresent : ∀ {place : Thread DataType}, s.thread = place → place ≠ .absent →
      s.thread ≠ .absent := by
    intro place heq hplace
    rwa [heq]
  -- What the thread has found out is that it is asked to stop.
  have hno : ∀ {place : Thread DataType}, s.thread = place → place ≠ .absent →
      s.stop_requested = false → False := by
    intro place heq hplace hstop
    rw [h.stop_requested (hpresent heq hplace)] at hstop
    cases hstop
  cases Step.of_step hs with
  | start | created | kept | postWork | stopAbsent | stopRegistered | stopUnregistered | wake =>
    cases hown
  | notify howner =>
    refine ⟨⟨hmanaged, Owner.noConfusion, Owner.noConfusion⟩, ?_⟩
    have hle := toDo_notified_le s.thread
    unfold State.toDo
    rw [howner]
    change 2 + s.thread.notified.toDo < 3 + s.thread.toDo
    omega
  | join howner hthread =>
    refine ⟨⟨hmanaged, Owner.noConfusion, Owner.noConfusion⟩, ?_⟩
    unfold State.toDo
    rw [howner, hthread]
    exact Nat.lt_add_one _
  | clear howner =>
    have habsent := h.managed.clearing howner
    refine ⟨⟨hmanaged, Owner.noConfusion, fun _ => ⟨habsent, rfl⟩⟩, ?_⟩
    unfold State.toDo
    rw [howner]
    change 0 + s.thread.toDo < 1 + s.thread.toDo
    omega
  | register hthread | startup hthread | passes hthread | block hthread | leave hthread
  | callback hthread | ret hthread =>
    refine h.of_thread hmanaged (hpresent hthread fun heq => by cases heq) ?_
    rw [hthread]
    exact Nat.lt_add_one _
  | blocks hthread hstop | again hthread hstop | take hthread hstop =>
    exact (hno hthread (fun heq => by cases heq) hstop).elim

/-- Where no step is left, `Stop` has returned, or the thread waits for ever. -/
theorem Stopping.of_settled (h : Stopping s)
    (hsettled : ∀ ev : Event DataType, ev.isOwn = true → WorkerThread.step s ev = none) :
    s.owner = .idle ∧ s.thread = .absent ∧ s.queue = [] ∨ Lost s := by
  cases howner : s.owner with
  | idle => exact .inl ⟨rfl, h.idle howner⟩
  | creating => exact absurd howner h.owner
  | notifying =>
    have hno := hsettled .notify rfl
    unfold WorkerThread.step at hno
    rw [if_pos howner] at hno
    cases hno
  | clearing =>
    have hno := hsettled .clear rfl
    have habsent := h.managed.clearing howner
    unfold WorkerThread.step at hno
    dsimp only at hno
    rw [if_pos ⟨howner, by rw [habsent]; rfl⟩] at hno
    cases hno
  | joining =>
    refine .inr ⟨howner, ?_⟩
    have hpresent := (h.managed.requested (.inr howner)).2
    have hregister := hsettled .register rfl
    have hstartup := hsettled .startup rfl
    have htest := hsettled .test rfl
    have htake := hsettled .take rfl
    have hcallback := hsettled .callback rfl
    have hret := hsettled .ret rfl
    have hjoin := hsettled .join rfl
    unfold WorkerThread.step at hregister hstartup htest htake hcallback hret hjoin
    cases hthread : s.thread with
    | absent => exact absurd hthread hpresent
    | blocking => exact .inl rfl
    | waiting => exact .inr rfl
    | starting =>
      rw [hthread] at hregister
      cases hregister
    | startup =>
      rw [hthread] at hstartup
      cases hstartup
    | unlocked =>
      rw [hthread] at htest
      cases htest
    | passed =>
      have hstop := h.stop_requested hpresent
      simp only [hthread, hstop, if_true] at htake
      cases htake
    | calling msg =>
      rw [hthread] at hcallback
      cases hcallback
    | leaving =>
      simp only [hthread, howner] at hret
      cases hret
    | returned =>
      rw [howner, hthread] at hjoin
      cases hjoin

/-- A thread that nobody will wake stays where it is. -/
theorem lost_step (hlost : Lost s) (hown : ev.isOwn = true)
    (hs : WorkerThread.step s ev = some s') :
    Lost s' := by
  obtain ⟨howner, hthread⟩ := hlost
  -- It is at no other place, and the owner joins.
  have hno : ∀ {place : Thread DataType}, s.thread = place → place ≠ .blocking →
      place ≠ .waiting → False := by
    intro place heq hblocking hwaiting
    obtain hthread | hthread := hthread
    · exact hblocking (heq.symm.trans hthread)
    · exact hwaiting (heq.symm.trans hthread)
  cases Step.of_step hs with
  | start | created | kept | postWork | stopAbsent | stopRegistered | stopUnregistered | wake =>
    cases hown
  | notify howner' | clear howner' =>
    rw [howner] at howner'
    cases howner'
  | block => exact ⟨howner, .inr rfl⟩
  | register hplace | startup hplace | passes hplace | blocks hplace | leave hplace | again hplace
  | take hplace | callback hplace | ret hplace =>
    exact (hno hplace (fun heq => by cases heq) fun heq => by cases heq).elim
  | join _ hplace => exact (hno hplace (fun heq => by cases heq) fun heq => by cases heq).elim

/-- There are eight such steps at most. -/
theorem toDo_le (s : State DataType) : s.toDo ≤ 8 := by
  have howner : s.owner.toDo ≤ 3 := by
    cases s.owner <;> decide
  have hthread : s.thread.toDo ≤ 5 := by
    cases s.thread <;> simp [Thread.toDo]
  unfold State.toDo
  omega

/-- Once `Stop` has asked the thread to stop, the two make at most 8 steps by themselves, with a
callback that returns. When they can make no more, `Stop` has returned and the queue is empty,
exactly if the notification was never over while the thread waited, or was about to. Otherwise the
thread waits and `Stop` joins it, until somebody posts or the wait wakes up by itself. -/
theorem stop_returns_iff {es₀ es : List (Event DataType)}
    (hrun₀ : run WorkerThread.step initial es₀ = some s)
    (hstop : s.owner = .notifying ∨ s.owner = .joining ∨ s.owner = .clearing)
    (hown : ∀ ev ∈ es, ev.isOwn = true) (hrun : run WorkerThread.step s es = some s') :
    es.length ≤ 8 ∧
      ((∀ ev : Event DataType, ev.isOwn = true → WorkerThread.step s' ev = none) →
        (s'.owner = .idle ∧ s'.thread = .absent ∧ s'.queue = [] ↔
          Throughout WorkerThread.step (fun s => ¬ Lost s) s es)) := by
  have hmanaged : Managed s := run_invariant Managed (fun _ _ _ h hs => h.step hs) hrun₀ .initial
  have hstopping : Stopping s := by
    refine ⟨hmanaged, fun heq => ?_, fun heq => ?_⟩
    all_goals
      rw [heq] at hstop
      obtain hstop | hstop | hstop := hstop <;> cases hstop
  have halong : Along WorkerThread.step (fun _ ev => ev.isOwn = true) s es :=
    along_of_forall hown s
  have hstopping' : Stopping s' := halong.run_invariant Stopping
    (fun _ _ _ h hev hs => (h.step hev hs).1) hrun hstopping
  constructor
  · have hle := countP_le (Q := fun _ => True) Stopping State.toDo Event.isOwn
      (fun s ev s' h hev _ hs => by
        obtain ⟨hstopping, hlt⟩ := h.step hev hs
        rw [if_pos hev]
        exact ⟨hstopping, hlt⟩)
      halong (halong.throughout_of_last (fun _ _ _ _ _ hnot => absurd trivial hnot) hrun trivial)
      hrun hstopping
    rw [List.countP_eq_length.mpr hown] at hle
    exact Nat.le_trans hle (toDo_le s)
  · intro hsettled
    constructor
    · rintro ⟨howner, -⟩
      apply halong.throughout_of_last (fun _ _ _ hev hs hlost =>
        not_not.mpr (lost_step (not_not.mp hlost) hev hs)) hrun
      intro hlost
      have hjoining := hlost.1
      rw [howner] at hjoining
      cases hjoining
    · intro hthroughout
      obtain hreturned | hlost := hstopping'.of_settled hsettled
      · exact hreturned
      · exact absurd hlost (hthroughout.last hrun)

/-- A thread that is made, gets some work, and is asked to stop meanwhile. -/
def askedToStop : List (Event ℕ) :=
  [.start, .create, .register, .startup, .postWork 7, .test, .take, .stop, .callback]

theorem stop_returns_iff_calling : ∃ s s', run step initial askedToStop = some s ∧
    run step s [.test, .notify, .take, .ret, .join, .clear] = some s' ∧ s'.called = [7] ∧
      (s'.owner = .idle ∧ s'.thread = .absent ∧ s'.queue = [] ↔
        Throughout step (fun s => ¬ Lost s) s [.test, .notify, .take, .ret, .join, .clear]) := by
  have hrun₀ : run step initial askedToStop = some _ := rfl
  refine ⟨_, _, hrun₀, rfl, rfl, (stop_returns_iff hrun₀ (.inl rfl) (by decide) rfl).2
    fun ev hev => ?_⟩
  cases ev with
  | start | create | postWork | stop | wake => cases hev
  | _ => rfl

/-- The thread has found nothing to do, and the notification comes before it waits. -/
theorem not_throughout_not_lost : ¬ Throughout step (fun s => ¬ Lost s) (initial : State ℕ)
    [.start, .create, .register, .startup, .test, .stop, .notify, .block] := by
  intro h
  exact h.last rfl ⟨rfl, .inr rfl⟩

end AugmentedNormalcy.Prototype.WorkerThread
