import AugmentedNormalcy.Prototype.WorkerThread
import Mathlib.Data.List.Perm.Subperm
import Mathlib.Data.List.Range

/-!
# The input buffers of the prototype's encoder

`V4l2Encoder` of `src/prototype/internal/infrastructure/codec/v4l2/v4l2_encoder.cpp` with its worker
thread. `TryEncode` takes an index, queues the memory of a camera buffer with the device under it,
and keeps the buffer in `_input_buffers_processing`; `GetDownstreamBuffer`, in the thread of
`HandleDownstream`, takes an input back from the device, makes its index available, and releases the
front of that queue. The device works between any two steps.

A camera with as many buffers as the encoder has indices never makes `TryEncode` throw
(`never_out_of_buffers`), and with a device that keeps the order no buffer is released before the
device is done with it (`released_after_device`). The buffer is kept after it has been queued with
the device, though, so the device may be faster: `GetDownstreamBuffer` then pops an empty queue
(`throughout_popped_iff`). -/

namespace AugmentedNormalcy.Prototype.V4l2Encoder

open StepSystem

/-! ## The steps -/

/-- A `CameraBuffer`, by its number. -/
abbrev CameraBuffer := ℕ

/-- Where `TryEncode` is, in a call of the worker thread. -/
inductive Trying where
  | called
  /-- It has taken an index. -/
  | taken (index : ℕ)
  /-- The device has the buffer. -/
  | queued
  | returned
deriving DecidableEq

/-- The index that it has. -/
def Trying.index? : Trying → Option ℕ
  | .taken index => some index
  | _ => none

/-- Where `GetDownstreamBuffer` is with an input. -/
inductive Getting where
  | idle
  /-- The device has given the input back. -/
  | dequeued (index : ℕ) (buffer : CameraBuffer)
  /-- Its index is available again. -/
  | popping (buffer : CameraBuffer)
deriving DecidableEq

def Getting.index? : Getting → Option ℕ
  | .dequeued index _ => some index
  | _ => none

/-- What the device is done with, and has not been released. -/
def Getting.buffer? : Getting → Option CameraBuffer
  | .idle => none
  | .dequeued _ buffer | .popping buffer => some buffer

/-- What ends the program. -/
inductive Failure where
  /-- `TryEncode` throws, and `Run` is `noexcept`. -/
  | noBuffers
  /-- `pop` of an empty queue. -/
  | popEmpty
deriving DecidableEq

structure State where
  worker : WorkerThread.State CameraBuffer
  trying : Trying
  input_buffers_available : List ℕ
  input_buffers_processing : List CameraBuffer
  /-- The inputs that are queued with the device, with their indices. -/
  device : List (ℕ × CameraBuffer)
  getting : Getting
  /-- What the device has given back. -/
  dequeued : List CameraBuffer
  /-- What `GetDownstreamBuffer` has released. -/
  released : List CameraBuffer
  failed : Option Failure
deriving DecidableEq

inductive Event where
  | worker (ev : WorkerThread.Event CameraBuffer)
  /-- `TryEncode` takes an index. -/
  | takeIndex
  /-- `VIDIOC_QBUF` of `TryEncode`. -/
  | qbuf
  /-- `TryEncode` keeps the buffer. -/
  | push
  /-- `VIDIOC_DQBUF` of `GetDownstreamBuffer` gives an input back. -/
  | dqbuf (input : ℕ × CameraBuffer)
  | giveBack
  | pop
deriving DecidableEq

/-- The encoder as `SetupBuffers` leaves it. -/
def initial (camera_buffer_count : ℕ) : State where
  worker := WorkerThread.initial
  trying := .called
  input_buffers_available := List.range camera_buffer_count
  input_buffers_processing := []
  device := []
  getting := .idle
  dequeued := []
  released := []
  failed := none

def step (s : State) (ev : Event) : Option State :=
  if s.failed ≠ none then none
  else
    match ev with
    | .worker ev =>
      -- The callback of the worker thread is `TryEncode`.
      if ev = .callback ∧ s.trying ≠ .returned then none
      else
        (WorkerThread.step s.worker ev).map fun worker =>
          { s with worker, trying := if ev = .callback then .called else s.trying }
    | .takeIndex =>
      match s.worker.thread, s.trying, s.input_buffers_available with
      | .calling _, .called, [] => some { s with failed := some .noBuffers }
      | .calling _, .called, index :: input_buffers_available =>
        some { s with input_buffers_available, trying := .taken index }
      | _, _, _ => none
    | .qbuf =>
      match s.worker.thread, s.trying with
      | .calling buffer, .taken index =>
        some { s with device := s.device ++ [(index, buffer)], trying := .queued }
      | _, _ => none
    | .push =>
      match s.worker.thread, s.trying with
      | .calling buffer, .queued =>
        some { s with
          input_buffers_processing := s.input_buffers_processing ++ [buffer]
          trying := .returned }
      | _, _ => none
    | .dqbuf input =>
      if s.getting = .idle ∧ input ∈ s.device then
        some { s with
          device := s.device.erase input
          getting := .dequeued input.1 input.2
          dequeued := s.dequeued ++ [input.2] }
      else none
    | .giveBack =>
      match s.getting with
      | .dequeued index buffer =>
        some { s with
          input_buffers_available := s.input_buffers_available ++ [index]
          getting := .popping buffer }
      | _ => none
    | .pop =>
      match s.getting, s.input_buffers_processing with
      | .popping _, [] => some { s with failed := some .popEmpty }
      | .popping _, front :: input_buffers_processing =>
        some { s with
          input_buffers_processing
          getting := .idle
          released := s.released ++ [front] }
      | _, _ => none

/-- What each step finds, and what it leaves. -/
inductive Step (s : State) : Event → State → Prop
  | returns {worker : WorkerThread.State CameraBuffer} (htrying : s.trying = .returned)
      (hworker : WorkerThread.step s.worker .callback = some worker) :
    Step s (.worker .callback) { s with worker, trying := .called }
  | worker {ev : WorkerThread.Event CameraBuffer} {worker : WorkerThread.State CameraBuffer}
      (hev : ev ≠ .callback) (hworker : WorkerThread.step s.worker ev = some worker) :
    Step s (.worker ev) { s with worker }
  | throws {buffer : CameraBuffer} (hthread : s.worker.thread = .calling buffer)
      (htrying : s.trying = .called) (hnone : s.input_buffers_available = []) :
    Step s .takeIndex { s with failed := some .noBuffers }
  | takeIndex {buffer : CameraBuffer} {index : ℕ} {input_buffers_available : List ℕ}
      (hthread : s.worker.thread = .calling buffer) (htrying : s.trying = .called)
      (havailable : s.input_buffers_available = index :: input_buffers_available) :
    Step s .takeIndex { s with input_buffers_available, trying := .taken index }
  | qbuf {buffer : CameraBuffer} {index : ℕ} (hthread : s.worker.thread = .calling buffer)
      (htrying : s.trying = .taken index) :
    Step s .qbuf { s with device := s.device ++ [(index, buffer)], trying := .queued }
  | push {buffer : CameraBuffer} (hthread : s.worker.thread = .calling buffer)
      (htrying : s.trying = .queued) :
    Step s .push
      { s with
        input_buffers_processing := s.input_buffers_processing ++ [buffer]
        trying := .returned }
  | dqbuf {input : ℕ × CameraBuffer} (hgetting : s.getting = .idle) (hmem : input ∈ s.device) :
    Step s (.dqbuf input)
      { s with
        device := s.device.erase input
        getting := .dequeued input.1 input.2
        dequeued := s.dequeued ++ [input.2] }
  | giveBack {index : ℕ} {buffer : CameraBuffer} (hgetting : s.getting = .dequeued index buffer) :
    Step s .giveBack
      { s with
        input_buffers_available := s.input_buffers_available ++ [index]
        getting := .popping buffer }
  | popEmpty {buffer : CameraBuffer} (hgetting : s.getting = .popping buffer)
      (hnone : s.input_buffers_processing = []) :
    Step s .pop { s with failed := some .popEmpty }
  | pop {buffer front : CameraBuffer} {input_buffers_processing : List CameraBuffer}
      (hgetting : s.getting = .popping buffer)
      (hprocessing : s.input_buffers_processing = front :: input_buffers_processing) :
    Step s .pop
      { s with
        input_buffers_processing
        getting := .idle
        released := s.released ++ [front] }

theorem Step.of_step {s s' : State} {ev : Event} (hs : step s ev = some s') :
    s.failed = none ∧ Step s ev s' := by
  unfold step at hs
  obtain ⟨hfailed, hs⟩ := Option.ite_none_left_eq_some.mp hs
  refine ⟨not_not.mp hfailed, ?_⟩
  cases ev with
  | worker ev =>
    obtain ⟨hguard, hs⟩ := Option.ite_none_left_eq_some.mp hs
    obtain ⟨worker, hworker, rfl⟩ := Option.map_eq_some_iff.mp hs
    by_cases hev : ev = .callback
    · subst hev
      exact .returns (not_not.mp fun htrying => hguard ⟨rfl, htrying⟩) hworker
    · rw [if_neg hev]
      exact .worker hev hworker
  | takeIndex =>
    dsimp only at hs
    split at hs <;> cases hs
    · exact .throws ‹_› ‹_› ‹_›
    · exact .takeIndex ‹_› ‹_› ‹_›
  | qbuf =>
    dsimp only at hs
    split at hs <;> cases hs
    exact .qbuf ‹_› ‹_›
  | push =>
    dsimp only at hs
    split at hs <;> cases hs
    exact .push ‹_› ‹_›
  | dqbuf input =>
    obtain ⟨⟨hgetting, hmem⟩, ⟨⟩⟩ := Option.ite_none_right_eq_some.mp hs
    exact .dqbuf hgetting hmem
  | giveBack =>
    dsimp only at hs
    split at hs <;> cases hs
    exact .giveBack ‹_›
  | pop =>
    dsimp only at hs
    split at hs <;> cases hs
    · exact .popEmpty ‹_› ‹_›
    · exact .pop ‹_› ‹_›

/-! ## The indices -/

variable {s s' : State} {ev : Event}

/-- What the worker thread does between the calls changes what it calls with only when it takes
it. -/
theorem worker_of_step {w w' : WorkerThread.State CameraBuffer}
    {ev : WorkerThread.Event CameraBuffer} (hev : ev ≠ .callback)
    (hs : WorkerThread.step w ev = some w') :
    (∃ buffer, ev = .postWork buffer ∧ w'.thread.msg? = w.thread.msg? ∧
        w'.queue = w.queue ++ [buffer]) ∨
      (∃ buffer, w.thread.msg? = none ∧ w'.thread.msg? = some buffer ∧
        w.queue = buffer :: w'.queue) ∨
      w'.thread.msg? = w.thread.msg? ∧ w'.queue.Sublist w.queue := by
  have hsame : ∀ {t : WorkerThread.Thread CameraBuffer}, w.thread = t → t.msg? = none →
      none = w.thread.msg? := by
    intro t heq hnone
    rw [heq, hnone]
  cases WorkerThread.Step.of_step hs with
  | callback => exact absurd rfl hev
  | postWork msg => exact .inl ⟨msg, rfl, WorkerThread.msg?_notified _, rfl⟩
  | take hthread _ hqueue => exact .inr (.inl ⟨_, by rw [hthread]; rfl, rfl, hqueue⟩)
  | start | clear => exact .inr (.inr ⟨rfl, List.nil_sublist _⟩)
  | notify => exact .inr (.inr ⟨WorkerThread.msg?_notified _, List.Sublist.refl _⟩)
  | kept | stopAbsent | stopRegistered | stopUnregistered =>
    exact .inr (.inr ⟨rfl, List.Sublist.refl _⟩)
  | created _ hthread | join _ hthread =>
    exact .inr (.inr ⟨hsame hthread rfl, List.Sublist.refl _⟩)
  | register hthread | startup hthread | passes hthread | blocks hthread | block hthread
  | wake hthread | leave hthread | again hthread | ret hthread =>
    exact .inr (.inr ⟨hsame hthread rfl, List.Sublist.refl _⟩)

/-- What the device has, and `TryEncode` has not kept yet. -/
def State.unpushed (s : State) : List CameraBuffer :=
  match s.trying with
  | .queued => s.worker.thread.msg?.toList
  | _ => []

/-- What the worker thread has taken, and `TryEncode` has not kept yet. -/
def State.current (s : State) : List CameraBuffer :=
  match s.trying with
  | .returned => []
  | _ => s.worker.thread.msg?.toList

/-- What holds in every run, whatever the device gives back. -/
structure Inv (camera_buffer_count : ℕ) (s : State) : Prop where
  calling : s.trying ≠ .called → (s.worker.thread.msg?).isSome
  /-- Every index is available, with `TryEncode`, with the device, or being given back. -/
  indices : (s.input_buffers_available ++ (s.trying.index?.toList ++
    (s.device.map Prod.fst ++ s.getting.index?.toList))).Perm (List.range camera_buffer_count)
  /-- As many buffers are kept as the device has, or has given back without a release. -/
  lengths : s.input_buffers_processing.length + s.unpushed.length =
    s.getting.buffer?.toList.length + s.device.length

variable {camera_buffer_count : ℕ}

/-- At first every buffer is free. -/
theorem Inv.initial : Inv camera_buffer_count (initial camera_buffer_count) where
  calling h := absurd rfl h
  indices := by
    simp [V4l2Encoder.initial, Trying.index?, Getting.index?]
  lengths := rfl

/-- The worker thread does not take anything in a call of `TryEncode`. -/
theorem Inv.msg?_eq (h : Inv camera_buffer_count s) {worker : WorkerThread.State CameraBuffer}
    {ev : WorkerThread.Event CameraBuffer} (hev : ev ≠ .callback)
    (hs : WorkerThread.step s.worker ev = some worker) (htrying : s.trying ≠ .called) :
    worker.thread.msg? = s.worker.thread.msg? := by
  obtain ⟨-, -, heq, -⟩ | ⟨-, hnone, -⟩ | ⟨heq, -⟩ := worker_of_step hev hs
  · exact heq
  · have hsome := h.calling htrying
    rw [hnone] at hsome
    cases hsome
  · exact heq

/-- A step of the worker other than the callback leaves the buffers to push alone. -/
theorem Inv.unpushed_worker (h : Inv camera_buffer_count s)
    {worker : WorkerThread.State CameraBuffer} {ev : WorkerThread.Event CameraBuffer}
    (hev : ev ≠ .callback) (hs : WorkerThread.step s.worker ev = some worker) :
    State.unpushed { s with worker } = s.unpushed := by
  unfold State.unpushed
  cases htrying : s.trying with
  | queued =>
    dsimp only
    rw [h.msg?_eq hev hs (by rw [htrying]; exact Trying.noConfusion)]
  | _ => rfl

/-- Every step keeps the invariant. -/
theorem Inv.step (h : Inv camera_buffer_count s) (hs : step s ev = some s') :
    Inv camera_buffer_count s' := by
  obtain ⟨hcalling, hindices, hlengths⟩ := h
  obtain ⟨-, hstep⟩ := Step.of_step hs
  cases hstep with
  | returns htrying =>
    refine ⟨fun hne => absurd rfl hne, ?_, ?_⟩
    · rw [htrying] at hindices
      exact hindices
    · unfold State.unpushed at hlengths ⊢
      rw [htrying] at hlengths
      exact hlengths
  | worker hev hworker =>
    have hinv : Inv camera_buffer_count s := ⟨hcalling, hindices, hlengths⟩
    refine ⟨fun hne => ?_, hindices, ?_⟩
    · dsimp only
      rw [hinv.msg?_eq hev hworker hne]
      exact hcalling hne
    · rw [hinv.unpushed_worker hev hworker]
      exact hlengths
  | throws => exact ⟨hcalling, hindices, hlengths⟩
  | takeIndex hthread htrying havailable =>
    refine ⟨fun _ => by rw [hthread]; rfl, ?_, ?_⟩
    · rw [htrying, havailable] at hindices
      exact List.perm_middle.trans hindices
    · unfold State.unpushed at hlengths ⊢
      rw [htrying] at hlengths
      exact hlengths
  | @qbuf buffer index hthread htrying =>
    refine ⟨fun _ => by rw [hthread]; rfl, ?_, ?_⟩
    · rw [htrying] at hindices
      rw [List.perm_iff_count] at hindices ⊢
      intro a
      have hcount := hindices a
      simp only [Trying.index?, Option.toList_some, Option.toList_none, List.map_append,
        List.map_cons,
        List.map_nil, List.count_append, List.count_nil] at hcount ⊢
      omega
    · unfold State.unpushed at hlengths ⊢
      rw [htrying] at hlengths
      dsimp only at hlengths ⊢
      rw [hthread, List.length_append]
      change _ + 1 = _ + (_ + 1)
      rw [List.length_nil] at hlengths
      omega
  | push hthread htrying =>
    refine ⟨fun _ => by rw [hthread]; rfl, ?_, ?_⟩
    · rw [htrying] at hindices
      exact hindices
    · unfold State.unpushed at hlengths ⊢
      rw [htrying] at hlengths
      dsimp only at hlengths ⊢
      rw [hthread] at hlengths
      rw [List.length_append]
      exact hlengths
  | @dqbuf input hgetting hmem =>
    refine ⟨hcalling, ?_, ?_⟩
    · have hperm := (List.perm_cons_erase hmem).map Prod.fst
      rw [hgetting] at hindices
      rw [List.perm_iff_count] at hindices hperm ⊢
      intro a
      have hcount := hindices a
      have hdevice := hperm a
      simp only [Getting.index?, Option.toList_some, Option.toList_none, List.map_cons,
        List.count_append,
        List.count_nil, List.count_cons] at hcount hdevice ⊢
      omega
    · have hlength := List.length_pos_of_mem hmem
      rw [hgetting] at hlengths
      change s.input_buffers_processing.length + s.unpushed.length =
        1 + (s.device.erase input).length
      change s.input_buffers_processing.length + s.unpushed.length = 0 + s.device.length at hlengths
      rw [List.length_erase_of_mem hmem]
      omega
  | giveBack hgetting =>
    refine ⟨hcalling, ?_, ?_⟩
    · rw [hgetting] at hindices
      rw [List.perm_iff_count] at hindices ⊢
      intro a
      have hcount := hindices a
      simp only [Getting.index?, Option.toList_some, Option.toList_none, List.count_append,
        List.count_nil] at hcount ⊢
      omega
    · rw [hgetting] at hlengths
      exact hlengths
  | popEmpty => exact ⟨hcalling, hindices, hlengths⟩
  | pop hgetting hprocessing =>
    refine ⟨hcalling, ?_, ?_⟩
    · rw [hgetting] at hindices
      exact hindices
    · rw [hgetting, hprocessing] at hlengths
      rename_i front input_buffers_processing
      change input_buffers_processing.length + s.unpushed.length = 0 + s.device.length
      change input_buffers_processing.length + 1 + s.unpushed.length =
        1 + s.device.length at hlengths
      omega

/-! ## The queue of kept buffers -/

/-- The device has given back all that it had, while `TryEncode` has not kept what it has queued. -/
def Overtaken (s : State) : Prop := s.trying = .queued ∧ s.device = []

/-- `GetDownstreamBuffer` does not pop meanwhile. -/
def PopsInTime (s : State) : Event → Prop
  | .pop => ¬ Overtaken s
  | _ => True

/-- Between the queueing and the push there is the one buffer. -/
theorem unpushed_of_queued (h : Inv camera_buffer_count s) (htrying : s.trying = .queued) :
    s.unpushed.length = 1 := by
  obtain ⟨buffer, hmsg⟩ := Option.isSome_iff_exists.mp
    (h.calling (by rw [htrying]; exact Trying.noConfusion))
  unfold State.unpushed
  rw [htrying, hmsg]
  rfl

/-- The queue is empty when `GetDownstreamBuffer` pops, exactly when the device has been faster. -/
theorem Inv.overtaken_iff (h : Inv camera_buffer_count s) {buffer : CameraBuffer}
    (hgetting : s.getting = .popping buffer) :
    s.input_buffers_processing = [] ↔ Overtaken s := by
  have hlengths := h.lengths
  rw [hgetting] at hlengths
  change _ = 1 + _ at hlengths
  constructor
  · intro hnone
    rw [hnone, List.length_nil] at hlengths
    have htrying : s.trying = .queued := by
      unfold State.unpushed at hlengths
      cases htrying : s.trying with
      | queued => rfl
      | _ =>
        rw [htrying] at hlengths
        change 0 + 0 = _ at hlengths
        omega
    rw [unpushed_of_queued h htrying] at hlengths
    exact ⟨htrying, List.length_eq_zero_iff.mp (by omega)⟩
  · rintro ⟨htrying, hdevice⟩
    rw [unpushed_of_queued h htrying, hdevice, List.length_nil] at hlengths
    exact List.length_eq_zero_iff.mp (by omega)

/-- Throughout a run, `GetDownstreamBuffer` never pops an empty queue, exactly when it never pops
while the device has given back all that it had, and `TryEncode` has not kept what it has queued. -/
theorem throughout_popped_iff (camera_buffer_count : ℕ) (es : List Event) :
    Throughout step (fun s => s.failed ≠ some .popEmpty) (initial camera_buffer_count) es ↔
      Along step PopsInTime (initial camera_buffer_count) es := by
  apply throughout_iff_along (fun s => Inv camera_buffer_count s ∧ s.failed ≠ some .popEmpty)
  · exact fun _ h => h.2
  · intro s ev s' h hintime hs
    refine ⟨h.1.step hs, ?_⟩
    cases (Step.of_step hs).2 with
    | throws => exact fun heq => by cases heq
    | popEmpty hgetting hnone => exact absurd ((h.1.overtaken_iff hgetting).mp hnone) hintime
    | _ => exact h.2
  · intro s ev s' h hintime hs
    cases (Step.of_step hs).2 with
    | popEmpty => exact not_not.mpr rfl
    | pop hgetting hprocessing =>
      have hnone := (h.1.overtaken_iff hgetting).mpr (not_not.mp hintime)
      rw [hprocessing] at hnone
      cases hnone
    | _ => exact absurd trivial hintime
  · exact ⟨.initial, fun heq => by cases heq⟩

/-- A frame is encoded before `TryEncode` has kept its buffer. -/
theorem not_throughout_popped :
    ¬ Throughout step (fun s => s.failed ≠ some .popEmpty) (initial 1)
      [.worker .start, .worker .create, .worker .register, .worker .startup, .worker (.postWork 0),
        .worker .test, .worker .take, .takeIndex, .qbuf, .dqbuf (0, 0), .giveBack, .pop] := by
  intro h
  exact h.last rfl rfl

/-! ## The indices suffice -/

/-- What the encoder has and has not released. -/
def State.held (s : State) : List CameraBuffer :=
  s.worker.queue ++ (s.current ++ s.input_buffers_processing)

/-- The camera has this many buffers, and hands one out only when the encoder does not have it. -/
def FromCamera (camera_buffer_count : ℕ) (s : State) : Event → Prop
  | .worker (.postWork buffer) => buffer < camera_buffer_count ∧ buffer ∉ s.held
  | _ => True

instance (s : State) : DecidablePred (FromCamera camera_buffer_count s)
  | .worker (.postWork buffer) =>
    inferInstanceAs (Decidable (buffer < camera_buffer_count ∧ buffer ∉ s.held))
  | .worker .start | .worker .create | .worker .stop | .worker .notify | .worker .join
  | .worker .clear | .worker .register | .worker .startup | .worker .test | .worker .block
  | .worker .wake | .worker .take | .worker .callback | .worker .ret | .takeIndex | .qbuf | .push
  | .dqbuf _ | .giveBack | .pop => isTrue trivial

/-- What the encoder has are different buffers of the camera. -/
structure Owned (camera_buffer_count : ℕ) (held : List CameraBuffer) : Prop where
  nodup : held.Nodup
  lt : ∀ buffer ∈ held, buffer < camera_buffer_count

/-- Fewer buffers are still the camera's. -/
theorem Owned.subperm {held held' : List CameraBuffer} (h : Owned camera_buffer_count held)
    (hsub : held'.Subperm held) : Owned camera_buffer_count held' := by
  obtain ⟨l, hperm, hsublist⟩ := hsub
  exact ⟨hperm.nodup_iff.mp (h.nodup.sublist hsublist),
    fun buffer hmem => h.lt buffer (hsublist.subset (hperm.mem_iff.mpr hmem))⟩

/-- No more buffers are held than the camera has. -/
theorem Owned.length_le {held : List CameraBuffer} (h : Owned camera_buffer_count held) :
    held.length ≤ camera_buffer_count := by
  have hsub : held ⊆ List.range camera_buffer_count :=
    fun buffer hmem => List.mem_range.mpr (h.lt buffer hmem)
  have hle := (List.subperm_of_subset h.nodup hsub).length_le
  rwa [List.length_range] at hle

/-- The buffer in hand is the one that the worker holds. -/
theorem current_of_trying {trying : Trying} (htrying : s.trying = trying)
    (hreturned : trying ≠ .returned) : s.current = s.worker.thread.msg?.toList := by
  unfold State.current
  split
  · rename_i heq
    exact absurd (htrying.symm.trans heq) hreturned
  · rfl

/-- A step with a buffer from the camera keeps it. -/
theorem Owned.step (hinv : Inv camera_buffer_count s) (h : Owned camera_buffer_count s.held)
    (hfrom : FromCamera camera_buffer_count s ev) (hs : step s ev = some s') :
    Owned camera_buffer_count s'.held := by
  cases (Step.of_step hs).2 with
  | returns htrying hworker =>
    cases WorkerThread.Step.of_step hworker with
    | callback =>
      unfold State.held State.current at h
      rw [htrying] at h
      exact h
  | @worker ev worker hev hworker =>
    obtain ⟨buffer, rfl, hmsg, hqueue⟩ | ⟨buffer, hnone, hmsg, hqueue⟩ | ⟨hmsg, hsub⟩ :=
      worker_of_step hev hworker
    · obtain ⟨hlt, hnot⟩ := hfrom
      have hheld : State.held { s with worker } =
          s.worker.queue ++ [buffer] ++ (s.current ++ s.input_buffers_processing) := by
        unfold State.held State.current
        dsimp only
        rw [hmsg, hqueue]
      have hperm : (State.held { s with worker }).Perm (buffer :: s.held) := by
        rw [hheld, List.append_assoc]
        exact List.perm_middle
      refine ⟨hperm.nodup_iff.mpr (List.nodup_cons.mpr ⟨hnot, h.nodup⟩), fun b hmem => ?_⟩
      obtain rfl | hmem := List.mem_cons.mp (hperm.mem_iff.mp hmem)
      · exact hlt
      · exact h.lt b hmem
    · have htrying : s.trying = .called := by
        by_contra hne
        have hsome := hinv.calling hne
        rw [hnone] at hsome
        cases hsome
      apply h.subperm
      have hheld : s.held = buffer :: (worker.queue ++ s.input_buffers_processing) := by
        unfold State.held
        rw [current_of_trying htrying Trying.noConfusion, hnone, hqueue]
        rfl
      have hheld' : State.held { s with worker } =
          worker.queue ++ buffer :: s.input_buffers_processing := by
        unfold State.held State.current
        dsimp only
        rw [htrying, hmsg]
        rfl
      rw [hheld, hheld']
      exact List.perm_middle.subperm
    · apply h.subperm
      unfold State.held State.current
      dsimp only
      rw [hmsg]
      exact (hsub.append (List.Sublist.refl _)).subperm
  | throws | dqbuf | giveBack | popEmpty => exact h
  | takeIndex _ htrying | qbuf _ htrying =>
    unfold State.held at h
    rw [current_of_trying htrying Trying.noConfusion] at h
    exact h
  | @push buffer hthread htrying =>
    have hperm : (s.worker.queue ++ (s.input_buffers_processing ++ [buffer])).Perm
        (s.worker.queue ++ ([buffer] ++ s.input_buffers_processing)) :=
      List.perm_append_comm.append_left _
    unfold State.held at h
    rw [current_of_trying htrying Trying.noConfusion, hthread] at h
    exact h.subperm hperm.subperm
  | pop _ hprocessing =>
    apply h.subperm
    have hsub : (s.worker.queue ++ (s.current ++ s.input_buffers_processing.tail)).Sublist s.held :=
      ((List.tail_sublist _).append_left _).append_left _
    rw [hprocessing] at hsub
    exact hsub.subperm

/-- With a camera of as many buffers as there are indices, `TryEncode` always finds an index,
whatever the device gives back and in whatever order. Every index is in one place, and the encoder
never has more buffers than there are. -/
theorem never_out_of_buffers {es : List Event}
    (hfrom : Along step (FromCamera camera_buffer_count) (initial camera_buffer_count) es)
    (hrun : run step (initial camera_buffer_count) es = some s) :
    s.failed ≠ some .noBuffers ∧ s.held.Nodup ∧ s.held.length ≤ camera_buffer_count ∧
      (s.input_buffers_available ++ (s.trying.index?.toList ++
        (s.device.map Prod.fst ++ s.getting.index?.toList))).Perm
          (List.range camera_buffer_count) := by
  have h := hfrom.run_invariant (fun s => Inv camera_buffer_count s ∧
    Owned camera_buffer_count s.held ∧ s.failed ≠ some .noBuffers) ?_ hrun ?_
  · obtain ⟨hinv, howned, hfailed⟩ := h
    exact ⟨hfailed, howned.nodup, howned.length_le, hinv.indices⟩
  · rintro s ev s' ⟨hinv, howned, hfailed⟩ hev hs
    refine ⟨hinv.step hs, howned.step hinv hev hs, ?_⟩
    cases (Step.of_step hs).2 with
    | throws hthread htrying hnone =>
      -- All indices would be with the device or on their way back, and so would as many buffers.
      have hle := howned.length_le
      have hindices := hinv.indices.length_eq
      have hlengths := hinv.lengths
      unfold State.held at hle
      rw [current_of_trying htrying Trying.noConfusion, hthread] at hle
      unfold State.unpushed at hlengths
      rw [htrying] at hlengths hindices
      rw [hnone] at hindices
      have hgetting : s.getting.index?.toList.length ≤ s.getting.buffer?.toList.length := by
        cases s.getting <;> simp [Getting.index?, Getting.buffer?]
      simp only [List.length_append, List.length_map, List.length_range, List.length_nil,
        WorkerThread.Thread.msg?, Trying.index?, Option.toList_some, Option.toList_none,
        List.length_cons] at hle hindices hlengths
      omega
    | popEmpty => exact fun heq => by cases heq
    | _ => exact hfailed
  · exact ⟨.initial, ⟨List.nodup_nil, fun b hb => by cases hb⟩, fun heq => by cases heq⟩

/-- Two frames; the first one is given back while the second one is queued. -/
def twoFrames : List Event :=
  [.worker .start, .worker .create, .worker .register, .worker .startup, .worker (.postWork 0),
    .worker (.postWork 1), .worker .test, .worker .take, .takeIndex, .qbuf, .push,
      .worker .callback,
    .worker .test, .worker .take, .takeIndex, .dqbuf (0, 0), .qbuf, .giveBack, .pop]

theorem never_out_of_buffers_twoFrames : ∃ s, run step (initial 2) twoFrames = some s ∧
    s.failed ≠ some .noBuffers ∧ s.held = [1] ∧ s.held.length ≤ 2 := by
  have hrun : run step (initial 2) twoFrames = some _ := rfl
  obtain ⟨hfailed, -, hle, -⟩ := never_out_of_buffers (by decide) hrun
  exact ⟨_, hrun, hfailed, rfl, hle⟩

/-! ## The order of the device -/

/-- The device gives its inputs back in the order in which they were queued. -/
def OldestFirst (s : State) : Event → Prop
  | .dqbuf input => s.device.head? = some input
  | _ => True

instance (s : State) : DecidablePred (OldestFirst s)
  | .dqbuf input => inferInstanceAs (Decidable (s.device.head? = some input))
  | .worker _ | .takeIndex | .qbuf | .push | .giveBack | .pop => isTrue trivial

/-- The queue of kept buffers follows the device. -/
structure Follows (s : State) : Prop where
  processing : s.input_buffers_processing ++ s.unpushed =
    s.getting.buffer?.toList ++ s.device.map Prod.snd
  released : s.dequeued = s.released ++ s.getting.buffer?.toList

/-- At first nothing was given to the device. -/
theorem Follows.initial : Follows (initial camera_buffer_count) := ⟨rfl, rfl⟩

/-- A step of a device that is done with the oldest first keeps it. -/
theorem Follows.step (hinv : Inv camera_buffer_count s) (h : Follows s) (horder : OldestFirst s ev)
    (hs : step s ev = some s') : Follows s' := by
  obtain ⟨hprocessing, hreleased⟩ := h
  cases (Step.of_step hs).2 with
  | returns htrying =>
    refine ⟨?_, hreleased⟩
    unfold State.unpushed at hprocessing
    rw [htrying] at hprocessing
    exact hprocessing
  | worker hev hworker =>
    refine ⟨?_, hreleased⟩
    rw [hinv.unpushed_worker hev hworker]
    exact hprocessing
  | throws | popEmpty => exact ⟨hprocessing, hreleased⟩
  | takeIndex _ htrying =>
    refine ⟨?_, hreleased⟩
    unfold State.unpushed at hprocessing
    rw [htrying] at hprocessing
    exact hprocessing
  | @qbuf buffer index hthread htrying =>
    refine ⟨?_, hreleased⟩
    unfold State.unpushed at hprocessing ⊢
    rw [htrying] at hprocessing
    dsimp only at hprocessing ⊢
    rw [List.append_nil] at hprocessing
    rw [hthread, hprocessing, List.map_append, List.append_assoc]
    rfl
  | push hthread htrying =>
    refine ⟨?_, hreleased⟩
    unfold State.unpushed at hprocessing ⊢
    rw [htrying, hthread] at hprocessing
    dsimp only
    rw [List.append_nil]
    exact hprocessing
  | @dqbuf input hgetting hmem =>
    obtain ⟨rest, hdevice⟩ := List.head?_eq_some_iff.mp horder
    rw [hgetting] at hprocessing hreleased
    rw [hdevice] at hprocessing
    refine ⟨?_, ?_⟩
    · dsimp only
      rw [hdevice, List.erase_cons_head]
      exact hprocessing
    · dsimp only
      rw [hreleased]
      exact congrArg (· ++ [input.2]) (List.append_nil _)
  | giveBack hgetting =>
    rw [hgetting] at hprocessing hreleased
    exact ⟨hprocessing, hreleased⟩
  | pop hgetting hfront =>
    rw [hgetting] at hprocessing hreleased
    rw [hfront] at hprocessing
    -- The front of the queue is what the device has given back.
    obtain ⟨rfl, hrest⟩ := List.cons.inj hprocessing
    exact ⟨hrest, hreleased.trans (List.append_nil _).symm⟩

/-- With a device that keeps the order, what `GetDownstreamBuffer` has released are the buffers that
the device has given back, in this order and each once, but for the one that it is about to release;
and every buffer that the device has is kept, or with `TryEncode` on its way there. So no buffer is
released while the device reads it. -/
theorem released_after_device {es : List Event}
    (horder : Along step OldestFirst (initial camera_buffer_count) es)
    (hrun : run step (initial camera_buffer_count) es = some s) :
    s.dequeued = s.released ++ s.getting.buffer?.toList ∧
      ∀ input ∈ s.device, input.2 ∈ s.input_buffers_processing ∨
        s.trying = .queued ∧ s.worker.thread.msg? = some input.2 := by
  have h := horder.run_invariant (fun s => Inv camera_buffer_count s ∧ Follows s)
    (fun _ _ _ h hev hs => ⟨h.1.step hs, h.2.step h.1 hev hs⟩) hrun ⟨.initial, .initial⟩
  obtain ⟨-, hprocessing, hreleased⟩ := h
  refine ⟨hreleased, fun input hmem => ?_⟩
  have hkept : input.2 ∈ s.input_buffers_processing ++ s.unpushed := by
    rw [hprocessing]
    exact List.mem_append_right _ (List.mem_map_of_mem hmem)
  obtain hkept | hkept := List.mem_append.mp hkept
  · exact .inl hkept
  · unfold State.unpushed at hkept
    split at hkept
    · exact .inr ⟨‹_›, Option.mem_toList.mp hkept⟩
    · cases hkept

theorem released_after_device_twoFrames : ∃ s, run step (initial 2) twoFrames = some s ∧
    s.released = [0] ∧ s.dequeued = s.released ++ s.getting.buffer?.toList ∧
      s.device = [(1, 1)] := by
  have hrun : run step (initial 2) twoFrames = some _ := rfl
  exact ⟨_, hrun, rfl, (released_after_device (by decide) hrun).1, rfl⟩

end AugmentedNormalcy.Prototype.V4l2Encoder
