import AugmentedNormalcy.Foundation.Run
import Mathlib.Data.Finset.Basic

/-!
# The libcamera camera

`LibcameraCamera` of `src/internal/infrastructure/camera/libcamera_camera.cpp`. Three parties take
steps: the owner, who starts and stops the camera; libcamera, which completes requests; and whoever
holds the output pointers, whose deleter is `queueRequest`. `queueRequest` and the first half of
`StopCamera` hold `_camera_stop_mutex`, so each is one step; `StartCamera` queues its requests one
by one, and anything may happen in between.

A pointer is an address. The requests of a run are freed at its end and their addresses may be used
again, and so may that of a `CameraBuffer` once it has been deleted. What libcamera promises is in
the guards: only a request that is queued completes, and `Camera::stop` returns when none is. -/

namespace AugmentedNormalcy.Camera

/-- A `Request *`. -/
abbrev Request := ℕ

/-- A `CameraBuffer` that has not been deleted. -/
structure CameraBuffer where
  address : ℕ
  /-- What `GetRequest` returns. -/
  request : Request
  /-- The run in which the buffer was made, counting starts of the camera. -/
  run : ℕ
  /-- How many buffers were made before. -/
  serial : ℕ
deriving DecidableEq

structure LibcameraCamera where
  camera_started : Bool
  requests : List Request
  camera_buffers : Finset ℕ
  /-- The requests that libcamera has in its queue. -/
  queued : List Request
  /-- The requests that `StartCamera` has still to queue. -/
  starting : List Request
  /-- `StopCamera` is between its two halves. -/
  stopping : Bool
  /-- The buffers whose output pointer has not been released. -/
  buffers : List CameraBuffer
  /-- The buffers that were deleted, by their serials. -/
  deleted : List ℕ
  /-- How many buffers were made. -/
  created : ℕ
  /-- How many times the camera was started. -/
  run : ℕ
deriving DecidableEq

/-- A step of the owner, of libcamera, or of a consumer. -/
inductive Event where
  /-- `makeRequests` and `setControls`: the requests are created and the camera is started. -/
  | startCamera (requests : List Request)
  /-- `StartCamera` queues its next request. -/
  | startQueue
  /-- `requestComplete`, with the address of the `CameraBuffer` that it makes. -/
  | requestComplete (request : Request) (address : ℕ)
  /-- `requestComplete` of a request that was cancelled. -/
  | requestCancelled (request : Request)
  /-- The last copy of an output pointer is released. -/
  | release (buffer : CameraBuffer)
  /-- `StopCamera` under `_camera_stop_mutex`. -/
  | stopCamera
  /-- The rest of `StopCamera`. -/
  | stopClear
deriving DecidableEq

namespace LibcameraCamera

def initial : LibcameraCamera where
  camera_started := false
  requests := []
  camera_buffers := ∅
  queued := []
  starting := []
  stopping := false
  buffers := []
  deleted := []
  created := 0
  run := 0

/-- `queueRequest` passes the request of the buffer to libcamera. -/
def Requeues (s : LibcameraCamera) (buffer : CameraBuffer) : Prop :=
  s.camera_started = true ∧ buffer.address ∈ s.camera_buffers

instance (s : LibcameraCamera) (buffer : CameraBuffer) : Decidable (s.Requeues buffer) :=
  inferInstanceAs (Decidable (_ ∧ _))

/-- `queueRequest` of a buffer, which it deletes. -/
def queueRequest (s : LibcameraCamera) (buffer : CameraBuffer) : LibcameraCamera :=
  let request_found := decide (buffer.address ∈ s.camera_buffers)
  let request := buffer.request
  let s := { s with
    camera_buffers := s.camera_buffers.erase buffer.address
    buffers := s.buffers.erase buffer
    deleted := s.deleted ++ [buffer.serial] }
  if !s.camera_started || !request_found then s
  else { s with queued := s.queued ++ [request] }

/-- `requestComplete` of a request that was not cancelled. -/
def requestComplete (s : LibcameraCamera) (request : Request) (address : ℕ) : LibcameraCamera :=
  { s with
    queued := s.queued.erase request
    camera_buffers := insert address s.camera_buffers
    buffers := ⟨address, request, s.run, s.created⟩ :: s.buffers
    created := s.created + 1 }

/-- One step. `new` does not return the address of an object that is alive. -/
def step (s : LibcameraCamera) : Event → Option LibcameraCamera
  | .startCamera requests =>
    if s.camera_started = false ∧ s.stopping = false ∧ requests.Nodup then
      some { s with
        camera_started := true
        requests := s.requests ++ requests
        starting := s.requests ++ requests
        run := s.run + 1 }
    else none
  | .startQueue =>
    match s.starting with
    | [] => none
    | request :: starting => some { s with starting, queued := s.queued ++ [request] }
  | .requestComplete request address =>
    if request ∈ s.queued ∧ ∀ b ∈ s.buffers, b.address ≠ address then
      some (s.requestComplete request address)
    else none
  | .requestCancelled request =>
    if request ∈ s.queued then some { s with queued := s.queued.erase request } else none
  | .release buffer => if buffer ∈ s.buffers then some (s.queueRequest buffer) else none
  | .stopCamera =>
    if s.starting = [] ∧ s.stopping = false then
      if s.camera_started then
        some { s with queued := [], camera_started := false, stopping := true }
      else some { s with stopping := true }
    else none
  | .stopClear =>
    if s.stopping then some { s with camera_buffers := ∅, requests := [], stopping := false }
    else none

/-- What each step finds, and what it leaves. -/
inductive Step (s : LibcameraCamera) : Event → LibcameraCamera → Prop
  | startCamera {requests : List Request} (hstarted : s.camera_started = false)
      (hstopping : s.stopping = false) (hnodup : requests.Nodup) :
    Step s (.startCamera requests)
      { s with
        camera_started := true
        requests := s.requests ++ requests
        starting := s.requests ++ requests
        run := s.run + 1 }
  | startQueue {request : Request} {starting : List Request}
      (hstarting : s.starting = request :: starting) :
    Step s .startQueue { s with starting, queued := s.queued ++ [request] }
  | requestComplete {request : Request} {address : ℕ} (hqueued : request ∈ s.queued)
      (hfresh : ∀ b ∈ s.buffers, b.address ≠ address) :
    Step s (.requestComplete request address) (s.requestComplete request address)
  | requestCancelled {request : Request} (hqueued : request ∈ s.queued) :
    Step s (.requestCancelled request) { s with queued := s.queued.erase request }
  | requeue {buffer : CameraBuffer} (hmem : buffer ∈ s.buffers) (hrequeues : s.Requeues buffer) :
    Step s (.release buffer)
      { s with
        camera_buffers := s.camera_buffers.erase buffer.address
        buffers := s.buffers.erase buffer
        deleted := s.deleted ++ [buffer.serial]
        queued := s.queued ++ [buffer.request] }
  | delete {buffer : CameraBuffer} (hmem : buffer ∈ s.buffers) (hrequeues : ¬ s.Requeues buffer) :
    Step s (.release buffer)
      { s with
        camera_buffers := s.camera_buffers.erase buffer.address
        buffers := s.buffers.erase buffer
        deleted := s.deleted ++ [buffer.serial] }
  | stopCamera (hstarting : s.starting = []) (hstarted : s.camera_started = true) :
    Step s .stopCamera { s with queued := [], camera_started := false, stopping := true }
  | stopAgain (hstarting : s.starting = []) (hstarted : s.camera_started = false) :
    Step s .stopCamera { s with stopping := true }
  | stopClear (hstopping : s.stopping = true) :
    Step s .stopClear { s with camera_buffers := ∅, requests := [], stopping := false }

/-- `queueRequest`, by whether it passes the request on. -/
theorem queueRequest_eq (s : LibcameraCamera) (buffer : CameraBuffer) :
    s.queueRequest buffer =
      { s with
        camera_buffers := s.camera_buffers.erase buffer.address
        buffers := s.buffers.erase buffer
        deleted := s.deleted ++ [buffer.serial]
        queued := if s.Requeues buffer then s.queued ++ [buffer.request] else s.queued } := by
  unfold queueRequest Requeues
  by_cases hstarted : s.camera_started = true
  · by_cases hfound : buffer.address ∈ s.camera_buffers
    · simp [hstarted, hfound]
    · simp [hstarted, hfound]
  · simp [hstarted]

theorem Step.of_step {s s' : LibcameraCamera} {e : Event} (hs : s.step e = some s') :
    s.Step e s' := by
  cases e with
  | startCamera requests =>
    obtain ⟨⟨hstarted, hstopping, hnodup⟩, ⟨⟩⟩ := Option.ite_none_right_eq_some.mp hs
    exact .startCamera hstarted hstopping hnodup
  | startQueue =>
    simp only [step] at hs
    split at hs
    · cases hs
    · cases hs
      exact .startQueue ‹_›
  | requestComplete request address =>
    obtain ⟨⟨hqueued, hfresh⟩, ⟨⟩⟩ := Option.ite_none_right_eq_some.mp hs
    exact .requestComplete hqueued hfresh
  | requestCancelled request =>
    obtain ⟨hqueued, ⟨⟩⟩ := Option.ite_none_right_eq_some.mp hs
    exact .requestCancelled hqueued
  | release buffer =>
    obtain ⟨hmem, ⟨⟩⟩ := Option.ite_none_right_eq_some.mp hs
    rw [queueRequest_eq]
    by_cases hrequeues : s.Requeues buffer
    · rw [if_pos hrequeues]
      exact .requeue hmem hrequeues
    · rw [if_neg hrequeues]
      exact .delete hmem hrequeues
  | stopCamera =>
    obtain ⟨⟨hstarting, -⟩, hs⟩ := Option.ite_none_right_eq_some.mp hs
    split_ifs at hs with hstarted
    · cases hs
      exact .stopCamera hstarting hstarted
    · cases hs
      exact .stopAgain hstarting (Bool.eq_false_of_not_eq_true hstarted)
  | stopClear =>
    obtain ⟨hstopping, ⟨⟩⟩ := Option.ite_none_right_eq_some.mp hs
    exact .stopClear hstopping

end LibcameraCamera

end AugmentedNormalcy.Camera
