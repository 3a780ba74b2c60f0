import AugmentedNormalcy.Camera.LibcameraCamera
import Mathlib.Data.List.Nodup

/-!
# Requests and the buffers that wrap them

A buffer may come back at any time: while its run goes on, between the halves of `StopCamera`, or in
a later run, when the request that it points to has been freed and another one may be at its
address. `queueRequest` tells these cases apart by `_camera_buffers`, which holds the buffers of the
current run only, and by `_camera_started`. In a run every request is in one place: still to be
queued, queued, wrapped by one buffer of the run, or cancelled. -/

namespace AugmentedNormalcy.Camera

open StepSystem LibcameraCamera

namespace LibcameraCamera

/-- The buffers that `queueRequest` would find. -/
def tracked (s : LibcameraCamera) : List CameraBuffer :=
  s.buffers.filter fun b => b.address ∈ s.camera_buffers

/-- The requests that are queued or will be. -/
def inFlight (s : LibcameraCamera) : List Request :=
  s.starting ++ s.queued ++ s.tracked.map CameraBuffer.request

end LibcameraCamera

/-- What `queueRequest` hands to libcamera, and how often it deletes. -/
structure Sound (s : LibcameraCamera) : Prop where
  /-- A request that is passed on is one of the current run. -/
  current : ∀ b ∈ s.buffers, s.Requeues b → b.request ∈ s.requests ∧ b.run = s.run
  /-- It is not in the queue, and `StartCamera` will not queue it either. -/
  not_queued : ∀ b ∈ s.buffers, s.Requeues b → b.request ∉ s.queued ∧ b.request ∉ s.starting
  /-- Every buffer that was made is either alive, with its output pointer, or was deleted once. -/
  deleted_once : (s.deleted ++ s.buffers.map CameraBuffer.serial).Perm (List.range s.created)

/-- The invariant of a camera. -/
structure Consistent (s : LibcameraCamera) : Prop where
  addresses : (s.buffers.map CameraBuffer.address).Nodup
  run : ∀ b ∈ s.tracked, b.run = s.run
  nodup : s.inFlight.Nodup
  subset : ∀ r ∈ s.inFlight, r ∈ s.requests
  idle : s.camera_started = false → s.queued = [] ∧ s.starting = []
  halted : s.stopping = true → s.camera_started = false
  cleared : s.camera_started = false → s.stopping = false → s.requests = []
  deleted_once : (s.deleted ++ s.buffers.map CameraBuffer.serial).Perm (List.range s.created)

variable {s s' : LibcameraCamera}

/-- Within a run, the buffer that is released next wraps a request that is nowhere else. -/
theorem Consistent.sound (h : Consistent s) : Sound s := by
  have hflight : ∀ b ∈ s.buffers, s.Requeues b → b ∈ s.tracked := fun b hb hrequeues =>
    List.mem_filter.mpr ⟨hb, decide_eq_true hrequeues.2⟩
  refine ⟨fun b hb hrequeues => ?_, fun b hb hrequeues => ?_, h.deleted_once⟩
  · have hmem : b.request ∈ s.inFlight :=
      List.mem_append_right _ (List.mem_map_of_mem (hflight b hb hrequeues))
    exact ⟨h.subset _ hmem, h.run b (hflight b hb hrequeues)⟩
  · have hdisjoint := List.disjoint_of_nodup_append h.nodup
    have hmem : b.request ∈ s.tracked.map CameraBuffer.request :=
      List.mem_map_of_mem (hflight b hb hrequeues)
    exact ⟨fun hqueued => hdisjoint (List.mem_append_right _ hqueued) hmem,
      fun hstarting => hdisjoint (List.mem_append_left _ hstarting) hmem⟩

/-! ## The buffers that are found -/

/-- A completed request adds the new buffer to those that are found. -/
theorem tracked_requestComplete (request : Request) {address : ℕ}
    (hfresh : ∀ b ∈ s.buffers, b.address ≠ address) :
    (s.requestComplete request address).tracked =
      ⟨address, request, s.run, s.created⟩ :: s.tracked := by
  have hothers : s.buffers.filter (fun b => b.address ∈ insert address s.camera_buffers) =
      s.tracked :=
    List.filter_congr fun b hb => by simp [hfresh b hb]
  simp [LibcameraCamera.tracked, LibcameraCamera.requestComplete] at hothers ⊢
  exact hothers

/-- A buffer that is alive has its address for itself. -/
theorem Consistent.address_ne (h : Consistent s) {b x : CameraBuffer} (hb : b ∈ s.buffers)
    (hx : x ∈ s.buffers.erase b) : x.address ≠ b.address := by
  have hperm := (List.perm_cons_erase hb).map CameraBuffer.address
  have hnodup := List.Perm.nodup_iff hperm |>.mp h.addresses
  intro heq
  exact (List.nodup_cons.mp hnodup).1 (heq ▸ List.mem_map_of_mem hx)

/-- A released buffer is not found any more, and the others are as before. -/
theorem Consistent.tracked_release (h : Consistent s) {b : CameraBuffer} (hb : b ∈ s.buffers) :
    ((s.buffers.erase b).filter fun x => x.address ∈ s.camera_buffers.erase b.address) =
      s.tracked.erase b := by
  calc ((s.buffers.erase b).filter fun x => x.address ∈ s.camera_buffers.erase b.address)
      = (s.buffers.erase b).filter fun x => x.address ∈ s.camera_buffers :=
        List.filter_congr fun x hx => by simp [h.address_ne hb hx]
    _ = s.tracked.erase b := (List.erase_filter ..).symm

/-! ## Steps -/

namespace Consistent

theorem initial : Consistent LibcameraCamera.initial where
  addresses := .nil
  run _ hb := by cases hb
  nodup := .nil
  subset _ hr := by cases hr
  idle _ := ⟨rfl, rfl⟩
  halted _ := rfl
  cleared _ _ := rfl
  deleted_once := .refl _

/-- Nothing is in flight in a camera that was stopped and cleared. -/
theorem inFlight_eq_nil (h : Consistent s) (hstarted : s.camera_started = false)
    (hstopping : s.stopping = false) : s.inFlight = [] := by
  rw [List.eq_nil_iff_forall_not_mem]
  intro r hr
  have := h.subset r hr
  simp [h.cleared hstarted hstopping] at this

/-- Deleting a buffer leaves the others in order. -/
theorem deleted_once_release (h : Consistent s) {b : CameraBuffer} (hb : b ∈ s.buffers) :
    (s.deleted ++ [b.serial] ++ (s.buffers.erase b).map CameraBuffer.serial).Perm
      (List.range s.created) := by
  have hperm := (List.perm_cons_erase hb).map CameraBuffer.serial
  rw [List.append_assoc]
  calc (s.deleted ++ (b.serial :: (s.buffers.erase b).map CameraBuffer.serial)).Perm
        (s.deleted ++ s.buffers.map CameraBuffer.serial) := hperm.symm.append_left s.deleted
    List.Perm _ (List.range s.created) := h.deleted_once

theorem addresses_release (h : Consistent s) (b : CameraBuffer) :
    ((s.buffers.erase b).map CameraBuffer.address).Nodup :=
  h.addresses.sublist (List.erase_sublist.map _)

/-- The request of a buffer that is found goes back to the queue. -/
theorem requeue (h : Consistent s) {b : CameraBuffer} (hb : b ∈ s.buffers)
    (hrequeues : s.Requeues b) :
    Consistent { s with
      camera_buffers := s.camera_buffers.erase b.address
      buffers := s.buffers.erase b
      deleted := s.deleted ++ [b.serial]
      queued := s.queued ++ [b.request] } := by
  have htracked : b ∈ s.tracked := List.mem_filter.mpr ⟨hb, decide_eq_true hrequeues.2⟩
  have hperm : (s.starting ++ (s.queued ++ [b.request]) ++
      (s.tracked.erase b).map CameraBuffer.request).Perm s.inFlight := by
    have hcons := (List.perm_cons_erase htracked).map CameraBuffer.request
    simp only [LibcameraCamera.inFlight, List.append_assoc, List.singleton_append]
    exact ((hcons.symm.append_left s.queued).append_left s.starting)
  refine ⟨h.addresses_release b, ?_, ?_, ?_, ?_, h.halted, h.cleared, h.deleted_once_release hb⟩
  · intro x hx
    rw [LibcameraCamera.tracked, h.tracked_release hb] at hx
    exact h.run x (List.mem_of_mem_erase hx)
  · rw [LibcameraCamera.inFlight, LibcameraCamera.tracked, h.tracked_release hb]
    exact (List.Perm.nodup_iff hperm).mpr h.nodup
  · rw [LibcameraCamera.inFlight, LibcameraCamera.tracked, h.tracked_release hb]
    exact fun r hr => h.subset r (hperm.mem_iff.mp hr)
  · exact fun hstopped => absurd (hstopped ▸ hrequeues.1) (by decide)

/-- A buffer that is not found, or comes back while the camera is stopped, is only deleted. -/
theorem delete (h : Consistent s) {b : CameraBuffer} (hb : b ∈ s.buffers) :
    Consistent { s with
      camera_buffers := s.camera_buffers.erase b.address
      buffers := s.buffers.erase b
      deleted := s.deleted ++ [b.serial] } := by
  have hsub : (s.starting ++ s.queued ++ (s.tracked.erase b).map CameraBuffer.request).Sublist
      s.inFlight := (List.erase_sublist.map _).append_left _
  refine ⟨h.addresses_release b, ?_, ?_, ?_, h.idle, h.halted, h.cleared, h.deleted_once_release hb⟩
  · intro x hx
    rw [LibcameraCamera.tracked, h.tracked_release hb] at hx
    exact h.run x (List.mem_of_mem_erase hx)
  · rw [LibcameraCamera.inFlight, LibcameraCamera.tracked, h.tracked_release hb]
    exact h.nodup.sublist hsub
  · rw [LibcameraCamera.inFlight, LibcameraCamera.tracked, h.tracked_release hb]
    exact fun r hr => h.subset r (hsub.mem hr)

/-- A completed request goes from the queue to its buffer. -/
theorem requestComplete (h : Consistent s) {request : Request} {address : ℕ}
    (hqueued : request ∈ s.queued) (hfresh : ∀ b ∈ s.buffers, b.address ≠ address) :
    Consistent (s.requestComplete request address) := by
  have htracked := tracked_requestComplete request hfresh
  have hperm : (s.requestComplete request address).inFlight.Perm s.inFlight := by
    rw [LibcameraCamera.inFlight, htracked]
    simp only [LibcameraCamera.inFlight, List.append_assoc, List.map_cons]
    refine List.Perm.append_left s.starting ?_
    calc (s.queued.erase request ++ request :: s.tracked.map CameraBuffer.request).Perm
          (request :: s.queued.erase request ++ s.tracked.map CameraBuffer.request) :=
          List.perm_middle
      List.Perm _ (s.queued ++ s.tracked.map CameraBuffer.request) :=
          (List.perm_cons_erase hqueued).symm.append_right _
  refine ⟨?_, ?_, hperm.nodup_iff.mpr h.nodup, fun r hr => h.subset r (hperm.mem_iff.mp hr), ?_,
    h.halted, h.cleared, ?_⟩
  · refine List.nodup_cons.mpr ⟨fun hmem => ?_, h.addresses⟩
    obtain ⟨b, hb, heq⟩ := List.mem_map.mp hmem
    exact hfresh b hb heq
  · intro b hb
    rw [htracked] at hb
    rcases List.mem_cons.mp hb with rfl | hb
    · rfl
    · exact h.run b hb
  · intro hstarted
    obtain ⟨hnone, -⟩ := h.idle hstarted
    simp [hnone] at hqueued
  · show (s.deleted ++ s.created :: s.buffers.map CameraBuffer.serial).Perm
      (List.range (s.created + 1))
    rw [List.range_succ]
    calc (s.deleted ++ s.created :: s.buffers.map CameraBuffer.serial).Perm
          (s.created :: (s.deleted ++ s.buffers.map CameraBuffer.serial)) := List.perm_middle
      List.Perm _ (s.created :: List.range s.created) := h.deleted_once.cons _
      List.Perm _ (List.range s.created ++ [s.created]) := (List.perm_append_singleton _ _).symm

/-- A start finds nothing of the run before, and queues its own requests. -/
theorem startCamera (h : Consistent s) {requests : List Request}
    (hstarted : s.camera_started = false) (hstopping : s.stopping = false)
    (hnodup : requests.Nodup) :
    Consistent { s with
      camera_started := true
      requests := s.requests ++ requests
      starting := s.requests ++ requests
      run := s.run + 1 } := by
  have hnone := h.inFlight_eq_nil hstarted hstopping
  obtain ⟨hqueued, -⟩ := h.idle hstarted
  have htracked : s.tracked = [] := List.map_eq_nil_iff.mp (List.append_eq_nil_iff.mp hnone).2
  have hflight : s.requests ++ requests ++ s.queued ++ s.tracked.map CameraBuffer.request =
      requests := by
    simp [h.cleared hstarted hstopping, hqueued, htracked]
  refine ⟨h.addresses, ?_, ?_, ?_, (fun hno => by cases hno), fun hyes => ?_,
    (fun hno => by cases hno),
    h.deleted_once⟩
  · intro b hb
    have hb : b ∈ s.tracked := hb
    simp [htracked] at hb
  · exact (congrArg List.Nodup hflight).mpr hnodup
  · intro r hr
    have hr : r ∈ s.requests ++ requests ++ s.queued ++ s.tracked.map CameraBuffer.request := hr
    exact List.mem_append_right _ (hflight ▸ hr)
  · exact absurd (hstopping.symm.trans hyes) (by decide)

theorem startQueue (h : Consistent s) {request : Request} {starting : List Request}
    (hstarting : s.starting = request :: starting) :
    Consistent { s with starting, queued := s.queued ++ [request] } := by
  have hperm : (starting ++ (s.queued ++ [request]) ++ s.tracked.map CameraBuffer.request).Perm
      s.inFlight := by
    simp only [LibcameraCamera.inFlight, hstarting, List.append_assoc, List.cons_append,
      List.nil_append]
    rw [← List.append_assoc]
    exact List.perm_middle.trans (by rw [List.append_assoc])
  refine ⟨h.addresses, h.run, hperm.nodup_iff.mpr h.nodup,
    fun r hr => h.subset r (hperm.mem_iff.mp hr), ?_, h.halted, h.cleared, h.deleted_once⟩
  intro hstarted
  obtain ⟨-, hnone⟩ := h.idle hstarted
  simp [hnone] at hstarting

/-- The second half of a stop clears the set, so that no buffer is found any more. -/
theorem stopClear (h : Consistent s) (hstopping : s.stopping = true) :
    Consistent { s with camera_buffers := ∅, requests := [], stopping := false } := by
  obtain ⟨hqueued, hstarting⟩ := h.idle (h.halted hstopping)
  have htracked : (s.buffers.filter fun b => b.address ∈ (∅ : Finset ℕ)) = [] := by simp
  have hflight : s.starting ++ s.queued ++
      (s.buffers.filter fun b => b.address ∈ (∅ : Finset ℕ)).map CameraBuffer.request = [] := by
    rw [htracked, hqueued, hstarting]
    rfl
  refine ⟨h.addresses, ?_, ?_, ?_, h.idle, (fun hno => by cases hno), fun _ _ => rfl,
    h.deleted_once⟩
  · intro b hb
    rw [LibcameraCamera.tracked, htracked] at hb
    cases hb
  · rw [LibcameraCamera.inFlight, LibcameraCamera.tracked, hflight]
    exact .nil
  · rw [LibcameraCamera.inFlight, LibcameraCamera.tracked, hflight]
    exact fun r hr => by cases hr

theorem step {e : Event} (h : Consistent s) (hs : s.step e = some s') : Consistent s' := by
  cases Step.of_step hs with
  | startCamera hstarted hstopping hnodup => exact h.startCamera hstarted hstopping hnodup
  | startQueue hstarting => exact h.startQueue hstarting
  | requestComplete hqueued hfresh => exact h.requestComplete hqueued hfresh
  | @requestCancelled request =>
    have hsub : (s.starting ++ s.queued.erase request ++ s.tracked.map CameraBuffer.request).Sublist
        s.inFlight := (List.erase_sublist.append_left _).append_right _
    exact ⟨h.addresses, h.run, h.nodup.sublist hsub, fun r hr => h.subset r (hsub.mem hr),
      fun hstarted => by simp [h.idle hstarted], h.halted, h.cleared, h.deleted_once⟩
  | requeue hmem hrequeues => exact h.requeue hmem hrequeues
  | delete hmem => exact h.delete hmem
  | stopCamera hstarting =>
    -- `Camera::stop` leaves the buffers of the run, until the second half forgets them.
    have hsub : (s.starting ++ [] ++ s.tracked.map CameraBuffer.request).Sublist s.inFlight :=
      ((List.nil_sublist _).append_left _).append_right _
    exact ⟨h.addresses, h.run, h.nodup.sublist hsub, fun r hr => h.subset r (hsub.mem hr),
      fun _ => ⟨rfl, hstarting⟩, fun _ => rfl, (fun _ hno => by cases hno), h.deleted_once⟩
  | stopAgain _ hstarted =>
    exact ⟨h.addresses, h.run, h.nodup, h.subset, h.idle, fun _ => hstarted,
      (fun _ hno => by cases hno), h.deleted_once⟩
  | stopClear hstopping => exact h.stopClear hstopping

end Consistent

/-- In every state that starts, completions, releases and the halves of stops lead to, a buffer
whose request `queueRequest` would pass on is one of the current run, its request is one of
`_requests` and not queued, and every buffer is deleted once, when its output pointer is
released. -/
theorem requests_sound (h : Reachable step initial s) : Sound s :=
  (h.invariant Consistent (fun _ _ _ h hs => h.step hs) .initial).sound

/-- A buffer of the first run comes back in the second one, whose request has the same address. -/
def lateRelease : List Event :=
  [.startCamera [7], .startQueue, .requestComplete 7 100, .stopCamera, .stopClear,
    .startCamera [7], .startQueue, .requestComplete 7 101, .release ⟨100, 7, 1, 0⟩]

theorem requests_sound_lateRelease : Sound
    { camera_started := true
      requests := [7]
      camera_buffers := {101}
      queued := []
      starting := []
      stopping := false
      buffers := [⟨101, 7, 2, 1⟩]
      deleted := [0]
      created := 2
      run := 2 } :=
  requests_sound ⟨lateRelease, by decide⟩

end AugmentedNormalcy.Camera
