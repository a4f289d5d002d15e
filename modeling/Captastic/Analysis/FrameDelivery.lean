import Captastic.Analysis.Acquisitions
import Captastic.Analysis.RegionReadback

/-!
# What a delivered frame is made from

A capture delivers its frames from the retained image, under the number and the presentation
time that the books have for it (`Delivers`); the pointer that is drawn into them is the one
that was visible when the image was retained (`drawn_pointer`).
-/

set_option autoImplicit false

namespace Captastic.Analysis

open Captastic.Library Captastic.Model

variable {P : World → Prop}

/-! ## Delivering -/

/-- The pointer that is drawn into the retained image. -/
def drawn_pointer (backend : DxgiBackend) (cursor : CursorMode) : Option PointerSample :=
  if cursor = .Exclude then none
  else backend.pointer.sample_at (backend.latest.bind RetainedFrame.pointer_at)

/-- A record of the pointer that does not say where it was drawn. -/
def NotComposited (cursor : Option CursorCapture) : Prop :=
  ∀ x y width height, cursor ≠ some (.Composited x y width height)

/-- The reading of the counter that a frame's time is counted from: the one taken after the
probe; or, for an image that a fresh capture waited for, the one taken before the wait, and then
the image is no older than the trigger and is not called current.
SRC: dxgi.rs:647-648, dxgi.rs:682-692, dxgi.rs:820-825 -/
def Anchored (request : CaptureRequest) (calls : CaptureCalls) (metadata : FrameMetadata)
    (anchor : Anchor) : Prop :=
  calls.latest_anchor = .ok anchor ∨
    (∃ timeout_ms, request.mode = .Fresh timeout_ms) ∧ calls.fresh_anchor = .ok anchor ∧
      metadata.verified_current_offset_ns = none ∧
      ∃ offset, metadata.presentation_offset_ns = some offset ∧ 0 ≤ offset

/-- What a returned frame is made from: the retained image, under its number and its time. -/
structure Delivers (request : CaptureRequest) (calls : CaptureCalls) (outcome : CaptureOutcome)
    (w : World) : Prop where
  described : ∃ latest anchor, w.backend.latest = some latest ∧
    Anchored request calls outcome.metadata anchor ∧
    outcome.metadata.frame_generation = some latest.generation ∧
    outcome.metadata.presentation_offset_ns =
      some (presentation_offset_ns anchor w.backend.qpc_frequency latest.presentation_qpc)
  native : outcome.native_frame =
    if request.retain_native_frame then some ⟨w.backend.retained, outcome.metadata⟩ else none
  frame : ∀ frame, outcome.frame = some frame → ∃ metadata,
    readback calls.gpu calls.pool calls.cpu_ready_ns w.backend.retained metadata
      (drawn_pointer w.backend request.cursor) = .ok (frame, outcome.metadata) ∧
    NotComposited metadata.cursor
  unlocked : outcome.frame.isSome = true ∨ outcome.native_frame.isSome = true →
    w.desktop.lock_poisoned = false

/-- A decision about the pointer: the metadata changes in what they record of it, and what is
drawn is the pointer of the retained image. -/
def Decides (P : World → Prop) (cursor : CursorMode)
    (point : FrameMetadata → Call (Option (Int × Int) × FrameMetadata)) : Prop :=
  ∀ metadata : FrameMetadata, metadata.cursor = none → Triple P (point metadata) (Post
    (fun decision w => P w ∧ NotComposited decision.2.cursor ∧
      (∃ recorded, decision.2 = { metadata with cursor := recorded }) ∧
      w.backend.pointer.sample_at decision.1 = drawn_pointer w.backend cursor)
    (fun _ w => P w))

/-- A GPU that is not locked is left as it is. -/
theorem gpu_locked_false (gpu : Gpu) : gpu.locked false = gpu := rfl

/-- A readback through a poisoned lock fails. -/
theorem unlocked_of_readback {gpu : Gpu} {poisoned : Bool} {pool : CpuBufferPool}
    {cpu_ready_ns : Nat} {texture : Texture} {metadata metadata' : FrameMetadata}
    {pointer : Option PointerSample} {frame : CpuFrame}
    (read : readback (gpu.locked poisoned) pool cpu_ready_ns texture metadata pointer =
      .ok (frame, metadata')) : poisoned = false := by
  cases poisoned with
  | false => rfl
  | true =>
    obtain ⟨-, ⟨mapped, maps⟩, -⟩ := readable_of_readback read
    cases maps

/-- SRC: dxgi.rs:1409-1428 -/
theorem snapshot_texture_spec (request : CaptureRequest) (calls : CaptureCalls)
    (texture : Texture) (metadata : FrameMetadata) :
    Triple P (snapshot_texture request calls texture metadata) (Post
      (fun copied w => P w ∧
        copied.1 = (if request.retain_native_frame then some texture else none) ∧
        (∃ copies, copied.2 = { metadata with copy_count := copies }) ∧
        (copied.1.isSome = true → w.desktop.lock_poisoned = false))
      (fun _ w => P w)) := by
  unfold snapshot_texture
  split
  · refine Triple.bind (check_spec calls.snapshot) ?_ (fun fault w post => post.1)
    intro _
    refine Triple.bind lock_context_spec ?_ (fun fault w post => post.1.1)
    intro _
    refine Triple.pure ?_
    rintro w ⟨⟨holds, -⟩, unlocked⟩
    exact ⟨holds, rfl, ⟨_, rfl⟩, fun _ => unlocked⟩
  · exact Triple.pure fun w holds => ⟨holds, rfl, ⟨_, rfl⟩, nofun⟩

/-- **Delivering a frame** of the retained image.
SRC: dxgi.rs:751-788, dxgi.rs:868-904 -/
theorem deliver_spec {request : CaptureRequest} {calls : CaptureCalls} {texture : Texture}
    {metadata : FrameMetadata}
    {point : FrameMetadata → Call (Option (Int × Int) × FrameMetadata)}
    (decides : Decides P request.cursor point) (no_cursor : metadata.cursor = none)
    (retained : ∀ w, P w → w.backend.retained = texture)
    (described : ∀ w, P w → ∃ latest anchor, w.backend.latest = some latest ∧
      Anchored request calls metadata anchor ∧
      metadata.frame_generation = some latest.generation ∧
      metadata.presentation_offset_ns =
        some (presentation_offset_ns anchor w.backend.qpc_frequency latest.presentation_qpc)) :
    Triple P (deliver request calls texture metadata point) (Post
      (fun outcome w => P w ∧ Delivers request calls outcome w ∧
        outcome.metadata.verified_current_offset_ns = metadata.verified_current_offset_ns)
      (fun _ w => P w)) := by
  unfold deliver
  refine Triple.bind (snapshot_texture_spec request calls texture metadata) ?_
    (fun fault w post => post)
  rintro ⟨copy, metadata₁⟩ w result w' ⟨holds, copy_eq, ⟨copies, metadata₁_eq⟩, unlocked⟩ ran
  simp only at copy_eq metadata₁_eq unlocked ran
  subst metadata₁_eq
  have native_eq : ∀ w, P w → ∀ metadata' : FrameMetadata,
      (copy.map fun texture => DxgiGpuFrame.mk texture metadata') =
        if request.retain_native_frame then some ⟨w.backend.retained, metadata'⟩ else none := by
    intro w holds metadata'
    rw [copy_eq, retained w holds]
    cases request.retain_native_frame with
    | true => rfl
    | false => rfl
  by_cases cpu : request.cpu_frame = true
  · rw [if_pos cpu] at ran
    refine Triple.bind (R := Post (fun outcome w => P w ∧ Delivers request calls outcome w ∧
        outcome.metadata.verified_current_offset_ns = metadata.verified_current_offset_ns)
        fun _ w => P w)
      (decides { metadata with copy_count := copies } no_cursor) ?_
      (fun fault w post => post) w result w' holds ran
    rintro ⟨pointer_at, metadata₂⟩
    refine Triple.bind_read ?_
    intro read
    refine Triple.bind (Triple.lift (Q := Post (fun made w => P w ∧
      ∃ recorded, NotComposited recorded ∧ w.desktop.lock_poisoned = false ∧
        readback calls.gpu calls.pool calls.cpu_ready_ns texture
          { metadata with copy_count := copies, cursor := recorded }
          (drawn_pointer w.backend request.cursor) = .ok made) fun _ w => P w) ?_) ?_
      (fun fault w post => post)
    · rintro w ⟨⟨holds, quiet, ⟨recorded, metadata₂_eq⟩, sample⟩, rfl⟩
      simp only at quiet metadata₂_eq sample
      subst metadata₂_eq
      rw [sample]
      cases made : readback (calls.gpu.locked read.desktop.lock_poisoned) calls.pool
          calls.cpu_ready_ns texture { metadata with copy_count := copies, cursor := recorded }
          (drawn_pointer read.backend request.cursor) with
      | error fault => exact holds
      | ok made' =>
        have unpoisoned := unlocked_of_readback made
        rw [unpoisoned, gpu_locked_false] at made
        exact ⟨holds, recorded, quiet, unpoisoned, made⟩
    · rintro ⟨frame, metadata₃⟩
      refine Triple.pure ?_
      rintro w ⟨holds, recorded, quiet, unpoisoned, made⟩
      obtain ⟨bare, slot, -, metadata₃_eq, -, -⟩ := readback_ok made
      refine ⟨holds, ⟨?_, native_eq w holds metadata₃, ?_, fun _ => unpoisoned⟩, ?_⟩
      · obtain ⟨latest, anchor, latest_eq, anchored, generation, offset⟩ := described w holds
        refine ⟨latest, anchor, latest_eq, ?_, ?_, ?_⟩
        · rw [metadata₃_eq]
          exact anchored
        · rw [← generation, metadata₃_eq]
          rfl
        · rw [← offset, metadata₃_eq]
          rfl
      · intro frame' same
        obtain rfl := Option.some.inj same
        rw [retained w holds]
        exact ⟨_, made, quiet⟩
      · rw [metadata₃_eq]
        rfl
  · rw [if_neg cpu] at ran
    have removed := check_spec (P := fun w => P w ∧
      (copy.isSome = true → w.desktop.lock_poisoned = false)) calls.device_removed
    refine Triple.bind (R := Post (fun outcome w => P w ∧ Delivers request calls outcome w ∧
        outcome.metadata.verified_current_offset_ns = metadata.verified_current_offset_ns)
        fun _ w => P w) removed ?_ ?_ w result w' ⟨holds, unlocked⟩ ran
    · intro _
      refine Triple.pure ?_
      rintro w ⟨⟨holds, unlocked⟩, -⟩
      obtain ⟨latest, anchor, latest_eq, anchored, generation, offset⟩ := described w holds
      refine ⟨holds, ⟨⟨latest, anchor, latest_eq, anchored, generation, offset⟩,
        native_eq w holds _, fun frame same => (nomatch same), ?_⟩, rfl⟩
      rintro (framed | held)
      · cases framed
      · rw [Option.isSome_map] at held
        exact unlocked held
    · intro fault w post
      exact post.1.1

/-! ## The pointer of a frame -/

/-- SRC: dxgi.rs:1123-1146 -/
theorem retained_pointer_decides (cursor : CursorMode) (latest : RetainedFrame)
    (latest_eq : ∀ w, P w → w.backend.latest = some latest) :
    Decides P cursor (retained_pointer latest.pointer_at cursor) := by
  intro metadata no_cursor
  unfold retained_pointer
  refine Triple.bind_read ?_
  intro read
  have drawn : ∀ w, P w → drawn_pointer w.backend cursor =
      if cursor = .Exclude then none else w.backend.pointer.sample_at latest.pointer_at := by
    intro w holds
    unfold drawn_pointer
    rw [latest_eq w holds]
    rfl
  split
  · rename_i excluded
    refine Triple.pure ?_
    rintro w ⟨holds, rfl⟩
    refine ⟨holds, ?_, ⟨_, rfl⟩, ?_⟩
    · exact fun _ _ _ _ same => (nomatch same)
    · rw [drawn read holds, if_pos excluded]
      rfl
  · rename_i included
    split
    · rename_i nowhere
      refine Triple.pure ?_
      rintro w ⟨holds, rfl⟩
      refine ⟨holds, ?_, ⟨_, rfl⟩, ?_⟩
      · exact fun _ _ _ _ same => (nomatch same)
      · rw [drawn read holds, if_neg included, Option.isNone_iff_eq_none.mp nowhere]
    · split
      · rename_i shapeless
        refine Triple.pure ?_
        rintro w ⟨holds, rfl⟩
        refine ⟨holds, ?_, ⟨_, rfl⟩, ?_⟩
        · exact fun _ _ _ _ same => (nomatch same)
        · rw [drawn read holds, if_neg included]
          unfold PointerCache.sample_at
          rw [Option.isNone_iff_eq_none.mp shapeless]
          cases latest.pointer_at with
          | none => rfl
          | some place => rfl
      · refine Triple.pure ?_
        rintro w ⟨holds, rfl⟩
        refine ⟨holds, ?_, ⟨_, rfl⟩, ?_⟩
        · exact fun _ _ _ _ same => (nomatch same)
        · rw [drawn read holds, if_neg included]

/-- An image that a fresh capture has just retained, with the pointer it reported. -/
structure JustRetained (acquired : AcquiredFrame) (pointer_at : Option (Int × Int))
    (frequency : Int) (generation : Option Nat) (w : World) : Prop where
  retains : Retains acquired.resource acquired.last_present_time pointer_at w
  absorbed : Absorbed acquired w.backend.pointer
  place : pointer_at = w.backend.pointer.visible_at
  frequency_eq : w.backend.qpc_frequency = frequency
  generation_eq : generation = w.backend.latest.map RetainedFrame.generation

/-- SRC: dxgi.rs:1072-1121 -/
theorem pointer_for_decides {acquired : AcquiredFrame} {pointer_at : Option (Int × Int)}
    {frequency : Int} {generation : Option Nat} (cursor : CursorMode)
    (error : Option CaptureError) :
    Decides (JustRetained acquired pointer_at frequency generation) cursor
      (pointer_for acquired cursor error) := by
  intro metadata no_cursor
  unfold pointer_for
  split
  · rename_i excluded
    refine Triple.pure ?_
    intro w holds
    refine ⟨holds, ?_, ⟨_, rfl⟩, ?_⟩
    · exact fun _ _ _ _ same => (nomatch same)
    · unfold drawn_pointer
      rw [if_pos excluded]
      rfl
  · rename_i included
    refine Triple.bind (refresh_pointer_shape_spec acquired error ?_) ?_ ?_
    · rintro w report shape holds
      rw [holds.absorbed.shape report shape]
      exact holds
    · intro _
      refine Triple.bind ((store_reported_position_spec acquired ?_).pre fun w post => post.1.1)
        ?_ (fun fault w impossible => impossible.elim)
      · intro w position reported holds
        have same : w.backend.pointer.store_position position = w.backend.pointer := by
          unfold PointerCache.store_position
          rw [← holds.absorbed.position position reported]
        rw [same]
        exact holds
      · intro _
        refine Triple.bind_read ?_
        intro read
        have drawn : ∀ w, Retains acquired.resource acquired.last_present_time pointer_at w →
            pointer_at = w.backend.pointer.visible_at → drawn_pointer w.backend cursor =
              w.backend.pointer.sample_at w.backend.pointer.visible_at := by
          intro w retains pointer_eq
          obtain ⟨generation, latest_eq⟩ := retains.latest_eq
          unfold drawn_pointer
          rw [if_neg included, latest_eq, ← pointer_eq]
          rfl
        split
        · rename_i unknown
          refine Triple.pure ?_
          rintro w ⟨⟨holds, -⟩, rfl⟩
          refine ⟨holds, fun _ _ _ _ same => (nomatch same), ⟨_, rfl⟩, ?_⟩
          rw [drawn read holds.retains holds.place]
          unfold PointerCache.visible_at
          rw [unknown]
          rfl
        · rename_i position known
          split
          · rename_i hidden
            refine Triple.pure ?_
            rintro w ⟨⟨holds, -⟩, rfl⟩
            refine ⟨holds, fun _ _ _ _ same => (nomatch same), ⟨_, rfl⟩, ?_⟩
            rw [drawn read holds.retains holds.place]
            unfold PointerCache.visible_at
            rw [known]
            have not_visible : position.visible = false := by simpa using hidden
            simp [Option.filter, not_visible]
          · rename_i shown
            have visible : position.visible = true := by simpa using shown
            have place : read.backend.pointer.visible_at = some (position.x, position.y) := by
              unfold PointerCache.visible_at
              rw [known]
              simp [Option.filter, visible]
            split
            · rename_i shapeless
              refine Triple.pure ?_
              rintro w ⟨⟨holds, -⟩, rfl⟩
              refine ⟨holds, fun _ _ _ _ same => (nomatch same), ⟨_, rfl⟩, ?_⟩
              rw [drawn read holds.retains holds.place, place]
              unfold PointerCache.sample_at
              rw [Option.isNone_iff_eq_none.mp shapeless]
            · refine Triple.pure ?_
              rintro w ⟨⟨holds, -⟩, rfl⟩
              refine ⟨holds, ?_, ⟨_, rfl⟩, ?_⟩
              · intro x y width height same
                rw [no_cursor] at same
                cases same
              · rw [drawn read holds.retains holds.place, place]
    · rintro fault w ⟨holds, -⟩
      exact holds

end Captastic.Analysis
