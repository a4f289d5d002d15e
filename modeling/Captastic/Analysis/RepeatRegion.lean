import Captastic.Analysis.FrameCrop
import Captastic.Model.UiUpdates

/-!
# Repeating the last region

A confirmed rectangle is remembered by its distance from its display's origin, with the size and
rotation of the display; asked for again, it is placed at the same distance from the origin the
display has by then.  Both ends work with `i32`s and refuse what leaves them, so a rectangle is
repeated wherever its distance and its new place are `i32`s (`region_repeated`), and whatever is
returned, of any stored region, is a part of the capture that `CpuFrame::crop` accepts.
-/

set_option autoImplicit false

namespace Captastic.Analysis

open Captastic.Model

/-- The displays have one size and one rotation. -/
structure SameGeometry (metadata later : FrameMetadata) : Prop where
  width : later.source_rect.width = metadata.source_rect.width
  height : later.source_rect.height = metadata.source_rect.height
  rotation : later.rotation_degrees = metadata.rotation_degrees

/-- The rectangle is where another was, seen from another origin. -/
structure MovedWith (rect moved : Rect) (origin later : Rect) : Prop where
  x : moved.x - later.x = rect.x - origin.x
  y : moved.y - later.y = rect.y - origin.y
  width : moved.width = rect.width
  height : moved.height = rect.height

/-- Where a stored region is placed, its origin is an `i32`.
SRC: daemon.rs:3083-3097 -/
theorem placed_eq_ok {region : CaptureRegion} {source rect : Rect}
    (placed : region.placed source = .ok rect) :
    rect.x = source.x + region.x.val ∧ rect.y = source.y + region.y.val ∧
      rect.width = region.width.val ∧ rect.height = region.height.val := by
  unfold CaptureRegion.placed at placed
  simp only at placed
  split at placed
  · split at placed
    · cases placed
      exact ⟨rfl, rfl, rfl, rfl⟩
    · cases placed
  · cases placed

/-- A region whose corner stays within the coordinates is placed. -/
theorem placed_ok {region : CaptureRegion} {source : Rect}
    (x : InI32 (source.x + region.x.val)) (y : InI32 (source.y + region.y.val)) :
    ∃ rect, region.placed source = .ok rect := by
  unfold CaptureRegion.placed
  simp only
  rw [dif_pos x, dif_pos y]
  exact ⟨_, rfl⟩

/-- What is repeated, of whatever was stored, is a part of the capture.
SRC: daemon.rs:3061-3098 -/
theorem repeated_inside {confirmed : Option ConfirmedRegion} {metadata : FrameMetadata}
    {rect : Rect} (repeated : repeat_region_rect confirmed metadata = .ok rect) :
    Inside metadata.source_rect rect := by
  unfold repeat_region_rect at repeated
  cases confirmed with
  | none => cases repeated
  | some confirmed =>
    simp only at repeated
    split at repeated
    · cases repeated
    · split at repeated
      · cases repeated
      · split at repeated
        · cases repeated
        · rename_i bounds ends
          obtain ⟨x, y, width, height⟩ := placed_eq_ok repeated
          refine ⟨⟨by omega, by omega⟩, ?_⟩
          unfold Rect.Within Rect.right Rect.bottom
          omega

section Remembered

variable {metadata later : FrameMetadata} {rect : Rect}

/-- A rectangle is remembered where its distances are `i32`s.
SRC: selection.rs:1130-1157 -/
theorem confirmed_region_some (x : InI32 (rect.x - metadata.source_rect.x))
    (y : InI32 (rect.y - metadata.source_rect.y)) :
    ∃ confirmed, confirmed_region metadata rect = some confirmed ∧
      confirmed.region.x.val = rect.x - metadata.source_rect.x ∧
      confirmed.region.y.val = rect.y - metadata.source_rect.y ∧
      confirmed.region.width.val = rect.width ∧ confirmed.region.height.val = rect.height ∧
      confirmed.source.width.val = metadata.source_rect.width ∧
      confirmed.source.height.val = metadata.source_rect.height ∧
      confirmed.source.rotation_degrees = UInt16.ofNat metadata.rotation_degrees := by
  unfold confirmed_region
  simp only
  rw [dif_pos x, dif_pos y]
  exact ⟨_, rfl, rfl, rfl, rfl, rfl, rfl, rfl, rfl⟩

/-- The cache after a rectangle was remembered.
SRC: selection.rs:1158-1169 -/
theorem remembered_get {F : Type} (cache : ConfirmedRegionCache) {confirmed : ConfirmedRegion}
    (made : confirmed_region metadata rect = some confirmed) :
    (remember_confirmed_region (F := F) cache metadata rect).1[metadata.display_id]? =
      some confirmed := by
  unfold remember_confirmed_region
  rw [made]
  exact Std.ExtTreeMap.getElem?_insert_self

/-- **Repeating the last region.**  A rectangle that was confirmed, with distances and a new
place that are `i32`s, is repeated on any later capture of the same size and rotation: the
same rectangle from the new origin, a part of the capture that can be cropped.  A capture of
another size or rotation refuses it, and what is returned of any stored region lies inside.
SRC: selection.rs:1124-1169, daemon.rs:3061-3098, frame.rs:291-354 -/
theorem region_repeated :
    (∀ (F : Type) (cache : ConfirmedRegionCache) (metadata : FrameMetadata) (rect : Rect),
      metadata.rotation_degrees < 65536 → Inside metadata.source_rect rect →
      InI32 (rect.x - metadata.source_rect.x) → InI32 (rect.y - metadata.source_rect.y) →
      ∀ later : FrameMetadata,
        (SameGeometry metadata later →
          InI32 (later.source_rect.x + (rect.x - metadata.source_rect.x)) →
          InI32 (later.source_rect.y + (rect.y - metadata.source_rect.y)) →
          ∃ repeated,
            repeat_region_rect
                (remember_confirmed_region (F := F) cache metadata rect).1[metadata.display_id]?
                later = .ok repeated ∧
              MovedWith rect repeated metadata.source_rect later.source_rect ∧
              Inside later.source_rect repeated ∧
              ∀ f : CpuFrame, f.metadata = later → SourceMatches f →
                ∃ out, f.crop repeated = .ok out) ∧
        (¬ SameGeometry metadata later →
          repeat_region_rect
              (remember_confirmed_region (F := F) cache metadata rect).1[metadata.display_id]?
              later = .error "source_geometry_changed")) ∧
    ∀ (confirmed : Option ConfirmedRegion) (metadata : FrameMetadata) (rect : Rect),
      repeat_region_rect confirmed metadata = .ok rect → Inside metadata.source_rect rect := by
  refine ⟨?_, fun _ _ _ repeated => repeated_inside repeated⟩
  intro F cache metadata rect rotation inside x y later
  obtain ⟨confirmed, made, region_x, region_y, region_width, region_height, source_width,
    source_height, source_rotation⟩ := confirmed_region_some x y
  rw [remembered_get cache made]
  have degrees : confirmed.source.rotation_degrees.toNat = metadata.rotation_degrees := by
    rw [source_rotation]
    exact UInt16.toNat_ofNat_of_lt' rotation
  obtain ⟨⟨wide, high⟩, within⟩ := inside
  unfold Rect.Within Rect.right Rect.bottom at within
  constructor
  · intro same new_x new_y
    rw [← region_x] at new_x
    rw [← region_y] at new_y
    obtain ⟨repeated, placed⟩ := placed_ok new_x new_y
    have returned : repeat_region_rect (some confirmed) later = .ok repeated := by
      have same_width := same.width
      have same_height := same.height
      have same_rotation := same.rotation
      unfold repeat_region_rect
      simp only
      rw [if_neg (by omega), if_neg (by omega), if_neg (by omega)]
      exact placed
    have inside' := repeated_inside returned
    obtain ⟨x_eq, y_eq, width_eq, height_eq⟩ := placed_eq_ok placed
    refine ⟨repeated, returned, ⟨by omega, by omega, by omega, by omega⟩, inside', ?_⟩
    intro f of_later source
    rw [← of_later] at inside'
    obtain ⟨out, cropped, -⟩ := crop_of_inside source inside'
    exact ⟨out, cropped⟩
  · intro other
    unfold repeat_region_rect
    simp only
    rw [if_pos]
    by_contra same
    exact other ⟨by omega, by omega, by omega⟩

end Remembered

/-- A capture of a display with this source rectangle. -/
def captured_at (source : Rect) : FrameMetadata where
  capture_id := 1
  backend := "test"
  display_id := "display-1"
  source_rect := source
  rotation_degrees := 0
  capture_mode := .Fresh 0
  presentation_offset_ns := none
  timing_provenance := .Unavailable
  native_ready_offset_ns := 0
  cpu_ready_offset_ns := none
  frame_age_ns := none
  verified_current_offset_ns := none
  frame_generation := none
  copy_count := 0
  pool_slot := none
  cursor := none

/-- A region of a display left of the first one, repeated after the display has moved. -/
theorem region_repeated_left_of_origin :
    ∃ repeated,
      repeat_region_rect
          (remember_confirmed_region (F := Unit) ∅
            (captured_at { x := -1920, y := -240, width := 3840, height := 2160 })
            { x := -1880, y := -220, width := 800, height := 600 }).1["display-1"]?
          (captured_at { x := 1920, y := 0, width := 3840, height := 2160 }) = .ok repeated ∧
        repeated.x = 1960 ∧ repeated.y = 20 := by
  obtain ⟨repeated, returned, moved, -⟩ := (region_repeated.1 Unit ∅
    (captured_at { x := -1920, y := -240, width := 3840, height := 2160 })
    { x := -1880, y := -220, width := 800, height := 600 } (by decide) ⟨by decide, by decide⟩
    (by decide) (by decide) (captured_at { x := 1920, y := 0, width := 3840, height := 2160 })).1
    ⟨rfl, rfl, rfl⟩ (by decide) (by decide)
  have x : repeated.x - 1920 = -1880 - -1920 := moved.x
  have y : repeated.y - 0 = -220 - -240 := moved.y
  exact ⟨repeated, returned, by omega, by omega⟩

/-- A rectangle more than `i32::MAX` pixels from its display's origin is not remembered; one whose
new place is past the end of `i32` is refused, and so is an empty one. -/
theorem region_not_repeated :
    repeat_region_rect
        (remember_confirmed_region (F := Unit) ∅
          (captured_at { x := -2147483648, y := 0, width := 4294967295, height := 100 })
          { x := 1, y := 0, width := 10, height := 10 }).1["display-1"]?
        (captured_at { x := -2147483648, y := 0, width := 4294967295, height := 100 }) =
      .error "missing_confirmed_region" ∧
    repeat_region_rect
        (remember_confirmed_region (F := Unit) ∅
          (captured_at { x := 0, y := 0, width := 100, height := 100 })
          { x := 50, y := 50, width := 10, height := 10 }).1["display-1"]?
        (captured_at { x := 2147483600, y := 0, width := 100, height := 100 }) =
      .error "invalid_region_bounds" ∧
    repeat_region_rect
        (remember_confirmed_region (F := Unit) ∅
          (captured_at { x := 0, y := 0, width := 100, height := 100 })
          { x := 50, y := 50, width := 0, height := 10 }).1["display-1"]?
        (captured_at { x := 0, y := 0, width := 100, height := 100 }) =
      .error "invalid_region_bounds" := by
  have kept (rect : Rect) {confirmed : ConfirmedRegion} (made : confirmed_region
      (captured_at { x := 0, y := 0, width := 100, height := 100 }) rect = some confirmed) :
      (remember_confirmed_region (F := Unit) ∅
        (captured_at { x := 0, y := 0, width := 100, height := 100 }) rect).1[
          ("display-1" : String)]? = some confirmed :=
    remembered_get ∅ made
  refine ⟨?_, ?_, ?_⟩
  · have nothing : (remember_confirmed_region (F := Unit) ∅
        (captured_at { x := -2147483648, y := 0, width := 4294967295, height := 100 })
        { x := 1, y := 0, width := 10, height := 10 }).1 = ∅ := rfl
    rw [nothing]
    rfl
  · rw [kept _ rfl]
    rfl
  · rw [kept _ rfl]
    rfl

end Captastic.Analysis
