import Captastic.Analysis.FrameFreshness
import Captastic.Model.RegionRoutes

/-!
# The pointer in a published region

The pointer of a capture is drawn into its CPU frame and recorded in the metadata of both its
frames, but the native frame stays the bare desktop.  A region is published from the native
frame when there is one, so it shows the pointer that its metadata record exactly when no
native frame was retained or the pointer leaves the region as it is.
-/

set_option autoImplicit false

namespace Captastic.Analysis

open Captastic.Library Captastic.Model

/-! ## What is published -/

/-- A frame of the pixels that a region has in a picture of the display. -/
def IsRegionOf (picture : List Byte) (source region : Rect) (f : CpuFrame) : Prop :=
  ∀ x y, x < region.width → y < region.height → cell_of region.width 4 f.pixels x y =
    cell_of source.width 4 picture (local_x source region + x) (local_y source region + y)

/-- A region that is cut from a picture with a pointer, and from one without. -/
def PointerSpares (drawn bare : List Byte) (source region : Rect) : Prop :=
  ∀ x y, x < region.width → y < region.height →
    cell_of source.width 4 drawn (local_x source region + x) (local_y source region + y) =
      cell_of source.width 4 bare (local_x source region + x) (local_y source region + y)

/-- The recorded cursor lies over a part of the region. -/
def CursorMeets (cursor : Option CursorCapture) (source region : Rect) : Prop :=
  ∃ x y width height, cursor = some (.Composited x y width height) ∧
    x < local_x source region + region.width ∧ (local_x source region : Int) < x + width ∧
    y < local_y source region + region.height ∧ (local_y source region : Int) < y + height

/-- The region is published by both commands with the pixels of the CPU frame, and with those
of the picture that its metadata tell of. -/
def PublishesTruly (gpu : Gpu) (outcome : CaptureOutcome) (frame : CpuFrame) (drawn : List Byte)
    (region : Rect) : Prop :=
  ∃ published cropped, selection_region gpu outcome.native_frame frame region = .ok published ∧
    repeat_region gpu outcome.native_frame outcome.frame region = .ok published ∧
    frame.crop region = .ok cropped ∧ published.pixels = cropped.pixels ∧
    (CursorMeets published.metadata.cursor frame.metadata.source_rect region →
      IsRegionOf drawn frame.metadata.source_rect region published)

/-- The picture of a readback, and what the metadata keep. -/
theorem picture_of_readback {gpu : Gpu} {pool : CpuBufferPool} {cpu_ready_ns : Nat}
    {texture : Texture} {metadata metadata' : FrameMetadata} {pointer : Option PointerSample}
    {frame : CpuFrame}
    (read : readback gpu pool cpu_ready_ns texture metadata pointer = .ok (frame, metadata')) :
    frame.metadata = metadata' ∧ Readable texture metadata' ∧
      ∃ bare, IsUpright texture metadata' bare ∧
        IsPicture frame metadata'.source_rect.width metadata'.source_rect.height
          (cell_of metadata'.source_rect.width 4 (drawn_in metadata'.source_rect.width
            metadata'.source_rect.height pointer bare)) := by
  obtain ⟨readable, -, -⟩ := readable_of_readback read
  obtain ⟨bare, slot, is_upright, metadata'_eq, picture, frame_metadata⟩ := readback_ok read
  subst metadata'_eq
  exact ⟨frame_metadata, ⟨readable.sides, readable.is_rotation, readable.format, readable.bounds⟩,
    bare, ⟨is_upright.length, is_upright.pixels⟩, picture⟩

/-- A texture has one upright picture. -/
theorem IsUpright.unique {texture : Texture} {metadata : FrameMetadata} {bytes bytes' : List Byte}
    (first : IsUpright texture metadata bytes) (second : IsUpright texture metadata bytes') :
    bytes = bytes' := by
  refine eq_of_cells first.length second.length ?_
  intro x y hx hy
  rw [first.pixels x y hx hy, second.pixels x y hx hy]

/-- What the frames of a capture hold: the CPU frame the picture with the pointer, the native
frame the bare texture, both with the same metadata. -/
structure Holds (outcome : CaptureOutcome) (frame : CpuFrame) (texture : Texture)
    (drawn : List Byte) : Prop where
  frame_eq : outcome.frame = some frame
  metadata_eq : frame.metadata = outcome.metadata
  readable : Readable texture frame.metadata
  picture : IsPicture frame frame.metadata.source_rect.width frame.metadata.source_rect.height
    (cell_of frame.metadata.source_rect.width 4 drawn)
  native : ∀ native, outcome.native_frame = some native → native = ⟨texture, frame.metadata⟩

section Publishing

variable {outcome : CaptureOutcome} {frame : CpuFrame} {texture : Texture} {drawn : List Byte}
  {region : Rect}

/-- The CPU frame's region is that of the picture with the pointer. -/
theorem Holds.crop_eq (holds : Holds outcome frame texture drawn)
    (inside : Inside frame.metadata.source_rect region) :
    ∃ cropped, frame.crop region = .ok cropped ∧
      IsPicture cropped region.width region.height (fun x y =>
        cell_of frame.metadata.source_rect.width 4 drawn
          (local_x frame.metadata.source_rect region + x)
          (local_y frame.metadata.source_rect region + y)) := by
  obtain ⟨cropped, cropped_eq, picture, -⟩ := crop_spec holds.picture ⟨rfl, rfl⟩ inside
  exact ⟨cropped, cropped_eq, picture⟩

/-- With no native frame the region is cropped from the CPU's. -/
theorem region_or_crop_of_none {E : Type} (gpu : Gpu) {cropped : CpuFrame}
    (cropped_eq : frame.crop region = .ok cropped) (error_of : FrameError → E) :
    region_or_crop gpu none frame region error_of = .ok cropped := by
  unfold region_or_crop crop_or
  rw [Option.map_none, cropped_eq]

/-- Where the native region fails, it is cropped from the CPU's frame. -/
theorem region_or_crop_of_failed {E : Type} {gpu : Gpu} {native : DxgiGpuFrame}
    {error : CaptureError} {cropped : CpuFrame}
    (failed : native.materialize_region gpu region = fail error)
    (cropped_eq : frame.crop region = .ok cropped) (error_of : FrameError → E) :
    region_or_crop gpu (some native) frame region error_of = .ok cropped := by
  unfold region_or_crop crop_or
  rw [Option.map_some, failed, cropped_eq]
  rfl

/-- Where the native region is made, it is the answer. -/
theorem region_or_crop_of_made {E : Type} {gpu : Gpu} {native : DxgiGpuFrame} {made : CpuFrame}
    (made_eq : native.materialize_region gpu region = .ok made) (error_of : FrameError → E) :
    region_or_crop gpu (some native) frame region error_of = .ok made := by
  unfold region_or_crop
  rw [Option.map_some, made_eq]

/-- A region of the picture with the pointer is published truly. -/
theorem Holds.truly_of (holds : Holds outcome frame texture drawn) {gpu : Gpu}
    (published : CpuFrame) {cropped : CpuFrame}
    (routes : ∀ {E : Type} (error_of : FrameError → E),
      region_or_crop gpu outcome.native_frame frame region error_of = .ok published)
    (cropped_eq : frame.crop region = .ok cropped)
    (published_picture : IsPicture published region.width region.height (fun x y =>
      cell_of frame.metadata.source_rect.width 4 drawn
        (local_x frame.metadata.source_rect region + x)
        (local_y frame.metadata.source_rect region + y)))
    (cropped_picture : IsPicture cropped region.width region.height (fun x y =>
      cell_of frame.metadata.source_rect.width 4 drawn
        (local_x frame.metadata.source_rect region + x)
        (local_y frame.metadata.source_rect region + y))) :
    PublishesTruly gpu outcome frame drawn region := by
  refine ⟨published, cropped, routes _, ?_, cropped_eq,
    published_picture.pixels_eq cropped_picture, fun _ => published_picture.pixels⟩
  rw [holds.frame_eq]
  exact routes _

/-- **When a region is published truly**: no native frame was retained, or the pointer leaves
the region as it is. -/
theorem Holds.truly_iff (holds : Holds outcome frame texture drawn) {bare : List Byte}
    (is_upright : IsUpright texture frame.metadata bare)
    (inside : Inside frame.metadata.source_rect region) :
    (∀ gpu, PublishesTruly gpu outcome frame drawn region) ↔
      (outcome.native_frame = none ∨
        PointerSpares drawn bare frame.metadata.source_rect region) := by
  obtain ⟨cropped, cropped_eq, cropped_picture⟩ := holds.crop_eq inside
  obtain ⟨-, -, right, bottom⟩ := local_of_inside inside
  -- The native frame shows the texels, which are the bare picture's pixels.
  have bare_region : ∀ x y, x < region.width → y < region.height →
      shown_texel texture frame.metadata (local_x frame.metadata.source_rect region + x)
          (local_y frame.metadata.source_rect region + y) =
        cell_of frame.metadata.source_rect.width 4 bare
          (local_x frame.metadata.source_rect region + x)
          (local_y frame.metadata.source_rect region + y) := by
    intro x y hx hy
    rw [is_upright.pixels _ _ (by omega) (by omega)]
  constructor
  · intro always
    cases native : outcome.native_frame with
    | none => exact Or.inl rfl
    | some native' =>
      right
      have native_eq := holds.native native' native
      have pitch : texture.width * 4 + 0 ≤ 4294967295 := by
        have := holds.readable.sides.le
        omega
      obtain ⟨made, made_eq, made_picture, -⟩ :=
        materialize_region_spec (padding_gpu_maps pitch) holds.readable inside
      obtain ⟨published, cropped', published_eq, -, cropped'_eq, same_pixels, -⟩ :=
        always (padding_gpu 0)
      rw [← native_eq] at made_eq
      unfold selection_region at published_eq
      rw [native, region_or_crop_of_made made_eq] at published_eq
      obtain rfl := Except.ok.inj published_eq
      rw [cropped_eq] at cropped'_eq
      obtain rfl := Except.ok.inj cropped'_eq
      intro x y hx hy
      rw [← bare_region x y hx hy, ← made_picture.pixels x y hx hy, same_pixels,
        cropped_picture.pixels x y hx hy]
  · rintro (no_native | spares) gpu
    · refine holds.truly_of cropped ?_ cropped_eq cropped_picture cropped_picture
      intro E error_of
      rw [no_native]
      exact region_or_crop_of_none gpu cropped_eq error_of
    · cases native : outcome.native_frame with
      | none =>
        refine holds.truly_of cropped ?_ cropped_eq cropped_picture cropped_picture
        intro E error_of
        rw [native]
        exact region_or_crop_of_none gpu cropped_eq error_of
      | some native' =>
        have native_eq := holds.native native' native
        subst native_eq
        obtain ⟨left, top, width, height, -, -, -, not_made, made⟩ :=
          materialize_region_cases gpu holds.readable inside
        cases mapped : gpu.map (texture.boxed left top width height) with
        | error error =>
          refine holds.truly_of cropped ?_ cropped_eq cropped_picture cropped_picture
          intro E error_of
          rw [native]
          exact region_or_crop_of_failed (not_made error mapped) cropped_eq error_of
        | ok mapped' =>
          obtain ⟨made', made_eq, made_picture, -⟩ := made mapped' mapped
          refine holds.truly_of made' ?_ cropped_eq ?_ cropped_picture
          · intro E error_of
            rw [native]
            exact region_or_crop_of_made made_eq error_of
          · refine { made_picture with pixels := ?_ }
            intro x y hx hy
            rw [made_picture.pixels x y hx hy, bare_region x y hx hy, spares x y hx hy]

end Publishing

/-! ## Captures -/

/-- The picture of a capture's CPU frame: the bare desktop with the capture's pointer. -/
def captured_picture (backend : DxgiBackend) (cursor : CursorMode) (source : Rect)
    (bare : List Byte) : List Byte :=
  drawn_in source.width source.height (drawn_pointer backend cursor) bare

/-- What was captured holds the retained image, and the pointer where it was asked for. -/
theorem holds_of_captured {request : CaptureRequest} {calls : CaptureCalls}
    {outcome : CaptureOutcome} {w : World} {frame : CpuFrame}
    (captured : Captured request calls outcome w) (frame_eq : outcome.frame = some frame)
    {bare : List Byte} (is_upright : IsUpright w.backend.retained frame.metadata bare) :
    Holds outcome frame w.backend.retained
      (captured_picture w.backend request.cursor frame.metadata.source_rect bare) := by
  obtain ⟨metadata, read, -⟩ := captured.delivers.frame frame frame_eq
  obtain ⟨metadata_eq, readable, bare', is_upright', picture⟩ := picture_of_readback read
  rw [← metadata_eq] at readable is_upright' picture
  obtain rfl := is_upright'.unique is_upright
  refine ⟨frame_eq, metadata_eq, readable, picture, ?_⟩
  intro native native_eq
  rw [captured.delivers.native] at native_eq
  split at native_eq
  · obtain rfl := Option.some.inj native_eq
    rw [metadata_eq]
  · cases native_eq

/-- **Published regions show the pointer that they record** exactly when the capture retained
no native frame, or its pointer leaves the region as it is.
SRC: dxgi.rs:735-798, dxgi.rs:1294-1364, selection.rs:477-542, daemon.rs:2987-3018 -/
theorem published_regions {w w' : World} (reached : Reachable w) {request : CaptureRequest}
    {calls : CaptureCalls} {outcome : CaptureOutcome}
    (ran : capture request calls w = some (.ok outcome, w')) {frame : CpuFrame}
    (frame_eq : outcome.frame = some frame) {bare : List Byte}
    (is_upright : IsUpright w'.backend.retained frame.metadata bare) {region : Rect}
    (inside : Inside frame.metadata.source_rect region) :
    (∀ gpu, PublishesTruly gpu outcome frame
        (captured_picture w'.backend request.cursor frame.metadata.source_rect bare) region) ↔
      (request.retain_native_frame = false ∨
        PointerSpares
          (captured_picture w'.backend request.cursor frame.metadata.source_rect bare) bare
          frame.metadata.source_rect region) := by
  have captured := capture_spec request calls w (.ok outcome) w' (accounted_of_reachable reached) ran
  rw [(holds_of_captured captured frame_eq is_upright).truly_iff is_upright inside]
  have native := captured.delivers.native
  cases retain : request.retain_native_frame with
  | false =>
    rw [retain] at native
    simp [native]
  | true =>
    rw [retain] at native
    simp [native]

/-! ## A region without its pointer -/

/-- A desktop of one texel under a pointer of one opaque pixel. -/
def pointed_world : World :=
  { new_world with desktop :=
    { new_world.desktop with
      position := some ⟨0, 0, true⟩
      shape := some ⟨POINTER_SHAPE_TYPE_COLOR, 1, 1, 4, [0, 0, 255, 255]⟩ } }

/-- A capture with the pointer, which retains the native frame. -/
def pointer_request (retain_native_frame : Bool) : CaptureRequest :=
  ⟨3, .Display "dxgi:0", .Latest none, true, retain_native_frame, .Include⟩

/-- What is captured of the desktop under the pointer. -/
theorem pointed_capture (retain_native_frame : Bool) : ∃ outcome w' frame,
    capture (pointer_request retain_native_frame) (plain_calls [plain_round 0]) pointed_world =
      some (.ok outcome, w') ∧
    outcome.frame = some frame ∧
    w'.backend.retained = (one_texel 1 10 (by decide)).image ∧
    frame.metadata.source_rect = .origin_pixel ∧
    drawn_pointer w'.backend .Include = some ⟨0, 0, ⟨.Color, 1, 1, 4, [0, 0, 255, 255]⟩⟩ := by
  cases retain_native_frame with
  | false => exact ⟨_, _, _, rfl, rfl, rfl, rfl, rfl⟩
  | true => exact ⟨_, _, _, rfl, rfl, rfl, rfl, rfl⟩

/-- The single texel is upright as its own four bytes, with no pointer drawn. -/
theorem pointed_bare {metadata : FrameMetadata} (source : metadata.source_rect = .origin_pixel) :
    IsUpright (one_texel 1 10 (by decide)).image metadata [1, 0, 0, 255] := by
  refine ⟨by rw [source]; rfl, ?_⟩
  rw [source]
  intro x y hx hy
  have x_eq : x = 0 := Nat.lt_one_iff.mp hx
  have y_eq : y = 0 := Nat.lt_one_iff.mp hy
  subst x_eq y_eq
  rfl

/-- The world of the single texel is one that a start reaches. -/
theorem pointed_start : Reachable pointed_world := .start ⟨rfl, rfl, rfl⟩

/-- The pointer covers the region, the metadata say so, and the native frame has not got it. -/
theorem pointer_missing_from_region : ¬ ∀ w, Reachable w → ∀ request calls outcome w',
    capture request calls w = some (.ok outcome, w') → ∀ frame, outcome.frame = some frame →
    ∀ bare, IsUpright w'.backend.retained frame.metadata bare →
    ∀ region, Inside frame.metadata.source_rect region → ∀ gpu, PublishesTruly gpu outcome frame
      (captured_picture w'.backend request.cursor frame.metadata.source_rect bare) region := by
  intro always
  obtain ⟨outcome, w', frame, ran, frame_eq, retained, source, pointer⟩ :=
    pointed_capture true
  have captured := capture_spec _ _ _ (.ok outcome) w' (accounted_of_reachable pointed_start) ran
  have is_upright : IsUpright w'.backend.retained frame.metadata [1, 0, 0, 255] := by
    rw [retained]
    exact pointed_bare source
  have inside : Inside frame.metadata.source_rect .origin_pixel := by
    rw [source]
    exact ⟨by decide, by decide⟩
  rcases ((holds_of_captured captured frame_eq is_upright).truly_iff is_upright inside).mp
    (always _ pointed_start _ _ outcome w' ran frame frame_eq _ is_upright .origin_pixel inside)
    with no_native | spares
  · rw [captured.delivers.native] at no_native
    cases no_native
  · have drawn := spares 0 0 (by decide) (by decide)
    unfold captured_picture at drawn
    have include_eq : (pointer_request true).cursor = .Include := rfl
    rw [include_eq, pointer, source] at drawn
    exact absurd drawn (by decide)

/-- Without a native frame the region has its pointer. -/
theorem pointer_in_region : ∃ outcome frame, outcome.frame = some frame ∧
    ∀ gpu, PublishesTruly gpu outcome frame [0, 0, 255, 255] .origin_pixel := by
  obtain ⟨outcome, w', frame, ran, frame_eq, retained, source, pointer⟩ :=
    pointed_capture false
  have is_upright : IsUpright w'.backend.retained frame.metadata [1, 0, 0, 255] := by
    rw [retained]
    exact pointed_bare source
  have inside : Inside frame.metadata.source_rect .origin_pixel := by
    rw [source]
    exact ⟨by decide, by decide⟩
  have truly := (published_regions pointed_start ran frame_eq is_upright inside).mpr (Or.inl rfl)
  have include_eq : (pointer_request false).cursor = .Include := rfl
  have picture : captured_picture w'.backend .Include .origin_pixel [1, 0, 0, 255] =
      [0, 0, 255, 255] := by
    unfold captured_picture
    rw [pointer]
    decide
  rw [include_eq, source, picture] at truly
  exact ⟨outcome, frame, frame_eq, truly⟩

end Captastic.Analysis
