import Captastic.Library.Session
import Captastic.Model.Dxgi

/-!
# Captures from a desktop duplication

`captastic-windows/src/dxgi.rs` where it takes pictures from the duplication of a desktop: a
fresh capture waits for an image presented after its trigger, a latest capture takes what is
pending and otherwise the retained image.

The desktop is modelled by what it was last asked to show (`Desktop`): an acquisition delivers
the newest image if one was presented since the last acquisition, else what was reported of
the pointer, else nothing.  What happens around an acquisition, and how the calls made with it
end, is its `Round`; the readings of the clocks and the calls made once are a `CaptureCalls`.
Every image that is delivered is noted in `deliveries`, with the state it was delivered in;
nothing reads the notes.
-/

set_option autoImplicit false

namespace Captastic.Model

open Captastic.Library

/-! ## Requests -/

/-- SRC: capture.rs:30-34 -/
inductive CaptureSource where
  | Display (id : String)
  | VirtualDesktop
deriving DecidableEq, Repr

/-- SRC: capture.rs:36-41 -/
inductive CursorMode where
  | Include
  | Exclude
deriving DecidableEq, Repr

/-- SRC: capture.rs:43-56 -/
structure CaptureRequest where
  id : Nat
  source : CaptureSource
  mode : CaptureMode
  cpu_frame : Bool
  retain_native_frame : Bool
  cursor : CursorMode
deriving DecidableEq, Repr

/-- SRC: capture.rs:79-84 -/
structure CaptureOutcome where
  metadata : FrameMetadata
  frame : Option CpuFrame
  native_frame : Option DxgiGpuFrame

/-! ## The desktop -/

/-- An image and when the performance counter says it was presented, which is never 0. -/
structure Presentation where
  image : Texture
  time : Int
  time_ne_zero : time ≠ 0

/-- What `GetFramePointerShape` returns of a new shape. -/
structure PointerShapeReport where
  shape_type : Nat
  width : Nat
  height : Nat
  pitch : Nat
  buffer : List Byte
deriving DecidableEq, Repr

/-- A duplicated desktop: its newest image, whether that is still to be delivered, what is
still to be delivered of the pointer, and whether the lock of the device's context is poisoned.
-/
structure Desktop where
  newest : Option Presentation
  pending : Bool
  position : Option PointerPosition
  shape : Option PointerShapeReport
  lock_poisoned : Bool

inductive DesktopEvent where
  | presented (presentation : Presentation)
  | pointer_moved (position : PointerPosition)
  | pointer_shaped (shape : PointerShapeReport)
  | lock_poisoned

/-- What is left to deliver after an event. -/
def Desktop.after (desktop : Desktop) : DesktopEvent → Desktop
  | .presented presentation => { desktop with newest := some presentation, pending := true }
  | .pointer_moved position => { desktop with position := some position }
  | .pointer_shaped shape => { desktop with shape := some shape }
  | .lock_poisoned => { desktop with lock_poisoned := true }

/-- A texture as it is created, before anything is copied to it. -/
def Texture.blank (width height format : Nat) : Texture :=
  ⟨width, height, format, fun _ _ => ⟨0, 0, 0, 0⟩⟩

/-- What an acquisition reports: `LastMouseUpdateTime` is not 0 when there is a position, and
`PointerShapeBufferSize` when there is a shape.
SRC: dxgi.rs:2830-2835 -/
structure AcquiredFrame where
  resource : Texture
  last_present_time : Int
  position : Option PointerPosition
  shape : Option PointerShapeReport

/-- What a desktop delivers, and the desktop after it. -/
def Desktop.deliver (desktop : Desktop) : Option (AcquiredFrame × Desktop) :=
  let delivered := { desktop with pending := false, position := none, shape := none }
  let image := (desktop.newest.map Presentation.image).getD (.blank 0 0 0)
  match desktop.pending, desktop.newest with
  | true, some newest => some (⟨image, newest.time, desktop.position, desktop.shape⟩, delivered)
  | _, _ =>
    if desktop.position.isSome ∨ desktop.shape.isSome then
      some (⟨image, 0, desktop.position, desktop.shape⟩, delivered)
    else none

/-! ## What the calls around a capture answer -/

/-- How `AcquireNextFrame` ends, besides delivering or timing out. -/
inductive AcquireAnswer where
  | answered
  | without_resource
  | failed (error : CaptureError) (not_timeout : error.kind ≠ .Timeout)

/-- One acquisition: what the desktop does before it, what is left of the deadline, and how
the calls end (`none` is a success). -/
structure Round where
  events : List DesktopEvent
  remaining_ns : Nat
  timeout_message : String
  acquire : AcquireAnswer
  read_shape : Option CaptureError
  read_shape_again : Option CaptureError
  cast : Option CaptureError
  create_retained : Option CaptureError
  release : Option CaptureError
  native_ready_ns : Nat

/-- The performance counter, and how long ago the trigger was. -/
structure Anchor where
  counter : Int
  offset_ns : Int
deriving DecidableEq, Repr

/-- The calls that a capture makes outside its acquisitions. -/
structure CaptureCalls where
  display_configuration_generation : Nat
  fresh_anchor : Except CaptureError Anchor
  deadline_overflows : Bool
  latest_anchor : Except CaptureError Anchor
  verified_ns : Nat
  native_ready_ns : Nat
  format_ms : Nat → String
  snapshot : Option CaptureError
  device_removed : Option CaptureError
  gpu : Gpu
  pool : CpuBufferPool
  cpu_ready_ns : Nat
  rounds : List Round

/-! ## The backend -/

/-- SRC: dxgi.rs:1779-1789 -/
structure RetainedFrame where
  presentation_qpc : Int
  generation : Nat
  pointer_at : Option (Int × Int)
deriving DecidableEq, Repr

/-- What a capture reads of the display it is bound to. -/
structure SelectedDisplay where
  id : String
  is_primary : Bool
  bounds : Rect
  rotation_degrees : Nat

/-- SRC: dxgi.rs:365-401 -/
structure DxgiBackend where
  pointer : PointerCache
  retained : Texture
  latest : Option RetainedFrame
  selected : SelectedDisplay
  qpc_frequency : Int
  display_configuration_generation : Nat

/-- An image that was delivered: to which backend, for a fresh capture with which trigger, and
how the calls made with it end. -/
structure Delivery where
  backend : DxgiBackend
  trigger : Option Anchor
  presentation : Presentation
  shape : Option PointerShapeReport
  lock_poisoned : Bool
  round : Round

/-- A backend, the desktop it duplicates, what is still to happen, and the notes of what was
delivered, the last one first. -/
structure World where
  backend : DxgiBackend
  desktop : Desktop
  rounds : List Round
  deliveries : List Delivery

/-- A call of the backend. -/
abbrev Call (α : Type) : Type := Session World (Fault CaptureError) α

/-- A call of Windows that only succeeds or fails. -/
def check (error : Option CaptureError) : Call Unit :=
  Session.lift (match error with
    | some error => fail error
    | none => .ok ())

def update_backend (change : DxgiBackend → DxgiBackend) : Call Unit :=
  Session.update fun world => { world with backend := change world.backend }

/-- What happens next; the call waits for it. -/
def next_round : Call Round := fun world =>
  match world.rounds with
  | [] => none
  | round :: rounds =>
    some (.ok round,
      { world with desktop := round.events.foldl Desktop.after world.desktop, rounds := rounds })

/-! ## Clocks -/

/-- `i64` arithmetic that saturates. -/
def saturating_i64 (v : Int) : Int := max (-9223372036854775808) (min v 9223372036854775807)

/-- SRC: dxgi.rs:2997-3009 -/
def qpc_to_ns (ticks frequency : Int) : Int :=
  saturating_i64 ((ticks * 1000000000).tdiv frequency)

/-- When an image was presented, counted from the trigger.
SRC: dxgi.rs:665-672, dxgi.rs:822-825 -/
def presentation_offset_ns (anchor : Anchor) (frequency time : Int) : Int :=
  saturating_i64 (anchor.offset_ns +
    qpc_to_ns (saturating_i64 (time - anchor.counter)) frequency)

/-- SRC: dxgi.rs:2794-2799 -/
def frame_is_too_stale (max_age_ms : Option Nat) (frame_age_ns : Nat) (verified_current : Bool) :
    Bool :=
  if verified_current then false
  else max_age_ms.any fun maximum => frame_age_ns > min (maximum * 1000000) 18446744073709551615

/-! ## Acquiring -/

def DXGI_ERROR_WAIT_TIMEOUT : Int := -2005270489

/-- SRC: dxgi.rs:2838-2867 -/
def acquire (round : Round) (trigger : Option Anchor) : Call AcquiredFrame := fun world =>
  match round.acquire with
  | .failed error _ => some (fail error, world)
  | answer =>
    match world.desktop.deliver with
    | none =>
      some (fail (capture_error .Timeout "acquire_next_frame" round.timeout_message true
        (some DXGI_ERROR_WAIT_TIMEOUT)), world)
    | some (acquired, desktop) =>
      let noted :=
        match world.desktop.pending, world.desktop.newest with
        | true, some presentation =>
          ⟨world.backend, trigger, presentation, acquired.shape, world.desktop.lock_poisoned,
            round⟩ :: world.deliveries
        | _, _ => world.deliveries
      let world := { world with desktop := desktop, deliveries := noted }
      match answer with
      | .without_resource =>
        some (fail (invalid_frame "acquire_next_frame"
          "DXGI reported success without a desktop resource"), world)
      | _ => some (.ok acquired, world)

def POINTER_SHAPE_TYPE_MONOCHROME : Nat := 1
def POINTER_SHAPE_TYPE_COLOR : Nat := 2
def POINTER_SHAPE_TYPE_MASKED_COLOR : Nat := 4

/-- SRC: dxgi.rs:1172-1184 -/
def pointer_shape_kind (shape_type : Nat) : Option PointerShapeKind :=
  if shape_type = POINTER_SHAPE_TYPE_COLOR then some .Color
  else if shape_type = POINTER_SHAPE_TYPE_MONOCHROME then some .Monochrome
  else if shape_type = POINTER_SHAPE_TYPE_MASKED_COLOR then some .MaskedColor
  else none

/-- A shape of a known type, kept.
SRC: dxgi.rs:1171-1199 -/
def PointerCache.store_report (cache : PointerCache) (report : PointerShapeReport) :
    PointerCache :=
  match pointer_shape_kind report.shape_type with
  | none => cache
  | some kind =>
    let height := if kind = .Monochrome then report.height / 2 else report.height
    { cache with shape := some ⟨kind, report.width, height, report.pitch, report.buffer⟩ }

/-- SRC: cursor.rs:84-87 -/
def PointerCache.store_position (cache : PointerCache) (position : PointerPosition) :
    PointerCache :=
  { cache with position := some position }

/-- SRC: dxgi.rs:1149-1200 -/
def refresh_pointer_shape (acquired : AcquiredFrame) (error : Option CaptureError) : Call Unit :=
  match acquired.shape with
  | none => pure ()
  | some report => do
    check error
    update_backend fun backend => { backend with pointer := backend.pointer.store_report report }

/-- `if LastMouseUpdateTime != 0 { store_position(..) }` -/
def store_reported_position (acquired : AcquiredFrame) : Call Unit :=
  match acquired.position with
  | none => pure ()
  | some position =>
    update_backend fun backend => { backend with pointer := backend.pointer.store_position position }

/-- SRC: dxgi.rs:1061-1070 -/
def record_pointer_report (acquired : AcquiredFrame) (error : Option CaptureError) : Call Unit := do
  store_reported_position acquired
  refresh_pointer_shape acquired error

/-! ## Retaining -/

/-- SRC: dxgi.rs:1765-1777 -/
def poisoned_error : CaptureError :=
  capture_error .NativeFailure "lock_d3d11_context" "D3D11 context lock was poisoned" false none

def lock_context : Call Unit := do
  let world ← Session.read
  check (if world.desktop.lock_poisoned then some poisoned_error else none)

/-- A rectangle moved to other sides. -/
def Rect.with_sides (rect : Rect) (width height : Nat) : Rect :=
  if hw : InU32 width then
    if hh : InU32 height then
      { rect with width := width, height := height, width_u32 := hw, height_u32 := hh }
    else rect
  else rect

/-- The pointer of an image that is about to be retained: where it was last reported, if it
was visible there.
SRC: dxgi.rs:707-711, dxgi.rs:989-993 -/
def PointerCache.visible_at (cache : PointerCache) : Option (Int × Int) :=
  (cache.position.filter PointerPosition.visible).map fun position => (position.x, position.y)

/-- SRC: dxgi.rs:1009-1030 -/
def DxgiBackend.resized (backend : DxgiBackend) (source : Texture) : DxgiBackend :=
  let (width, height) :=
    dimensions_after_rotation source.width source.height backend.selected.rotation_degrees
  { backend with
    retained := .blank source.width source.height source.format
    selected := { backend.selected with bounds := backend.selected.bounds.with_sides width height } }

/-- Whether the retained texture has another size or format. -/
def Texture.differs (retained source : Texture) : Bool :=
  retained.width != source.width || retained.height != source.height ||
    retained.format != source.format

/-- The image copied to the retained texture.
SRC: dxgi.rs:1032-1043 -/
def DxgiBackend.with_retained (backend : DxgiBackend) (source : Texture) (presentation_qpc : Int)
    (pointer_at : Option (Int × Int)) : DxgiBackend :=
  let generation :=
    match backend.latest with
    | none => 1
    | some frame => min (frame.generation + 1) 18446744073709551615
  { backend with
    retained := source
    latest := some ⟨presentation_qpc, generation, pointer_at⟩ }

/-- A retained texture of the image's size and format.
SRC: dxgi.rs:1009-1030 -/
def fit_retained (source : Texture) (create_retained : Option CaptureError) : Call Unit := do
  let world ← Session.read
  if world.backend.retained.differs source then
    check create_retained
    update_backend fun backend => backend.resized source
  else pure ()

/-- SRC: dxgi.rs:999-1044 -/
def retain_frame (source : Texture) (presentation_qpc : Int) (pointer_at : Option (Int × Int))
    (create_retained : Option CaptureError) : Call (Option Nat) :=
  if presentation_qpc = 0 then pure none
  else do
    fit_retained source create_retained
    lock_context
    update_backend fun backend => backend.with_retained source presentation_qpc pointer_at
    let world ← Session.read
    pure (world.backend.latest.map RetainedFrame.generation)

/-- SRC: dxgi.rs:954-997 -/
def refresh_latest (round : Round) : Call Bool := do
  let acquired ← acquire round none
  record_pointer_report acquired round.read_shape
  if acquired.last_present_time = 0 then
    check round.release
    pure false
  else
    check round.cast
    if acquired.resource.width = 0 ∨ acquired.resource.height = 0 then
      Session.lift (fail (invalid_frame "refresh_latest" "DXGI returned an empty desktop texture"))
    else
      refresh_pointer_shape acquired round.read_shape_again
      let world ← Session.read
      let _ ← retain_frame acquired.resource acquired.last_present_time
        world.backend.pointer.visible_at round.create_retained
      check round.release
      pure true

/-- One round of the wait for the first image.
SRC: dxgi.rs:929-951 -/
def first_image_round : Call (Option Bool) := do
  let round ← next_round
  if round.remaining_ns = 0 then
    Session.lift (fail (capture_error .Timeout "capture_latest"
      "the desktop has not changed since Captastic started, so no frame has ever been available to retain"
      false (some DXGI_ERROR_WAIT_TIMEOUT)))
  else
    let retained ← refresh_latest round
    pure (if retained then some false else none)

/-- Whether the retained image was proven to be the newest.
SRC: dxgi.rs:912-952 -/
def refresh_latest_on_demand : Call Bool := do
  let round ← next_round
  let probe ← Session.attempt (refresh_latest round)
  let world ← Session.read
  match probe with
  | .ok true => pure false
  | .error .stopped => Session.lift (.error .stopped)
  | .error (.error error) =>
    if error.kind ≠ .Timeout then Session.lift (fail error)
    else if world.backend.latest.isSome then pure true
    else Session.loop first_image_round (world.rounds.length + 1)
  | .ok false =>
    if world.backend.latest.isSome then pure false
    else Session.loop first_image_round (world.rounds.length + 1)

/-! ## Delivering -/

/-- A device whose context cannot be locked maps nothing. -/
def Gpu.locked (gpu : Gpu) (lock_poisoned : Bool) : Gpu where
  map texture := if lock_poisoned then .error poisoned_error else gpu.map texture

/-- The pointer that a readback draws.
SRC: dxgi.rs:1318-1332 -/
def PointerCache.sample_at (cache : PointerCache) (pointer_at : Option (Int × Int)) :
    Option PointerSample :=
  match pointer_at, cache.shape with
  | some (x, y), some shape => some ⟨x, y, shape⟩
  | _, _ => none

/-- Where the pointer of a fresh image is drawn, and why not.
SRC: dxgi.rs:1072-1121 -/
def pointer_for (acquired : AcquiredFrame) (mode : CursorMode) (error : Option CaptureError)
    (metadata : FrameMetadata) : Call (Option (Int × Int) × FrameMetadata) :=
  if mode = .Exclude then pure (none, { metadata with cursor := some .Excluded })
  else do
    refresh_pointer_shape acquired error
    store_reported_position acquired
    let world ← Session.read
    match world.backend.pointer.position with
    | none => pure (none, { metadata with cursor := some (.Absent .PositionNotYetKnown) })
    | some position =>
      if !position.visible then
        pure (none, { metadata with cursor := some (.Absent .NotVisible) })
      else if world.backend.pointer.shape.isNone then
        pure (none, { metadata with cursor := some (.Absent .ShapeNotYetKnown) })
      else pure (some (position.x, position.y), metadata)

/-- Where the pointer of a retained image is drawn, and why not.
SRC: dxgi.rs:1123-1146 -/
def retained_pointer (pointer_at : Option (Int × Int)) (mode : CursorMode)
    (metadata : FrameMetadata) : Call (Option (Int × Int) × FrameMetadata) := do
  let world ← Session.read
  if mode = .Exclude then pure (none, { metadata with cursor := some .Excluded })
  else if pointer_at.isNone then
    pure (none, { metadata with cursor := some (.Absent .NotVisible) })
  else if world.backend.pointer.shape.isNone then
    pure (none, { metadata with cursor := some (.Absent .ShapeNotYetKnown) })
  else pure (pointer_at, { metadata with cursor := none })

/-- A copy of the texture, for whoever materializes a part of it later.
SRC: dxgi.rs:751-758, dxgi.rs:870-875, dxgi.rs:1409-1428 -/
def snapshot_texture (request : CaptureRequest) (calls : CaptureCalls) (texture : Texture)
    (metadata : FrameMetadata) : Call (Option Texture × FrameMetadata) :=
  if request.retain_native_frame then do
    check calls.snapshot
    lock_context
    pure (some texture,
      { metadata with copy_count := saturating_add_u32 metadata.copy_count 1 })
  else pure (none, metadata)

/-- The frames of a capture; `point` decides about the pointer.
SRC: dxgi.rs:751-781, dxgi.rs:868-904 -/
def deliver (request : CaptureRequest) (calls : CaptureCalls) (texture : Texture)
    (metadata : FrameMetadata)
    (point : FrameMetadata → Call (Option (Int × Int) × FrameMetadata)) : Call CaptureOutcome := do
  let (native, metadata) ← snapshot_texture request calls texture metadata
  if request.cpu_frame then
    let (pointer_at, metadata) ← point metadata
    let world ← Session.read
    let (frame, metadata) ← Session.lift (readback (calls.gpu.locked world.desktop.lock_poisoned)
      calls.pool calls.cpu_ready_ns texture metadata (world.backend.pointer.sample_at pointer_at))
    pure ⟨metadata, some frame, native.map fun texture => ⟨texture, metadata⟩⟩
  else
    check calls.device_removed
    pure ⟨metadata, none, native.map fun texture => ⟨texture, metadata⟩⟩

/-- SRC: dxgi.rs:804-905 -/
def capture_latest (request : CaptureRequest) (max_age_ms : Option Nat) (calls : CaptureCalls) :
    Call CaptureOutcome := do
  let verified_current ← refresh_latest_on_demand
  let world ← Session.read
  let latest ← Session.lift (or_fail world.backend.latest
    (capture_error .SourceUnavailable "capture_latest"
      "no retained desktop frame is available yet" true none))
  let anchor ← Session.lift (native calls.latest_anchor)
  let offset := presentation_offset_ns anchor world.backend.qpc_frequency latest.presentation_qpc
  let frame_age_ns := if offset < 0 then offset.natAbs else 0
  if frame_is_too_stale max_age_ms frame_age_ns verified_current then
    Session.lift (fail (capture_error .Timeout "capture_latest"
      s!"retained frame age {calls.format_ms frame_age_ns} ms exceeds the configured maximum" true
      none))
  else
    deliver request calls world.backend.retained
      { capture_id := request.id
        backend := "dxgi"
        display_id := world.backend.selected.id
        source_rect := world.backend.selected.bounds
        rotation_degrees := world.backend.selected.rotation_degrees
        capture_mode := request.mode
        presentation_offset_ns := some offset
        timing_provenance := .OsPresentationTime
        native_ready_offset_ns := calls.native_ready_ns
        cpu_ready_offset_ns := none
        frame_age_ns := some frame_age_ns
        verified_current_offset_ns := if verified_current then some calls.verified_ns else none
        frame_generation := some latest.generation
        copy_count := 1
        pool_slot := none
        cursor := none }
      (retained_pointer latest.pointer_at request.cursor)

/-- `unwrap_or(false)` -/
def unwrap_or_false (result : Except (Fault CaptureError) Bool) : Call Bool :=
  match result with
  | .ok value => pure value
  | .error .stopped => Session.lift (.error .stopped)
  | .error (.error _) => pure false

/-- An image that a fresh capture has acquired: kept unless it was presented before the trigger.
SRC: dxgi.rs:665-797 -/
def fresh_image (request : CaptureRequest) (calls : CaptureCalls) (anchor : Anchor) (round : Round)
    (acquired : AcquiredFrame) : Call (Option CaptureOutcome) := do
  let world ← Session.read
  let offset := presentation_offset_ns anchor world.backend.qpc_frequency acquired.last_present_time
  if acquired.last_present_time = 0 ∨ offset < 0 then
    check round.release
    pure none
  else
    check round.cast
    if acquired.resource.width = 0 ∨ acquired.resource.height = 0 then
      Session.lift (fail (invalid_frame "texture_desc" "DXGI returned an empty desktop texture"))
    else
      store_reported_position acquired
      let world ← Session.read
      let frame_generation ← retain_frame acquired.resource acquired.last_present_time
        world.backend.pointer.visible_at round.create_retained
      let world ← Session.read
      let outcome ← deliver request calls acquired.resource
        { capture_id := request.id
          backend := "dxgi"
          display_id := world.backend.selected.id
          source_rect := world.backend.selected.bounds
          rotation_degrees := world.backend.selected.rotation_degrees
          capture_mode := request.mode
          presentation_offset_ns := some offset
          timing_provenance := .OsPresentationTime
          native_ready_offset_ns := round.native_ready_ns
          cpu_ready_offset_ns := none
          frame_age_ns := some 0
          verified_current_offset_ns := none
          frame_generation := frame_generation
          copy_count := 1
          pool_slot := none
          cursor := none }
        (pointer_for acquired request.cursor round.read_shape_again)
      pure (some outcome)

/-- One round of a fresh capture.
SRC: dxgi.rs:639-798 -/
def fresh_round (request : CaptureRequest) (calls : CaptureCalls) (anchor : Anchor) :
    Call (Option CaptureOutcome) := do
  let round ← next_round
  if round.remaining_ns = 0 then
    let probe ← Session.attempt refresh_latest_on_demand
    let current ← unwrap_or_false probe
    if current then
      let outcome ← capture_latest request none calls
      pure (some outcome)
    else
      Session.lift (fail (capture_error .Timeout "acquire_next_frame"
        "no post-trigger desktop frame arrived before the timeout, and no retained frame could be proven current"
        true (some DXGI_ERROR_WAIT_TIMEOUT)))
  else
    let acquired ← acquire round (some anchor)
    record_pointer_report acquired round.read_shape
    fresh_image request calls anchor round acquired

/-- SRC: dxgi.rs:85-99, dxgi.rs:551-565 -/
def check_display_configuration (calls : CaptureCalls) : Call Unit := do
  let world ← Session.read
  check (if world.backend.display_configuration_generation = calls.display_configuration_generation
    then none
    else some (capture_error .TopologyChanged "capture"
      s!"display configuration changed from generation {world.backend.display_configuration_generation} to {calls.display_configuration_generation}; recreate the capture backend"
      true none))

/-- SRC: dxgi.rs:611-633 -/
def check_source (source : CaptureSource) : Call Unit := do
  let world ← Session.read
  let selected := world.backend.selected
  check (match source with
    | .Display id =>
      if id = selected.id ∨ (id = "primary" ∧ selected.is_primary) then none
      else some (capture_error .SourceUnavailable "capture_display_binding"
        s!"backend was initialized for {selected.id}, not {id}" false none)
    | .VirtualDesktop =>
      some (capture_error .Unsupported "capture"
        "a single-output DXGI backend cannot capture the virtual desktop; use the DXGI display manager"
        false none))

/-- SRC: dxgi.rs:604-799 -/
def capture (request : CaptureRequest) (calls : CaptureCalls) : Call CaptureOutcome := do
  Session.update fun world => { world with rounds := calls.rounds }
  check_display_configuration calls
  check_source request.source
  match request.mode with
  | .Latest max_age_ms => capture_latest request max_age_ms calls
  | .Fresh _ =>
    let anchor ← Session.lift (native calls.fresh_anchor)
    if calls.deadline_overflows then
      Session.lift (fail (capture_error .Timeout "capture" "fresh capture deadline overflowed" false
        none))
    else Session.loop (fresh_round request calls anchor) (calls.rounds.length + 1)

end Captastic.Model
