import Captastic.Model.Attempts
import Captastic.Model.UiState
import Std.Data.ExtTreeMap

/-!
# Updates of the UI state

What the overlay and the selection worker tell the thread that saves the UI state
(`captastic-app/src/selection.rs`): `remember_confirmed_region`, the updates, and
`persist_ui_state`, which takes what has arrived, keeps the latest update of each kind and
display, and saves those in the order of their keys.

The operating system answers all of a run's saves alike, as `io` says.  How the receiver's
iterator splits the updates into batches is an input.
-/

set_option autoImplicit false

namespace Captastic.Model

/-- SRC: overlay.rs:389-421 -/
inductive OverlayUiUpdate (F : Type) where
  | Interaction (display_id : String) (tool : CaptureTool) (region : Option CaptureRegion)
      (source : Option CaptureRegionSource)
  | ToolbarCenter (display_id : String) (center_x center_y : F)
  | ConfirmedRegion (display_id : String) (region : CaptureRegion) (source : CaptureRegionSource)
  | SnapToWindows (enabled : Bool)
  | RegionZoom (mode : RegionZoom)
  | FileOutput (enabled : Bool)
  | RecordingFormat (format : RecordingFormat)

variable {F Text : Type}

/-! ## Confirmed regions -/

/-- SRC: selection.rs:27 -/
abbrev ConfirmedRegionCache := Std.ExtTreeMap String ConfirmedRegion compare

/-- What is remembered of a confirmed rectangle: where it is from the display's origin, if
both distances are `i32`s.
SRC: selection.rs:1130-1157 -/
def confirmed_region (metadata : FrameMetadata) (rect : Rect) : Option ConfirmedRegion :=
  let source := metadata.source_rect
  if x_i32 : InI32 (rect.x - source.x) then
    if y_i32 : InI32 (rect.y - source.y) then
      some
        { region :=
            { x := ⟨rect.x - source.x, x_i32⟩, y := ⟨rect.y - source.y, y_i32⟩
              width := ⟨rect.width, rect.width_u32⟩, height := ⟨rect.height, rect.height_u32⟩ }
          source :=
            { width := ⟨source.width, source.width_u32⟩
              height := ⟨source.height, source.height_u32⟩
              rotation_degrees := UInt16.ofNat metadata.rotation_degrees } }
    else none
  else none

/-- The cache, and the update submitted to be saved.
SRC: selection.rs:1124-1169 -/
def remember_confirmed_region (cache : ConfirmedRegionCache) (metadata : FrameMetadata)
    (rect : Rect) : ConfirmedRegionCache × Option (OverlayUiUpdate F) :=
  match confirmed_region metadata rect with
  | none => (cache, none)
  | some confirmed =>
    (cache.insert metadata.display_id confirmed,
      some (.ConfirmedRegion metadata.display_id confirmed.region confirmed.source))

/-! ## Coalescing -/

/-- SRC: selection.rs:1437-1457 -/
def ui_update_key : OverlayUiUpdate F → String × Nat
  | .Interaction display_id _ _ _ => (display_id, 0)
  | .ToolbarCenter display_id _ _ => (display_id, 1)
  | .ConfirmedRegion display_id _ _ => (display_id, 2)
  | .SnapToWindows _ => ("", 3)
  | .RegionZoom _ => ("", 4)
  | .FileOutput _ => ("", 5)
  | .RecordingFormat _ => ("", 6)

/-- The order of pairs. -/
abbrev key_order : String × Nat → String × Nat → Ordering :=
  compareLex (compareOn Prod.fst) (compareOn Prod.snd)

abbrev LatestUpdates (F : Type) := Std.ExtTreeMap (String × Nat) (OverlayUiUpdate F) key_order

/-- An update after the latest one of its key: an interaction without a region keeps the one
before's.
SRC: selection.rs:1518-1529 -/
def after_previous (previous : Option (OverlayUiUpdate F)) (update : OverlayUiUpdate F) :
    OverlayUiUpdate F :=
  match previous, update with
  | some (.Interaction _ _ previous_region previous_source), .Interaction display_id tool none _ =>
    .Interaction display_id tool previous_region previous_source
  | _, update => update

/-- SRC: selection.rs:1513-1531 -/
def coalesce_ui_update (latest : LatestUpdates F) (key : String × Nat)
    (update : OverlayUiUpdate F) : LatestUpdates F :=
  latest.insert key (after_previous latest[key]? update)

/-- What a batch of updates comes to.
SRC: selection.rs:1434-1459 -/
def coalesced (batch : List (OverlayUiUpdate F)) : LatestUpdates F :=
  batch.foldl (fun latest update => coalesce_ui_update latest (ui_update_key update) update) ∅

/-! ## Saving -/

/-- The call of the store that an update is saved by; two kinds are not UI state.
SRC: selection.rs:1461-1500 -/
def store_call : OverlayUiUpdate F → Option (Save F)
  | .Interaction display_id tool region source =>
    some (.interaction_state display_id tool region source)
  | .ToolbarCenter display_id center_x center_y =>
    some (.overlay_center display_id center_x center_y)
  | .ConfirmedRegion display_id region source => some (.confirmed_region display_id region source)
  | .SnapToWindows enabled => some (.snap_to_windows enabled)
  | .RegionZoom mode => some (.region_zoom mode)
  | .FileOutput _ => none
  | .RecordingFormat _ => none

/-- What else an update leads to: a request to the daemon, the recording host's new format, or
the report that a save failed. -/
inductive PersistEffect where
  | file_output_request (enabled : Bool)
  | set_format (format : RecordingFormat)
  | failed (error : ConfigError)

/-- The files, and what was sent so far. -/
structure Persisted (Text : Type) where
  files : StateFiles Text
  effects : List PersistEffect

/-- Whom the thread can send to: the daemon and the recording host.
SRC: selection.rs:1430-1431 -/
structure PersistSinks where
  file_output_requests : Bool
  recordings : Bool

section Persist

variable [Coordinate F] (T : TomlCodec F Text) (store : UiStateStore) (io : SaveIo)
  (sinks : PersistSinks)

/-- One update of a batch; a save that fails leaves the files as they are.
SRC: selection.rs:1461-1508 -/
def persist_update (persisted : Persisted Text) (update : OverlayUiUpdate F) : Persisted Text :=
  match store_call update with
  | some call =>
    match save T store io persisted.files call with
    | .ok files => { persisted with files }
    | .error error => { persisted with effects := persisted.effects ++ [.failed error] }
  | none =>
    match update with
    | .FileOutput enabled =>
      if sinks.file_output_requests then
        { persisted with effects := persisted.effects ++ [.file_output_request enabled] }
      else persisted
    | .RecordingFormat format =>
      if sinks.recordings then
        { persisted with effects := persisted.effects ++ [.set_format format] }
      else persisted
    | _ => persisted

/-- SRC: selection.rs:1433-1510 -/
def persist_batch (persisted : Persisted Text) (batch : List (OverlayUiUpdate F)) :
    Persisted Text :=
  ((coalesced batch).toList.map Prod.snd).foldl (persist_update T store io sinks) persisted

/-- SRC: selection.rs:1426-1511 -/
def persist_ui_state (files : StateFiles Text) (batches : List (List (OverlayUiUpdate F))) :
    Persisted Text :=
  batches.foldl (persist_batch T store io sinks) ⟨files, []⟩

end Persist

end Captastic.Model
