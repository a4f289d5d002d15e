import Captastic.Model.OverlayMachine
import Captastic.Model.UiUpdates

/-!
# What the process remembers of the UI

`OverlayController` of `captastic-windows/src/overlay.rs` remembers, beside the state that is
saved, what overlays of this process have chosen; `resolve_display_ui_state` of
`captastic-config/src/ui_state.rs` is what a display restores from a state.  A run of the overlay
asks for what is remembered of its display and then submits updates.

The locks, and the channel to the thread that saves, are left out: what is submitted is listed.
-/

set_option autoImplicit false

namespace Captastic.Model

variable {F : Type}

/-- `Option::zip` -/
def zip {α β : Type} (first : Option α) (second : Option β) : Option (α × β) :=
  first.bind fun a => second.map fun b => (a, b)

/-- `DisplayUiState`, with the fields beside those of its region.
SRC: captastic-config/src/lib.rs:355-373 -/
structure RememberedUi (F : Type) extends DisplayUiState where
  overlay_center : Option (F × F)
  overlay_position : Option (I32 × I32)
  tool : Option CaptureTool
  confirmed_region : Option ConfirmedRegion
  snap_to_windows : Option Bool
  region_zoom : Option RegionZoom

/-- `DisplayUiState::default()` -/
def RememberedUi.empty : RememberedUi F where
  region := none
  region_source := none
  region_is_display_local := false
  overlay_center := none
  overlay_position := none
  tool := none
  confirmed_region := none
  snap_to_windows := none
  region_zoom := none

/-! ## A saved state -/

/-- SRC: ui_state.rs:126-153 -/
def resolve_display_ui_state (state : UiState F) (display_id : String) : RememberedUi F :=
  let display := state.displays[display_id]?
  let display_region := display.bind DisplayUiConfig.last_region
  { overlay_center := display.bind fun entry => zip entry.overlay_center_x entry.overlay_center_y
    overlay_position := (display.bind fun entry => zip entry.overlay_x entry.overlay_y).or
      (zip state.overlay_x state.overlay_y)
    tool := (display.bind DisplayUiConfig.last_capture_tool).or state.last_capture_tool
    region := display_region.or state.last_region
    region_source := display.bind DisplayUiConfig.last_region_source
    region_is_display_local := display_region.isSome
    confirmed_region := (display.bind fun entry =>
        zip entry.last_confirmed_region entry.last_confirmed_region_source).map
      fun (region, source) => ⟨region, source⟩
    snap_to_windows := state.snap_to_windows
    region_zoom := state.region_zoom }

/-- SRC: ui_state.rs:107-119 -/
def confirmed_regions (state : UiState F) : ConfirmedRegionCache :=
  state.displays.filterMap fun _ entry =>
    (zip entry.last_confirmed_region entry.last_confirmed_region_source).map
      fun (region, source) => ⟨region, source⟩

/-! ## The live state -/

/-- SRC: overlay.rs:440-451 -/
structure LiveUiState (F : Type) where
  displays : Std.ExtTreeMap String (RememberedUi F) compare
  snap_to_windows : Option Bool
  region_zoom : Option RegionZoom

namespace LiveUiState

/-- `LiveUiState::default()` -/
def empty : LiveUiState F := ⟨∅, none, none⟩

/-- `displays.entry(display_id).or_default()`, with what is then done to the entry. -/
def with_display (state : LiveUiState F) (display_id : String)
    (change : RememberedUi F → RememberedUi F) : LiveUiState F :=
  { state with
    displays := state.displays.alter display_id
      (fun display => some (change (display.getD RememberedUi.empty))) }

end LiveUiState

/-- What is remembered of a display, and the state that remembers it from now on.
SRC: overlay.rs:471-497 -/
def remembered_ui (live_ui : LiveUiState F) (display_id : String) (fallback : RememberedUi F) :
    RememberedUi F × LiveUiState F :=
  let remembered := live_ui.displays[display_id]?.getD fallback
  ({ remembered with
      snap_to_windows := live_ui.snap_to_windows.or remembered.snap_to_windows
      region_zoom := live_ui.region_zoom.or remembered.region_zoom },
    { live_ui with displays := live_ui.displays.insertIfNew display_id fallback })

/-- SRC: overlay.rs:1270-1276 -/
def live_interaction (tool : CaptureTool) (region : Option CaptureRegion)
    (source : Option CaptureRegionSource) (display : RememberedUi F) : RememberedUi F :=
  let display := { display with tool := some tool }
  match region with
  | some region =>
    { display with
      region := some region
      region_source := source
      region_is_display_local := true }
  | none => display

/-- SRC: overlay.rs:1257-1303 -/
def apply_overlay_ui_update (state : LiveUiState F) : OverlayUiUpdate F → LiveUiState F
  | .SnapToWindows enabled => { state with snap_to_windows := some enabled }
  | .RegionZoom mode => { state with region_zoom := some mode }
  | .FileOutput _ | .RecordingFormat _ => state
  | .Interaction display_id tool region source =>
    state.with_display display_id (live_interaction tool region source)
  | .ToolbarCenter display_id center_x center_y =>
    state.with_display display_id fun display =>
      { display with overlay_center := some (center_x, center_y) }
  | .ConfirmedRegion display_id region source =>
    state.with_display display_id fun display =>
      { display with confirmed_region := some ⟨region, source⟩ }

/-! ## Runs of the overlay -/

/-- What the process remembers, and what it has submitted to be saved. -/
structure UiMemory (F : Type) where
  live_ui : LiveUiState F
  confirmed_regions : ConfirmedRegionCache
  submitted : List (OverlayUiUpdate F)

namespace UiMemory

/-- What it starts with.
SRC: daemon.rs:162, 1055 -/
def started (loaded : UiState F) : UiMemory F := ⟨.empty, Model.confirmed_regions loaded, []⟩

/-- SRC: overlay.rs:1242-1254 -/
def submit (memory : UiMemory F) (update : OverlayUiUpdate F) : UiMemory F :=
  { memory with
    live_ui := apply_overlay_ui_update memory.live_ui update
    submitted := memory.submitted ++ [update] }

/-- SRC: selection.rs:1124-1169 -/
def confirm (memory : UiMemory F) (metadata : FrameMetadata) (rect : Rect) : UiMemory F :=
  match remember_confirmed_region memory.confirmed_regions metadata rect with
  | (cache, some update) => { memory with confirmed_regions := cache }.submit update
  | (cache, none) => { memory with confirmed_regions := cache }

end UiMemory

/-- What happens in a run: an update of the overlay is submitted, or the run ends with a confirmed
rectangle, which is remembered. -/
inductive UiStep (F : Type) where
  | Submitted (update : OverlayUiUpdate F)
  | Confirmed (metadata : FrameMetadata) (rect : Rect)

/-- A run of the overlay on a display. -/
structure UiRun (F : Type) where
  display_id : String
  steps : List (UiStep F)

/-- SRC: overlay.rs:499-503, selection.rs:328-341 -/
def after_step (memory : UiMemory F) : UiStep F → UiMemory F
  | .Submitted update => memory.submit update
  | .Confirmed metadata rect => memory.confirm metadata rect

/-- A run, of a process that has loaded a state: the fallback is what its display restores from
that.
SRC: daemon.rs:2796-2799, selection.rs:272-275 -/
def after_run (loaded : UiState F) (memory : UiMemory F) (run : UiRun F) : UiMemory F :=
  run.steps.foldl after_step
    { memory with
      live_ui := (remembered_ui memory.live_ui run.display_id
        (resolve_display_ui_state loaded run.display_id)).2 }

/-- Every run of a process, in order. -/
def after_runs (loaded : UiState F) (runs : List (UiRun F)) : UiMemory F :=
  runs.foldl (after_run loaded) (.started loaded)

end Captastic.Model
