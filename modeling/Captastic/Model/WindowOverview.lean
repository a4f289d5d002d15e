import Captastic.Model.OverlayMachine
import Captastic.Model.WindowRender

/-!
# The window chooser's overview

`captastic-windows/src/overlay.rs`: the tool for windows shows a tile for each window.  The
compositor draws what it can; the tiles it cannot draw are rendered a batch at a time, each batch
the answer to a message that the batch before it posted to the overlay's own window.

`ShellAnswers` is what the window manager and the compositor answer while one message is handled,
and `RenderOutcome` how one render ends.  A tile's rectangle is floating-point, so whether a
preview clears the toolbar is part of the answer.  The cache the chooser is painted from is left
out: nothing reads it but the painting.
-/

set_option autoImplicit false

namespace Captastic.Model

/-- SRC: overlay.rs:207-211 -/
inductive Presenter where
  | Layered
  | Opaque
deriving DecidableEq, Repr

/-- One tile in the window chooser.
SRC: overlay.rs:1056-1064 -/
structure WindowThumbnail (Pixels : Type) where
  handle : NativeWindowHandle
  source_width : Int
  source_height : Int
  surface : Option Pixels
deriving DecidableEq, Repr

/-! ## The queue of renders -/

/-- SRC: window_capture.rs:39 -/
def WINDOW_THUMBNAIL_RENDER_BATCH : Nat := MAX_IN_FLIGHT_WINDOW_RENDERS - 1

/-- An ordered queue of windows to render, with the attempt, stamped with a generation.
SRC: overlay.rs:2837-2840 -/
structure OverviewBuildQueue where
  generation : UInt64
  pending : List (NativeWindowHandle × Nat)
deriving DecidableEq, Repr

namespace OverviewBuildQueue

/-- SRC: overlay.rs:2843-2848 -/
def new (generation : UInt64) (handles : List NativeWindowHandle) : OverviewBuildQueue where
  generation := generation
  pending := handles.map fun handle => (handle, 0)

variable (queue : OverviewBuildQueue)

/-- SRC: overlay.rs:2851-2853 -/
def accepts (generation : UInt64) : Bool := queue.generation == generation

/-- SRC: overlay.rs:2855-2858 -/
def take_batch (size : Nat) : List (NativeWindowHandle × Nat) × OverviewBuildQueue :=
  let size := min (max size 1) queue.pending.length
  (queue.pending.take size, { queue with pending := queue.pending.drop size })

/-- SRC: overlay.rs:2862-2868 -/
def requeue (handle : NativeWindowHandle) (attempt : Nat) : Bool × OverviewBuildQueue :=
  if attempt = 0 then (true, { queue with pending := queue.pending ++ [(handle, 1)] })
  else (false, queue)

/-- SRC: overlay.rs:2874-2880 -/
def enqueue (handle : NativeWindowHandle) : OverviewBuildQueue :=
  if queue.pending.any fun queued => queued.1 = handle then queue
  else { queue with pending := queue.pending ++ [(handle, 0)] }

/-- SRC: overlay.rs:2882-2884 -/
def is_done : Bool := queue.pending.isEmpty

end OverviewBuildQueue

/-! ## What Windows answers -/

/-- What the window manager and the compositor answer while one message is handled: the windows
they list, their sizes, whether the compositor draws a window's preview clear of the toolbar, and
whether a message can be posted. -/
structure ShellAnswers where
  enumerated : List NativeWindowHandle
  dwm_source_size : NativeWindowHandle → Option (Int × Int)
  native_window_size : NativeWindowHandle → Option (Int × Int)
  previews : NativeWindowHandle → Bool
  posts : Bool

/-- How the render of a window ends: in pixels, in a capture no surface can be made from, in an
error, or in its worker's panic. -/
inductive RenderOutcome (Pixels : Type) where
  | captured (width height : Int) (pixels : Pixels)
  | unusable
  | failed (retryable : Bool)
  | panicked
deriving DecidableEq, Repr

/-- A render that was made. -/
structure RenderMade (Pixels : Type) where
  handle : NativeWindowHandle
  attempt : Nat
  outcome : RenderOutcome Pixels
deriving DecidableEq, Repr

/-- The window chooser's part of the overlay's state, the messages in flight, and, which nothing
reads, the renders that were made.
SRC: overlay.rs:898-909 -/
structure Chooser (Pixels : Type) where
  presenter : Presenter
  windows : Option (List NativeWindowHandle)
  window_thumbnails : List (WindowThumbnail Pixels)
  live_window_thumbnails : List NativeWindowHandle
  window_overview_build : Option OverviewBuildQueue
  overview_build_generation : UInt64
  posted : List UInt64
  made : List (RenderMade Pixels)

namespace Chooser

variable {Pixels : Type} (chooser : Chooser Pixels)

/-- SRC: overlay.rs:832-840 -/
def opened (presenter : Presenter) : Chooser Pixels where
  presenter := presenter
  windows := none
  window_thumbnails := []
  live_window_thumbnails := []
  window_overview_build := none
  overview_build_generation := 0
  posted := []
  made := []

/-! ## Starting a build -/

variable (answers : ShellAnswers)

/-- SRC: overlay.rs:2692-2734 -/
def ensure_window_inventory : Chooser Pixels :=
  match chooser.windows with
  | some _ => chooser
  | none => { chooser with windows := some answers.enumerated }

/-- SRC: overlay.rs:2892-2902 -/
def post_overview_batch (generation : UInt64) : Chooser Pixels :=
  if answers.posts then { chooser with posted := chooser.posted ++ [generation] } else chooser

/-- The tile of a window whose size something can tell.
SRC: overlay.rs:3055-3082 -/
def seed_tile (handle : NativeWindowHandle) : Option (WindowThumbnail Pixels) :=
  let source :=
    (if chooser.presenter = .Layered then answers.dwm_source_size handle else none).orElse
      fun _ => answers.native_window_size handle
  source.map fun (source_width, source_height) => ⟨handle, source_width, source_height, none⟩

/-- SRC: overlay.rs:3050-3085 -/
def seed_window_tiles (handles : List NativeWindowHandle) :
    List NativeWindowHandle × Chooser Pixels :=
  let seeded := handles.filterMap (chooser.seed_tile answers)
  (if chooser.presenter = .Layered then [] else seeded.map WindowThumbnail.handle,
    { chooser with window_thumbnails := chooser.window_thumbnails ++ seeded })

/-- A build of the next generation.
SRC: overlay.rs:2924-2928, overlay.rs:3218-3222 -/
def begin_build (handles : List NativeWindowHandle) : Chooser Pixels :=
  let generation := chooser.overview_build_generation + 1
  { chooser with
    overview_build_generation := generation
    window_overview_build := some (.new generation handles) }

/-- The windows of the tiles that are neither drawn by the compositor nor have pixels.
SRC: overlay.rs:3196-3208 -/
def uncovered : List NativeWindowHandle :=
  ((chooser.window_thumbnails.filter fun tile => tile.surface.isNone).map
    WindowThumbnail.handle).filter fun handle => !chooser.live_window_thumbnails.contains handle

/-- SRC: overlay.rs:3195-3225 -/
def queue_uncovered_window_tiles : Chooser Pixels :=
  if chooser.uncovered.isEmpty then chooser
  else
    match chooser.window_overview_build with
    | some queue =>
      { chooser with
        window_overview_build := some (chooser.uncovered.foldl OverviewBuildQueue.enqueue queue) }
    | none => chooser.begin_build chooser.uncovered

/-- SRC: overlay.rs:3119-3187 -/
def refresh_live_window_thumbnails (tool : CaptureTool) : Chooser Pixels :=
  if chooser.presenter ≠ .Layered ∨ tool ≠ .Window then
    { chooser with live_window_thumbnails := [] }
  else
    { chooser with
      live_window_thumbnails :=
        (chooser.window_thumbnails.map WindowThumbnail.handle).filter answers.previews }
      |>.queue_uncovered_window_tiles

/-- SRC: overlay.rs:3113-3117 -/
def ensure_overview_batch_posted : Chooser Pixels :=
  match chooser.window_overview_build with
  | some queue => chooser.post_overview_batch answers queue.generation
  | none => chooser

/-- The tiles of a chooser that has none and builds none.
SRC: overlay.rs:2911-2930 -/
def seeded : Chooser Pixels :=
  if chooser.window_overview_build.isNone ∧ chooser.window_thumbnails.isEmpty then
    let (needs_render, chooser) := chooser.seed_window_tiles answers (chooser.windows.getD [])
    if needs_render.isEmpty then chooser else chooser.begin_build needs_render
  else chooser

/-- SRC: overlay.rs:2908-2943 -/
def start_window_overview_build (tool : CaptureTool) : Chooser Pixels :=
  ((chooser.ensure_window_inventory answers).seeded answers).refresh_live_window_thumbnails
    answers tool |>.ensure_overview_batch_posted answers

/-- The effect of a toolbar's move or a menu's change on the chooser.
SRC: overlay.rs:2076-2084 -/
def refresh_window_chrome (tool : CaptureTool) : Chooser Pixels :=
  (chooser.refresh_live_window_thumbnails answers tool).ensure_overview_batch_posted answers

/-! ## Rendering a batch -/

/-- Puts a rendered tile in the place of the window's own, or after all.
SRC: overlay.rs:3015-3024 -/
def place_thumbnail (rendered : WindowThumbnail Pixels) :
    List (WindowThumbnail Pixels) → List (WindowThumbnail Pixels)
  | [] => [rendered]
  | tile :: tiles =>
    if tile.handle = rendered.handle then rendered :: tiles
    else tile :: place_thumbnail rendered tiles

/-- Takes one render's outcome into the queue and the new tiles.
SRC: overlay.rs:2983-3011 -/
def take_outcome (left : OverviewBuildQueue × List (WindowThumbnail Pixels))
    (render : RenderMade Pixels) : OverviewBuildQueue × List (WindowThumbnail Pixels) :=
  match render.outcome with
  | .captured width height pixels =>
    (left.1, left.2 ++ [⟨render.handle, width, height, some pixels⟩])
  | .failed true => ((left.1.requeue render.handle render.attempt).2, left.2)
  | .unusable | .failed false | .panicked => left

/-- The renders of a batch, in its order. -/
def renders (outcome : NativeWindowHandle → Nat → RenderOutcome Pixels)
    (batch : List (NativeWindowHandle × Nat)) : List (RenderMade Pixels) :=
  batch.map fun (handle, attempt) => ⟨handle, attempt, outcome handle attempt⟩

/-- SRC: overlay.rs:2948-3040 -/
def render_overview_batch (tool : CaptureTool) (generation : UInt64)
    (outcome : NativeWindowHandle → Nat → RenderOutcome Pixels) : Chooser Pixels :=
  if tool ≠ .Window then chooser
  else
    match chooser.window_overview_build with
    | none => chooser
    | some queue =>
      if !queue.accepts generation then chooser
      else
        let (batch, queue) := queue.take_batch WINDOW_THUMBNAIL_RENDER_BATCH
        let made := renders outcome batch
        let (queue, new_thumbnails) := made.foldl take_outcome (queue, [])
        let chooser := { chooser with
          made := chooser.made ++ made
          window_thumbnails :=
            new_thumbnails.foldl (fun tiles tile => place_thumbnail tile tiles)
              chooser.window_thumbnails }
        if queue.is_done then
          ({ chooser with window_overview_build := none }.refresh_live_window_thumbnails
            answers tool).ensure_overview_batch_posted answers
        else
          { chooser with window_overview_build := some queue }.post_overview_batch
            answers generation

/-! ## Painting -/

/-- The windows of the tiles that no longer exist.
SRC: overlay.rs:2224-2230 -/
def dead_window_sources (is_window : NativeWindowHandle → Bool) : List NativeWindowHandle :=
  (chooser.window_thumbnails.map WindowThumbnail.handle).filter fun handle => !is_window handle

/-- SRC: overlay.rs:2223-2257 -/
def prune_dead_window_sources (is_window : NativeWindowHandle → Bool) : Chooser Pixels :=
  let dead := chooser.dead_window_sources is_window
  { chooser with
    window_thumbnails := chooser.window_thumbnails.filter fun tile => !dead.contains tile.handle
    live_window_thumbnails := chooser.live_window_thumbnails.filter fun handle =>
      !dead.contains handle
    windows := chooser.windows.map fun handles => handles.filter fun handle =>
      !dead.contains handle }

/-! ## Effects -/

/-- The effects that reach the chooser.  The previews are hidden in place, and what a window's
preview or the inventory of edges comes to is the next input.
SRC: overlay.rs:2012-2085 -/
def apply_overlay_effect (tool : CaptureTool) : OverlayEffect → Chooser Pixels
  | .ClearLiveThumbnails => { chooser with live_window_thumbnails := [] }
  | .BuildWindowOverview => chooser.start_window_overview_build answers tool
  | .BuildSnapTargets => chooser.ensure_window_inventory answers
  | .RefreshWindowChrome => chooser.refresh_window_chrome answers tool
  | _ => chooser

end Chooser

/-- Whether the effect ends the run. -/
def closes : OverlayEffect → Bool
  | .Close _ => true
  | _ => false

/-! ## The overlay with its chooser -/

/-- An overlay on screen: its model, its chooser, and whether its window is gone. -/
structure ChooserSession (Pixels : Type) where
  model : OverlayModel
  chooser : Chooser Pixels
  closed : Bool

/-- What the overlay's window is told: an input, a message posted to itself, or to paint. -/
inductive ChooserEvent (Pixels : Type) where
  | input (input : OverlayInput) (answers : ShellAnswers)
  | batch (generation : UInt64) (outcome : NativeWindowHandle → Nat → RenderOutcome Pixels)
      (answers : ShellAnswers)
  | paint (is_window : NativeWindowHandle → Bool)

namespace ChooserSession

variable {Pixels : Type} (session : ChooserSession Pixels)

/-- Applies the effects of an input; nothing is applied after the close.
SRC: overlay.rs:1961-2170 -/
def apply_overlay_effects (answers : ShellAnswers) (left : Handled) : ChooserSession Pixels where
  model := left.1
  chooser := (left.2.takeWhile fun effect => !closes effect).foldl
    (fun chooser effect => chooser.apply_overlay_effect answers left.1.tool effect) session.chooser
  closed := left.2.any closes

/-- The chooser revisits its windows as it paints, under its own tool only.
SRC: overlay.rs:2261-2276 -/
def compose_overlay_state (is_window : NativeWindowHandle → Bool) : ChooserSession Pixels :=
  if session.model.tool ≠ .Window then session
  else
    let dead := session.chooser.dead_window_sources is_window
    { session with
      model := (session.model.window_sources_pruned dead).1
      chooser := session.chooser.prune_dead_window_sources is_window }

/-- SRC: overlay.rs:1523-1830 -/
def next : ChooserEvent Pixels → Option (ChooserSession Pixels)
  | .input input answers =>
    if session.closed then none
    else (session.model.transition input).map (session.apply_overlay_effects answers)
  | .batch generation outcome answers =>
    if session.closed ∨ generation ∉ session.chooser.posted then none
    else
      let taken := { session.chooser with posted := session.chooser.posted.erase generation }
      some { session with
        chooser := taken.render_overview_batch answers session.model.tool generation outcome }
  | .paint is_window =>
    if session.closed then none else some (session.compose_overlay_state is_window)

end ChooserSession

/-- The overlay as it is shown: with the tool for windows its chooser is built at once.
SRC: overlay.rs:1350-1360 -/
def show_overlay {Pixels : Type} (source : Rect) (run : OverlayRun) (presenter : Presenter)
    (answers : ShellAnswers) : Option (ChooserSession Pixels) := do
  let model ← open_overlay source run
  let chooser := Chooser.opened presenter
  some
    { model
      chooser := if model.tool = .Window then
          chooser.start_window_overview_build answers model.tool
        else chooser
      closed := false }

end Captastic.Model
