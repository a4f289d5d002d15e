import Captastic.Model.Rect

/-!
# Edge snapping

`captastic-windows/src/overlay/snap.rs`: the edges of nearby windows, the work area and the
display, and how a region's edges are pulled onto the nearest of them.  Coordinates are
`i64` differences and sums of `i32`s and `u32`s, which never leave the range of an `i64`.
-/

set_option autoImplicit false

namespace Captastic.Model

/-- SRC: machine.rs:96-106 -/
inductive ResizeHandle where
  | NorthWest
  | North
  | NorthEast
  | East
  | SouthEast
  | South
  | SouthWest
  | West
deriving DecidableEq, Repr

/-- SRC: snap.rs:25 -/
def SNAP_THRESHOLD_DIP : Int := 8

/-- SRC: snap.rs:29-37 -/
inductive SnapTargetKind where
  | Window
  | WorkArea
  | Display
deriving DecidableEq, Repr

/-- SRC: snap.rs:39-43 -/
structure SnapTarget where
  rect : Rect
  kind : SnapTargetKind
deriving DecidableEq

/-- The inventory, front to back.
SRC: snap.rs:45-69 -/
abbrev SnapTargets := List SnapTarget

/-- SRC: snap.rs:71-78 -/
inductive SnapAxis where
  | X
  | Y
deriving DecidableEq, Repr

/-- SRC: snap.rs:89-100 -/
structure SnapGuide where
  axis : SnapAxis
  position : Int
  span : Int × Int
  trailing : Bool
deriving DecidableEq, Repr

/-- At most one guide for each axis.
SRC: snap.rs:102-103 -/
abbrev ActiveSnaps := Option SnapGuide × Option SnapGuide

/-- SRC: snap.rs:105-106 -/
def NO_SNAPS : ActiveSnaps := (none, none)

/-- SRC: snap.rs:108-115 -/
structure RectEdges where
  left : Int
  top : Int
  right : Int
  bottom : Int
deriving DecidableEq, Repr

/-- SRC: snap.rs:118-125 -/
def RectEdges.of (rect : Rect) : RectEdges := ⟨rect.x, rect.y, rect.right, rect.bottom⟩

/-- SRC: snap.rs:128-135 -/
structure EdgeMask where
  left : Bool
  top : Bool
  right : Bool
  bottom : Bool
deriving DecidableEq, Repr

namespace EdgeMask

/-- SRC: snap.rs:138-144 -/
def ALL : EdgeMask := ⟨true, true, true, true⟩

/-- SRC: snap.rs:146-199 -/
def for_handle : ResizeHandle → EdgeMask
  | .NorthWest => ⟨true, true, false, false⟩
  | .North => ⟨false, true, false, false⟩
  | .NorthEast => ⟨false, true, true, false⟩
  | .East => ⟨false, false, true, false⟩
  | .SouthEast => ⟨false, false, true, true⟩
  | .South => ⟨false, false, false, true⟩
  | .SouthWest => ⟨true, false, false, true⟩
  | .West => ⟨true, false, false, false⟩

/-- SRC: snap.rs:201-207 -/
def covers (mask : EdgeMask) : SnapAxis → Bool
  | .X => mask.left || mask.right
  | .Y => mask.top || mask.bottom

end EdgeMask

/-- `i64::abs` -/
def abs_i64 (v : Int) : Int := max v (-v)

/-- SRC: snap.rs:210-215 -/
structure SnapHit where
  position : Int
  span : Int × Int
deriving DecidableEq, Repr

/-- Both of a target's edges on one axis.
SRC: snap.rs:242-254 -/
def target_edges (rect : Rect) : SnapAxis → List (Int × (Int × Int))
  | .X => [(rect.x, (rect.y, rect.bottom)), (rect.right, (rect.y, rect.bottom))]
  | .Y => [(rect.y, (rect.x, rect.right)), (rect.bottom, (rect.x, rect.right))]

/-- The nearest edge so far, with its distance, after one more edge.
SRC: snap.rs:229-236 -/
def keep_closest (value threshold : Int) (best : Option (Int × SnapHit))
    (edge : Int × (Int × Int)) : Option (Int × SnapHit) :=
  let distance := abs_i64 (edge.1 - value)
  if distance > threshold then best
  else if best.all (fun nearest => decide (distance < nearest.1)) then
    some (distance, ⟨edge.1, edge.2⟩)
  else best

/-- SRC: snap.rs:217-240 -/
def snap_coordinate (value : Int) (targets : SnapTargets) (axis : SnapAxis)
    (threshold : Int) : Option SnapHit :=
  (targets.foldl (fun best target => (target_edges target.rect axis).foldl
    (keep_closest value threshold) best) none).map Prod.snd

/-- SRC: snap.rs:256-272 -/
def snap_point (x y : Int) (targets : SnapTargets) (threshold : Int) :
    (Int × Int) × Option SnapHit × Option SnapHit :=
  let horizontal := snap_coordinate x targets .X threshold
  let vertical := snap_coordinate y targets .Y threshold
  (((horizontal.map SnapHit.position).getD x, (vertical.map SnapHit.position).getD y),
    horizontal, vertical)

/-- The edge of one axis to be moved, whether it is the trailing one, and where to: the
closer of the two, and the leading one if they are as close.
SRC: snap.rs:292-309 -/
def axis_winner (targets : SnapTargets) (threshold : Int) (axis : SnapAxis)
    (leading trailing : Int) (leading_allowed trailing_allowed : Bool) :
    Option (Bool × SnapHit) :=
  let leading_hit :=
    if leading_allowed then snap_coordinate leading targets axis threshold else none
  let trailing_hit :=
    if trailing_allowed then snap_coordinate trailing targets axis threshold else none
  match leading_hit, trailing_hit with
  | some first, some last =>
    if abs_i64 (last.position - trailing) < abs_i64 (first.position - leading) then some (true, last)
    else some (false, first)
  | some hit, none => some (false, hit)
  | none, some hit => some (true, hit)
  | none, none => none

/-- SRC: snap.rs:274-320 -/
def snap_edges (edges : RectEdges) (mask : EdgeMask) (targets : SnapTargets)
    (threshold : Int) : RectEdges × Option SnapHit × Option SnapHit :=
  let across := axis_winner targets threshold .X edges.left edges.right mask.left mask.right
  let down := axis_winner targets threshold .Y edges.top edges.bottom mask.top mask.bottom
  let snapped := match across with
    | some (false, hit) => { edges with left := hit.position }
    | some (true, hit) => { edges with right := hit.position }
    | none => edges
  let snapped := match down with
    | some (false, hit) => { snapped with top := hit.position }
    | some (true, hit) => { snapped with bottom := hit.position }
    | none => snapped
  (snapped, across.map Prod.snd, down.map Prod.snd)

/-- SRC: snap.rs:346-356 -/
def translation_on (leading trailing : Int) (snapped : RectEdges) (axis : SnapAxis) : Int :=
  let (snapped_leading, snapped_trailing) := match axis with
    | .X => (snapped.left, snapped.right)
    | .Y => (snapped.top, snapped.bottom)
  if snapped_leading = leading then snapped_trailing - trailing else snapped_leading - leading

/-- How far a rectangle moves on each axis, with the edge it moves onto.
SRC: snap.rs:322-344 -/
def snap_translation (edges : RectEdges) (targets : SnapTargets) (threshold : Int) :
    Option (Int × SnapHit) × Option (Int × SnapHit) :=
  let (snapped, across, down) := snap_edges edges .ALL targets threshold
  (across.map fun hit => (translation_on edges.left edges.right snapped .X, hit),
    down.map fun hit => (translation_on edges.top edges.bottom snapped .Y, hit))

/-- `i32::try_from(v).ok()` -/
def try_i32 (v : Int) : Option Int := if InI32 v then some v else none

/-- SRC: snap.rs:386-410 -/
def guide_for (hit : Option SnapHit) (axis : SnapAxis) (leading trailing : Int) :
    Option SnapGuide := do
  let hit ← hit
  let trailing ←
    if hit.position = leading then some false
    else if hit.position = trailing then some true
    else none
  let position ← try_i32 hit.position
  let first ← try_i32 hit.span.1
  let last ← try_i32 hit.span.2
  some ⟨axis, position, (first, last), trailing⟩

/-- SRC: snap.rs:358-384 -/
def guides_for (rect : Rect) (hits : Option SnapHit × Option SnapHit) : ActiveSnaps :=
  let edges := RectEdges.of rect
  (guide_for hits.1 .X edges.left edges.right, guide_for hits.2 .Y edges.top edges.bottom)

end Captastic.Model
