import Captastic.Model.OverlayMachine
import Mathlib.Data.Rat.Floor

/-!
# A region remembered of a display

The middle of a remembered region as `restore_region_for_display_change` of
`captastic-windows/src/overlay.rs` carries it from one display configuration to another, and the
region as it is remembered.  The source's `f64` numbers are exact here.
-/

set_option autoImplicit false

namespace Captastic.Model

/-- A saturated difference is an `i32`. -/
theorem in_i32_saturating_sub_i32 (a b : Int) : InI32 (saturating_sub_i32 a b) := by
  unfold InI32 saturating_sub_i32
  omega

/-- `f64::round`: to the nearest, and away from zero in the middle. -/
def round_half_away (v : ℚ) : Int := if 0 ≤ v then ⌊v + 1 / 2⌋ else -⌊-v + 1 / 2⌋

/-- `as i32` of an integral `f64` -/
def f64_as_i32 (v : Int) : Int := max (-2147483648) (min v 2147483647)

/-- The middle of a region, in shares of the sides of its display.
SRC: overlay.rs:1160-1163 -/
def region_center (region : CaptureRegion) (previous_source : CaptureRegionSource) : ℚ × ℚ :=
  ((region.x.val + region.width.val / 2) / (max previous_source.width.val 1 : Nat),
    (region.y.val + region.height.val / 2) / (max previous_source.height.val 1 : Nat))

/-- SRC: overlay.rs:1167-1172 -/
def turned_center (center : ℚ × ℚ) (turn : Nat) : ℚ × ℚ :=
  if turn = 90 then (1 - center.2, center.1)
  else if turn = 180 then (1 - center.1, 1 - center.2)
  else if turn = 270 then (center.2, 1 - center.1)
  else center

/-- Where a side of a length begins that has its middle at a share of another.
SRC: overlay.rs:1175-1178 -/
def local_start (share : ℚ) (side length : Nat) : Int :=
  f64_as_i32 (round_half_away (max 0 (min share 1) * side - length / 2))

/-- The corner of a region on a display that has been turned.
SRC: overlay.rs:1160-1178 -/
def local_corner (region : CaptureRegion) (previous_source : CaptureRegionSource) (source : Rect)
    (turn : Nat) : Int × Int :=
  let center := turned_center (region_center region previous_source) turn
  let (width, height) := turned_size region turn
  (local_start center.1 source.width (min width source.width),
    local_start center.2 source.height (min height source.height))

/-- The corner of what is remembered, where its display has to have been turned for that.
SRC: overlay.rs:1121-1130, 1160-1178 -/
def remembered_corner (remembered : DisplayUiState) (source : Rect) (rotation_degrees : UInt16) :
    Int × Int :=
  match remembered.region, remembered.region_source with
  | some region, some previous_source =>
    match rotation_delta previous_source.rotation_degrees rotation_degrees with
    | some turn => local_corner region previous_source source turn
    | none => (0, 0)
  | _, _ => (0, 0)

/-- SRC: overlay.rs:1114-1188 -/
def restored_region (remembered : DisplayUiState) (source : Rect) (rotation_degrees : UInt16) :
    Option (Option Rect) :=
  remembered_last_region remembered source rotation_degrees
    (remembered_corner remembered source rotation_degrees)

/-- A region as it is remembered, from the corner of its display.
SRC: overlay.rs:1198-1203 -/
def persisted_region (region source : Rect) : CaptureRegion where
  x := ⟨saturating_sub_i32 region.x source.x, in_i32_saturating_sub_i32 _ _⟩
  y := ⟨saturating_sub_i32 region.y source.y, in_i32_saturating_sub_i32 _ _⟩
  width := ⟨region.width, region.width_u32⟩
  height := ⟨region.height, region.height_u32⟩

/-- SRC: overlay.rs:1208-1212 -/
def persisted_source (source : Rect) (rotation_degrees : UInt16) : CaptureRegionSource where
  width := ⟨source.width, source.width_u32⟩
  height := ⟨source.height, source.height_u32⟩
  rotation_degrees := rotation_degrees

end Captastic.Model
