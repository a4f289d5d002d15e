import Captastic.Library.Extrema
import Captastic.Model.Rect

/-!
# Displays

`captastic-core/src/display.rs` below its rectangles: the displays of one moment, what a
topology checks of them, and the questions asked of it.  A `DisplayTopology` carries the
checks it has passed (`valid`).  With it `owning_display_id` of
`captastic-windows/src/overlay/window_enumeration.rs`, by which the overlay of each display
decides whether a window is its own.

An `f32` is a type with the three questions asked of a scale factor.
-/

set_option autoImplicit false

namespace Captastic.Model

open Captastic.Library

/-- The characters `str::trim` removes, those of the Unicode property White_Space. -/
def is_whitespace (c : Char) : Bool :=
  let n := c.toNat
  (9 ≤ n && n ≤ 13) || n == 32 || n == 0x85 || n == 0xA0 || n == 0x1680 ||
    (0x2000 ≤ n && n ≤ 0x200A) || n == 0x2028 || n == 0x2029 || n == 0x202F || n == 0x205F ||
    n == 0x3000

/-- `trim().is_empty()` -/
def is_blank (s : String) : Bool := s.toList.all is_whitespace

/-- `str::to_ascii_lowercase` -/
def to_ascii_lowercase (text : List Char) : List Char := text.map Char.toLower

/-- `matches!(rotation_degrees, 0 | 90 | 180 | 270)` -/
def is_quarter_turn (rotation_degrees : UInt16) : Bool :=
  rotation_degrees == 0 || rotation_degrees == 90 || rotation_degrees == 180 ||
    rotation_degrees == 270

/-! ## Rectangles of a desktop -/

/-- SRC: display.rs:116-118 -/
def Rect.area (r : Rect) : Nat := r.width * r.height

/-- SRC: display.rs:120-131 -/
def Rect.union (r s : Rect) : Option Rect :=
  let left := min r.x s.x
  let top := min r.y s.y
  let right := max r.right s.right
  let bottom := max r.bottom s.bottom
  Rect.try_new left top (right - left) (bottom - top)

/-! ## Topologies -/

abbrev DisplayId := String

/-- What is asked of an `f32` scale factor: `is_finite`, `<= 0.0` and `to_string`. -/
class ScaleFactor (S : Type) where
  is_finite : S → Bool
  at_most_zero : S → Bool
  to_string : S → String

/-- SRC: display.rs:138-146 -/
structure DisplayInfo (S : Type) where
  id : DisplayId
  name : String
  bounds : Rect
  scale_factor : S
  rotation_degrees : UInt16
  is_primary : Bool

/-- SRC: display.rs:148-172 -/
inductive DisplayTopologyError where
  | EmptyDisplayId
  | DuplicateDisplayId (id : String)
  | EmptyDisplayBounds (id : String)
  | UnsupportedRotation (display_id : String) (rotation_degrees : UInt16)
  | InvalidScaleFactor (display_id scale_factor : String)
deriving DecidableEq, Repr

section Topology

variable {S : Type} [ScaleFactor S]

/-- The loop over the displays, with the identifiers seen so far.
SRC: display.rs:182-218 -/
def check_displays (ids : List DisplayId) : List (DisplayInfo S) → Except DisplayTopologyError Unit
  | [] => .ok ()
  | display :: displays =>
    if is_blank display.id then .error .EmptyDisplayId
    else if display.id ∈ ids then .error (.DuplicateDisplayId display.id)
    else if display.bounds.width = 0 ∨ display.bounds.height = 0 then
      .error (.EmptyDisplayBounds display.id)
    else if !is_quarter_turn display.rotation_degrees then
      .error (.UnsupportedRotation display.id display.rotation_degrees)
    else if !ScaleFactor.is_finite display.scale_factor ||
        ScaleFactor.at_most_zero display.scale_factor then
      .error (.InvalidScaleFactor display.id (ScaleFactor.to_string display.scale_factor))
    else check_displays (display.id :: ids) displays

/-- An immutable view of attached displays, which have passed the checks.
SRC: display.rs:174-179 -/
structure DisplayTopology (S : Type) [ScaleFactor S] where
  generation : Nat
  displays : List (DisplayInfo S)
  valid : check_displays [] displays = .ok ()

namespace DisplayTopology

/-- SRC: display.rs:181-223 -/
def new (generation : Nat) (displays : List (DisplayInfo S)) :
    Except DisplayTopologyError (DisplayTopology S) :=
  match valid : check_displays [] displays with
  | .error error => .error error
  | .ok () => .ok ⟨generation, displays, valid⟩

variable (topology : DisplayTopology S)

/-- SRC: display.rs:249-254 -/
def containing_point (x y : Int) : Option (DisplayInfo S) :=
  min_by (fun left right => compare left.id right.id)
    (topology.displays.filter fun display => display.bounds.contains x y)

/-- The displays that a rectangle meets, with the area of the intersection.
SRC: display.rs:261-267 -/
def candidates (displays : List (DisplayInfo S)) (bounds : Rect) : List (DisplayInfo S × Nat) :=
  displays.filterMap fun display =>
    (display.bounds.intersection bounds).map fun intersection => (display, intersection.area)

/-- SRC: display.rs:268-272 -/
def compare_candidates (left right : DisplayInfo S × Nat) : Ordering :=
  (compare left.2 right.2).then (compare right.1.id left.1.id)

/-- SRC: display.rs:256-274 -/
def largest_intersection (bounds : Rect) : Option (DisplayInfo S) :=
  (max_by compare_candidates (candidates topology.displays bounds)).map Prod.fst

/-- SRC: display.rs:276-280 -/
def virtual_bounds : Option Rect :=
  match topology.displays.map DisplayInfo.bounds with
  | [] => none
  | first :: rest => rest.foldlM Rect.union first

end DisplayTopology

/-! ## The overlay's owner of a window -/

/-- SRC: window_enumeration.rs:181-209 -/
def owning_display_id (window_bounds : Rect) (native_display_id : Option DisplayId)
    (displays : List (DisplayInfo S)) : Option DisplayId :=
  let candidates := DisplayTopology.candidates displays window_bounds
  match (candidates.map Prod.snd).max? with
  | none => none
  | some maximum_area =>
    let candidates := candidates.filter fun candidate => candidate.2 = maximum_area
    match native_display_id.bind fun native =>
        candidates.find? fun candidate => candidate.1.id = native with
    | some (display, _) => some display.id
    | none =>
      (min_by (fun left right => compare left.1.id right.1.id) candidates).map fun candidate =>
        candidate.1.id

end Topology

end Captastic.Model
