import Captastic.Analysis.Trimming
import Captastic.Model.Review

/-!
# Every answer of a review can be applied

A review's trim keeps at least `MINIMUM_SPAN` of the recording (`TrimOk`), and its crop is
a non-empty part of the picture, of even sides for an MP4 (`CropOk`).  Each message keeps
both (`handle_valid`), with two conditions: the recording is no shorter than
`MINIMUM_SPAN`, and no crop drag of an MP4 is released one pixel wide against the right
edge of the picture or one pixel tall against the bottom, where rounding the side up to
two leaves the picture (`Evens`).  A run of messages then never panics and always has an
edit the saver can apply (`review_answers`).
-/

set_option autoImplicit false

namespace Captastic.Analysis

open Captastic.Library Captastic.Model

/-! ## Trimming -/

section Trimming

/-- The span kept is inside the recording and long enough. -/
structure TrimOk (trim : Trim) : Prop where
  span : trim.start + MINIMUM_SPAN ≤ trim.end
  inside : trim.end ≤ trim.duration

variable {trim : Trim}

/-- Between ordered bounds a clamp does not stop and stays between them. -/
theorem clamp_spec {T : Type} [LinearOrder T] {v low high : T} (h : low ≤ high) :
    ∃ kept, clamp v low high = some kept ∧ low ≤ kept ∧ kept ≤ high := by
  refine ⟨max low (min v high), if_pos h, le_max_left _ _, ?_⟩
  exact max_le h (min_le_right _ _)

/-- A trim over a recording of the least length or more starts out well formed. -/
theorem new_ok {duration : Duration} (h : MINIMUM_SPAN ≤ duration) (frame_rate : Nat) :
    TrimOk (Trim.new duration frame_rate) := by
  constructor
  · show 0 + MINIMUM_SPAN ≤ duration
    rwa [Nat.zero_add]
  · exact le_refl duration

/-- Moving the playhead keeps a trim well formed. -/
theorem set_playhead_ok (h : TrimOk trim) (pos : Duration) : TrimOk (trim.set_playhead pos) :=
  ⟨h.span, h.inside⟩

/-- SRC: review.rs:154-157 -/
theorem set_start_ok (h : TrimOk trim) (pos : Duration) : TrimOk (trim.set_start pos) := by
  have hspan := h.span
  refine ⟨?_, h.inside⟩
  show min pos (trim.end - MINIMUM_SPAN) + MINIMUM_SPAN ≤ trim.end
  unfold Duration at *
  omega

/-- Moving the start leaves the duration as it is. -/
theorem set_start_duration (trim : Trim) (pos : Duration) :
    (trim.set_start pos).duration = trim.duration := by
  simp only [Trim.set_start]

/-- Moving the end never panics while the span kept is long enough.
SRC: review.rs:159-162 -/
theorem set_end_ok (h : TrimOk trim) (pos : Duration) :
    ∃ trim', trim.set_end pos = some trim' ∧ TrimOk trim' ∧ trim'.duration = trim.duration := by
  obtain ⟨kept, hclamp, hlow, hhigh⟩ := clamp_spec (v := pos) (h.span.trans h.inside)
  refine ⟨{ trim with «end» := kept }, ?_, ⟨hlow, hhigh⟩, rfl⟩
  unfold Trim.set_end
  rw [hclamp, Option.map_some]

/-- Stepping never panics: there is always a frame on screen to go back to.
SRC: review.rs:141-152 -/
theorem step_ok (h : TrimOk trim) (forward : Bool) (step : Trim.Step) (timeline : Timeline) :
    ∃ trim', trim.step forward step timeline = some trim' ∧ TrimOk trim' ∧
      trim'.duration = trim.duration := by
  obtain ⟨-, change, hchange, -⟩ := previous_change_eq timeline trim.playhead
  unfold Trim.step
  obtain ⟨next, hnext⟩ : ∃ next, trim.stepped_playhead forward step timeline = some next := by
    cases step <;> cases forward
    case Change.false => exact ⟨change, hchange⟩
    all_goals exact ⟨_, rfl⟩
  exact ⟨trim.set_playhead next, congrArg (Option.map trim.set_playhead) hnext,
    set_playhead_ok h next, rfl⟩

end Trimming

/-! ## Cropping -/

section Cropping

/-- A rectangle the saver can cut out: some of the picture, and of even sides if they are
to be even. -/
structure CropOk (bounds : Rect) (even_sides : Bool) (crop : Rect) : Prop where
  non_empty : crop.NonEmpty
  within : crop.Within bounds
  even_sides : even_sides = true → 2 ∣ crop.width ∧ 2 ∣ crop.height

/-- A picture: it starts at the origin, and its sides are those of a drawing surface.
SRC: shell.rs:303-311 -/
structure PictureArea (bounds : Rect) : Prop where
  origin : bounds.x = 0 ∧ bounds.y = 0
  sides : (0 < bounds.width ∧ bounds.width ≤ 2147483647) ∧
    0 < bounds.height ∧ bounds.height ≤ 2147483647

/-- Rounding the sides of the rectangle to even numbers does not take it past the
picture's edges: it is not one pixel wide against the right one, nor one pixel tall
against the bottom. -/
def Evens (crop bounds : Rect) : Prop :=
  ¬ (crop.width = 1 ∧ crop.right = bounds.right) ∧
    ¬ (crop.height = 1 ∧ crop.bottom = bounds.bottom)

instance (crop bounds : Rect) : Decidable (Evens crop bounds) :=
  inferInstanceAs (Decidable (_ ∧ _))

variable {bounds crop start : Rect}

/-- SRC: review.rs:408-415 -/
theorem even_ok (hnon_empty : crop.NonEmpty) (hwithin : crop.Within bounds)
    (hevens : Evens crop bounds) : CropOk bounds true (even crop) := by
  unfold Rect.NonEmpty at hnon_empty
  unfold Rect.Within Rect.right Rect.bottom at hwithin
  unfold Evens Rect.right Rect.bottom at hevens
  refine ⟨?_, ?_, fun _ => ?_⟩
  · show 0 < max (crop.width - crop.width % 2) 2 ∧ 0 < max (crop.height - crop.height % 2) 2
    omega
  · show bounds.x ≤ crop.x ∧
      crop.x + (max (crop.width - crop.width % 2) 2 : Nat) ≤ bounds.x + bounds.width ∧
      bounds.y ≤ crop.y ∧
      crop.y + (max (crop.height - crop.height % 2) 2 : Nat) ≤ bounds.y + bounds.height
    omega
  · show 2 ∣ max (crop.width - crop.width % 2) 2 ∧ 2 ∣ max (crop.height - crop.height % 2) 2
    omega

/-- An edge that is dragged stays between its bounds.
SRC: editor.rs:460-472 -/
theorem drag_edge_spec (dragged : Bool) (edge by_pixels low high : Int)
    (h : low ≤ edge ∧ edge ≤ high) :
    ∃ edge', drag_edge dragged edge by_pixels low high = some edge' ∧ low ≤ edge' ∧
      edge' ≤ high := by
  unfold drag_edge
  cases dragged with
  | false => exact ⟨edge, rfl, h⟩
  | true => exact clamp_spec (h.1.trans h.2)

/-- **Adjusting a crop** of the picture never panics and gives a crop of the picture.
SRC: editor.rs:438-476 -/
theorem adjust_crop_ok (hpicture : PictureArea bounds) (hnon_empty : start.NonEmpty)
    (hwithin : start.Within bounds) (grip : Grip) (dx dy : Int) :
    ∃ crop, adjust_crop start grip dx dy bounds = some crop ∧ crop.NonEmpty ∧
      crop.Within bounds := by
  obtain ⟨⟨hx, hy⟩, ⟨hwidth, hwidth'⟩, hheight, hheight'⟩ := hpicture
  unfold Rect.NonEmpty at hnon_empty
  unfold Rect.Within Rect.right Rect.bottom at hwithin
  cases grip with
  | Move =>
      obtain ⟨x, hclamp_x, hx₀, hx₁⟩ := clamp_spec (v := start.x + dx)
        (show (0 : Int) ≤ (bounds.width : Int) - start.width by omega)
      obtain ⟨y, hclamp_y, hy₀, hy₁⟩ := clamp_spec (v := start.y + dy)
        (show (0 : Int) ≤ (bounds.height : Int) - start.height by omega)
      unfold adjust_crop
      simp only [hclamp_x, hclamp_y, bind, Option.bind]
      refine ⟨_, rfl, hnon_empty, ?_⟩
      unfold Rect.Within Rect.right Rect.bottom
      simp only [as_i32_of_range (show -2147483648 ≤ x by omega) (by omega),
        as_i32_of_range (show -2147483648 ≤ y by omega) (by omega)]
      omega
  | Resize left top right bottom =>
      unfold adjust_crop
      simp only [Rect.right, Rect.bottom]
      obtain ⟨left', hleft, hleft₀, hleft₁⟩ :=
        drag_edge_spec left start.x dx 0 (start.x + start.width - 1) (by omega)
      obtain ⟨right', hright, hright₀, hright₁⟩ := drag_edge_spec right (start.x + start.width) dx
        (left' + 1) (bounds.x + bounds.width) (by omega)
      obtain ⟨top', htop, htop₀, htop₁⟩ :=
        drag_edge_spec top start.y dy 0 (start.y + start.height - 1) (by omega)
      obtain ⟨bottom', hbottom, hbottom₀, hbottom₁⟩ := drag_edge_spec bottom
        (start.y + start.height) dy (top' + 1) (bounds.y + bounds.height) (by omega)
      simp only [hleft, hright, htop, hbottom, bind, Option.bind]
      obtain ⟨crop, hcrop⟩ := Rect.from_edges_isSome (show left' < right' by omega)
        (show top' < bottom' by omega) (by omega) (by omega)
      obtain ⟨hcx, hcy, hcr, hcb, hcn⟩ := Rect.from_edges_eq_some hcrop
      rw [hcrop]
      refine ⟨crop, rfl, hcn, ?_⟩
      unfold Rect.Within
      rw [hcx, hcy, hcr, hcb]
      unfold Rect.right Rect.bottom
      omega

end Cropping

/-! ## What the saver needs -/

/-- An edit the saver can apply to a recording of this picture: it keeps a span of the
recording and, if it crops, a part of the picture; so there are frames to keep, and
cutting them out of a picture's pixels stays inside the buffer. -/
structure Answerable (timeline : Timeline) (size : Nat × Nat) (even_sides : Bool)
    (edit : RecordingEdit) : Prop where
  span : edit.start < edit.end ∧ edit.end ≤ timeline.duration ∧
    edit.start + MINIMUM_SPAN ≤ edit.end
  crop : ∀ crop, edit.crop = some crop → (0 < crop.width ∧ 0 < crop.height) ∧
    (crop.x + crop.width ≤ size.1 ∧ crop.y + crop.height ≤ size.2) ∧
    (even_sides = true → 2 ∣ crop.width ∧ 2 ∣ crop.height)
  kept : edit.kept_frames timeline ≠ []
  pixels : ∀ pixels : List Byte, pixels.length = size.2 * (size.1 * 4) →
    (edit.crop_pixels pixels size.1).isSome

/-- A span that is not empty keeps the frame on screen where it starts.
SRC: playback.rs:170-184 -/
theorem kept_frames_ne_nil {edit : RecordingEdit} {timeline : Timeline}
    (h : edit.start < edit.end) : edit.kept_frames timeline ≠ [] := by
  obtain ⟨first, hfirst, -⟩ := (kept_frames_keep_span timeline h).starts_at_zero
  intro hnil
  rw [hnil] at hfirst
  cases hfirst

/-- A crop inside the picture is cut out of any frame's pixels.
SRC: playback.rs:191-204 -/
theorem crop_pixels_isSome {edit : RecordingEdit} {width height : Nat}
    (hcrop : ∀ crop, edit.crop = some crop →
      crop.x + crop.width ≤ width ∧ crop.y + crop.height ≤ height)
    {pixels : List Byte} (hpixels : pixels.length = height * (width * 4)) :
    (edit.crop_pixels pixels width).isSome := by
  unfold RecordingEdit.crop_pixels
  cases hedit : edit.crop with
  | none => rfl
  | some crop =>
      obtain ⟨hwidth, hheight⟩ := hcrop crop hedit
      have hrow : ∀ y, y ∈ List.range' crop.y crop.height →
          ∃ row, slice? pixels (y * (width * 4) + crop.x * 4) (crop.width * 4) = some row := by
        intro y hy
        obtain ⟨hy₀, hy₁⟩ := List.mem_range'_1.mp hy
        have hrow : (y + 1) * (width * 4) ≤ height * (width * 4) :=
          Nat.mul_le_mul_right _ (by omega)
        rw [Nat.add_mul, Nat.one_mul] at hrow
        exact ⟨_, slice?_eq pixels _ _ (by omega)⟩
      obtain ⟨out, hout, -⟩ := foldlM_inv (fun _ : List Byte => True)
        (fun out y => (slice? pixels (y * (width * 4) + crop.x * 4) (crop.width * 4)).bind
          fun row => some (out ++ row)) (List.range' crop.y crop.height)
        (fun out y hy _ => by
          obtain ⟨row, hslice⟩ := hrow y hy
          exact ⟨out ++ row, by rw [hslice, Option.bind_some], trivial⟩) [] trivial
      exact Option.isSome_iff_exists.mpr ⟨out, hout⟩

/-- Rows of one length, joined, have the length of so many of them. -/
theorem foldlM_rows_length {ι : Type} {row : ι → Option (List Byte)} {row_bytes : Nat}
    (rows : ∀ y pixels, row y = some pixels → pixels.length = row_bytes) (ys : List ι)
    {start out : List Byte}
    (joined : ys.foldlM (fun out y => (row y).bind fun pixels => some (out ++ pixels)) start =
      some out) : out.length = start.length + ys.length * row_bytes := by
  induction ys generalizing start with
  | nil =>
      cases joined
      simp
  | cons y ys ih =>
      rw [List.foldlM_cons] at joined
      cases read : row y with
      | none =>
          rw [read] at joined
          cases joined
      | some pixels =>
          rw [read] at joined
          have rest := ih joined
          have own := rows y pixels read
          simp only [List.length_append, List.length_cons] at rest ⊢
          rw [rest, own, Nat.add_mul]
          omega

/-- What is cut out of a frame fills a frame of the size the saver is given.
SRC: playback.rs:186-204 -/
theorem crop_pixels_length {edit : RecordingEdit} {width height : Nat} {pixels out : List Byte}
    (full : pixels.length = height * (width * 4))
    (cut : edit.crop_pixels pixels width = some out) :
    out.length = (edit.output_size (width, height)).2 *
      ((edit.output_size (width, height)).1 * 4) := by
  unfold RecordingEdit.crop_pixels at cut
  unfold RecordingEdit.output_size
  cases cropped : edit.crop with
  | none =>
      rw [cropped] at cut
      cases cut
      exact full
  | some crop =>
      rw [cropped] at cut
      have row_bytes (y : Nat) (row : List Byte)
          (read : slice? pixels (y * (width * 4) + crop.x * 4) (crop.width * 4) = some row) :
          row.length = crop.width * 4 := by
        unfold slice? at read
        split at read
        · rename_i fits
          cases read
          exact length_slice_at _ _ _ fits
        · cases read
      have joined := foldlM_rows_length row_bytes _ cut
      rw [List.length_range', List.length_nil, Nat.zero_add] at joined
      exact joined

/-- **The saver's frames**: an edit that a review answers with cuts each frame of the recording to
one of the size the saver is given.
SRC: playback.rs:186-204; recording.rs:1555-1566 -/
theorem Answerable.cut_fills {timeline : Timeline} {size : Nat × Nat} {even_sides : Bool}
    {edit : RecordingEdit} (answerable : Answerable timeline size even_sides edit)
    {pixels : List Byte} (full : pixels.length = size.2 * (size.1 * 4)) :
    ∃ out, edit.crop_pixels pixels size.1 = some out ∧
      out.length = (edit.output_size size).2 * ((edit.output_size size).1 * 4) := by
  obtain ⟨out, cut⟩ := Option.isSome_iff_exists.mp (answerable.pixels pixels full)
  exact ⟨out, cut, crop_pixels_length full cut⟩

/-! ## One message -/

/-- The invariant of a review: its trim and its crop can be applied, and so can the crop a
resize started from; once the review is answered with an edit, so can that edit. -/
structure Valid (timeline : Timeline) (size : U32 × U32) (even_sides : Bool)
    (state : ReviewState) : Prop where
  timeline_eq : state.timeline = timeline
  size_eq : state.size = size
  even_eq : state.even_crop = even_sides
  trim_ok : TrimOk state.trim
  duration_eq : state.trim.duration = timeline.duration
  crop_ok : CropOk (picture_bounds size) even_sides state.crop
  adjust_ok : ∀ grip start anchor current,
    state.crop_drag = some (.Adjust grip start anchor current) →
      CropOk (picture_bounds size) even_sides start
  answer_ok : ∀ edit, state.outcome = some (.Save edit) →
    Answerable timeline (size.1.val, size.2.val) even_sides edit

/-- A picture of these sides is one the review can show, and an MP4's has even sides. -/
structure Shown (size : U32 × U32) (even_sides : Bool) : Prop where
  picture : PictureArea (picture_bounds size)
  whole_even : even_sides = true → 2 ∣ size.1.val ∧ 2 ∣ size.2.val

section Message

variable {timeline : Timeline} {size : U32 × U32} {even_sides : Bool} {state : ReviewState}

/-- The whole picture is a crop that is offered. -/
theorem whole_crop_ok (h : Shown size even_sides) :
    CropOk (picture_bounds size) even_sides (picture_bounds size) := by
  obtain ⟨hwidth, hheight⟩ := h.picture.sides
  exact ⟨⟨hwidth.1, hheight.1⟩, ⟨le_refl _, le_refl _, le_refl _, le_refl _⟩, h.whole_even⟩

/-- **The edit of a review** in this state can be applied.
SRC: review.rs:485-495 -/
theorem edit_answerable (h : Valid timeline size even_sides state) :
    Answerable timeline (size.1.val, size.2.val) even_sides state.edit := by
  obtain ⟨hspan, hinside⟩ := h.trim_ok
  have hcrop : ∀ crop, state.edit.crop = some crop → (0 < crop.width ∧ 0 < crop.height) ∧
      (crop.x + crop.width ≤ size.1.val ∧ crop.y + crop.height ≤ size.2.val) ∧
      (even_sides = true → 2 ∣ crop.width ∧ 2 ∣ crop.height) := by
    intro crop hcrop
    unfold ReviewState.edit at hcrop
    simp only at hcrop
    split at hcrop
    · obtain rfl := Option.some.inj hcrop
      obtain ⟨hnon_empty, hwithin, heven⟩ := h.crop_ok
      refine ⟨hnon_empty, ?_, heven⟩
      unfold Rect.Within Rect.right Rect.bottom picture_bounds at hwithin
      simp only at hwithin ⊢
      omega
    · cases hcrop
  have hlt : state.edit.start < state.edit.end := by
    have hpositive : 0 < MINIMUM_SPAN := by decide
    show state.trim.start < state.trim.end
    unfold Duration at *
    omega
  refine ⟨⟨hlt, ?_, hspan⟩, hcrop, kept_frames_ne_nil hlt, ?_⟩
  · rw [← h.duration_eq]
    exact hinside
  · intro pixels hpixels
    exact crop_pixels_isSome (fun crop hc => (hcrop crop hc).2.1) hpixels

/-- A trim that is still fine leaves the review fine. -/
theorem Valid.with_trim (h : Valid timeline size even_sides state) (trim : Trim)
    (htrim : TrimOk trim) (hduration : trim.duration = state.trim.duration)
    (playing : Option Duration) :
    Valid timeline size even_sides { state with trim, playing } :=
  { h with trim_ok := htrim, duration_eq := hduration.trans h.duration_eq }

/-- Moving the playhead changes nothing of what is kept. -/
theorem Valid.with_playhead {trim : Trim} {playing : Option Duration}
    (h : Valid timeline size even_sides { state with trim, playing }) (pos : Duration) :
    Valid timeline size even_sides { state with trim := trim.set_playhead pos, playing } :=
  { h with trim_ok := set_playhead_ok h.trim_ok pos, duration_eq := h.duration_eq }

/-- A drag, a pressed button and playing leave a state valid. -/
theorem Valid.with_drag (h : Valid timeline size even_sides state) (drag : Option Drag)
    (pressed : Option ReviewButton) (playing : Option Duration) :
    Valid timeline size even_sides { state with drag, pressed, playing } :=
  { h with }

/-- A crop drag leaves a state valid where an adjusted crop is one. -/
theorem Valid.with_crop_drag (h : Valid timeline size even_sides state) {crop_drag : Option CropDrag}
    (hdrag : ∀ grip start anchor current, crop_drag = some (.Adjust grip start anchor current) →
      CropOk (picture_bounds size) even_sides start) :
    Valid timeline size even_sides { state with crop_drag } :=
  { h with adjust_ok := hdrag }

/-- Dragging on the timeline keeps the trim fine, and never panics.
SRC: review.rs:920-938 -/
theorem drag_to_valid (h : Valid timeline size even_sides state) (drag : Drag) (x : Int) :
    ∃ state', state.drag_to drag x = some state' ∧ Valid timeline size even_sides state' := by
  set pos := state.layout.time_at x state.trim.duration with hpos
  cases drag with
  | Start =>
      have hok := set_start_ok h.trim_ok pos
      have hvalid := h.with_trim _ hok (set_start_duration _ _) state.playing
      have hshown := hvalid.with_playhead (state.trim.set_start pos).start
      simp only [ReviewState.drag_to, ← hpos]
      exact ⟨_, rfl, hshown⟩
  | End =>
      obtain ⟨trim, htrim, hok, hduration⟩ := set_end_ok h.trim_ok pos
      have hvalid := h.with_trim trim hok hduration state.playing
      have hshown := hvalid.with_playhead (trim.end - from_millis 1)
      simp only [ReviewState.drag_to, ← hpos, htrim, Option.map_some]
      exact ⟨_, rfl, hshown⟩
  | Playhead =>
      have hshown := h.with_playhead pos
      simp only [ReviewState.drag_to, ← hpos]
      exact ⟨_, rfl, hshown⟩

/-- What a crop drag spans is some of the picture.
SRC: review.rs:459-481 -/
theorem dragged_rect_ok (hshown : Shown size even_sides)
    (h : Valid timeline size even_sides state) :
    ∃ dragged, state.dragged_rect = some dragged ∧ ∀ rect, dragged = some rect →
      rect.NonEmpty ∧ rect.Within (picture_bounds size) := by
  have hbounds : state.bounds = picture_bounds size := congrArg picture_bounds h.size_eq
  unfold ReviewState.dragged_rect
  cases hdrag : state.crop_drag with
  | none => exact ⟨none, rfl, by simp⟩
  | some crop_drag =>
      cases crop_drag with
      | Draw anchor current moved =>
          cases moved with
          | false => exact ⟨none, rfl, by simp⟩
          | true =>
              refine ⟨_, rfl, fun rect hrect => ?_⟩
              obtain ⟨between, -, hinter⟩ := Option.bind_eq_some_iff.mp hrect
              rw [hbounds] at hinter
              obtain ⟨-, -, -, -, hnon_empty⟩ := Rect.intersection_eq_some hinter
              exact ⟨hnon_empty, Rect.within_of_intersection hinter⟩
      | Adjust grip start anchor current =>
          obtain ⟨hnon_empty, hwithin, -⟩ := h.adjust_ok _ _ _ _ hdrag
          obtain ⟨crop, hcrop, hok⟩ := adjust_crop_ok hshown.picture hnon_empty hwithin grip
            (state.layout.scale.divides_rounded (current.x - anchor.x))
            (state.layout.scale.divides_rounded (current.y - anchor.y))
          rw [hbounds]
          simp only [hcrop, Option.map_some]
          refine ⟨some crop, rfl, fun rect hrect => ?_⟩
          obtain rfl := Option.some.inj hrect
          exact hok

/-- **The crop a drag makes** can be applied, unless rounding it to even sides takes it past
the picture.
SRC: review.rs:457-483 -/
theorem pending_crop_ok (hshown : Shown size even_sides)
    (h : Valid timeline size even_sides state)
    (hevens : even_sides = true → ∀ rect, state.dragged_rect = some (some rect) →
      Evens rect (picture_bounds size)) :
    ∃ pending, state.pending_crop = some pending ∧ ∀ crop, pending = some crop →
      CropOk (picture_bounds size) even_sides crop := by
  obtain ⟨dragged, hdragged, hok⟩ := dragged_rect_ok hshown h
  unfold ReviewState.pending_crop
  simp only [hdragged, h.even_eq, Option.map_some]
  refine ⟨_, rfl, fun crop hcrop => ?_⟩
  obtain ⟨rect, hrect, rfl⟩ := Option.map_eq_some_iff.mp hcrop
  obtain ⟨hnon_empty, hwithin⟩ := hok rect hrect
  cases even_sides with
  | false =>
      rw [if_neg Bool.false_ne_true]
      exact ⟨hnon_empty, hwithin, by simp⟩
  | true =>
      rw [if_pos rfl]
      exact even_ok hnon_empty hwithin (hevens rfl rect (by rw [hdragged, hrect]))

/-- SRC: review.rs:940-978 -/
theorem pointer_pressed_valid (h : Valid timeline size even_sides state) (point : Point) :
    ∃ state', state.pointer_pressed point = some state' ∧
      Valid timeline size even_sides state' := by
  unfold ReviewState.pointer_pressed
  split
  · exact ⟨_, rfl, h.with_drag _ _ _⟩
  simp only
  split
  · exact drag_to_valid (h.with_drag _ _ _) _ _
  split
  · refine ⟨_, rfl, h.with_crop_drag ?_⟩
    intro grip start anchor current hdrag
    obtain ⟨-, rfl, -, -⟩ := CropDrag.Adjust.inj (Option.some.inj hdrag)
    exact h.crop_ok
  · split
    · exact ⟨_, rfl, h.with_crop_drag fun _ _ _ _ hdrag => by cases hdrag⟩
    · exact ⟨_, rfl, h⟩

/-- SRC: review.rs:879-918 -/
theorem pointer_moved_valid (h : Valid timeline size even_sides state) (point : Point) :
    ∃ state', state.pointer_moved point = some state' ∧
      Valid timeline size even_sides state' := by
  have hmoved : ∀ moved : ReviewState, Valid timeline size even_sides moved →
      Valid timeline size even_sides { moved with
        crop_drag := moved.crop_drag.map fun crop_drag =>
          crop_drag.moved_to point (moved.metrics.px DRAG_THRESHOLD_DIP) } := by
    intro moved hvalid
    refine hvalid.with_crop_drag fun grip start anchor current hdrag => ?_
    obtain ⟨before, hbefore, hmoved⟩ := Option.map_eq_some_iff.mp hdrag
    cases before with
    | Draw anchor' current' moved' => cases hmoved
    | Adjust grip' start' anchor' current' =>
        obtain ⟨rfl, rfl, rfl, rfl⟩ := CropDrag.Adjust.inj hmoved
        exact hvalid.adjust_ok _ _ _ _ hbefore
  cases hdrag : state.drag with
  | none =>
      have hvalid := hmoved state h
      simp only [hdrag] at hvalid
      simp only [ReviewState.pointer_moved, hdrag, Option.map_some]
      exact ⟨_, rfl, hvalid⟩
  | some drag =>
      obtain ⟨dragged, hdragged, hvalid⟩ := drag_to_valid h drag point.x
      simp only [ReviewState.pointer_moved, hdrag, hdragged, Option.map_some]
      exact ⟨_, rfl, hmoved dragged hvalid⟩

/-- An answer given now can be applied. -/
theorem finish_valid (h : Valid timeline size even_sides state) (outcome : ReviewOutcome)
    (houtcome : ∀ edit, outcome = .Save edit → edit = state.edit) :
    Valid timeline size even_sides (state.finish outcome) := by
  refine { h with answer_ok := fun edit hedit => ?_ }
  rw [houtcome edit (Option.some.inj hedit)]
  exact edit_answerable h

/-- SRC: review.rs:1109-1126 -/
theorem request_discard_valid (h : Valid timeline size even_sides state) (confirmed : Bool) :
    Valid timeline size even_sides (state.request_discard confirmed) := by
  have hpaused : Valid timeline size even_sides state.pause := { h with }
  unfold ReviewState.request_discard
  split
  · exact finish_valid hpaused _ fun edit hedit => by cases hedit
  · exact hpaused

/-- SRC: review.rs:1015-1028 -/
theorem toggle_playing_valid (h : Valid timeline size even_sides state) :
    Valid timeline size even_sides state.toggle_playing := by
  unfold ReviewState.toggle_playing
  split
  · exact { h with }
  · simp only
    split
    · exact h.with_trim _ (set_playhead_ok h.trim_ok _) rfl _
    · exact h.with_trim _ h.trim_ok rfl _

/-- SRC: review.rs:994-1013 -/
theorem press_button_valid (hshown : Shown size even_sides)
    (h : Valid timeline size even_sides state) (confirmed : Bool) (button : ReviewButton) :
    Valid timeline size even_sides (state.press_button confirmed button) := by
  cases button with
  | Play => exact toggle_playing_valid h
  | ResetCrop =>
      have hbounds : state.bounds = picture_bounds size := congrArg picture_bounds h.size_eq
      have hcrop : CropOk (picture_bounds size) even_sides state.bounds := by
        rw [hbounds]
        exact whole_crop_ok hshown
      exact { h with crop_ok := hcrop }
  | Discard => exact request_discard_valid h confirmed
  | Save =>
      refine finish_valid h _ fun edit hedit => ?_
      exact (ReviewOutcome.Save.inj hedit).symm

/-- SRC: review.rs:1038-1051 -/
theorem play_on_valid (h : Valid timeline size even_sides state) (elapsed : Duration) :
    Valid timeline size even_sides (state.play_on elapsed) := by
  unfold ReviewState.play_on
  split
  · exact h
  · simp only
    split
    · exact h.with_trim _ (set_playhead_ok h.trim_ok _) rfl _
    · exact h.with_trim _ (set_playhead_ok h.trim_ok _) rfl _

/-- SRC: review.rs:756-764 -/
theorem capture_changed_valid (h : Valid timeline size even_sides state) :
    Valid timeline size even_sides state.capture_changed :=
  { h with adjust_ok := fun _ _ _ _ hdrag => by cases hdrag }

/-- The keys of the trim and the playhead never panic.
SRC: review.rs:1091-1103 -/
theorem trim_key_valid (h : Valid timeline size even_sides state) (key : ReviewState.Key)
    (step : Trim.Step) :
    ∃ moved, state.trim_key key step = some moved ∧ ∀ trim, moved = some trim →
      TrimOk trim ∧ trim.duration = state.trim.duration := by
  have hplayhead : ∀ pos, TrimOk (state.trim.set_playhead pos) ∧
      (state.trim.set_playhead pos).duration = state.trim.duration :=
    fun pos => ⟨set_playhead_ok h.trim_ok pos, rfl⟩
  have hone : ∀ trim, TrimOk trim ∧ trim.duration = state.trim.duration →
      ∃ moved, some (some trim) = some moved ∧ ∀ trim', moved = some trim' →
        TrimOk trim' ∧ trim'.duration = state.trim.duration := by
    intro trim htrim
    refine ⟨some trim, rfl, fun trim' htrim' => ?_⟩
    obtain rfl := Option.some.inj htrim'
    exact htrim
  unfold ReviewState.trim_key
  cases key with
  | Left =>
      obtain ⟨trim, htrim, hok⟩ := step_ok h.trim_ok false step state.timeline
      simp only [htrim, Option.map_some]
      exact hone trim hok
  | Right =>
      obtain ⟨trim, htrim, hok⟩ := step_ok h.trim_ok true step state.timeline
      simp only [htrim, Option.map_some]
      exact hone trim hok
  | Home => exact hone _ (hplayhead 0)
  | End => exact hone _ (hplayhead state.trim.duration)
  | I => exact hone _ ⟨set_start_ok h.trim_ok _, set_start_duration _ _⟩
  | O =>
      obtain ⟨trim, htrim, hok⟩ := set_end_ok h.trim_ok state.trim.playhead
      simp only [htrim, Option.map_some]
      exact hone trim hok
  | _ => exact ⟨none, rfl, by simp⟩

/-- SRC: review.rs:1053-1107 -/
theorem key_pressed_valid (hshown : Shown size even_sides)
    (h : Valid timeline size even_sides state) (key : ReviewState.Key)
    (ctrl shift confirmed : Bool) :
    ∃ state', state.key_pressed key ctrl shift confirmed = some state' ∧
      Valid timeline size even_sides state' := by
  have htrim : ∀ step moved_to, (∀ trim, moved_to (some trim) = { state with trim }.pause) →
      moved_to none = state → ∃ state', (state.trim_key key step).map moved_to = some state' ∧
        Valid timeline size even_sides state' := by
    intro step moved_to hsome hnone
    obtain ⟨moved, hmoved, hok⟩ := trim_key_valid h key step
    rw [hmoved, Option.map_some]
    refine ⟨_, rfl, ?_⟩
    cases moved with
    | none => exact hnone ▸ h
    | some trim =>
        obtain ⟨htrim, hduration⟩ := hok trim rfl
        exact hsome trim ▸ h.with_trim trim htrim hduration none
  have hdropped : Valid timeline size even_sides
      { state with drag := none, crop_drag := none : ReviewState }.capture_changed :=
    { h with adjust_ok := fun _ _ _ _ hdrag => by cases hdrag }
  unfold ReviewState.key_pressed
  cases key with
  | Escape =>
      simp only
      split
      · exact ⟨_, rfl, hdropped⟩
      · exact ⟨_, rfl, request_discard_valid h confirmed⟩
  | Return => exact ⟨_, rfl, press_button_valid hshown h confirmed .Save⟩
  | R =>
      simp only
      split
      · exact ⟨_, rfl, h⟩
      · exact ⟨_, rfl, press_button_valid hshown h confirmed .ResetCrop⟩
  | Space =>
      simp only
      split
      · exact ⟨_, rfl, h⟩
      · exact ⟨_, rfl, toggle_playing_valid h⟩
  | _ =>
      simp only
      split
      · exact ⟨_, rfl, h⟩
      · exact htrim _ _ (fun _ => rfl) rfl

/-- The condition on a message: a release of a crop drag of an MP4 does not leave a
rectangle that rounding to even sides takes past the picture. -/
def ReleasesEven (state : ReviewState) : ReviewState.Message → Prop
  | .pointer_released _ _ => state.outcome = none → state.even_crop = true →
      ∀ rect, state.dragged_rect = some (some rect) → Evens rect state.bounds
  | _ => True

/-- **The step lemma**: a message that meets the condition never panics and keeps the
invariant.
SRC: review.rs:669-798 -/
theorem handle_valid (hshown : Shown size even_sides)
    (h : Valid timeline size even_sides state) (message : ReviewState.Message)
    (hevens : ReleasesEven state message) :
    ∃ state', state.handle message = some state' ∧ Valid timeline size even_sides state' := by
  unfold ReviewState.handle
  simp only
  split
  · exact ⟨state, rfl, h⟩
  rename_i hopen
  cases message with
  | pointer_moved point => exact pointer_moved_valid h point
  | pointer_pressed point => exact pointer_pressed_valid h point
  | pointer_released point confirmed =>
      have hbounds : state.bounds = picture_bounds size := congrArg picture_bounds h.size_eq
      obtain ⟨pending, hpending, hok⟩ := pending_crop_ok hshown h (by
        intro heven rect hrect
        rw [← hbounds]
        exact hevens (Option.not_isSome_iff_eq_none.mp hopen) (h.even_eq.trans heven) rect hrect)
      have hcrop : CropOk (picture_bounds size) even_sides (pending.getD state.crop) := by
        cases pending with
        | none => exact h.crop_ok
        | some crop => exact hok crop rfl
      have hreleased : Valid timeline size even_sides
          { state with pressed := none, drag := none, crop := pending.getD state.crop,
                       crop_drag := none } :=
        { h with crop_ok := hcrop, adjust_ok := fun _ _ _ _ hdrag => by cases hdrag }
      simp only [ReviewState.pointer_released, hpending, Option.map_some]
      refine ⟨_, rfl, ?_⟩
      split
      · exact press_button_valid hshown hreleased confirmed _
      · exact hreleased
  | capture_changed => exact ⟨_, rfl, capture_changed_valid h⟩
  | timer elapsed => exact ⟨_, rfl, play_on_valid h elapsed⟩
  | key_pressed key ctrl shift confirmed => exact key_pressed_valid hshown h key ctrl shift confirmed
  | close confirmed => exact ⟨_, rfl, request_discard_valid h confirmed⟩
  | relayout metrics layout => exact ⟨_, rfl, { h with }⟩
  | destroyed => exact ⟨_, rfl, finish_valid h _ fun edit hedit => by cases hedit⟩

end Message

/-! ## A whole review -/

/-- Every message of the run meets the condition in the state it finds. -/
def AllReleaseEven : ReviewState → List ReviewState.Message → Prop
  | _, [] => True
  | state, message :: rest => ReleasesEven state message ∧
    ∀ next, state.handle message = some next → AllReleaseEven next rest

/-- **The run lemma**: messages that meet the condition never panic and keep the
invariant. -/
theorem run_valid {timeline : Timeline} {size : U32 × U32} {even_sides : Bool}
    (hshown : Shown size even_sides) (messages : List ReviewState.Message) {state : ReviewState}
    (h : Valid timeline size even_sides state) (hevens : AllReleaseEven state messages) :
    ∃ state', state.run messages = some state' ∧ Valid timeline size even_sides state' := by
  induction messages generalizing state with
  | nil => exact ⟨state, rfl, h⟩
  | cons message rest ih =>
      obtain ⟨hmessage, hrest⟩ := hevens
      obtain ⟨next, hnext, hvalid⟩ := handle_valid hshown h message hmessage
      obtain ⟨state', hrun, hvalid'⟩ := ih hvalid (hrest next hnext)
      refine ⟨state', ?_, hvalid'⟩
      unfold ReviewState.run
      rw [hnext]
      exact hrun

/-- A review opens with the whole recording kept. -/
theorem open_valid {timeline : Timeline} {size : U32 × U32} {format : RecordingFormat}
    (hshown : Shown size (format == .Mp4)) (hspan : MINIMUM_SPAN ≤ timeline.duration)
    (metrics : UiMetrics) (layout : ReviewLayout) :
    Valid timeline size (format == .Mp4)
      (ReviewState.open timeline size format metrics layout) where
  timeline_eq := rfl
  size_eq := rfl
  even_eq := rfl
  trim_ok := new_ok hspan format.frame_rate
  duration_eq := rfl
  crop_ok := whole_crop_ok hshown
  adjust_ok _ _ _ _ hdrag := by cases hdrag
  answer_ok _ hedit := by cases hedit

/-- **Every answer of a review can be applied.**  For a recording at least `MINIMUM_SPAN`
long, and any messages none of which releases an MP4's crop drag one pixel wide against
the right edge or one pixel tall against the bottom, nothing panics, the edit at the end
can be applied, and so can the one a Save has answered with. -/
theorem review_answers (timeline : Timeline) (size : U32 × U32) (format : RecordingFormat)
    (hsides : (0 < size.1.val ∧ size.1.val ≤ 2147483647) ∧
      0 < size.2.val ∧ size.2.val ≤ 2147483647)
    (heven : format = .Mp4 → 2 ∣ size.1.val ∧ 2 ∣ size.2.val)
    (hspan : MINIMUM_SPAN ≤ timeline.duration) (metrics : UiMetrics) (layout : ReviewLayout)
    (messages : List ReviewState.Message)
    (hevens : AllReleaseEven (ReviewState.open timeline size format metrics layout) messages) :
    ∃ state, (ReviewState.open timeline size format metrics layout).run messages = some state ∧
      Answerable timeline (size.1.val, size.2.val) (format == .Mp4) state.edit ∧
      ∀ edit, state.outcome = some (.Save edit) →
        Answerable timeline (size.1.val, size.2.val) (format == .Mp4) edit := by
  have hshown : Shown size (format == .Mp4) :=
    ⟨⟨⟨rfl, rfl⟩, hsides⟩, fun hmp4 => heven (by simpa using hmp4)⟩
  obtain ⟨state, hrun, hvalid⟩ :=
    run_valid hshown messages (open_valid hshown hspan metrics layout) hevens
  exact ⟨state, hrun, edit_answerable hvalid, hvalid.answer_ok⟩

/-! ## Reviews of a small recording -/

/-- A layout that shows the picture pixel for pixel from the client point (20, 60). -/
def pixel_layout (width height : Int) : ReviewLayout where
  buttons := []
  image := ⟨20, 60, 20 + width, 60 + height⟩
  scale := ⟨id, fun d => d, id⟩
  track := ⟨20, 200, 120, 230⟩
  x_at pos duration := 20 + pos * 100 / duration
  millis_at x duration := (x - 20).toNat * duration / from_millis 100

/-- Two frames over a second. -/
def one_second : Timeline :=
  ⟨[0, from_millis 500], from_millis 1000, rfl, by decide, by decide⟩

/-- The sides of a picture. -/
def sides (width height : Nat) (hwidth : InU32 width := by decide)
    (hheight : InU32 height := by decide) : U32 × U32 :=
  (⟨width, hwidth⟩, ⟨height, hheight⟩)

/-- An MP4 of 4 by 4 pixels under review. -/
def small_review (timeline : Timeline) : ReviewState :=
  ReviewState.open timeline (sides 4 4) .Mp4 (UiMetrics.new 96) (pixel_layout 4 4)

/-- The left edge of the picture dragged two pixels to the right, and the end trimmed to
the playhead. -/
theorem review_answers_left_edge :
    ∃ state, (small_review one_second).run
        [.pointer_pressed ⟨20, 62⟩, .pointer_moved ⟨22, 62⟩, .pointer_released ⟨22, 62⟩ false,
          .key_pressed .Right false true false, .key_pressed .O false false false] = some state ∧
      Answerable one_second (4, 4) true state.edit := by
  obtain ⟨state, hrun, hanswer, -⟩ := review_answers one_second (sides 4 4) .Mp4
    ⟨⟨by decide, by decide⟩, by decide, by decide⟩ (fun _ => ⟨by decide, by decide⟩) (by decide)
    (UiMetrics.new 96) (pixel_layout 4 4)
    [.pointer_pressed ⟨20, 62⟩, .pointer_moved ⟨22, 62⟩, .pointer_released ⟨22, 62⟩ false,
      .key_pressed .Right false true false, .key_pressed .O false false false] (by
    refine ⟨trivial, fun next hnext => ⟨trivial, fun next₁ hnext₁ => ⟨?_, fun _ _ =>
      ⟨trivial, fun _ _ => ⟨trivial, fun _ _ => trivial⟩⟩⟩⟩⟩
    obtain rfl := Option.some.inj hnext
    obtain rfl := Option.some.inj hnext₁
    intro _ _ rect hrect
    obtain rfl := Option.some.inj (Option.some.inj hrect)
    decide)
  exact ⟨state, hrun, hanswer⟩

/-- Dragged to the right edge instead, the crop is rounded up to a second column outside
the picture, and cutting it out of a frame reads past the buffer; and a recording of five
milliseconds panics when its end is trimmed. -/
theorem crop_past_the_right_edge :
    (∃ state, (small_review one_second).run
        [.pointer_pressed ⟨20, 62⟩, .pointer_moved ⟨24, 62⟩, .pointer_released ⟨24, 62⟩ false] =
          some state ∧
      state.edit.crop = some ⟨3, 0, 2, 4⟩ ∧
      state.edit.crop_pixels (List.replicate (4 * (4 * 4)) 0) 4 = none) ∧
    (small_review ⟨[0], from_millis 5, rfl, rfl, by decide⟩).run
      [.key_pressed .O false false false] = none := by
  refine ⟨⟨_, rfl, ?_, ?_⟩, ?_⟩
  · decide
  · decide
  · decide

end Captastic.Analysis
