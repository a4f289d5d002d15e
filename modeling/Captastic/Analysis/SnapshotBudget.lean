import Captastic.Analysis.GifPlayback
import Mathlib.Data.List.TakeWhile

/-!
# The snapshots a reader retains

A reader files a snapshot of its canvas after every `snapshot_spacing`th frame that it gets past,
each as large as the canvas.  It gets past the frames before the first that does not decode, and
no further; so what it retains at most is a canvas for each slot that starts among these
(`snapshot_budget_iff`).
-/

set_option autoImplicit false

namespace Captastic.Analysis

open Captastic.Library Captastic.Model

variable {C : Type} (D : GifDecoder C)

/-! ## What is filed -/

/-- Whether a frame decodes. -/
def decodes (frame : GifFrame C) : Bool := (D.decode frame).isOk

/-- How many frames there are before the first that does not decode. -/
def readable (frames : List (GifFrame C)) : Nat := (frames.takeWhile (decodes D)).length

/-- The bytes of the snapshots that a reader retains. -/
def retained (r : GifReader C) : Nat :=
  (r.snapshots.map fun snapshot => (snapshot.map List.length).getD 0).sum

/-- The reader has got no further than the frames that decode, and each snapshot it has filed is
one of its canvas, after one of these. -/
structure Filed (width height : Nat) (frames : List (GifFrame C)) (spacing : Nat)
    (r : GifReader C) : Prop where
  width_eq : r.width = width
  height_eq : r.height = height
  frames_eq : r.frames = frames
  spacing_eq : r.snapshot_spacing = spacing
  canvas_length : r.canvas.length = height * (width * 4)
  reached : ∀ index, r.canvas_index = some index → index < readable D frames
  filed : ∀ slot pixels, r.snapshots[slot]? = some (some pixels) →
    slot * spacing < readable D frames ∧ pixels.length = height * (width * 4)

section Reader

variable {width height spacing : Nat} {frames : List (GifFrame C)} {r r' : GifReader C}

/-- The frame the readable ones end at does not decode. -/
theorem lt_readable {index : Nat} {frame : GifFrame C} (there : frames[index]? = some frame)
    (ok : decodes D frame = true) (upto : index ≤ readable D frames) :
    index < readable D frames := by
  unfold readable at *
  induction frames generalizing index with
  | nil => cases there
  | cons first rest ih =>
    by_cases first_ok : decodes D first = true
    · rw [List.takeWhile_cons_of_pos first_ok, List.length_cons] at *
      cases index with
      | zero => exact Nat.succ_pos _
      | succ index =>
        have behind := ih there (Nat.le_of_succ_le_succ upto)
        exact Nat.succ_lt_succ behind
    · rw [List.takeWhile_cons_of_neg first_ok] at upto
      obtain rfl := Nat.le_zero.mp upto
      obtain rfl := Option.some.inj there
      exact absurd ok first_ok

/-- Filling keeps the size of the canvas. -/
theorem fill_rect_length {canvas canvas' : List Byte} {frame : GifFrame C}
    (before : canvas.length = height * (width * 4))
    (filled : fill_rect canvas width height frame = some canvas') :
    canvas'.length = height * (width * 4) := by
  obtain ⟨canvas'', filled', shows⟩ := fill_rect_spec frame (shows_raster_of before)
  obtain rfl := Option.some.inj (filled.symm.trans filled')
  exact shows.1

/-- Drawing a frame keeps it. -/
theorem draw_frame_length {canvas canvas' rgba : List Byte} {frame : GifFrame C}
    (decoded : D.decode frame = .ok rgba) (before : canvas.length = height * (width * 4))
    (drawn : draw_frame canvas rgba width height frame = some canvas') :
    canvas'.length = height * (width * 4) := by
  obtain ⟨canvas'', drawn', shows⟩ :=
    draw_frame_spec frame (D.length_decode frame rgba decoded) (shows_raster_of before)
  obtain rfl := Option.some.inj (drawn.symm.trans drawn')
  exact shows.1

/-- Disposing of one keeps it. -/
theorem disposed_length (filed : Filed D width height frames spacing r) {index : Nat}
    {canvas : List Byte} (disposed : r.disposed index = some canvas) :
    canvas.length = height * (width * 4) := by
  unfold GifReader.disposed at disposed
  split at disposed
  · obtain ⟨previous, -, cleared⟩ := Option.bind_eq_some_iff.mp disposed
    split at cleared
    · rw [filed.width_eq, filed.height_eq] at cleared
      exact fill_rect_length filed.canvas_length cleared
    · obtain rfl := Option.some.inj cleared
      exact filed.canvas_length
  · obtain rfl := Option.some.inj disposed
    exact filed.canvas_length

/-- A snapshot that is kept is one of the frame it is kept for. -/
theorem keep_snapshot_filed (filed : Filed D width height frames spacing r) {index : Nat}
    (reached : index < readable D frames) (kept : r.keep_snapshot index = some r') :
    Filed D width height frames spacing r' ∧ r'.canvas_index = r.canvas_index := by
  unfold GifReader.keep_snapshot at kept
  split at kept
  · obtain ⟨slot, found, taken⟩ := Option.bind_eq_some_iff.mp kept
    cases slot with
    | some pixels =>
      obtain rfl := Option.some.inj taken
      exact ⟨filed, rfl⟩
    | none =>
      obtain rfl := Option.some.inj taken
      refine ⟨{ filed with filed := ?_ }, rfl⟩
      intro slot pixels at_slot
      rw [List.getElem?_set] at at_slot
      split at at_slot
      · rename_i own
        subst own
        split at at_slot
        · obtain rfl := Option.some.inj (Option.some.inj at_slot)
          refine ⟨?_, filed.canvas_length⟩
          rw [filed.spacing_eq]
          exact Nat.lt_of_le_of_lt (Nat.div_mul_le_self index spacing) reached
        · cases at_slot
      · exact filed.filed slot pixels at_slot
  · obtain rfl := Option.some.inj kept
    exact ⟨filed, rfl⟩

/-- **Step lemma**: one frame drawn, or found not to decode. -/
theorem apply_filed (filed : Filed D width height frames spacing r) {index : Nat}
    (upto : index ≤ readable D frames) {result : Except PlaybackError Unit}
    (applied : r.apply D index = some (r', result)) :
    Filed D width height frames spacing r' ∧
      (result = .ok () → r'.canvas_index = some index ∧ index < readable D frames) := by
  unfold GifReader.apply at applied
  obtain ⟨canvas, disposed, applied⟩ := Option.bind_eq_some_iff.mp applied
  obtain ⟨frame, there, applied⟩ := Option.bind_eq_some_iff.mp applied
  have cleared := disposed_length D filed disposed
  cases decoded : D.decode frame with
  | error error =>
    rw [decoded] at applied
    obtain ⟨rfl, rfl⟩ := Prod.mk.inj (Option.some.inj applied)
    exact ⟨{ filed with canvas_length := cleared }, nofun⟩
  | ok rgba =>
    rw [decoded] at applied
    obtain ⟨canvas', drawn, applied⟩ := Option.bind_eq_some_iff.mp applied
    obtain ⟨r₁, kept, applied⟩ := Option.bind_eq_some_iff.mp applied
    obtain ⟨rfl, rfl⟩ := Prod.mk.inj (Option.some.inj applied)
    rw [filed.frames_eq] at there
    have reached : index < readable D frames := by
      refine lt_readable D there ?_ upto
      unfold decodes
      rw [decoded]
      rfl
    rw [filed.width_eq, filed.height_eq] at drawn
    have drawn_length := draw_frame_length D decoded cleared drawn
    have drawn_filed : Filed D width height frames spacing
        { r with canvas := canvas', canvas_index := some index } :=
      { filed with
        canvas_length := drawn_length
        reached := fun other same => Option.some.inj same ▸ reached }
    obtain ⟨filed', same⟩ := keep_snapshot_filed D drawn_filed reached kept
    exact ⟨filed', fun _ => ⟨same, reached⟩⟩

/-- **Replay**: frames drawn one after the other, as far as they decode. -/
theorem apply_each_filed (n : Nat) {first : Nat} {result : Except PlaybackError Unit}
    (filed : Filed D width height frames spacing r) (upto : first ≤ readable D frames)
    (applied : r.apply_each D (List.range' first n) = some (r', result)) :
    Filed D width height frames spacing r' := by
  induction n generalizing r first with
  | zero =>
    obtain ⟨rfl, -⟩ := Prod.mk.inj (Option.some.inj applied)
    exact filed
  | succ n ih =>
    rw [List.range'_succ] at applied
    unfold GifReader.apply_each at applied
    obtain ⟨⟨r₁, one⟩, stepped, applied⟩ := Option.bind_eq_some_iff.mp applied
    obtain ⟨filed₁, ok⟩ := apply_filed D filed upto stepped
    cases one with
    | ok _ => exact ih filed₁ (ok rfl).2 applied
    | error error =>
      obtain ⟨rfl, -⟩ := Prod.mk.inj (Option.some.inj applied)
      exact filed₁

/-- Restoring a snapshot keeps those there are. -/
theorem restore_filed (filed : Filed D width height frames spacing r) {snapshot : Nat}
    (known : snapshot < readable D frames) (restored : r.restore snapshot = some r') :
    Filed D width height frames spacing r' := by
  unfold GifReader.restore at restored
  obtain ⟨slot, found, restored⟩ := Option.bind_eq_some_iff.mp restored
  have reached : ∀ index, some snapshot = some index → index < readable D frames :=
    fun index same => Option.some.inj same ▸ known
  cases slot with
  | some pixels =>
    dsimp only at restored
    split at restored
    · obtain rfl := Option.some.inj restored
      exact { filed with
        canvas_length := (filed.filed _ pixels found).2, reached }
    · cases restored
  | none =>
    obtain rfl := Option.some.inj restored
    exact { filed with reached }

/-- The nearest snapshot was taken after a frame that decodes. -/
theorem nearest_snapshot_filed (filed : Filed D width height frames spacing r) {index snapshot : Nat}
    (nearest : r.nearest_snapshot index = some (some snapshot)) :
    snapshot < readable D frames := by
  unfold GifReader.nearest_snapshot at nearest
  split at nearest
  · obtain ⟨slot, found, rfl⟩ := Option.map_eq_some_iff.mp (Option.some.inj nearest)
    have taken := List.find?_some found
    cases at_slot : r.snapshots[slot]? with
    | none =>
      rw [at_slot] at taken
      cases taken
    | some entry =>
      cases entry with
      | none =>
        rw [at_slot] at taken
        cases taken
      | some pixels =>
        rw [filed.spacing_eq]
        exact (filed.filed slot pixels at_slot).1
  · cases nearest

/-- Resuming for a frame goes on from a snapshot at or before it. -/
theorem resume_from_filed (filed : Filed D width height frames spacing r) {index first : Nat}
    (resumed : r.resume_from index = some (r', first)) :
    Filed D width height frames spacing r' ∧ first ≤ readable D frames := by
  unfold GifReader.resume_from at resumed
  obtain ⟨nearest, found, resumed⟩ := Option.bind_eq_some_iff.mp resumed
  have restores {snapshot : Nat} (near : nearest = some snapshot)
      (went_on : (r.restore snapshot).bind (fun r => some (r, snapshot + 1)) = some (r', first)) :
      Filed D width height frames spacing r' ∧ first ≤ readable D frames := by
    rw [near] at found
    have known := nearest_snapshot_filed D filed found
    obtain ⟨r₁, restored, made⟩ := Option.bind_eq_some_iff.mp went_on
    obtain ⟨rfl, rfl⟩ := Prod.mk.inj (Option.some.inj made)
    exact ⟨restore_filed D filed known restored, known⟩
  cases resume : r.canvas_index.filter fun current => decide (current < index) with
  | some current =>
    rw [resume] at resumed
    have reached := filed.reached current (Option.filter_eq_some_iff.mp resume).1
    cases nearest with
    | some snapshot =>
      dsimp only at resumed
      split at resumed
      · obtain ⟨rfl, rfl⟩ := Prod.mk.inj (Option.some.inj resumed)
        exact ⟨filed, reached⟩
      · exact restores rfl resumed
    | none =>
      obtain ⟨rfl, rfl⟩ := Prod.mk.inj (Option.some.inj resumed)
      exact ⟨filed, reached⟩
  | none =>
    rw [resume] at resumed
    cases nearest with
    | some snapshot => exact restores rfl resumed
    | none =>
      obtain ⟨rfl, rfl⟩ := Prod.mk.inj (Option.some.inj resumed)
      refine ⟨{ filed with canvas_length := ?_ }, Nat.zero_le _⟩
      exact (shows_opaque_black _ _ _ filed.canvas_length).1

/-- **One call.** -/
theorem frame_filed (filed : Filed D width height frames spacing r) {index : Nat}
    {result : Except PlaybackError (List Byte)} (called : r.frame D index = some (r', result)) :
    Filed D width height frames spacing r' := by
  unfold GifReader.frame at called
  split at called
  · obtain ⟨rfl, -⟩ := Prod.mk.inj (Option.some.inj called)
    exact filed
  · split at called
    · obtain ⟨rfl, -⟩ := Prod.mk.inj (Option.some.inj called)
      exact filed
    · obtain ⟨⟨r₁, first⟩, resumed, called⟩ := Option.bind_eq_some_iff.mp called
      obtain ⟨filed₁, upto⟩ := resume_from_filed D filed resumed
      obtain ⟨⟨r₂, each⟩, applied, called⟩ := Option.bind_eq_some_iff.mp called
      have filed₂ := apply_each_filed D _ filed₁ upto applied
      cases each with
      | ok _ =>
        obtain ⟨rfl, -⟩ := Prod.mk.inj (Option.some.inj called)
        exact filed₂
      | error error =>
        obtain ⟨rfl, -⟩ := Prod.mk.inj (Option.some.inj called)
        exact filed₂

/-- **Run lemma**: however often and in whatever order frames are asked for. -/
theorem read_frames_filed (calls : List Nat) (filed : Filed D width height frames spacing r)
    (read : read_frames D calls r = some r') : Filed D width height frames spacing r' := by
  unfold read_frames at read
  induction calls generalizing r with
  | nil =>
    obtain rfl := Option.some.inj read
    exact filed
  | cons index calls ih =>
    rw [List.foldlM_cons] at read
    obtain ⟨r₁, called, rest⟩ := Option.bind_eq_some_iff.mp read
    obtain ⟨⟨r₂, result⟩, answered, rfl⟩ := Option.map_eq_some_iff.mp called
    exact ih (frame_filed D filed answered) rest

/-! ## Every slot is filed -/

variable (r) in
/-- Every slot that starts before frame `n` holds a snapshot. -/
def FiledBefore (n : Nat) : Prop :=
  ∀ slot, slot * r.snapshot_spacing < n → ∃ pixels, r.snapshots[slot]? = some (some pixels)

/-- Keeping a snapshot for each frame that is due files all those due before the next. -/
theorem keep_snapshot_files (spacing_pos : 0 < r.snapshot_spacing) {index : Nat}
    (before : FiledBefore r index)
    (kept : r.keep_snapshot index = some r') : FiledBefore r' (index + 1) := by
  unfold GifReader.keep_snapshot at kept
  split at kept
  · rename_i starts
    have back : index / r.snapshot_spacing * r.snapshot_spacing = index :=
      Nat.div_mul_cancel (Nat.dvd_of_mod_eq_zero starts)
    obtain ⟨entry, found, taken⟩ := Option.bind_eq_some_iff.mp kept
    -- The slot that starts here is the one looked at; the others start before.
    have other {slot : Nat} (upto : slot * r.snapshot_spacing < index + 1)
        (not_here : slot ≠ index / r.snapshot_spacing) : slot * r.snapshot_spacing < index := by
      rcases Nat.lt_or_eq_of_le (Nat.le_of_lt_succ upto) with earlier | here
      · exact earlier
      · exact absurd (Nat.eq_of_mul_eq_mul_right spacing_pos (here.trans back.symm)) not_here
    cases entry with
    | some pixels =>
      obtain rfl := Option.some.inj taken
      intro slot upto
      by_cases here : slot = index / r.snapshot_spacing
      · exact ⟨pixels, here ▸ found⟩
      · exact before slot (other upto here)
    | none =>
      obtain rfl := Option.some.inj taken
      intro slot upto
      dsimp only at upto ⊢
      rw [List.getElem?_set]
      by_cases here : index / r.snapshot_spacing = slot
      · rw [if_pos here, if_pos (List.getElem?_eq_some_iff.mp found).1]
        exact ⟨_, rfl⟩
      · rw [if_neg here]
        exact before slot (other upto fun same => here same.symm)
  · rename_i passes
    obtain rfl := Option.some.inj kept
    intro slot upto
    apply before slot
    apply Nat.lt_of_le_of_ne (Nat.le_of_lt_succ upto)
    intro here
    apply passes
    rw [← here]
    exact Nat.mul_mod_left slot _

/-- Keeping one does not change how far apart they are. -/
theorem keep_snapshot_spacing {index : Nat} (kept : r.keep_snapshot index = some r') :
    r'.snapshot_spacing = r.snapshot_spacing := by
  unfold GifReader.keep_snapshot at kept
  split at kept
  · obtain ⟨entry, -, taken⟩ := Option.bind_eq_some_iff.mp kept
    cases entry with
    | some pixels =>
      obtain rfl := Option.some.inj taken
      rfl
    | none =>
      obtain rfl := Option.some.inj taken
      rfl
  · obtain rfl := Option.some.inj kept
    rfl

/-- Applying a frame keeps a snapshot where one is due. -/
theorem apply_files (spacing_pos : 0 < r.snapshot_spacing) {index : Nat}
    (before : FiledBefore r index) (applied : r.apply D index = some (r', .ok ())) :
    FiledBefore r' (index + 1) ∧ r'.snapshot_spacing = r.snapshot_spacing := by
  unfold GifReader.apply at applied
  obtain ⟨canvas, -, applied⟩ := Option.bind_eq_some_iff.mp applied
  obtain ⟨frame, -, applied⟩ := Option.bind_eq_some_iff.mp applied
  cases decoded : D.decode frame with
  | error error =>
    rw [decoded] at applied
    cases applied
  | ok rgba =>
    rw [decoded] at applied
    obtain ⟨canvas', -, applied⟩ := Option.bind_eq_some_iff.mp applied
    obtain ⟨r₁, kept, applied⟩ := Option.bind_eq_some_iff.mp applied
    obtain ⟨rfl, -⟩ := Prod.mk.inj (Option.some.inj applied)
    let drawn := { r with canvas := canvas', canvas_index := some index }
    have before_drawn : FiledBefore drawn index := before
    exact ⟨keep_snapshot_files (r := drawn) spacing_pos before_drawn kept,
      keep_snapshot_spacing (r := drawn) kept⟩

/-- Frames drawn one after the other file every slot among them. -/
theorem apply_each_files (n : Nat) {first : Nat} (spacing_pos : 0 < r.snapshot_spacing)
    (before : FiledBefore r first)
    (applied : r.apply_each D (List.range' first n) = some (r', .ok ())) :
    FiledBefore r' (first + n) ∧ r'.snapshot_spacing = r.snapshot_spacing := by
  induction n generalizing r first with
  | zero =>
    obtain ⟨rfl, -⟩ := Prod.mk.inj (Option.some.inj applied)
    exact ⟨before, rfl⟩
  | succ n ih =>
    rw [List.range'_succ] at applied
    unfold GifReader.apply_each at applied
    obtain ⟨⟨r₁, one⟩, stepped, applied⟩ := Option.bind_eq_some_iff.mp applied
    cases one with
    | error error => cases applied
    | ok _ =>
      obtain ⟨files, same⟩ := apply_files D spacing_pos before stepped
      obtain ⟨rest, same'⟩ := ih (same ▸ spacing_pos) files applied
      rw [Nat.add_right_comm] at rest
      exact ⟨rest, same'.trans same⟩

/-- The frames before the first that cannot be decoded can. -/
theorem decode_of_readable {index : Nat} (reached : index < readable D frames) :
    ∃ frame rgba, frames[index]? = some frame ∧ D.decode frame = .ok rgba := by
  have there := List.prefix_iff_getElem?.mp (List.takeWhile_prefix (l := frames) (decodes D))
    index reached
  have ok := List.mem_takeWhile_imp (List.getElem_mem reached)
  generalize (frames.takeWhile (decodes D))[index] = frame at there ok
  unfold decodes at ok
  cases decoded : D.decode frame with
  | ok rgba => exact ⟨frame, rgba, there, decoded⟩
  | error error =>
    rw [decoded] at ok
    cases ok

/-- The frames before one that does not decode have their pictures. -/
theorem composite_of_readable {index : Nat} (reached : index < readable D frames) :
    ∃ pic, composite D frames index = some pic := by
  obtain ⟨frame, rgba, there, decoded⟩ := decode_of_readable D reached
  have drawn (below : Raster) : ∃ pic, drawn_over D frame below = some pic := by
    unfold drawn_over
    rw [decoded]
    exact ⟨_, rfl⟩
  induction index generalizing frame rgba with
  | zero =>
    obtain ⟨pic, drawn⟩ := drawn black
    exact ⟨pic, (composite_zero D there).trans drawn⟩
  | succ index ih =>
    obtain ⟨previous, rgba', there', decoded'⟩ := decode_of_readable D (Nat.lt_of_succ_lt reached)
    obtain ⟨below, composited⟩ := ih (Nat.lt_of_succ_lt reached) previous rgba' there' decoded'
      fun below => by
        unfold drawn_over
        rw [decoded']
        exact ⟨_, rfl⟩
    obtain ⟨pic, drawn⟩ := drawn (disposed_of previous below)
    exact ⟨pic, (composite_succ D composited there' there).trans drawn⟩

/-! ## What is retained -/

/-- As many of these sizes as are not zero, and none above the greatest. -/
theorem sum_le_of_filed {sizes : List Nat} {slots size : Nat}
    (filed : ∀ slot held, sizes[slot]? = some held → held ≤ size ∧ (0 < held → slot < slots)) :
    sizes.sum ≤ slots * size := by
  induction sizes generalizing slots with
  | nil => exact Nat.zero_le _
  | cons first rest ih =>
    obtain ⟨at_most, within⟩ := filed 0 first rfl
    rw [List.sum_cons]
    cases slots with
    | zero =>
      have none_held : rest.sum ≤ 0 * size := ih fun slot held at_slot =>
        ⟨(filed (slot + 1) held at_slot).1,
          fun pos => absurd ((filed (slot + 1) held at_slot).2 pos) (Nat.not_lt_zero _)⟩
      have nothing : first = 0 := by
        by_contra pos
        exact absurd (within (Nat.pos_of_ne_zero pos)) (Nat.lt_irrefl 0)
      omega
    | succ slots =>
      have behind : rest.sum ≤ slots * size := ih fun slot held at_slot =>
        ⟨(filed (slot + 1) held at_slot).1,
          fun pos => Nat.lt_of_succ_lt_succ ((filed (slot + 1) held at_slot).2 pos)⟩
      rw [Nat.succ_mul]
      omega

/-- So many snapshots of one size take so many times that much. -/
theorem le_sum_of_filed {sizes : List Nat} {slots size : Nat}
    (filed : ∀ slot < slots, sizes[slot]? = some size) : slots * size ≤ sizes.sum := by
  induction slots generalizing sizes with
  | zero => omega
  | succ slots ih =>
    cases sizes with
    | nil => cases filed 0 (Nat.succ_pos _)
    | cons first rest =>
      obtain rfl := Option.some.inj (filed 0 (Nat.succ_pos _))
      have behind := @ih rest fun slot upto => filed (slot + 1) (Nat.succ_lt_succ upto)
      rw [List.sum_cons, Nat.succ_mul]
      omega

/-- The slots that start before frame `n`. -/
theorem lt_div_ceil_iff {spacing slot n : Nat} (pos : 0 < spacing) :
    slot < div_ceil n spacing ↔ slot * spacing < n := by
  unfold div_ceil
  rw [Nat.lt_iff_add_one_le, Nat.le_div_iff_mul_le pos, Nat.succ_mul]
  omega

/-- No more is retained than a snapshot for each that is due. -/
theorem retained_le (filed : Filed D width height frames spacing r) (pos : 0 < spacing) :
    retained r ≤ div_ceil (readable D frames) spacing * (height * (width * 4)) := by
  apply sum_le_of_filed
  intro slot held at_slot
  rw [List.getElem?_map] at at_slot
  obtain ⟨snapshot, there, rfl⟩ := Option.map_eq_some_iff.mp at_slot
  cases snapshot with
  | none => exact ⟨Nat.zero_le _, fun pos => absurd pos (Nat.lt_irrefl 0)⟩
  | some pixels =>
    obtain ⟨starts, size⟩ := filed.filed slot pixels there
    exact ⟨size.le, fun _ => (lt_div_ceil_iff pos).mpr starts⟩

/-- Once all frames were applied no less is. -/
theorem le_retained (filed : Filed D width height frames spacing r) (pos : 0 < spacing)
    (every : FiledBefore r (readable D frames)) :
    div_ceil (readable D frames) spacing * (height * (width * 4)) ≤ retained r := by
  apply le_sum_of_filed
  intro slot starts
  have before : slot * r.snapshot_spacing < readable D frames := by
    rw [filed.spacing_eq]
    exact (lt_div_ceil_iff pos).mp starts
  obtain ⟨pixels, at_slot⟩ := every slot before
  rw [List.getElem?_map, at_slot]
  exact congrArg some (filed.filed slot pixels at_slot).2

end Reader

/-! ## The budget -/

/-- How far apart the snapshots of `frames` frames of `frame_bytes` bytes are.
SRC: playback.rs:268-271 -/
def spacing_of (frames frame_bytes : Nat) : Nat :=
  max (div_ceil (frames * frame_bytes) SNAPSHOT_BUDGET_BYTES) MINIMUM_SNAPSHOT_SPACING

/-- Snapshots are at least one frame apart. -/
theorem spacing_of_pos (frames frame_bytes : Nat) : 0 < spacing_of frames frame_bytes :=
  Nat.lt_of_lt_of_le (by decide : 0 < MINIMUM_SNAPSHOT_SPACING) (Nat.le_max_right _ _)

section Budget

variable {width height : UInt16} {frames : List (GifFrame C)} {r : GifReader C}

/-- A reader just made has filed nothing. -/
theorem new_filed (made : GifReader.new width height frames = .ok r) :
    Filed D width.toNat height.toNat frames
      (spacing_of frames.length (width.toNat * height.toNat * 4)) r ∧
    r.canvas_index = none ∧
    ∀ (slot : Nat) (pixels : List Byte), r.snapshots[slot]? ≠ some (some pixels) := by
  obtain ⟨coherent, fresh⟩ := new_coherent D made
  have same : r.snapshot_spacing = spacing_of frames.length (width.toNat * height.toNat * 4) ∧
      ∃ slots, r.snapshots = List.replicate slots none := by
    unfold GifReader.new at made
    dsimp only at made
    split at made
    · cases made
    · cases lasting : Timeline.new (frame_starts 0 frames).1
          (from_millis ((frame_starts 0 frames).2 * 10)) with
      | error error =>
        rw [lasting] at made
        cases made
      | ok timeline =>
        rw [lasting] at made
        obtain rfl := Except.ok.inj made
        exact ⟨rfl, _, rfl⟩
  obtain ⟨same, slots, empty⟩ := same
  have nothing : ∀ (slot : Nat) (pixels : List Byte), r.snapshots[slot]? ≠ some (some pixels) := by
    intro slot pixels at_slot
    rw [empty, List.getElem?_replicate] at at_slot
    split at at_slot <;> cases at_slot
  refine ⟨⟨coherent.width_eq, coherent.height_eq, coherent.frames_eq, same, coherent.canvas_length,
    ?_, fun slot pixels at_slot => absurd at_slot (nothing slot pixels)⟩, fresh, nothing⟩
  intro index reached
  rw [fresh] at reached
  cases reached

/-- Asked for the last frame that can be read, a reader just made files every slot. -/
theorem fills_every_slot (made : GifReader.new width height frames = .ok r) {last : Nat}
    (upto : last + 1 = readable D frames) :
    ∃ r', read_frames D [last] r = some r' ∧ FiledBefore r' (readable D frames) := by
  obtain ⟨coherent, -⟩ := new_coherent D made
  obtain ⟨filed, fresh, nothing⟩ := new_filed D made
  obtain ⟨frame, -, there, -⟩ := decode_of_readable D (Nat.lt_of_lt_of_eq (Nat.lt_succ_self last) upto)
  have within : last < frames.length := (List.getElem?_eq_some_iff.mp there).1
  let blank := { r with canvas := opaque_black r.canvas.length }
  have black_shows := shows_opaque_black _ _ _ coherent.canvas_length
  have blank_coherent : Coherent D width.toNat height.toNat frames blank :=
    { coherent.toKept with
      canvas_length := black_shows.1
      snapshots := coherent.snapshots
      first_kept := coherent.first_kept
      canvas := fun index current => by
        have none_yet : r.canvas_index = some index := current
        rw [fresh] at none_yet
        cases none_yet
      first_snapshot := coherent.first_snapshot }
  obtain ⟨nearest, found, is_some, -⟩ := nearest_snapshot_spec D coherent within
  have no_snapshot : nearest = none := by
    cases nearest with
    | none => rfl
    | some snapshot =>
      obtain ⟨slot, pixels, -, -, at_slot⟩ := is_some snapshot rfl
      exact absurd at_slot (nothing slot pixels)
  have resumed : r.resume_from last = some (blank, 0) := by
    have none_before : (r.canvas_index.filter fun current => decide (current < last)) = none := by
      rw [fresh]
      rfl
    unfold GifReader.resume_from
    simp only [none_before, found, no_snapshot]
    rfl
  have ready : Ready width.toNat height.toNat blank 0 := ⟨fresh, black_shows⟩
  obtain ⟨r', applied, -, -⟩ := apply_each_ok D (last + 1) blank_coherent ready
    fun index before => composite_of_readable D (by omega)
  have pos : 0 < blank.snapshot_spacing :=
    filed.spacing_eq ▸ spacing_of_pos _ _
  obtain ⟨files, -⟩ := apply_each_files D (last + 1) pos
    (fun slot before => absurd before (Nat.not_lt_zero _)) applied
  rw [Nat.zero_add, upto] at files
  refine ⟨r', ?_, files⟩
  have called : r.frame D last = some (r', .ok r'.canvas) := by
    unfold GifReader.frame
    rw [if_neg (by rw [coherent.frames_eq]; omega), if_neg (by rw [fresh]; exact nofun), resumed]
    change (blank.apply_each D (List.range' 0 (last + 1))).bind _ = _
    rw [applied]
    rfl
  unfold read_frames
  rw [List.foldlM_cons, called]
  rfl

/-- **The budget**: whatever frames are asked for, in whatever order, a reader retains no more
than the budget exactly where a canvas for every slot that starts before the first frame that
does not decode is no more.
SRC: playback.rs:16-20, 268-271, 322-328 -/
theorem snapshot_budget_iff (made : GifReader.new width height frames = .ok r) :
    (∀ calls r', read_frames D calls r = some r' → retained r' ≤ SNAPSHOT_BUDGET_BYTES) ↔
      div_ceil (readable D frames)
          (spacing_of frames.length (width.toNat * height.toNat * 4)) *
        (width.toNat * height.toNat * 4) ≤ SNAPSHOT_BUDGET_BYTES := by
  obtain ⟨filed, -, -⟩ := new_filed D made
  have pos := spacing_of_pos frames.length (width.toNat * height.toNat * 4)
  have same : width.toNat * height.toNat * 4 = height.toNat * (width.toNat * 4) := by
    rw [Nat.mul_comm width.toNat, Nat.mul_assoc]
  constructor
  · intro within
    cases last : readable D frames with
    | zero =>
      have no_slot : div_ceil 0 (spacing_of frames.length (width.toNat * height.toNat * 4)) = 0 := by
        unfold div_ceil
        exact Nat.div_eq_of_lt (by omega)
      rw [no_slot, Nat.zero_mul]
      exact Nat.zero_le _
    | succ last_index =>
      obtain ⟨r', read, files⟩ := fills_every_slot D made last.symm
      have holds := le_retained D (read_frames_filed D _ filed read) pos files
      rw [last, ← same] at holds
      exact holds.trans (within _ r' read)
  · intro fits calls r' read
    have holds := retained_le D (read_frames_filed D calls filed read) pos
    rw [← same] at holds
    exact holds.trans fits

end Budget

/-- A GIF of one white pixel keeps within the budget. -/
theorem snapshot_budget_one_pixel : ∃ r, GifReader.new 1 1 [white_frame] = .ok r ∧
    ∀ calls r', read_frames raw_decoder calls r = some r' →
      retained r' ≤ SNAPSHOT_BUDGET_BYTES := by
  obtain ⟨r, made⟩ : ∃ r, GifReader.new 1 1 [white_frame] = .ok r := ⟨_, rfl⟩
  exact ⟨r, made, (snapshot_budget_iff raw_decoder made).mpr (by decide)⟩

/-- One white pixel on a canvas of 8192 pixels by 8192: the first snapshot alone is more. -/
theorem snapshot_beyond_the_budget :
    ∃ r, GifReader.new 8192 8192 [white_frame] = .ok r ∧
      ∃ r', read_frames raw_decoder [0] r = some r' ∧ SNAPSHOT_BUDGET_BYTES < retained r' := by
  obtain ⟨r, made⟩ : ∃ r, GifReader.new 8192 8192 [white_frame] = .ok r := ⟨_, rfl⟩
  obtain ⟨filed, -, -⟩ := new_filed raw_decoder made
  obtain ⟨r', read, files⟩ := fills_every_slot raw_decoder made
    (rfl : 0 + 1 = readable raw_decoder [white_frame])
  have holds := le_retained raw_decoder (read_frames_filed raw_decoder _ filed read)
    (spacing_of_pos _ _) files
  exact ⟨r, made, r', read, Nat.lt_of_lt_of_le (by decide) holds⟩

end Captastic.Analysis
