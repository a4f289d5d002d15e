import Captastic.Analysis.GifRoundTrip
import Mathlib.Data.List.GetD

/-!
# How long a GIF's frames are shown

`GifWriter` holds one frame back until the next change says when it ends, and counts in
`written_cs` the centiseconds at which the frames written end.  The delays it means to store
(`intended`) end where they should: each at the time of the next change, or two centiseconds
after the frame before if that is later (`intended_sum`).  What a file stores of a delay is
sixteen bits, so the file keeps the times exactly when no frame is shown for longer than 65535
centiseconds (`gif_timing_iff`); the count goes on with what was meant.
-/

set_option autoImplicit false

namespace Captastic.Analysis

open Captastic.Library Captastic.Model

/-! ## The times of the frames -/

/-- When the frames after the first that change the picture were captured. -/
def change_times (width height : Nat) : List Byte → List (List Byte × Duration) → List Duration
  | _, [] => []
  | previous, (bgra, pos) :: rest =>
    if (changed_box previous bgra width height).isSome then
      pos :: change_times width height bgra rest
    else change_times width height previous rest

/-- When the frames written end, counted from the first of them: each at the next change, the
last at the end given to `finish`. -/
def frame_ends (width height : Nat) (end_at : Duration) : List (List Byte × Duration) → List Duration
  | [] => []
  | (bgra, first_at) :: rest =>
    (change_times width height bgra rest ++ [end_at]).map fun pos => pos - first_at

/-- The end of the first `k` frames on a grid of centiseconds on which each is shown for at
least two. -/
def grid_end (ends : List Duration) : Nat → Nat
  | 0 => 0
  | k + 1 => max (GifWriter.as_centiseconds (ends.getD k 0)) (grid_end ends k + MINIMUM_DELAY_CS)

/-- The delays of frames of which the first begins at `began` and each ends at its time. -/
def intended : Nat → List Nat → List Nat
  | _, [] => []
  | began, until_cs :: rest =>
    let shown := max (until_cs - began) MINIMUM_DELAY_CS
    shown :: intended (began + shown) rest

/-- Each frame has one intended time. -/
@[simp] theorem length_intended (began : Nat) (ends : List Nat) :
    (intended began ends).length = ends.length := by
  induction ends generalizing began with
  | nil => rfl
  | cons until_cs rest ih => simp [intended, ih]

/-- A frame ends at its time, or two centiseconds after the frame before. -/
theorem intended_step (began : Nat) (ends : List Nat) {k : Nat} (lt : k < ends.length) :
    began + ((intended began ends).take (k + 1)).sum =
      max (ends.getD k 0) (began + ((intended began ends).take k).sum + MINIMUM_DELAY_CS) := by
  induction ends generalizing began k with
  | nil => exact absurd lt (Nat.not_lt_zero k)
  | cons until_cs rest ih =>
    cases k with
    | zero =>
      simp only [intended, List.take_succ_cons, List.take_zero, List.sum_cons, List.sum_nil,
        List.getD_cons_zero]
      omega
    | succ k =>
      have later := ih (began + max (until_cs - began) MINIMUM_DELAY_CS) (k := k)
        (Nat.lt_of_succ_lt_succ lt)
      simp only [intended, List.take_succ_cons, List.sum_cons, List.getD_cons_succ] at later ⊢
      omega

/-- **The delays meant** end where the frames do. -/
theorem intended_sum (ends : List Duration) {k : Nat} (le : k ≤ ends.length) :
    ((intended 0 (ends.map GifWriter.as_centiseconds)).take k).sum = grid_end ends k := by
  induction k with
  | zero => rfl
  | succ k ih =>
    have step := intended_step 0 (ends.map GifWriter.as_centiseconds) (k := k)
      (by rw [List.length_map]; exact le)
    rw [Nat.zero_add, Nat.zero_add, ih (by omega)] at step
    rw [step]
    show max _ _ = max _ _
    congr 1
    rw [List.getD_eq_getElem?_getD, List.getD_eq_getElem?_getD, List.getElem?_map]
    cases ends[k]? with
    | none => rfl
    | some until_at => rfl

/-! ## The delays stored -/

section Writer

variable {C W : Type} (K : GifCodec C) (E : GifEncoder C W)

/-- The delays that a file holds. -/
def delays (frames : List (GifFrame C)) : List Nat := frames.map fun frame => frame.delay.toNat

/-- The writer holds back the frame of the picture `previous`; those before it end at
`written_cs` and are stored with the delays `held`. -/
structure Holding (w : GifWriter C W) (width height : Nat) (previous : List Byte)
    (first_at : Duration) (written_cs : Nat) (held : List Nat) : Prop where
  width_eq : w.width = width
  height_eq : w.height = height
  pending_some : ∃ frame, w.pending = some frame
  previous_eq : w.previous = some previous
  first_at_eq : w.first_at = some first_at
  written_eq : w.written_cs = written_cs
  stored_eq : delays (E.stored w.encoder) = held

variable {width height : Nat} {previous : List Byte} {first_at : Duration}
  {written_cs : Nat} {held : List Nat} {w : GifWriter C W}

/-- The delay a frame is stored with.
SRC: animation.rs:145-156 -/
theorem write_delay (pending : GifFrame C) (shown_until : Duration) {w' : GifWriter C W}
    (h : w.write E pending shown_until = (w', .ok ())) :
    delays (E.stored w'.encoder) = delays (E.stored w.encoder) ++
        [min (max (GifWriter.as_centiseconds shown_until - w.written_cs) MINIMUM_DELAY_CS) 65535] ∧
      w'.written_cs = w.written_cs +
        max (GifWriter.as_centiseconds shown_until - w.written_cs) MINIMUM_DELAY_CS ∧
      w'.width = w.width ∧ w'.height = w.height ∧ w'.previous = w.previous ∧
      w'.first_at = w.first_at := by
  unfold GifWriter.write at h
  set shown := max (GifWriter.as_centiseconds shown_until - w.written_cs) MINIMUM_DELAY_CS
    with hshown
  simp only [← hshown] at h
  split at h
  · cases h
  · rename_i encoder hencoder
    obtain ⟨rfl, -⟩ := Prod.mk.inj h
    refine ⟨?_, rfl, rfl, rfl, rfl, rfl⟩
    show delays (E.stored encoder) = _
    have hdelay : (if shown ≤ 65535 then UInt16.ofNat shown else 65535 : UInt16).toNat =
        min shown 65535 := by
      split
      · rename_i hle
        rw [UInt16.toNat_ofNat_of_lt' (by simp only [UInt16.size]; omega), Nat.min_eq_left hle]
      · rename_i hgt
        rw [Nat.min_eq_right (by omega)]
        rfl
    unfold delays
    rw [E.stored_write_frame _ _ _ hencoder, List.map_append, List.map_singleton, hdelay]

/-- **The step lemma** of a writer that holds a frame back.
SRC: animation.rs:98-131 -/
theorem push_holding (h : Holding E w width height previous first_at written_cs held)
    {bgra : List Byte} {pos : Duration} {w' : GifWriter C W}
    (hpush : w.push K E bgra pos = (w', .ok ())) :
    if (changed_box previous bgra width height).isSome then
      Holding E w' width height bgra first_at
        (written_cs + max (GifWriter.as_centiseconds (pos - first_at) - written_cs) MINIMUM_DELAY_CS)
        (held ++ [min (max (GifWriter.as_centiseconds (pos - first_at) - written_cs)
          MINIMUM_DELAY_CS) 65535])
    else Holding E w' width height previous first_at written_cs held := by
  obtain ⟨rfl, rfl, ⟨frame, hpending⟩, hprevious, hfirst, rfl, rfl⟩ := h
  simp only [GifWriter.push] at hpush
  split at hpush
  · cases hpush
  · simp only [hprevious, hfirst, Option.getD_some] at hpush
    cases hbox : changed_box previous bgra w.width w.height with
    | none =>
        simp only [hbox] at hpush
        obtain ⟨rfl, -⟩ := Prod.mk.inj hpush
        simp only [Option.isSome_none, Bool.false_eq_true, if_false]
        exact ⟨rfl, rfl, ⟨frame, hpending⟩, rfl, rfl, rfl, rfl⟩
    | some region =>
        simp only [hbox, hpending] at hpush
        simp only [Option.isSome_some, if_true]
        split at hpush
        · rename_i w₁ hwrite
          obtain ⟨hstored, hwritten, hwidth, hheight, hprev, hfirst'⟩ := write_delay E _ _ hwrite
          obtain ⟨rfl, -⟩ := Prod.mk.inj hpush
          exact ⟨hwidth, hheight, ⟨_, rfl⟩, hprev, hfirst', hwritten, hstored⟩
        · cases hpush

/-- The last frame ends with the recording.
SRC: animation.rs:133-143 -/
theorem finish_holding (h : Holding E w width height previous first_at written_cs held)
    {end_at : Duration} {file : W} {summary : AnimationSummary}
    (hfinish : w.finish E end_at = .ok (file, summary)) :
    delays (E.stored file) = held ++ [min (max (GifWriter.as_centiseconds (end_at - first_at) -
      written_cs) MINIMUM_DELAY_CS) 65535] := by
  obtain ⟨rfl, rfl, ⟨frame, hpending⟩, hprevious, hfirst, rfl, rfl⟩ := h
  unfold GifWriter.finish at hfinish
  simp only [hpending, hfirst, Option.getD_some] at hfinish
  split at hfinish
  · cases hfinish
  · rename_i w₁ hwrite
    obtain ⟨hstored, -⟩ := write_delay E _ _ hwrite
    split at hfinish
    · cases hfinish
    · rename_i file' hfile
      obtain ⟨rfl, -⟩ := Prod.mk.inj (Except.ok.inj hfinish)
      rw [E.stored_into_inner _ _ hfile]
      exact hstored

/-- **The run lemma**: the frames still to come are stored with the delays meant, each cut to
sixteen bits. -/
theorem pushes_holding (frames : List (List Byte × Duration))
    (h : Holding E w width height previous first_at written_cs held) {w' : GifWriter C W}
    (hpushes : GifWriter.push_all K E w frames = .ok w')
    {end_at : Duration} {file : W} {summary : AnimationSummary}
    (hfinish : w'.finish E end_at = .ok (file, summary)) :
    delays (E.stored file) = held ++ (intended written_cs
      ((change_times width height previous frames ++ [end_at]).map fun pos =>
        GifWriter.as_centiseconds (pos - first_at))).map (min · 65535) := by
  induction frames generalizing w previous written_cs held with
  | nil =>
      obtain rfl : w = w' := Except.ok.inj hpushes
      simp only [change_times, List.nil_append, List.map_cons, List.map_nil, intended]
      exact finish_holding E h hfinish
  | cons frame rest ih =>
      obtain ⟨bgra, pos⟩ := frame
      rcases hpush : w.push K E bgra pos with ⟨w₁, error | ⟨⟩⟩
      · simp [GifWriter.push_all, hpush] at hpushes
      · have hstep := push_holding K E h hpush
        simp only [GifWriter.push_all, hpush] at hpushes
        unfold change_times
        split at hstep
        · rename_i hchanged
          rw [if_pos hchanged, ih hstep hpushes]
          simp only [List.cons_append, List.map_cons, intended, List.append_assoc,
            List.nil_append]
        · rename_i hchanged
          rw [if_neg hchanged]
          exact ih hstep hpushes

/-- A new writer has nothing: no frames, no picture, no time.
SRC: animation.rs:77-96 -/
theorem new_empty (hnew : GifWriter.new E width height = .ok w) :
    E.stored w.encoder = [] ∧ ∃ encoder,
      w = { encoder, width, height, previous := none, pending := none, written_cs := 0,
            first_at := none, summary := ⟨0, 0, 0⟩ } := by
  unfold GifWriter.new at hnew
  split at hnew
  · cases hnew
  split at hnew
  · cases hnew
  split at hnew
  · cases hnew
  · rename_i encoder hcreate
    obtain rfl := Except.ok.inj hnew
    exact ⟨E.stored_create _ _ _ hcreate, encoder, rfl⟩

/-- The first frame is held back, whatever it shows. -/
theorem first_holding (hnew : GifWriter.new E width height = .ok w) {bgra : List Byte}
    {pos : Duration} {w' : GifWriter C W} (hpush : w.push K E bgra pos = (w', .ok ())) :
    Holding E w' width height bgra pos 0 [] := by
  obtain ⟨hempty, encoder, rfl⟩ := new_empty E hnew
  simp only [GifWriter.push] at hpush
  split at hpush
  · cases hpush
  · simp only [Option.getD_none] at hpush
    obtain ⟨rfl, -⟩ := Prod.mk.inj hpush
    refine ⟨rfl, rfl, ⟨_, rfl⟩, rfl, rfl, rfl, ?_⟩
    show delays (E.stored encoder) = []
    rw [hempty]
    rfl

/-- **The delays of a recorded GIF** are those meant, each cut to sixteen bits.
SRC: animation.rs:98-156 -/
theorem record_delays {pushes : List (List Byte × Duration)} {end_at : Duration} {file : W}
    {summary : AnimationSummary}
    (hrecord : GifWriter.record K E width height pushes end_at = .ok (file, summary)) :
    delays (E.stored file) =
      (intended 0 ((frame_ends width height end_at pushes).map GifWriter.as_centiseconds)).map
        (min · 65535) := by
  unfold GifWriter.record at hrecord
  obtain ⟨w₀, hnew, hrecord⟩ := bind_eq_ok.mp hrecord
  obtain ⟨w, hpushes, hfinish⟩ := bind_eq_ok.mp hrecord
  cases pushes with
  | nil =>
      obtain rfl := Except.ok.inj hpushes
      obtain ⟨hempty, encoder, rfl⟩ := new_empty E hnew
      unfold GifWriter.finish at hfinish
      simp only at hfinish
      split at hfinish
      · cases hfinish
      · rename_i file' hfile
        obtain ⟨rfl, -⟩ := Prod.mk.inj (Except.ok.inj hfinish)
        rw [E.stored_into_inner _ _ hfile, hempty]
        rfl
  | cons frame rest =>
      obtain ⟨bgra, first_at⟩ := frame
      rcases hpush : w₀.push K E bgra first_at with ⟨w₁, error | ⟨⟩⟩
      · simp [GifWriter.push_all, hpush] at hpushes
      · simp only [GifWriter.push_all, hpush] at hpushes
        rw [pushes_holding K E rest (first_holding K E hnew hpush) hpushes hfinish,
          List.nil_append]
        unfold frame_ends
        rw [List.map_map]
        rfl

end Writer

/-! ## When the file keeps the times -/

/-- The first `k` delays end where the first `k` frames do, for every `k`. -/
def OnGrid (stored : List Nat) (ends : List Duration) : Prop :=
  stored.length = ends.length ∧ ∀ k ≤ ends.length, (stored.take k).sum = grid_end ends k

/-- No frame is shown for longer than sixteen bits of centiseconds. -/
def ShortFrames (ends : List Duration) : Prop :=
  ∀ k < ends.length, GifWriter.as_centiseconds (ends.getD k 0) ≤ grid_end ends k + 65535

/-- Each frame ends at least twenty milliseconds after the one before it. -/
def Spaced (ends : List Duration) : Prop :=
  (0 :: ends).IsChain fun began until_at => began + from_millis 20 ≤ until_at

/-- Times that are cut short sum to no more. -/
theorem sum_min_le (shown : List Nat) (most : Nat) :
    (shown.map (min · most)).sum ≤ shown.sum := by
  induction shown with
  | nil => exact Nat.le_refl 0
  | cons delay rest ih =>
    rw [List.map_cons, List.sum_cons, List.sum_cons]
    exact Nat.add_le_add (Nat.min_le_left delay most) ih

/-- Cutting delays keeps their sum exactly when it changes none of them. -/
theorem sum_min_eq_iff (shown : List Nat) (most : Nat) :
    (shown.map (min · most)).sum = shown.sum ↔ ∀ delay ∈ shown, delay ≤ most := by
  induction shown with
  | nil => simp
  | cons delay rest ih =>
    have rest_le := sum_min_le rest most
    rw [List.map_cons, List.sum_cons, List.sum_cons, List.forall_mem_cons, ← ih]
    omega

/-- The delays meant fit sixteen bits exactly when the frames are short. -/
theorem intended_le_iff (ends : List Duration) :
    (∀ delay ∈ intended 0 (ends.map GifWriter.as_centiseconds), delay ≤ 65535) ↔
      ShortFrames ends := by
  have delay_eq : ∀ k (lt : k < ends.length)
      (in_range : k < (intended 0 (ends.map GifWriter.as_centiseconds)).length),
      (intended 0 (ends.map GifWriter.as_centiseconds))[k] + grid_end ends k =
        max (GifWriter.as_centiseconds (ends.getD k 0)) (grid_end ends k + MINIMUM_DELAY_CS) := by
    intro k lt in_range
    have upto := intended_sum ends (k := k) (by omega)
    have next := intended_sum ends (k := k + 1) lt
    rw [List.take_succ_eq_append_getElem in_range, List.sum_append, upto] at next
    rw [List.sum_singleton] at next
    rw [Nat.add_comm]
    exact next
  constructor
  · intro fits k lt
    have in_range : k < (intended 0 (ends.map GifWriter.as_centiseconds)).length := by
      simpa using lt
    have delay_le := fits _ (List.getElem_mem in_range)
    have delay_is := delay_eq k lt in_range
    omega
  · intro short delay member
    obtain ⟨k, in_range, rfl⟩ := List.getElem_of_mem member
    have lt : k < ends.length := by
      rwa [length_intended, List.length_map] at in_range
    have frame_short := short k lt
    have delay_is := delay_eq k lt in_range
    unfold MINIMUM_DELAY_CS at delay_is
    omega

/-- Where the frames are short a recorded file stores the delays meant. -/
theorem delays_of_short {C W : Type} (K : GifCodec C) (E : GifEncoder C W) {width height : Nat}
    {pushes : List (List Byte × Duration)} {end_at : Duration} {file : W}
    {summary : AnimationSummary}
    (recorded : GifWriter.record K E width height pushes end_at = .ok (file, summary))
    (short : ShortFrames (frame_ends width height end_at pushes)) :
    delays (E.stored file) =
      intended 0 ((frame_ends width height end_at pushes).map GifWriter.as_centiseconds) := by
  rw [record_delays K E recorded]
  generalize frame_ends width height end_at pushes = ends at short ⊢
  conv_rhs => rw [← List.map_id (intended 0 (ends.map GifWriter.as_centiseconds))]
  refine List.map_congr_left ?_
  intro delay member
  exact Nat.min_eq_left ((intended_le_iff ends).mpr short delay member)

/-- The delays of a recorded file fill the time its frames are meant to exactly where the frames
are short. -/
theorem delays_fill_iff {C W : Type} (K : GifCodec C) (E : GifEncoder C W) {width height : Nat}
    {pushes : List (List Byte × Duration)} {end_at : Duration} {file : W}
    {summary : AnimationSummary}
    (recorded : GifWriter.record K E width height pushes end_at = .ok (file, summary)) :
    (delays (E.stored file)).sum = grid_end (frame_ends width height end_at pushes)
        (frame_ends width height end_at pushes).length ↔
      ShortFrames (frame_ends width height end_at pushes) := by
  rw [record_delays K E recorded]
  generalize frame_ends width height end_at pushes = ends
  have all_sum := intended_sum ends (le_refl ends.length)
  rw [List.take_of_length_le (by simp)] at all_sum
  rw [← all_sum, sum_min_eq_iff, intended_le_iff]

/-- Frames that are spaced end at their own times. -/
theorem grid_end_of_spaced {ends : List Duration} (spaced : Spaced ends) {k : Nat}
    (lt : k < ends.length) :
    grid_end ends (k + 1) = GifWriter.as_centiseconds (ends.getD k 0) := by
  have gaps : ∀ j (j_lt : j + 1 < (0 :: ends).length),
      (0 :: ends)[j] + from_millis 20 ≤ (0 :: ends)[j + 1] := List.isChain_iff_getElem.mp spaced
  have centiseconds : ∀ began until_at : Nat, began + from_millis 20 ≤ until_at →
      GifWriter.as_centiseconds began + 2 ≤ GifWriter.as_centiseconds until_at := by
    intro began until_at gap
    unfold from_millis at gap
    unfold GifWriter.as_centiseconds
    omega
  induction k with
  | zero =>
    have first := centiseconds _ _ (gaps 0 (by simpa using lt))
    rw [List.getElem_cons_zero, List.getElem_cons_succ] at first
    unfold grid_end
    rw [List.getD_eq_getElem _ _ lt]
    unfold grid_end MINIMUM_DELAY_CS
    omega
  | succ k ih =>
    have gap := centiseconds _ _ (gaps (k + 1) (by simpa using lt))
    rw [List.getElem_cons_succ, List.getElem_cons_succ] at gap
    unfold grid_end
    rw [ih (by omega) gaps, List.getD_eq_getElem _ _ lt, List.getD_eq_getElem _ _ (by omega)]
    unfold MINIMUM_DELAY_CS
    omega

/-- **When a GIF keeps its times.**  The first `k` delays of a recorded file end where its
first `k` frames do, for every `k`, exactly when no frame is shown for longer than 65535
centiseconds; and frames at least twenty milliseconds apart fill the recording to its end
exactly then.
SRC: animation.rs:98-156 -/
theorem gif_timing_iff {C W : Type} (K : GifCodec C) (E : GifEncoder C W) {width height : Nat}
    {pushes : List (List Byte × Duration)} {end_at : Duration} {file : W}
    {summary : AnimationSummary}
    (recorded : GifWriter.record K E width height pushes end_at = .ok (file, summary)) :
    (OnGrid (delays (E.stored file)) (frame_ends width height end_at pushes) ↔
      ShortFrames (frame_ends width height end_at pushes)) ∧
    (Spaced (frame_ends width height end_at pushes) →
      ((delays (E.stored file)).sum =
          GifWriter.as_centiseconds ((frame_ends width height end_at pushes).getLast?.getD 0) ↔
        ShortFrames (frame_ends width height end_at pushes))) := by
  have whole_iff := delays_fill_iff K E recorded
  have uncut := delays_of_short K E recorded
  generalize frame_ends width height end_at pushes = ends at whole_iff uncut ⊢
  refine ⟨⟨?_, ?_⟩, ?_⟩
  · intro on_grid
    have whole := on_grid.2 ends.length (le_refl _)
    rw [← on_grid.1, List.take_length, on_grid.1] at whole
    exact whole_iff.mp whole
  · intro short
    rw [uncut short]
    refine ⟨by simp, ?_⟩
    intro k le
    exact intended_sum ends le
  · intro spaced
    rw [← whole_iff]
    by_cases none_written : ends = []
    · subst none_written
      rfl
    · have last : grid_end ends ends.length =
          GifWriter.as_centiseconds (ends.getLast?.getD 0) := by
        have length_pos := List.length_pos_iff.mpr none_written
        have ended := grid_end_of_spaced spaced (k := ends.length - 1) (by omega)
        rw [Nat.sub_add_cancel length_pos] at ended
        rw [ended, List.getLast?_eq_getElem?, List.getD_eq_getElem?_getD]
      rw [last]

/-- Two pictures a second apart, the second shown for half a second. -/
theorem two_pictures_on_grid :
    ∃ file summary, GifWriter.record raw_codec list_encoder 1 1
        [([1, 2, 3, 255], 0), ([9, 8, 7, 255], from_millis 1000)] (from_millis 1500) =
          .ok (file, summary) ∧
      OnGrid (delays (list_encoder.stored file)) [from_millis 1000, from_millis 1500] := by
  refine ⟨_, _, rfl, ?_⟩
  refine (@gif_timing_iff _ _ raw_codec list_encoder 1 1
    [([1, 2, 3, 255], 0), ([9, 8, 7, 255], from_millis 1000)] (from_millis 1500) _ _ rfl).1.mpr ?_
  unfold ShortFrames
  decide

/-- One picture shown for eleven minutes is stored as if for ten minutes and 55.35 seconds.
SRC: animation.rs:152 -/
theorem still_picture_cut :
    ∃ file summary, GifWriter.record raw_codec list_encoder 1 1 [([1, 2, 3, 255], 0)]
        (from_millis 660000) = .ok (file, summary) ∧
      Spaced (frame_ends 1 1 (from_millis 660000) [([1, 2, 3, 255], 0)]) ∧
      ¬ OnGrid (delays (list_encoder.stored file))
        (frame_ends 1 1 (from_millis 660000) [([1, 2, 3, 255], 0)]) ∧
      (delays (list_encoder.stored file)).sum = 65535 := by
  refine ⟨_, _, rfl, ?_, ?_, rfl⟩
  · unfold Spaced
    decide
  · rintro ⟨-, on_grid⟩
    have first := on_grid 1 (by decide)
    revert first
    decide

end Captastic.Analysis
