import Captastic.Analysis.Trimming
import Captastic.Library.Runs
import Captastic.Model.VideoReader

/-!
# Which frame of an MP4 comes back

`Mp4Reader` remembers which frame it decoded last and reads on from there, or seeks.  A call
that comes back with a frame comes back with the one asked for (`mp4_frames_right`) as long as
what the reader remembers agrees with where Media Foundation's reader stands: no sample past
the frame decoded last has been taken by a read that failed and is wanted now, and the layout
rows are copied by is that of the type announced last.  No call ever fails to return.
-/

set_option autoImplicit false

namespace Captastic.Analysis

open Captastic.Library Captastic.Model

/-! ## Pictures -/

/-- The row of a decoded frame that is row `y` of the picture. -/
def picture_row (layout : DecodedLayout) (y : Nat) : Nat :=
  if layout.stride < 0 then layout.frame_height - 1 - y else y

/-- A decoded frame's rows, top row first, opaque. -/
def picture_rows (layout : DecodedLayout) (width height : Nat) (bytes : List Byte) : List Byte :=
  (List.range height).flatMap fun y =>
    opaque_row (slice_at bytes (picture_row layout y * layout.stride.natAbs) (width * 4))

/-- The picture of a sample, by its own layout. -/
def picture (file : Mp4File) (sample : DecodedSample) : List Byte :=
  picture_rows (decoded_layout sample.decoded_type file.width file.height) file.width file.height
    sample.bytes

/-- The rows of a decoded frame are wide enough for the picture's, and all there. -/
def RowsFit (layout : DecodedLayout) (width length : Nat) : Prop :=
  width * 4 ≤ layout.stride.natAbs ∧
    layout.stride.natAbs * (layout.frame_height - 1) + width * 4 ≤ length

/-- Making a row opaque keeps its length. -/
theorem length_opaque_row (row : List Byte) : (opaque_row row).length = row.length :=
  List.length_mapIdx

/-- A row of the picture is one of the frame. -/
theorem picture_row_le {layout : DecodedLayout} {y : Nat} (tall : y < layout.frame_height) :
    picture_row layout y ≤ layout.frame_height - 1 := by
  unfold picture_row
  split <;> omega

section Copy

variable {layout : DecodedLayout} {width height : Nat} {bytes : List Byte}

/-- It is inside the decoded buffer. -/
theorem picture_row_fits {length y : Nat} (fits : RowsFit layout width length)
    (tall : y < layout.frame_height) :
    picture_row layout y * layout.stride.natAbs + width * 4 ≤ length := by
  have low := Nat.mul_le_mul_left layout.stride.natAbs (picture_row_le tall)
  rw [Nat.mul_comm] at low
  exact (Nat.add_le_add_right low _).trans fits.2

/-- SRC: video_reader.rs:358-388 -/
theorem copied_rows_eq {out : List Byte} (tall : height ≤ layout.frame_height)
    (height_pos : 0 < height) (length : out.length = height * (width * 4)) :
    (RowsFit layout width bytes.length ∧ copy_rows bytes layout width height out =
      some (.ok (picture_rows layout width height bytes))) ∨
    ∃ error, copy_rows bytes layout width height out = some (.error error) := by
  unfold copy_rows
  dsimp only
  by_cases narrow : layout.stride.natAbs < width * 4
  · rw [if_pos narrow]
    exact .inr ⟨_, rfl⟩
  rw [if_neg narrow, if_neg (by omega)]
  split
  · exact .inr ⟨_, rfl⟩
  · rename_i short
    have fits : RowsFit layout width bytes.length := ⟨by omega, by omega⟩
    refine .inl ⟨fits, ?_⟩
    -- the row that each turn of the loop writes
    let row (y : Nat) : List Byte :=
      if y < height then
        opaque_row (slice_at bytes (picture_row layout y * layout.stride.natAbs) (width * 4))
      else List.replicate (width * 4) 0
    have row_length : ∀ y, (row y).length = width * 4 := by
      intro y
      unfold row
      split
      · rename_i inside
        rw [length_opaque_row, length_slice_at]
        exact picture_row_fits fits (Nat.lt_of_lt_of_le inside tall)
      · exact List.length_replicate
    have turn : ∀ out y, y ∈ List.range height → (do
        let source_row ← source_row layout y
        let row ← slice? bytes (source_row * layout.stride.natAbs) (width * 4)
        write? out (y * (width * 4)) (opaque_row row)) = write? out (y * (width * 4)) (row y) := by
      intro out y inside
      have inside := List.mem_range.mp inside
      have found : source_row layout y = some (picture_row layout y) := by
        unfold source_row picture_row
        rw [if_pos (Nat.lt_of_lt_of_le inside tall)]
        split <;> rfl
      unfold row
      rw [found, Option.bind_eq_bind, Option.bind_some,
        slice?_eq _ _ _ (picture_row_fits fits (Nat.lt_of_lt_of_le inside tall)), if_pos inside]
      rfl
    rw [foldlM_congr_of_inv (fun _ => True) _ _ _ (fun out y inside _ => turn out y inside)
      (fun _ _ _ _ _ _ => trivial) out trivial, write_blocks row_length length]
    have same : (List.range height).flatMap row = picture_rows layout width height bytes := by
      unfold picture_rows
      rw [List.flatMap_def, List.flatMap_def]
      congr 1
      apply List.map_congr_left
      intro y inside
      exact if_pos (List.mem_range.mp inside)
    rw [same]
    rfl

/-- The rows are all in the bytes that were locked. -/
theorem picture_rows_take {length : Nat} (tall : height ≤ layout.frame_height)
    (fits : RowsFit layout width (bytes.take length).length) :
    picture_rows layout width height (bytes.take length) =
      picture_rows layout width height bytes := by
  unfold picture_rows
  rw [List.flatMap_def, List.flatMap_def]
  congr 1
  apply List.map_congr_left
  intro y inside
  have inside := List.mem_range.mp inside
  have within := picture_row_fits fits (Nat.lt_of_lt_of_le inside tall)
  rw [List.length_take] at within
  congr 1
  apply List.ext_getElem?
  intro i
  rw [getElem?_slice_at, getElem?_slice_at]
  split
  · rw [List.getElem?_take_of_lt (by omega)]
  · rfl

/-- The picture has the bytes of its rows. -/
theorem length_picture_rows (tall : height ≤ layout.frame_height)
    (fits : RowsFit layout width bytes.length) :
    (picture_rows layout width height bytes).length = height * (width * 4) := by
  unfold picture_rows
  rw [length_flatMap_of_length, List.length_range]
  intro y inside
  rw [length_opaque_row, length_slice_at]
  exact picture_row_fits fits (Nat.lt_of_lt_of_le (List.mem_range.mp inside) tall)

end Copy

/-! ## The index -/

/-- Times that rise are the timeline's as they are.
SRC: video_reader.rs:147-148 -/
theorem sample_times_rising {samples : List (Int × Int)}
    (rising : (samples.map Prod.fst).Pairwise (· < ·)) :
    sample_times samples = samples.map Prod.fst := by
  have sorted : ((samples.map Prod.fst).mergeSort fun a b => decide (a ≤ b)) =
      samples.map Prod.fst := by
    apply List.mergeSort_of_pairwise
    exact rising.imp fun less => decide_eq_true (Int.le_of_lt less)
  have distinct : ∀ times : List Int, times.Pairwise (· < ·) → dedup times = times := by
    intro times rising
    induction times with
    | nil => rfl
    | cons a rest ih =>
      cases rest with
      | nil => rfl
      | cons b rest =>
        obtain ⟨below, rising⟩ := List.pairwise_cons.mp rising
        have apart : a ≠ b := Int.ne_of_lt (below b List.mem_cons_self)
        rw [dedup, if_neg apart, ih rising]
  unfold sample_times
  rw [sorted, distinct _ rising]

/-- A timeline has the starts it was made of. -/
theorem starts_of_new {starts : List Duration} {duration : Duration} {timeline : Timeline}
    (made : Timeline.new starts duration = .ok timeline) : timeline.starts = starts := by
  unfold Timeline.new at made
  split at made
  · split at made
    · split at made
      · cases made
        rfl
      · cases made
    · cases made
  · cases made

/-- Where the reader and what it stands for agree, whatever went wrong before. -/
structure Sound (file : Mp4File) (r : Mp4Reader) : Prop where
  width : r.width = file.width
  height : r.height = file.height
  starts : r.timeline.starts =
    file.samples.map fun sample => duration_of_ticks (sample.time - r.origin)
  origin_le : ∀ sample ∈ file.samples, r.origin ≤ sample.time
  pixels : r.pixels.length = file.height * (file.width * 4)
  tall : file.height ≤ r.layout.frame_height
  next_le : r.reader.next ≤ file.samples.length
  ended : r.at_end = true → r.reader.next = file.samples.length

/-- SRC: video_reader.rs:111-192 -/
theorem sound_open_source {file : Mp4File} {r : Mp4Reader}
    (opened : Mp4Reader.open_source file = .ok r) :
    Sound file r ∧ r.decoded = none ∧
      r.layout = decoded_layout r.reader.announced file.width file.height := by
  unfold Mp4Reader.open_source at opened
  dsimp only at opened
  have times : sample_times (file.samples.map fun sample => (sample.time, sample.duration)) =
      file.samples.map DecodedSample.time := by
    rw [sample_times_rising]
    · rw [List.map_map]
      rfl
    · rw [List.map_map]
      exact file.rising
  cases indexed : mp4_timeline (file.samples.map fun sample => (sample.time, sample.duration)) with
  | error error =>
    rw [indexed] at opened
    cases opened
  | ok timeline =>
    rw [indexed] at opened
    cases opened
    unfold mp4_timeline at indexed
    rw [times] at indexed ⊢
    cases first : file.samples with
    | nil =>
      rw [first] at indexed
      cases indexed
    | cons sample rest =>
      rw [first] at indexed
      have starts := starts_of_new indexed
      have rising := file.rising
      rw [first, List.map_cons, List.pairwise_cons] at rising
      refine ⟨⟨rfl, rfl, ?_, ?_, ?_, Nat.le_max_right _ _, Nat.zero_le _, fun ended => ?_⟩, rfl,
        rfl⟩
      · rw [first]
        exact starts.trans List.map_map
      · intro other member
        rw [first] at member
        rcases List.mem_cons.mp member with rfl | member
        · exact Int.le_refl _
        · exact Int.le_of_lt (rising.1 _ (List.mem_map_of_mem member))
      · rw [List.length_replicate, Nat.mul_comm file.width, Nat.mul_assoc]
      · cases ended

/-! ## One read -/

/-- What a read leaves: it fails, finds the end, or decodes the sample that was next. -/
inductive ReadLeaves (file : Mp4File) (answer : ReadAnswer) (r : Mp4Reader) :
    Mp4Reader → Except PlaybackError (Option Nat) → Prop
  | failed {r' : Mp4Reader} {error : PlaybackError} (next : r.reader.next ≤ r'.reader.next)
      (decoded : r'.decoded = r.decoded) (pixels : r'.pixels = r.pixels) :
      ReadLeaves file answer r r' (.error error)
  | ended {r' : Mp4Reader} (next : r.reader.next = file.samples.length)
      (next' : r'.reader.next = file.samples.length)
      (decoded : r'.decoded = r.decoded) (pixels : r'.pixels = r.pixels) :
      ReadLeaves file answer r r' (.ok none)
  | decoded {r' : Mp4Reader} {sample : DecodedSample}
      (found : file.samples[r.reader.next]? = some sample)
      (reader : r'.reader = ⟨r.reader.next + 1, sample.decoded_type⟩)
      (layout : r'.layout = if r.reader.changes file answer then
        decoded_layout sample.decoded_type file.width file.height else r.layout)
      (pixels : r'.pixels = picture_rows r'.layout file.width file.height sample.bytes)
      (decoded : r'.decoded = some r.reader.next) (going_on : r'.at_end = false) :
      ReadLeaves file answer r r' (.ok (some r.reader.next))

/-- Reading a sample goes on to the next. -/
theorem taken_of_some {file : Mp4File} {source : SourceReader} {sample : DecodedSample}
    (found : file.samples[source.next]? = some sample) :
    source.taken file = ⟨source.next + 1, sample.decoded_type⟩ := by
  unfold SourceReader.taken
  rw [found]

/-- Behind the last sample nothing is read. -/
theorem taken_of_none {file : Mp4File} {source : SourceReader}
    (missing : file.samples[source.next]? = none) : source.taken file = source := by
  unfold SourceReader.taken
  rw [missing]

/-- Reading never goes back. -/
theorem next_taken_le (file : Mp4File) (source : SourceReader) :
    source.next ≤ (source.taken file).next := by
  unfold SourceReader.taken
  split
  · exact Nat.le_succ _
  · exact Nat.le_refl _

/-- A sample taken leaves what else the reader stands for as it is. -/
theorem Sound.taken {file : Mp4File} {r : Mp4Reader} (sound : Sound file r)
    (going_on : r.at_end = false) : Sound file { r with reader := r.reader.taken file } := by
  refine { sound with next_le := ?_, ended := ?_ }
  · show (r.reader.taken file).next ≤ file.samples.length
    unfold SourceReader.taken
    split
    · rename_i sample found
      exact List.getElem?_eq_some_iff.mp found |>.1
    · exact sound.next_le
  · intro ended
    have ended : r.at_end = true := ended
    rw [going_on] at ended
    cases ended

/-- The place of a sample on the timeline is its place in the file. -/
theorem Sound.index_at_eq {file : Mp4File} {r : Mp4Reader} (sound : Sound file r) {k : Nat}
    {sample : DecodedSample} (found : file.samples[k]? = some sample) :
    r.timeline.index_at (duration_of_ticks (sample.time - r.origin)) = k := by
  apply index_at_start_eq
  rw [sound.starts, List.getElem?_map, found]
  rfl

/-- SRC: video_reader.rs:237-240 -/
theorem refresh_layout_spec {file : Mp4File} {r : Mp4Reader} (sound : Sound file r)
    (changed : Bool) (answer : ReadAnswer) :
    (∃ error, r.refresh_layout changed answer = (r, .error error)) ∨
      ∃ layout, r.refresh_layout changed answer = ({ r with layout }, .ok ()) ∧
        layout = (if changed then decoded_layout r.reader.announced file.width file.height
          else r.layout) ∧ file.height ≤ layout.frame_height := by
  unfold Mp4Reader.refresh_layout
  cases changed with
  | false => exact .inr ⟨r.layout, rfl, rfl, sound.tall⟩
  | true =>
    cases answer.current_type with
    | some error => exact .inl ⟨_, rfl⟩
    | none =>
      refine .inr ⟨_, rfl, ?_, ?_⟩
      · rw [if_pos rfl, sound.width, sound.height]
      · show file.height ≤ max _ r.height
        rw [sound.height]
        exact Nat.le_max_right _ _

/-- SRC: video_reader.rs:247-271 -/
theorem decode_spec {file : Mp4File} {r : Mp4Reader} (sound : Sound file r) {k : Nat}
    {sample : DecodedSample} (found : file.samples[k]? = some sample) (answer : ReadAnswer) :
    (∃ error, r.decode sample answer = some (r, .error error)) ∨
      ∃ pixels, r.decode sample answer =
          some ({ r with pixels, decoded := some k }, .ok (some k)) ∧
        pixels = picture_rows r.layout file.width file.height sample.bytes ∧
        pixels.length = file.height * (file.width * 4) := by
  unfold Mp4Reader.decode
  cases answer.buffer with
  | error failed => cases failed <;> exact .inl ⟨_, rfl⟩
  | ok length =>
    have copied := @copied_rows_eq r.layout file.width file.height (sample.bytes.take length)
      r.pixels sound.tall file.height_pos sound.pixels
    rw [sound.width, sound.height]
    dsimp only
    rcases copied with ⟨fits, copied⟩ | ⟨error, copied⟩
    · right
      refine ⟨_, ?_, picture_rows_take sound.tall fits, length_picture_rows sound.tall fits⟩
      rw [copied, Option.bind_eq_bind, Option.bind_some, sound.index_at_eq found]
    · rw [copied]
      exact .inl ⟨_, rfl⟩

/-- **One read**, on whatever answers.
SRC: video_reader.rs:216-274 -/
theorem read_next_spec {file : Mp4File} {r : Mp4Reader} (sound : Sound file r)
    (answer : ReadAnswer) :
    ∃ r' out, r.read_next file answer = some (r', out) ∧ Sound file r' ∧
      ReadLeaves file answer r r' out := by
  unfold Mp4Reader.read_next
  by_cases ended : r.at_end = true
  · exact ⟨r, _, if_pos ended, sound, .ended (sound.ended ended) (sound.ended ended) rfl rfl⟩
  have going_on := Bool.eq_false_iff.mpr ended
  rw [if_neg ended]
  dsimp only
  have after := sound.taken going_on
  cases answer.read_sample with
  | some failed =>
    obtain ⟨error, took⟩ := failed
    cases took with
    | true => exact ⟨_, _, rfl, after, .failed (next_taken_le file r.reader) rfl rfl⟩
    | false => exact ⟨_, _, rfl, sound, .failed (Nat.le_refl _) rfl rfl⟩
  | none =>
    dsimp only
    rcases refresh_layout_spec after (r.reader.changes file answer) answer with
      ⟨error, refreshed⟩ | ⟨layout, refreshed, layout_eq, tall⟩
    · rw [refreshed]
      exact ⟨_, _, rfl, after, .failed (next_taken_le file r.reader) rfl rfl⟩
    · rw [refreshed]
      dsimp only
      have relaid : Sound file { r with reader := r.reader.taken file, layout } :=
        { after with tall }
      cases found : file.samples[r.reader.next]? with
      | none =>
        have last : r.reader.next = file.samples.length :=
          Nat.le_antisymm sound.next_le (List.getElem?_eq_none_iff.mp found)
        have next : (r.reader.taken file).next = file.samples.length := by
          rw [taken_of_none found]
          exact last
        exact ⟨_, _, rfl, { relaid with ended := fun _ => next }, .ended last next rfl rfl⟩
      | some sample =>
        dsimp only
        rcases decode_spec relaid found answer with
          ⟨error, decoded⟩ | ⟨pixels, decoded, pixels_eq, length⟩
        · rw [decoded]
          exact ⟨_, _, rfl, relaid, .failed (next_taken_le file r.reader) rfl rfl⟩
        · rw [decoded]
          refine ⟨_, _, rfl, { relaid with pixels := length }, ?_⟩
          have reader := taken_of_some found
          refine .decoded found reader ?_ pixels_eq rfl going_on
          rw [reader] at layout_eq
          exact layout_eq

/-! ## One call -/

/-- What the reader holds is the picture of the frame it says it decoded last. -/
def Remembers (file : Mp4File) (r : Mp4Reader) : Prop :=
  ∀ j, r.decoded = some j → j < r.reader.next ∧
    ∃ sample, file.samples[j]? = some sample ∧ r.pixels = picture file sample

/-- Rows are copied by the layout of the type announced last. -/
def LaidOut (file : Mp4File) (r : Mp4Reader) : Prop :=
  r.layout = decoded_layout r.reader.announced file.width file.height

/-- Reading on from here comes to the frame, and the rows of the next sample are copied by its
own layout. -/
structure Behind (file : Mp4File) (index : Nat) (answers : Nat → ReadAnswer) (r : Mp4Reader) :
    Prop where
  before : ∀ j, r.decoded = some j → j < index
  next_le : r.reader.next ≤ index
  going_on : r.at_end = false
  laid_out : LaidOut file r ∨ r.reader.changes file (answers r.reader.next) = true

/-- A reader that has read on still remembers its last picture. -/
theorem remembers_of_same {file : Mp4File} {r r' : Mp4Reader} (remembers : Remembers file r)
    (next : r.reader.next ≤ r'.reader.next) (decoded : r'.decoded = r.decoded)
    (pixels : r'.pixels = r.pixels) : Remembers file r' := by
  intro j found
  rw [decoded] at found
  obtain ⟨before, sample, held, same⟩ := remembers j found
  exact ⟨Nat.lt_of_lt_of_le before next, sample, held, pixels.trans same⟩

/-- The layout a sample is copied by, where the reader was behind, is its own. -/
theorem layout_of_behind {file : Mp4File} {index : Nat} {answers : Nat → ReadAnswer}
    {r : Mp4Reader} (behind : Behind file index answers r) {sample : DecodedSample}
    (found : file.samples[r.reader.next]? = some sample) :
    (if r.reader.changes file (answers r.reader.next) then
        decoded_layout sample.decoded_type file.width file.height else r.layout) =
      decoded_layout sample.decoded_type file.width file.height := by
  split
  · rfl
  · rename_i unchanged
    rcases behind.laid_out with fresh | changed
    · have same : sample.decoded_type = r.reader.announced := by
        unfold SourceReader.changes at unchanged
        rw [taken_of_some found] at unchanged
        simp only [Bool.or_eq_true, decide_eq_true_eq, not_or, Decidable.not_not] at unchanged
        exact unchanged.2
      rw [same]
      exact fresh
    · exact absurd changed unchanged

/-- **Reading until the frame** ends after as many reads as there are samples left and one. -/
theorem read_until_spec {file : Mp4File} {index : Nat} {answers : Nat → ReadAnswer} {fuel : Nat}
    {r : Mp4Reader} (sound : Sound file r) (enough : file.samples.length - r.reader.next < fuel) :
    ∃ r' out, Mp4Reader.read_until file index answers fuel r = some (r', out) ∧ Sound file r' ∧
      (Remembers file r → (r.decoded = some index ∨ Behind file index answers r) →
        index < file.samples.length →
        Remembers file r' ∧ (out = .ok () → r'.decoded = some index)) := by
  induction fuel generalizing r with
  | zero => omega
  | succ fuel ih =>
    unfold Mp4Reader.read_until
    by_cases wanted : (r.decoded.all fun current => decide (current < index)) = true
    · rw [if_pos wanted]
      obtain ⟨r₁, out, read, sound₁, leaves⟩ := read_next_spec sound (answers r.reader.next)
      dsimp only
      rw [read]
      have behind_of (at_frame : r.decoded = some index ∨ Behind file index answers r) :
          Behind file index answers r := by
        rcases at_frame with same | behind
        · rw [same] at wanted
          exact absurd (of_decide_eq_true wanted) (Nat.lt_irrefl index)
        · exact behind
      cases leaves with
      | failed next decoded pixels =>
        refine ⟨r₁, _, rfl, sound₁, fun remembers _ _ => ?_⟩
        exact ⟨remembers_of_same remembers next decoded pixels, fun ok => by cases ok⟩
      | ended next next' decoded pixels =>
        refine ⟨r₁, _, rfl, sound₁, fun _ at_frame in_range => ?_⟩
        have before := (behind_of at_frame).next_le
        omega
      | @decoded sample found reader layout pixels decoded going_on =>
        have next : r₁.reader.next = r.reader.next + 1 := by rw [reader]
        have next_le := sound₁.next_le
        obtain ⟨r₂, out, rest, sound₂, kept⟩ := ih sound₁ (by omega)
        refine ⟨r₂, out, rest, sound₂, fun _ at_frame in_range => ?_⟩
        have behind := behind_of at_frame
        rw [layout_of_behind behind found] at layout
        apply kept ?_ ?_ in_range
        · intro j same
          rw [decoded] at same
          cases same
          refine ⟨by omega, sample, found, ?_⟩
          rw [pixels, layout]
          rfl
        · by_cases last : r.reader.next = index
          · rw [decoded, last]
            exact .inl rfl
          · right
            have before := behind.next_le
            refine ⟨fun j same => ?_, by omega, going_on, .inl ?_⟩
            · rw [decoded] at same
              cases same
              omega
            · unfold LaidOut
              rw [layout, reader]
    · rw [if_neg wanted]
      refine ⟨r, _, rfl, sound, ?_⟩
      rintro remembers (same | behind) in_range
      · exact ⟨remembers, fun _ => same⟩
      · exfalso
        apply wanted
        rw [Option.all_eq_true]
        intro j found
        exact decide_eq_true (behind.before j found)

/-- A count of ticks comes back from the duration it makes, unless it is past the last of
`i64`. -/
theorem ticks_duration_le {count : Int} (nonneg : 0 ≤ count) :
    ticks (duration_of_ticks count) ≤ count := by
  have back : duration_of_ticks count * TICKS_PER_SECOND / 1000000000 = count.toNat := by
    show count.toNat * 100 * 10000000 / 1000000000 = count.toNat
    omega
  unfold ticks
  dsimp only
  rw [back]
  split
  · exact Int.le_of_eq (Int.toNat_of_nonneg nonneg)
  · rename_i past
    have past : ¬ count.toNat ≤ 9223372036854775807 := past
    omega

/-- Of two samples, the one that is not later comes first. -/
theorem place_le {file : Mp4File} {i j : Nat} {first second : DecodedSample}
    (found : file.samples[i]? = some first) (found' : file.samples[j]? = some second)
    (not_later : first.time ≤ second.time) : i ≤ j := by
  obtain ⟨i_lt, rfl⟩ := List.getElem?_eq_some_iff.mp found
  obtain ⟨j_lt, rfl⟩ := List.getElem?_eq_some_iff.mp found'
  by_contra after
  have rising := List.pairwise_iff_getElem.mp file.rising j i (by rwa [List.length_map])
    (by rwa [List.length_map]) (by omega)
  rw [List.getElem_map, List.getElem_map] at rising
  omega

/-- What a call answers, with what the source reader did in it. -/
structure FrameCall where
  index : Nat
  answers : FrameAnswers
  result : Except PlaybackError (List Byte)

/-- A seek goes to some sample at or before the time it asks for. -/
def SeeksBack (file : Mp4File) (r : Mp4Reader) (index : Nat) (answers : FrameAnswers) : Prop :=
  ∀ next, answers.seek = .ok next → ∃ position sample, r.seek_position index = some position ∧
    file.samples[next]? = some sample ∧ sample.time ≤ position

/-- A call of `frame`. -/
structure FrameCalled (file : Mp4File) (r : Mp4Reader) (call : FrameCall) (r' : Mp4Reader) :
    Prop where
  seeks_back : SeeksBack file r call.index call.answers
  called : r.frame file call.index call.answers = some (r', call.result)

/-- The sample a call reads first, if it reads at all, and if it does not fail to seek. -/
def first_read (r : Mp4Reader) (index : Nat) (answers : FrameAnswers) : Option SourceReader :=
  if r.decoded = some index then none
  else if r.reads_on index then some r.reader
  else answers.seek.toOption.map fun next => { r.reader with next }

/-- What a call needs to find: the samples up to the frame still to be read, and the layout that
of the type announced last, if the first read does not announce it. -/
def InStep (file : Mp4File) (r : Mp4Reader) (index : Nat) (answers : FrameAnswers) : Prop :=
  ∀ source, first_read r index answers = some source → source.next ≤ index ∧
    (LaidOut file r ∨ source.changes file (answers.reads source.next) = true)

/-- Seeking back goes to a sample no later than the one asked for. -/
theorem SeeksBack.next_le {file : Mp4File} {r : Mp4Reader} (sound : Sound file r) {index : Nat}
    {answers : FrameAnswers} (seeks_back : SeeksBack file r index answers) {next : Nat}
    (sought : answers.seek = .ok next) : next ≤ index ∧ next ≤ file.samples.length := by
  obtain ⟨position, sample, position_eq, found, not_later⟩ := seeks_back next sought
  unfold Mp4Reader.seek_position Timeline.start at position_eq
  rw [sound.starts, List.getElem?_map] at position_eq
  cases wanted : file.samples[index]? with
  | none =>
    rw [wanted] at position_eq
    cases position_eq
  | some target =>
    rw [wanted] at position_eq
    cases position_eq
    have earlier := sound.origin_le target (List.mem_of_getElem? wanted)
    have back := ticks_duration_le (Int.sub_nonneg_of_le earlier)
    constructor
    · apply place_le found wanted
      have not_later : sample.time ≤
          r.origin + ticks (duration_of_ticks (target.time - r.origin)) := not_later
      omega
    · exact Nat.le_of_lt (List.getElem?_eq_some_iff.mp found).1

/-- **The loop of a call**, from where it starts.
SRC: video_reader.rs:296-301 -/
theorem read_frame_spec {file : Mp4File} {r : Mp4Reader} (sound : Sound file r) {index : Nat}
    (in_range : index < file.samples.length) (answers : Nat → ReadAnswer) :
    ∃ r' result, r.read_frame file index answers = some (r', result) ∧ Sound file r' ∧
      (Remembers file r → (r.decoded = some index ∨ Behind file index answers r) →
        Remembers file r' ∧ ∀ pixels, result = .ok pixels →
          ∃ sample, file.samples[index]? = some sample ∧ pixels = picture file sample) := by
  have enough : file.samples.length - r.reader.next < file.samples.length + 1 := by omega
  obtain ⟨r', out, read, sound', kept⟩ := read_until_spec sound enough
  unfold Mp4Reader.read_frame
  rw [read]
  cases out with
  | error error =>
    refine ⟨r', _, rfl, sound', fun remembers at_frame => ?_⟩
    exact ⟨(kept remembers at_frame in_range).1, fun pixels ok => by cases ok⟩
  | ok done =>
    refine ⟨r', _, rfl, sound', fun remembers at_frame => ?_⟩
    obtain ⟨remembers', decoded⟩ := kept remembers at_frame in_range
    refine ⟨remembers', ?_⟩
    rintro pixels ⟨⟩
    exact (remembers' index (decoded rfl)).2

/-- **One call**: it comes back, whatever goes wrong; and in step, with the frame asked for.
SRC: video_reader.rs:285-302 -/
theorem frame_spec {file : Mp4File} {r : Mp4Reader} (sound : Sound file r) {index : Nat}
    {answers : FrameAnswers} (seeks_back : SeeksBack file r index answers) :
    ∃ r' result, r.frame file index answers = some (r', result) ∧ Sound file r' ∧
      (Remembers file r → InStep file r index answers → Remembers file r' ∧
        ∀ pixels, result = .ok pixels → ∃ sample, file.samples[index]? = some sample ∧
          pixels = picture file sample) := by
  unfold Mp4Reader.frame
  by_cases past : index ≥ r.timeline.starts.length
  · rw [if_pos past]
    exact ⟨r, _, rfl, sound, fun remembers _ => ⟨remembers, fun pixels ok => by cases ok⟩⟩
  rw [if_neg past]
  have in_range : index < file.samples.length := by
    rw [sound.starts, List.length_map] at past
    omega
  by_cases jumps : r.decoded ≠ some index ∧ ¬ r.reads_on index
  · rw [if_pos jumps]
    unfold Mp4Reader.seek
    cases sought : answers.seek with
    | error error =>
      exact ⟨r, _, rfl, sound, fun remembers _ => ⟨remembers, fun pixels ok => by cases ok⟩⟩
    | ok next =>
      obtain ⟨next_le, next_le'⟩ := seeks_back.next_le sound sought
      have sound₁ : Sound file
          { r with reader := { r.reader with next }, decoded := none, at_end := false } :=
        { sound with next_le := next_le', ended := fun ended => by cases ended }
      obtain ⟨r', result, read, sound', kept⟩ := read_frame_spec sound₁ in_range answers.reads
      refine ⟨r', result, read, sound', fun _ in_step => kept (fun j found => by cases found) ?_⟩
      have first : first_read r index answers = some { r.reader with next } := by
        unfold first_read
        rw [if_neg jumps.1, if_neg jumps.2, sought]
        rfl
      exact .inr ⟨fun j found => (by cases found), next_le, rfl, (in_step _ first).2⟩
  · rw [if_neg jumps]
    obtain ⟨r', result, read, sound', kept⟩ := read_frame_spec sound in_range answers.reads
    refine ⟨r', result, read, sound', fun remembers in_step => kept remembers ?_⟩
    by_cases same : r.decoded = some index
    · exact .inl same
    · right
      have reads_on : r.reads_on index = true := by
        by_contra not_on
        exact jumps ⟨same, not_on⟩
      have first : first_read r index answers = some r.reader := by
        unfold first_read
        rw [if_neg same, if_pos reads_on]
      obtain ⟨next_le, laid_out⟩ := in_step _ first
      refine ⟨fun j found => ?_, next_le, ?_, laid_out⟩
      · unfold Mp4Reader.reads_on at reads_on
        rw [found] at reads_on
        simp only [Option.any_some, Bool.and_eq_true, decide_eq_true_eq] at reads_on
        exact reads_on.1
      · by_contra ended
        have last := sound.ended (Bool.eq_true_of_not_eq_false ended)
        omega

/-! ## Runs -/

/-- In every run the reader's position and its picture belong together. -/
theorem sound_of_run {file : Mp4File} {start r : Mp4Reader}
    {steps : List (Taken Mp4Reader FrameCall)} (opened : Mp4Reader.open_source file = .ok start)
    (run : Run (FrameCalled file) start steps r) : Sound file r := by
  apply run.inv ?_ (sound_open_source opened).1
  intro r call r' sound called
  obtain ⟨r₁, result, frame_eq, sound₁, -⟩ := frame_spec sound called.seeks_back
  have same := frame_eq.symm.trans called.called
  cases same
  exact sound₁

/-- **Playing an MP4 back**: in every run of calls on an opened file, every call comes back; and
where the calls are all in step, each that comes back with pixels comes back with those of the
frame asked for.
SRC: video_reader.rs:111-302 -/
theorem mp4_frames_right {file : Mp4File} {start r : Mp4Reader}
    {steps : List (Taken Mp4Reader FrameCall)}
    (opened : Mp4Reader.open_source file = .ok start)
    (run : Run (FrameCalled file) start steps r) :
    (∀ index answers, SeeksBack file r index answers →
      ∃ r' result, r.frame file index answers = some (r', result)) ∧
    ((∀ t ∈ steps, InStep file t.before t.event.index t.event.answers) →
      ∀ t ∈ steps, ∀ pixels, t.event.result = .ok pixels →
        ∃ sample, file.samples[t.event.index]? = some sample ∧ pixels = picture file sample) := by
  constructor
  · intro index answers seeks_back
    obtain ⟨r', result, frame_eq, -, -⟩ := frame_spec (sound_of_run opened run) seeks_back
    exact ⟨r', result, frame_eq⟩
  · intro in_step
    suffices kept : Remembers file r ∧ ∀ t ∈ steps, ∀ pixels, t.event.result = .ok pixels →
        ∃ sample, file.samples[t.event.index]? = some sample ∧ pixels = picture file sample from
      kept.2
    induction run with
    | nil =>
      refine ⟨fun j found => ?_, fun t member => by cases member⟩
      rw [(sound_open_source opened).2.1] at found
      cases found
    | @snoc steps r r' call run called ih =>
      rw [List.forall_mem_append, List.forall_mem_singleton] at in_step
      obtain ⟨remembers, right⟩ := ih in_step.1
      obtain ⟨r₁, result, frame_eq, -, kept⟩ :=
        frame_spec (sound_of_run opened run) called.seeks_back
      have same := frame_eq.symm.trans called.called
      cases same
      obtain ⟨remembers', right'⟩ := kept remembers in_step.2
      refine ⟨remembers', ?_⟩
      rw [List.forall_mem_append, List.forall_mem_singleton]
      exact ⟨right, right'⟩

/-! ## A file of three frames -/

/-- A sample of one pixel, at this second. -/
def one_pixel_sample (second : Int) (blue : Byte) : DecodedSample :=
  ⟨second * 10000000, 10000000, ⟨some 1, some 4⟩, [blue, 0, 0, 0]⟩

/-- Three frames of one pixel, a second each. -/
def three_frames : Mp4File where
  width := 1
  height := 1
  first_type := ⟨some 1, some 4⟩
  samples := [one_pixel_sample 0 10, one_pixel_sample 1 11, one_pixel_sample 2 12]
  height_pos := Nat.one_pos
  rising := by decide

/-- The reader of them, opened. -/
def three_frames_reader : Mp4Reader where
  reader := ⟨0, ⟨some 1, some 4⟩⟩
  layout := ⟨1, 4⟩
  width := 1
  height := 1
  timeline := ⟨[0, 1000000000, 2000000000], 3000000000, rfl, rfl, by
    rintro last ⟨⟩
    decide⟩
  origin := 0
  pixels := [0, 0, 0, 0]
  decoded := none
  at_end := false

/-- The example's file can be opened. -/
theorem three_frames_opened :
    Mp4Reader.open_source three_frames = .ok three_frames_reader := by
  unfold Mp4Reader.open_source mp4_timeline
  dsimp only
  rw [sample_times_rising (by decide)]
  rfl

/-- What a call answers whose reads all work, after a seek to the start. -/
def from_start : FrameAnswers := ⟨.ok 0, fun _ => .quiet⟩

/-- The sample at this place is taken, and its buffer cannot be locked. -/
def unlocked_at (place : Nat) : FrameAnswers :=
  ⟨.ok 0, fun next =>
    if next = place then { ReadAnswer.quiet with buffer := .error (.lock "lock") } else .quiet⟩

/-- The reader once so many samples are taken and this frame's pixel is decoded. -/
def three_frames_at (next : Nat) (decoded : Nat) (blue : Byte) : Mp4Reader :=
  { three_frames_reader with
    reader := ⟨next, ⟨some 1, some 4⟩⟩, decoded := some decoded, pixels := [blue, 0, 0, 255] }

/-- The first frame, then the second. -/
theorem two_calls_run : Run (FrameCalled three_frames) three_frames_reader
    ([⟨three_frames_reader, ⟨0, from_start, .ok [10, 0, 0, 255]⟩, three_frames_at 1 0 10⟩] ++
      [⟨three_frames_at 1 0 10, ⟨1, from_start, .ok [11, 0, 0, 255]⟩, three_frames_at 2 1 11⟩])
    (three_frames_at 2 1 11) := by
  refine .snoc (.snoc .nil ⟨?_, rfl⟩) ⟨?_, rfl⟩
  · rintro next ⟨⟩
    exact ⟨_, _, rfl, rfl, by decide⟩
  · rintro next ⟨⟩
    exact ⟨_, _, rfl, rfl, by decide⟩

/-- The second of them comes back with the second frame. -/
theorem second_frame_right :
    ∃ sample, three_frames.samples[1]? = some sample ∧
      [11, 0, 0, 255] = picture three_frames sample := by
  refine (mp4_frames_right three_frames_opened two_calls_run).2 ?_
    ⟨three_frames_at 1 0 10, ⟨1, from_start, .ok [11, 0, 0, 255]⟩, three_frames_at 2 1 11⟩
    (by simp) _ rfl
  intro t member
  rcases List.mem_pair.mp member with rfl | rfl
  · rintro source ⟨⟩
    exact ⟨Nat.zero_le _, .inl rfl⟩
  · rintro source ⟨⟩
    exact ⟨Nat.le_refl _, .inl rfl⟩

/-- The first frame; the second, whose buffer cannot be locked; the second again, which comes
back with the third. -/
theorem third_frame_for_second :
    ¬ ∀ (file : Mp4File) (start r : Mp4Reader) (steps : List (Taken Mp4Reader FrameCall)),
      Mp4Reader.open_source file = .ok start → Run (FrameCalled file) start steps r →
        ∀ t ∈ steps, ∀ pixels, t.event.result = .ok pixels →
          ∃ sample, file.samples[t.event.index]? = some sample ∧ pixels = picture file sample := by
  intro right
  have run : Run (FrameCalled three_frames) three_frames_reader
      (([⟨three_frames_reader, ⟨0, from_start, .ok [10, 0, 0, 255]⟩, three_frames_at 1 0 10⟩] ++
        [⟨three_frames_at 1 0 10, ⟨1, unlocked_at 1,
          .error (Mp4Reader.failure "locking a decoded frame" "lock")⟩, three_frames_at 2 0 10⟩]) ++
        [⟨three_frames_at 2 0 10, ⟨1, from_start, .ok [12, 0, 0, 255]⟩, three_frames_at 3 2 12⟩])
      (three_frames_at 3 2 12) := by
    refine .snoc (.snoc (.snoc .nil ⟨?_, rfl⟩) ⟨?_, rfl⟩) ⟨?_, rfl⟩
    all_goals
      rintro next ⟨⟩
      exact ⟨_, _, rfl, rfl, by decide⟩
  obtain ⟨sample, found, same⟩ := right _ _ _ _ three_frames_opened run
    ⟨three_frames_at 2 0 10, ⟨1, from_start, .ok [12, 0, 0, 255]⟩, three_frames_at 3 2 12⟩
    (by simp) _ rfl
  cases found
  revert same
  decide

end Captastic.Analysis
