import Captastic.Library.Places
import Captastic.Library.Runs
import Captastic.Model.Logging
import Mathlib.Order.Interval.Finset.Nat

/-!
# What a rotation of the log loses

`rotate_archives` shifts the archives (`rotate_archives_spec`), so a log that is archived is lost
only when another one was to take the last place; whether as many newer ones are archived then is
`drops_only_old_iff`.  A line is followed from the log that is rotated for it to the log that it
is added to (`prepared_spec`), and over whole runs of lines in `log_rotation_keeps`.
-/

set_option autoImplicit false

namespace Captastic.Analysis

open Captastic.Library Captastic.Model

/-! ## The archives, shifted -/

section Shift

variable {faults : RotationFaults} {n : Nat} {at_path : Nat → Option LogFile}

/-- A step of the rotation that fails, with a file to move from this place. -/
def StepFails (faults : RotationFaults) (n : Nat) (at_path : Nat → Option LogFile) (d : Nat) :
    Prop :=
  (at_path d).isSome = true ∧ (faults.rename (d + 1) = true ∨
    d + 1 = n ∧ (at_path n).isSome = true ∧ faults.remove n = true)

/-- What a rotation of the archives leaves: all of them shifted, or those past the place where a
step failed; the last archive is gone once a file was to come in its place, and its removal did
not fail. -/
inductive ArchivesRotated (faults : RotationFaults) (n : Nat) (at_path : Nat → Option LogFile) :
    (Nat → Option LogFile) → Bool → Prop
  | all (works : ∀ d < n, ¬ StepFails faults n at_path d) :
      ArchivesRotated faults n at_path (shifted_places n 0 at_path) true
  | stopped {d : Nat} (d_lt : d + 1 < n) (fails : StepFails faults n at_path d)
      (works : ∀ e, d < e → e < n → ¬ StepFails faults n at_path e) :
      ArchivesRotated faults n at_path (shifted_places n (d + 1) at_path) false
  | kept (pos : 0 < n) (fails : StepFails faults n at_path (n - 1))
      (left : (at_path n).isSome = true → faults.remove n = true) :
      ArchivesRotated faults n at_path at_path false
  | removed (pos : 0 < n) (fails : StepFails faults n at_path (n - 1))
      (left : faults.remove n = false) :
      ArchivesRotated faults n at_path (Function.update at_path n none) false

/-- SRC: logging.rs:212-229 -/
theorem rotate_archives_spec (faults : RotationFaults) (n : Nat)
    (at_path : Nat → Option LogFile) :
    ArchivesRotated faults n at_path (rotate_archives faults n at_path).1
      (rotate_archives faults n at_path).2 := by
  have go : ∀ d ≤ n, (∀ e, d ≤ e → e < n → ¬ StepFails faults n at_path e) →
      ArchivesRotated faults n at_path (rotate_archives faults d (shifted_places n d at_path)).1
        (rotate_archives faults d (shifted_places n d at_path)).2 := by
    intro d d_le works
    induction d with
    | zero => exact .all fun e e_lt => works e (Nat.zero_le e) e_lt
    | succ d ih =>
      have here : shifted_places n (d + 1) at_path d = at_path d :=
        shifted_before (Nat.lt_succ_self d)
      have earlier (still : ¬ StepFails faults n at_path d) :
          ∀ e, d ≤ e → e < n → ¬ StepFails faults n at_path e := by
        intro e d_le_e e_lt
        rcases Nat.eq_or_lt_of_le d_le_e with rfl | past
        · exact still
        · exact works e past e_lt
      unfold rotate_archives
      rw [here]
      cases found : at_path d with
      | none =>
        dsimp only
        rw [shifted_skip d_le found]
        apply ih (by omega)
        apply earlier
        rintro ⟨some_here, -⟩
        rw [found] at some_here
        cases some_here
      | some source =>
        have held : (at_path d).isSome = true := by rw [found]; rfl
        have moved := shifted_move d_le found
        dsimp only
        by_cases last : d + 1 = n
        · subst last
          rw [shifted_last] at *
          cases last_found : at_path (d + 1) with
          | none =>
            have same : Function.update at_path (d + 1) none = at_path := by
              rw [← last_found, Function.update_eq_self]
            rw [if_neg (by simp)]
            by_cases stuck : faults.rename (d + 1) = true
            · rw [if_pos stuck, same]
              refine .kept (Nat.succ_pos d) ⟨held, .inl stuck⟩ fun some_last => ?_
              rw [last_found] at some_last
              cases some_last
            · rw [if_neg stuck, moved]
              apply ih (by omega)
              apply earlier
              rintro ⟨-, renamed | ⟨-, some_last, -⟩⟩
              · exact stuck renamed
              · rw [last_found] at some_last
                cases some_last
          | some oldest =>
            have some_last : (at_path (d + 1)).isSome = true := by rw [last_found]; rfl
            by_cases blocked : faults.remove (d + 1) = true
            · rw [if_pos (by simpa using blocked)]
              exact .kept (Nat.succ_pos d) ⟨held, .inr ⟨rfl, some_last, blocked⟩⟩ fun _ => blocked
            · rw [if_neg (by simpa using blocked)]
              by_cases stuck : faults.rename (d + 1) = true
              · rw [if_pos stuck]
                exact .removed (Nat.succ_pos d) ⟨held, .inl stuck⟩ (by simpa using blocked)
              · rw [if_neg stuck, moved]
                apply ih (by omega)
                apply earlier
                rintro ⟨-, renamed | ⟨-, -, removed⟩⟩
                · exact stuck renamed
                · exact blocked removed
        · have there : shifted_places n (d + 1) at_path (d + 1) = none := shifted_here (by omega)
          rw [there]
          have same : Function.update (shifted_places n (d + 1) at_path) (d + 1) none =
              shifted_places n (d + 1) at_path := by
            rw [← there, Function.update_eq_self]
          rw [if_neg (by simp)]
          by_cases stuck : faults.rename (d + 1) = true
          · rw [if_pos stuck, same]
            exact .stopped (by omega) ⟨held, .inl stuck⟩ works
          · rw [if_neg stuck, moved]
            apply ih (by omega)
            apply earlier
            rintro ⟨-, renamed | ⟨at_last, -, -⟩⟩
            · exact stuck renamed
            · exact last at_last
  have start := go n (Nat.le_refl n) fun e n_le e_lt => by omega
  rwa [shifted_last] at start

end Shift

/-! ## The logs that are kept -/

/-- An archived log. -/
def Archived (at_path : Nat → Option LogFile) (log : LogFile) : Prop :=
  ∃ place, 1 ≤ place ∧ at_path place = some log

/-- As many newer logs are archived as are to be retained. -/
def NewerRetained (n : Nat) (at_path : Nat → Option LogFile) (log : LogFile) : Prop :=
  ∃ newer : Finset LogFile, n ≤ newer.card ∧
    ∀ other ∈ newer, log.made < other.made ∧ Archived at_path other

/-- An archived log is deleted only when as many newer ones are archived afterwards as are to be
retained. -/
def DropsOnlyOld (n : Nat) (before after : Nat → Option LogFile) : Prop :=
  ∀ log, Archived before log → Archived after log ∨ NewerRetained n after log

/-- The archives that are left are in the order they were in. -/
def KeepsOrder (before after : Nat → Option LogFile) : Prop :=
  ∀ i j i' j' a b, 1 ≤ i → i < j → before i = some a → before j = some b →
    1 ≤ i' → 1 ≤ j' → after i' = some a → after j' = some b → i' < j'

/-- What is in the log is in the log or an archive afterwards. -/
def KeepsContents (before after : Nat → Option LogFile) : Prop :=
  ∀ log, before 0 = some log →
    ∃ place later, after place = some later ∧ later.made = log.made ∧ log.bytes <+: later.bytes

/-- The condition: where the last archive is to make room and is removed, there is a file at every
place before it and none of them fails to be renamed. -/
def ShiftsAll (faults : RotationFaults) (n : Nat) (at_path : Nat → Option LogFile) : Prop :=
  (at_path n).isSome = true → (at_path (n - 1)).isSome = true → faults.remove n = false →
    ∀ place < n, (at_path place).isSome = true ∧ faults.rename (place + 1) = false

section Retention

variable {faults : RotationFaults} {n : Nat} {at_path after : Nat → Option LogFile} {ok : Bool}

/-- The places once they are rotated hold what they held, in the same order. -/
theorem ArchivesRotated.descending (rotated : ArchivesRotated faults n at_path after ok)
    (descending : Descending LogFile.made at_path) : Descending LogFile.made after := by
  cases rotated with
  | all works => exact descending.shifted (Nat.zero_le n)
  | stopped d_lt fails works => exact descending.shifted (Nat.le_of_lt d_lt)
  | kept pos fails left => exact descending
  | removed pos fails left => exact descending.cleared n

/-- A file that is there after the rotation was there before. -/
theorem ArchivesRotated.found (rotated : ArchivesRotated faults n at_path after ok) {place : Nat}
    {log : LogFile} (found : after place = some log) :
    ∃ earlier, at_path earlier = some log := by
  have of_shifted {d : Nat} (d_le : d ≤ n) (found : shifted_places n d at_path place = some log) :
      ∃ earlier, at_path earlier = some log := by
    rcases shifted_some d_le found with ⟨here, -⟩ | ⟨before, -⟩
    · exact ⟨place, here⟩
    · exact ⟨place - 1, before⟩
  cases rotated with
  | all works => exact of_shifted (Nat.zero_le n) found
  | stopped d_lt fails works => exact of_shifted (Nat.le_of_lt d_lt) found
  | kept pos fails left => exact ⟨place, found⟩
  | removed pos fails left =>
    by_cases last : place = n
    · subst last
      rw [Function.update_self] at found
      cases found
    · rw [Function.update_of_ne last] at found
      exact ⟨place, found⟩

/-- A log that is not at the last place is still there after a shift. -/
theorem shifted_keeps {d : Nat} (d_le : d ≤ n) {place : Nat} {log : LogFile}
    (found : at_path place = some log) (not_last : place ≠ n) :
    ∃ later, place ≤ later ∧ shifted_places n d at_path later = some log := by
  have held : (at_path place).isSome = true := by rw [found]; rfl
  by_cases before : place < d
  · exact ⟨place, Nat.le_refl _, by rw [shifted_before before, found]⟩
  · by_cases past : n < place
    · exact ⟨place, Nat.le_refl _, by rw [shifted_past d_le past, found]⟩
    · refine ⟨place + 1, Nat.le_succ _, ?_⟩
      rw [shifted_next (by omega) (by omega) held, found]

/-- The log at the last place is gone once another one was to come there. -/
theorem shifted_drops (descending : Descending LogFile.made at_path) {d : Nat} (d_lt : d < n)
    {oldest : LogFile} (found : at_path n = some oldest)
    (source : (at_path (n - 1)).isSome = true) (place : Nat) :
    shifted_places n d at_path place ≠ some oldest := by
  intro there
  rcases shifted_some (Nat.le_of_lt d_lt) there with ⟨here, -, missing⟩ | ⟨before, -, place_le⟩
  · have same := descending.same_place here found
    rw [missing same d_lt] at source
    cases source
  · have same := descending.same_place before found
    omega

/-- Fewer logs are archived than are to be retained once one of the places has none. -/
theorem too_few_newer {oldest : LogFile} {gap : Nat} (gap_pos : 1 ≤ gap) (gap_le : gap ≤ n)
    (missing : after gap = none)
    (older : ∀ place log, n < place → after place = some log → log.made ≤ oldest.made) :
    ¬ NewerRetained n after oldest := by
  rintro ⟨newer, enough, archived⟩
  have placed : ∀ log ∈ newer, ∃ place ∈ (Finset.Icc 1 n).erase gap, after place = some log := by
    intro log member
    obtain ⟨newer_made, place, place_pos, found⟩ := archived log member
    have not_gap : place ≠ gap := by
      rintro rfl
      rw [missing] at found
      cases found
    have place_le : place ≤ n := by
      apply Nat.le_of_not_lt
      intro past
      have made_le := older place log past found
      omega
    exact ⟨place, Finset.mem_erase.mpr ⟨not_gap, Finset.mem_Icc.mpr ⟨place_pos, place_le⟩⟩, found⟩
  have at_most := card_le_places placed
  rw [Finset.card_erase_of_mem (Finset.mem_Icc.mpr ⟨gap_pos, gap_le⟩), Nat.card_Icc] at at_most
  omega

/-- The last archive that made room was removed. -/
theorem removable_of_works (pos : 0 < n) (last : (at_path n).isSome = true)
    (source : (at_path (n - 1)).isSome = true) (works : ¬ StepFails faults n at_path (n - 1)) :
    faults.remove n = false := by
  cases blocked : faults.remove n with
  | false => rfl
  | true => exact absurd ⟨source, .inr ⟨Nat.sub_add_cancel pos, last, blocked⟩⟩ works

/-- Whether a rotation of the archives deletes only what need not be retained.
SRC: logging.rs:212-229 -/
theorem drops_only_old_iff (descending : Descending LogFile.made at_path) (pos : 0 < n) :
    DropsOnlyOld n at_path (rotate_archives faults n at_path).1 ↔ ShiftsAll faults n at_path := by
  have rotated := rotate_archives_spec faults n at_path
  revert rotated
  generalize (rotate_archives faults n at_path).1 = after
  generalize (rotate_archives faults n at_path).2 = ok
  intro rotated
  -- Past the last place nothing is newer than what was there.
  have older {oldest : LogFile} (last : at_path n = some oldest)
      (same : ∀ place, n < place → after place = at_path place) :
      ∀ place log, n < place → after place = some log → log.made ≤ oldest.made := by
    intro place log past found
    rw [same place past] at found
    exact Nat.le_of_lt (descending n place oldest log past last found)
  cases rotated with
  | all works =>
    constructor
    · intro drops last source removable place place_lt
      obtain ⟨oldest, found⟩ := Option.isSome_iff_exists.mp last
      rcases drops oldest ⟨n, pos, found⟩ with ⟨later, -, there⟩ | retained
      · exact absurd there (shifted_drops descending pos found source later)
      · have held : (at_path place).isSome = true := by
          cases missing : at_path place with
          | some log => rfl
          | none =>
            refine absurd retained
              (too_few_newer (Nat.succ_pos place) place_lt ?_
                (older found fun later past => shifted_past (Nat.zero_le n) past))
            have not_last : place + 1 ≠ n := by
              rintro same
              rw [← same, Nat.add_sub_cancel, missing] at source
              cases source
            exact shifted_gap (Nat.zero_le place) (by omega) missing
        refine ⟨held, ?_⟩
        cases stuck : faults.rename (place + 1) with
        | false => rfl
        | true => exact absurd ⟨held, .inl stuck⟩ (works place place_lt)
    · rintro shifts log ⟨place, place_pos, found⟩
      by_cases last : place = n
      · subst last
        cases source : at_path (place - 1) with
        | none => exact .inl ⟨place, place_pos, by rw [shifted_kept pos source, found]⟩
        | some moved =>
          have some_last : (at_path place).isSome = true := by rw [found]; rfl
          have some_source : (at_path (place - 1)).isSome = true := by rw [source]; rfl
          have removable := removable_of_works pos some_last some_source
            (works (place - 1) (by omega))
          have all := shifts some_last some_source removable
          obtain ⟨newer, card, placed⟩ :=
            descending.values_before place fun earlier before => (all earlier before).1
          refine .inr ⟨newer, Nat.le_of_eq card.symm, ?_⟩
          intro other member
          obtain ⟨earlier, before, there⟩ := placed other member
          refine ⟨descending earlier place other log before there found, earlier + 1, by omega, ?_⟩
          rw [shifted_next (Nat.zero_le earlier) before (all earlier before).1, there]
      · obtain ⟨later, place_le, there⟩ := shifted_keeps (Nat.zero_le n) found last
        exact .inl ⟨later, by omega, there⟩
  | @stopped d d_lt fails works =>
    have gap : shifted_places n (d + 1) at_path (d + 1) = none := shifted_here d_lt
    constructor
    · intro drops last source removable
      obtain ⟨oldest, found⟩ := Option.isSome_iff_exists.mp last
      rcases drops oldest ⟨n, pos, found⟩ with ⟨later, -, there⟩ | retained
      · exact absurd there (shifted_drops descending d_lt found source later)
      · exact absurd retained (too_few_newer (Nat.succ_pos d) (Nat.le_of_lt d_lt) gap
          (older found fun later past => shifted_past (Nat.le_of_lt d_lt) past))
    · rintro shifts log ⟨place, place_pos, found⟩
      by_cases last : place = n
      · subst last
        cases source : at_path (place - 1) with
        | none => exact .inl ⟨place, place_pos, by rw [shifted_kept d_lt source, found]⟩
        | some moved =>
          have some_last : (at_path place).isSome = true := by rw [found]; rfl
          have some_source : (at_path (place - 1)).isSome = true := by rw [source]; rfl
          have removable := removable_of_works pos some_last some_source
            (works (place - 1) (by omega) (by omega))
          obtain ⟨-, renamed | ⟨at_last, -⟩⟩ := fails
          · rw [(shifts some_last some_source removable d (by omega)).2] at renamed
            cases renamed
          · omega
      · obtain ⟨later, place_le, there⟩ := shifted_keeps (Nat.le_of_lt d_lt) found last
        exact .inl ⟨later, by omega, there⟩
  | kept kept_pos fails left =>
    constructor
    · intro drops last source removable
      rw [left last] at removable
      cases removable
    · intro shifts log archived
      exact .inl archived
  | removed removed_pos fails left =>
    constructor
    · intro drops last source removable
      obtain ⟨oldest, found⟩ := Option.isSome_iff_exists.mp last
      rcases drops oldest ⟨n, pos, found⟩ with ⟨later, -, there⟩ | retained
      · by_cases same : later = n
        · rw [same, Function.update_self] at there
          cases there
        · rw [Function.update_of_ne same] at there
          exact absurd (descending.same_place there found) same
      · exact absurd retained (too_few_newer pos (Nat.le_refl n)
          (Function.update_self ..)
          (older found fun later past => Function.update_of_ne (by omega) ..))
    · rintro shifts log ⟨place, place_pos, found⟩
      by_cases last : place = n
      · subst last
        have some_last : (at_path place).isSome = true := by rw [found]; rfl
        obtain ⟨source, renamed | ⟨-, -, blocked⟩⟩ := fails
        · have works := (shifts some_last source left (place - 1) (by omega)).2
          rw [Nat.sub_add_cancel pos] at works renamed
          rw [works] at renamed
          cases renamed
        · rw [left] at blocked
          cases blocked
      · exact .inl ⟨place, place_pos, by rw [Function.update_of_ne last, found]⟩

end Retention

/-! ## The files, opened and written -/

section Files

variable {files opened : LogFiles} {log : LogFile}

/-- The newest file is the log, the archives follow, and no file is yet to be made. -/
structure FilesKept (files : LogFiles) : Prop where
  descending : Descending LogFile.made files.at_path
  made : ∀ place log, files.at_path place = some log → log.made < files.made

/-- Nothing was done but that the log was made where there was none. -/
def OnlyOpened (files opened : LogFiles) : Prop := opened = files ∨ opened = files.created

/-- Where there is a log nothing is made. -/
theorem created_of_log (found : files.at_path 0 = some log) : files.created = files := by
  unfold LogFiles.created
  rw [found]

/-- The log that is made. -/
theorem created_of_none (missing : files.at_path 0 = none) :
    files.created.at_path 0 = some ⟨files.made, []⟩ ∧ files.created.made = files.made + 1 := by
  unfold LogFiles.created
  rw [missing]
  dsimp only
  rw [Function.update_self]
  exact ⟨rfl, rfl⟩

/-- Making a log changes no archive. -/
theorem created_archives {place : Nat} (pos : 1 ≤ place) :
    files.created.at_path place = files.at_path place := by
  cases missing : files.at_path 0 with
  | some there => rw [created_of_log missing]
  | none =>
    unfold LogFiles.created
    rw [missing]
    dsimp only
    rw [Function.update_of_ne (by omega)]

/-- Opening the log makes one at most. -/
theorem open_log_file_opens (files : LogFiles) (answer : LogAnswer) :
    OnlyOpened files (files.open_log_file answer).1 := by
  cases answer with
  | opened => exact .inr rfl
  | failed created =>
    cases created with
    | true => exact .inr rfl
    | false => exact .inl rfl

namespace OnlyOpened

/-- The archives are as they were. -/
theorem archives (only : OnlyOpened files opened) {place : Nat} (pos : 1 ≤ place) :
    opened.at_path place = files.at_path place := by
  rcases only with rfl | rfl
  · rfl
  · exact created_archives pos

/-- What was there is where it was. -/
theorem found (only : OnlyOpened files opened) {place : Nat}
    (found : files.at_path place = some log) : opened.at_path place = some log := by
  by_cases log_place : place = 0
  · subst log_place
    rcases only with rfl | rfl
    · exact found
    · rw [created_of_log found, found]
  · rw [only.archives (by omega), found]

/-- A log that was not there is empty. -/
theorem new_log (only : OnlyOpened files opened) (found : opened.at_path 0 = some log) :
    files.at_path 0 = some log ∨
      files.at_path 0 = none ∧ log = ⟨files.made, []⟩ ∧ opened.made = files.made + 1 := by
  cases missing : files.at_path 0 with
  | some there =>
    rw [only.found missing] at found
    exact .inl found
  | none =>
    rcases only with rfl | rfl
    · rw [missing] at found
      cases found
    · rw [(created_of_none missing).1] at found
      cases found
      exact .inr ⟨rfl, rfl, (created_of_none missing).2⟩

/-- The times of making go on. -/
theorem made_le (only : OnlyOpened files opened) : files.made ≤ opened.made := by
  rcases only with rfl | rfl
  · exact Nat.le_refl _
  · cases missing : files.at_path 0 with
    | some there => rw [created_of_log missing]
    | none =>
      rw [(created_of_none missing).2]
      exact Nat.le_succ _

/-- Opening the log keeps the files in order. -/
theorem kept (only : OnlyOpened files opened) (kept : FilesKept files) : FilesKept opened := by
  refine ⟨?_, ?_⟩
  · intro i j a b before at_i at_j
    rw [only.archives (by omega)] at at_j
    by_cases log_place : i = 0
    · subst log_place
      rcases only.new_log at_i with there | ⟨-, rfl, -⟩
      · exact kept.descending 0 j a b before there at_j
      · exact kept.made j b at_j
    · rw [only.archives (by omega)] at at_i
      exact kept.descending i j a b before at_i at_j
  · intro place log at_place
    by_cases log_place : place = 0
    · subst log_place
      rcases only.new_log at_place with there | ⟨-, rfl, made⟩
      · exact Nat.lt_of_lt_of_le (kept.made 0 log there) only.made_le
      · rw [made]
        exact Nat.lt_succ_self _
    · rw [only.archives (by omega)] at at_place
      exact Nat.lt_of_lt_of_le (kept.made place log at_place) only.made_le

end OnlyOpened

/-- Adding to the log changes no archive. -/
theorem append_archives {bytes : List Byte} {place : Nat} (pos : 1 ≤ place) :
    (files.append bytes).at_path place = files.at_path place := by
  unfold LogFiles.append
  dsimp only
  rw [Function.update_of_ne (by omega)]

/-- It adds to the log's bytes. -/
theorem append_log {bytes : List Byte} :
    (files.append bytes).at_path 0 =
      (files.at_path 0).map fun log => { log with bytes := log.bytes ++ bytes } := by
  unfold LogFiles.append
  dsimp only
  rw [Function.update_self]

/-- A file is where it was, with as many files made before it, once bytes are added to the log. -/
theorem append_some {bytes : List Byte} {place : Nat}
    (found : (files.append bytes).at_path place = some log) :
    ∃ earlier, files.at_path place = some earlier ∧ earlier.made = log.made := by
  by_cases log_place : place = 0
  · subst log_place
    rw [append_log] at found
    obtain ⟨earlier, there, rfl⟩ := Option.map_eq_some_iff.mp found
    exact ⟨earlier, there, rfl⟩
  · rw [append_archives (by omega)] at found
    exact ⟨log, found, rfl⟩

/-- Adding to the log keeps the files in order. -/
theorem FilesKept.append (kept : FilesKept files) (bytes : List Byte) :
    FilesKept (files.append bytes) := by
  refine ⟨?_, ?_⟩
  · intro i j a b before at_i at_j
    obtain ⟨a', at_i', same_a⟩ := append_some at_i
    obtain ⟨b', at_j', same_b⟩ := append_some at_j
    rw [← same_a, ← same_b]
    exact kept.descending i j a' b' before at_i' at_j'
  · intro place log found
    obtain ⟨earlier, there, same⟩ := append_some found
    rw [← same]
    exact kept.made place earlier there

/-- So does rotating them. -/
theorem FilesKept.rotated {faults : RotationFaults} {n : Nat} (kept : FilesKept files) :
    FilesKept { files with at_path := (rotate_archives faults n files.at_path).1 } := by
  have rotated := rotate_archives_spec faults n files.at_path
  refine ⟨rotated.descending kept.descending, ?_⟩
  intro place log found
  obtain ⟨earlier, there⟩ := rotated.found found
  exact kept.made earlier log there

end Files

/-! ## What is promised depends on the archives -/

section Promises

variable {n : Nat} {before before' after after' : Nat → Option LogFile}

/-- What is archived depends on the archives alone. -/
theorem archived_congr (same : ∀ place, 1 ≤ place → after place = before place) (log : LogFile) :
    Archived after log ↔ Archived before log := by
  unfold Archived
  apply exists_congr
  intro place
  apply and_congr_right
  intro pos
  rw [same place pos]

/-- What a step deletes depends on the archives before and after it alone. -/
theorem drops_only_old_congr (same_before : ∀ place, 1 ≤ place → before' place = before place)
    (same_after : ∀ place, 1 ≤ place → after' place = after place) :
    DropsOnlyOld n before' after' ↔ DropsOnlyOld n before after := by
  unfold DropsOnlyOld NewerRetained
  simp only [archived_congr same_before, archived_congr same_after]

/-- A step that changes no archive deletes none. -/
theorem drops_only_old_refl : DropsOnlyOld n before before := fun _ archived => .inl archived

/-- Where newer files come first, no two change places. -/
theorem keeps_order (descending : Descending LogFile.made before)
    (still : Descending LogFile.made after) : KeepsOrder before after := by
  intro i j i' j' a b _ i_lt at_i at_j _ _ at_i' at_j'
  exact still.earlier at_i' at_j' (descending i j a b i_lt at_i at_j)

end Promises

/-! ## The writer -/

/-- What holds between two lines: the writer that is held knows how long the log is, and a log
that is shorter than what was written is empty. -/
structure LoggingKept (max n : Nat) (s : Logging) : Prop where
  files : FilesKept s.files
  held : s.writer.writer = true → s.files.log_length = some s.writer.bytes_written
  short : ∀ length, s.files.log_length = some length → length < s.writer.bytes_written →
    length = 0
  limit : s.writer.max_file_bytes = max
  retained : s.writer.retained_files = n

/-- How the log is opened again. -/
structure Reopens (s : Logging) (answer : LogAnswer) (r : Logging × Bool) : Prop where
  opens : OnlyOpened s.files r.1.files
  works : r.2 = r.1.writer.writer
  answered : r.1.writer.writer = true ↔ answer = .opened
  held : r.1.writer.writer = true → r.1.files.log_length = some r.1.writer.bytes_written
  left : r.1.writer.writer = false → r.1.writer.bytes_written = s.writer.bytes_written
  limit : r.1.writer.max_file_bytes = s.writer.max_file_bytes
  retained : r.1.writer.retained_files = s.writer.retained_files
  failures : r.1.writer.suppressed_rotation_failures = s.writer.suppressed_rotation_failures

section Writer

variable {max n : Nat} {s : Logging}

/-- Once it has been made there is a log, with its length. -/
theorem created_length (files : LogFiles) : ∃ length, files.created.log_length = some length := by
  unfold LogFiles.log_length
  cases missing : files.at_path 0 with
  | some there =>
    rw [created_of_log missing, missing]
    exact ⟨_, rfl⟩
  | none =>
    rw [(created_of_none missing).1]
    exact ⟨_, rfl⟩

/-- A log that has a length is there. -/
theorem log_length_some {files : LogFiles} {length : Nat}
    (found : files.log_length = some length) :
    ∃ log, files.at_path 0 = some log ∧ log.bytes.length = length :=
  Option.map_eq_some_iff.mp found

/-- A log that was made is empty. -/
theorem OnlyOpened.length {files opened : LogFiles} (only : OnlyOpened files opened) {length : Nat}
    (found : opened.log_length = some length) :
    files.log_length = some length ∨ files.log_length = none ∧ length = 0 := by
  obtain ⟨log, there, rfl⟩ := log_length_some found
  unfold LogFiles.log_length
  rcases only.new_log there with same | ⟨missing, rfl, -⟩
  · rw [same]
    exact .inl rfl
  · rw [missing]
    exact .inr ⟨rfl, rfl⟩

/-- Reopening the log opens it or leaves the writer without one. -/
theorem reopened_spec (s : Logging) (answer : LogAnswer) :
    Reopens s answer (s.reopened answer) := by
  have opens := open_log_file_opens s.files answer
  unfold Logging.reopened
  cases answer with
  | opened =>
    obtain ⟨length, found⟩ := created_length s.files
    unfold LogFiles.open_log_file at opens ⊢
    dsimp only
    rw [found]
    exact {
      opens := opens
      works := rfl
      answered := ⟨fun _ => rfl, fun _ => rfl⟩
      held := fun _ => found
      left := fun dropped => by cases dropped
      limit := rfl
      retained := rfl
      failures := rfl }
  | failed created =>
    exact {
      opens := opens
      works := rfl
      answered := ⟨fun held => (by cases held), fun same => (by cases same)⟩
      held := fun held => by cases held
      left := fun _ => rfl
      limit := rfl
      retained := rfl
      failures := rfl }

/-- What is kept by opening the log again. -/
theorem Reopens.kept {answer : LogAnswer} {r : Logging × Bool} (reopens : Reopens s answer r)
    (files : FilesKept s.files)
    (short : ∀ length, s.files.log_length = some length → length < s.writer.bytes_written →
      length = 0)
    (limit : s.writer.max_file_bytes = max) (retained : s.writer.retained_files = n) :
    LoggingKept max n r.1 := by
  refine ⟨reopens.opens.kept files, reopens.held, ?_, reopens.limit.trans limit,
    reopens.retained.trans retained⟩
  intro length found less
  cases writer : r.1.writer.writer with
  | true =>
    rw [reopens.held writer] at found
    cases found
    exact absurd less (Nat.lt_irrefl _)
  | false =>
    rw [reopens.left writer] at less
    rcases reopens.opens.length found with same | ⟨-, empty⟩
    · exact short length same less
    · exact empty

/-- What looking for another process's rotation does: the log is opened again or nothing is done.
SRC: logging.rs:94-98, 119-155 -/
theorem staleness_checked_spec (kept : LoggingKept max n s) (faults : LineFaults) :
    LoggingKept max n (s.staleness_checked faults) ∧
    OnlyOpened s.files (s.staleness_checked faults).files ∧
    (s.staleness_checked faults).writer.suppressed_rotation_failures =
      s.writer.suppressed_rotation_failures := by
  have counted (lines : Nat) :
      LoggingKept max n { s with writer.lines_since_staleness_check := lines } :=
    ⟨kept.files, kept.held, kept.short, kept.limit, kept.retained⟩
  unfold Logging.staleness_checked
  dsimp only
  split
  · unfold Logging.reopen_if_rotated_by_another_process
    split
    · have reopens := reopened_spec { s with writer.lines_since_staleness_check := 0 }
        faults.reopened
      exact ⟨reopens.kept kept.files kept.short kept.limit kept.retained, reopens.opens,
        reopens.failures⟩
    · exact ⟨counted 0, .inl rfl, rfl⟩
  · exact ⟨counted _, .inl rfl, rfl⟩

/-- The flush fails, so that nothing else is done. -/
def FlushFails (s : Logging) (faults : RotationFaults) : Prop :=
  s.writer.writer = true ∧ faults.flush = true

/-- The archives are rotated. -/
def ArchivesReached (s : Logging) (faults : RotationFaults) : Prop :=
  ¬ FlushFails s faults ∧ s.shorter_than_written = false

instance archives_reached_decidable (s : Logging) (faults : RotationFaults) :
    Decidable (ArchivesReached s faults) := by
  unfold ArchivesReached FlushFails
  infer_instance

/-- The files once the archives are rotated, before the log is opened. -/
def rotated_files (s : Logging) (faults : RotationFaults) : LogFiles :=
  if ArchivesReached s faults then
    { s.files with at_path := (rotate_archives faults s.writer.retained_files s.files.at_path).1 }
  else s.files

/-- What a rotation does to the log. -/
structure RotationDone (s : Logging) (faults : RotationFaults) (max n : Nat)
    (r : Logging × Bool) : Prop where
  kept : LoggingKept max n r.1
  opens : OnlyOpened (rotated_files s faults) r.1.files
  failures : r.1.writer.suppressed_rotation_failures = s.writer.suppressed_rotation_failures
  held : faults.log_opened = .opened → (r.1.writer.writer = true ↔ ¬ FlushFails s faults)
  works : r.2 = true → r.1.writer.writer = true ∧ r.1.writer.bytes_written = 0

/-- A log that is left after the archives are rotated was not moved. -/
theorem rotate_archives_log {faults : RotationFaults} {at_path : Nat → Option LogFile}
    (pos : 0 < n) {log : LogFile} (found : (rotate_archives faults n at_path).1 0 = some log) :
    at_path 0 = some log ∧ (rotate_archives faults n at_path).2 = false := by
  have rotated := rotate_archives_spec faults n at_path
  revert rotated found
  generalize (rotate_archives faults n at_path).1 = after
  generalize (rotate_archives faults n at_path).2 = ok
  intro found rotated
  cases rotated with
  | all works =>
    rw [shifted_here pos] at found
    cases found
  | @stopped d d_lt fails works =>
    rw [shifted_before (Nat.succ_pos d)] at found
    exact ⟨found, rfl⟩
  | kept kept_pos fails left => exact ⟨found, rfl⟩
  | removed removed_pos fails left =>
    rw [Function.update_of_ne (by omega)] at found
    exact ⟨found, rfl⟩

/-- SRC: logging.rs:188-210 -/
theorem rotate_done (kept : LoggingKept max n s) (pos : 0 < n) (faults : RotationFaults) :
    RotationDone s faults max n (s.rotate faults) := by
  unfold Logging.rotate
  by_cases stuck : FlushFails s faults
  · have not_reached : ¬ ArchivesReached s faults := fun reached => reached.1 stuck
    have flush_fails : (s.writer.writer && faults.flush) = true := by
      rw [stuck.1, stuck.2]
      rfl
    rw [if_pos flush_fails]
    refine ⟨⟨kept.files, fun held => (by cases held), kept.short, kept.limit, kept.retained⟩, ?_,
      rfl, fun _ => ⟨fun held => (by cases held), fun fine => absurd stuck fine⟩,
      fun works => (by cases works)⟩
    unfold rotated_files
    rw [if_neg not_reached]
    exact .inl rfl
  · have flush_works : ¬ (s.writer.writer && faults.flush) = true := by
      intro both
      rw [Bool.and_eq_true] at both
      exact stuck both
    rw [if_neg flush_works]
    by_cases shorter : s.shorter_than_written = true
    · rw [if_pos shorter]
      have not_reached : ¬ ArchivesReached s faults := by
        intro reached
        rw [reached.2] at shorter
        cases shorter
      have reopens := reopened_spec s faults.log_opened
      refine ⟨reopens.kept kept.files kept.short kept.limit kept.retained, ?_, reopens.failures,
        fun opened => ⟨fun _ => stuck, fun _ => reopens.answered.mpr opened⟩, ?_⟩
      · unfold rotated_files
        rw [if_neg not_reached]
        exact reopens.opens
      · intro works
        rw [reopens.works] at works
        refine ⟨works, ?_⟩
        unfold Logging.shorter_than_written at shorter
        rw [Option.any_eq_true] at shorter
        obtain ⟨length, found, less⟩ := shorter
        have empty := kept.short length found (of_decide_eq_true less)
        rcases reopens.opens.length (reopens.held works) with same | ⟨-, empty⟩
        · rw [same] at found
          cases found
          exact empty
        · exact empty
    · rw [if_neg shorter]
      dsimp only
      have reached : ArchivesReached s faults := ⟨stuck, by simpa using shorter⟩
      have files_eq : rotated_files s faults =
          { s.files with
            at_path := (rotate_archives faults s.writer.retained_files s.files.at_path).1 } := by
        unfold rotated_files
        rw [if_pos reached]
      have reopens := reopened_spec
        ⟨{ s.files with
            at_path := (rotate_archives faults s.writer.retained_files s.files.at_path).1 },
          s.writer⟩ faults.log_opened
      have n_pos : 0 < s.writer.retained_files := by
        rw [kept.retained]
        exact pos
      refine ⟨reopens.kept kept.files.rotated ?_ kept.limit kept.retained, ?_, reopens.failures,
        fun opened => ⟨fun _ => stuck, fun _ => reopens.answered.mpr opened⟩, ?_⟩
      · intro length found less
        obtain ⟨log, there, rfl⟩ := log_length_some found
        have same := (rotate_archives_log n_pos there).1
        apply kept.short _ _ less
        unfold LogFiles.log_length
        rw [same]
        rfl
      · rw [files_eq]
        exact reopens.opens
      · intro works
        rw [Bool.and_eq_true, reopens.works] at works
        refine ⟨works.1, ?_⟩
        rcases reopens.opens.length (reopens.held works.1) with same | ⟨-, empty⟩
        · obtain ⟨log, there, -⟩ := log_length_some same
          have stopped := (rotate_archives_log n_pos there).2
          rw [works.2] at stopped
          cases stopped
        · exact empty

end Writer

/-! ## One rotation, start or line -/

/-- The bytes of a log are still at its place or another, before what was added. -/
theorem keeps_contents_trans {before after : Nat → Option LogFile} (mid : Nat → Option LogFile)
    (first : ∀ log, before 0 = some log → ∃ place, mid place = some log)
    (then_after : ∀ place log, mid place = some log →
      ∃ later, after place = some later ∧ later.made = log.made ∧ log.bytes <+: later.bytes) :
    KeepsContents before after := by
  intro log found
  obtain ⟨place, there⟩ := first log found
  obtain ⟨later, there', made, contents⟩ := then_after place log there
  exact ⟨place, later, there', made, contents⟩

section Lines

variable {max n : Nat} {s : Logging}

/-- The log is where it was, or it is the first archive. -/
theorem rotated_files_contents (n_pos : 0 < s.writer.retained_files) (faults : RotationFaults)
    {log : LogFile} (found : s.files.at_path 0 = some log) :
    ∃ place, (rotated_files s faults).at_path place = some log := by
  have not_last : 0 ≠ s.writer.retained_files := Nat.ne_of_lt n_pos
  unfold rotated_files
  by_cases reached : ArchivesReached s faults
  · rw [if_pos reached]
    dsimp only
    have rotated := rotate_archives_spec faults s.writer.retained_files s.files.at_path
    revert rotated
    generalize (rotate_archives faults s.writer.retained_files s.files.at_path).1 = after
    generalize (rotate_archives faults s.writer.retained_files s.files.at_path).2 = ok
    intro rotated
    cases rotated with
    | all works =>
      obtain ⟨later, -, there⟩ := shifted_keeps (Nat.zero_le _) found not_last
      exact ⟨later, there⟩
    | stopped d_lt fails works =>
      obtain ⟨later, -, there⟩ := shifted_keeps (Nat.le_of_lt d_lt) found not_last
      exact ⟨later, there⟩
    | kept pos fails left => exact ⟨0, found⟩
    | removed pos fails left => exact ⟨0, by rw [Function.update_of_ne not_last, found]⟩
  · rw [if_neg reached]
    exact ⟨0, found⟩

/-- SRC: logging.rs:188-229 -/
theorem rotated_files_drops_iff (kept : LoggingKept max n s) (pos : 0 < n)
    (faults : RotationFaults) :
    DropsOnlyOld n s.files.at_path (rotated_files s faults).at_path ↔
      (ArchivesReached s faults → ShiftsAll faults n s.files.at_path) := by
  unfold rotated_files
  by_cases reached : ArchivesReached s faults
  · rw [if_pos reached, kept.retained]
    dsimp only
    rw [drops_only_old_iff kept.files.descending pos]
    exact ⟨fun shifts _ => shifts, fun shifts => shifts reached⟩
  · rw [if_neg reached]
    exact ⟨fun _ reached' => absurd reached' reached, fun _ => drops_only_old_refl⟩

/-- The files before the log is opened for a line. -/
def files_for_line (s : Logging) (line : List Byte) (faults : LineFaults) : LogFiles :=
  if (s.staleness_checked faults).rotation_due line then
    rotated_files (s.staleness_checked faults) faults.rotation
  else (s.staleness_checked faults).files

/-- What the writer is like when a line is given to it.
SRC: logging.rs:94-103 -/
structure LinePrepared (s : Logging) (line : List Byte) (faults : LineFaults) (max n : Nat)
    (prepared : Logging) : Prop where
  kept : LoggingKept max n prepared
  opens : OnlyOpened (files_for_line s line faults) prepared.files
  held : (s.staleness_checked faults).rotation_due line = true →
    faults.rotation.log_opened = .opened →
    (prepared.writer.writer = true ↔ ¬ FlushFails (s.staleness_checked faults) faults.rotation)
  works : (s.staleness_checked faults).rotation_due line = true →
    prepared.writer.suppressed_rotation_failures = 0 →
    prepared.writer.writer = true ∧ prepared.writer.bytes_written = 0
  same : (s.staleness_checked faults).rotation_due line = false →
    prepared = s.staleness_checked faults

/-- Before a line is written, the log has been rotated where that was due, and the writer knows
it. -/
theorem prepared_spec (kept : LoggingKept max n s) (pos : 0 < n) (line : List Byte)
    (faults : LineFaults) : LinePrepared s line faults max n (s.prepared line faults) := by
  have checked := (staleness_checked_spec kept faults).1
  unfold Logging.prepared
  by_cases due : (s.staleness_checked faults).rotation_due line = true
  · dsimp only
    rw [if_pos due]
    have done := rotate_done checked pos faults.rotation
    refine ⟨⟨done.kept.files, done.kept.held, done.kept.short, done.kept.limit,
      done.kept.retained⟩, ?_, fun _ => done.held, ?_, fun not_due => ?_⟩
    · unfold files_for_line
      rw [if_pos due]
      exact done.opens
    · intro _ none_failed
      unfold Logging.rotate_or_report at none_failed
      dsimp only at none_failed
      apply done.works
      cases worked : ((s.staleness_checked faults).rotate faults.rotation).2 with
      | true => rfl
      | false =>
        rw [worked, if_neg Bool.false_ne_true] at none_failed
        exact absurd none_failed (Nat.succ_ne_zero _)
    · rw [due] at not_due
      cases not_due
  · dsimp only
    rw [if_neg due]
    refine ⟨checked, ?_, fun due' => absurd due' due, fun due' => absurd due' due, fun _ => rfl⟩
    unfold files_for_line
    rw [if_neg due]
    exact .inl rfl

/-- The line and its end are added to the log, or nothing is done.
SRC: logging.rs:104-110 -/
theorem delivered_kept (kept : LoggingKept max n s) (line : List Byte) :
    LoggingKept max n (s.delivered line) := by
  unfold Logging.delivered
  by_cases held : s.writer.writer = true
  · rw [if_pos held]
    obtain ⟨log, found, length⟩ := log_length_some (kept.held held)
    have written : (s.files.append (Logging.line_end line)).log_length =
        some (s.writer.bytes_written + (Logging.line_end line).length) := by
      unfold LogFiles.log_length
      rw [append_log, found]
      dsimp only [Option.map_some]
      rw [List.length_append, length]
    refine ⟨kept.files.append _, fun _ => written, ?_, kept.limit, kept.retained⟩
    intro length' found' less
    dsimp only at found' less
    rw [written] at found'
    cases found'
    exact absurd less (Nat.lt_irrefl _)
  · rw [if_neg held]
    exact kept

/-- Writing the line changes no archive. -/
theorem delivered_archives (s : Logging) (line : List Byte) {place : Nat} (pos : 1 ≤ place) :
    (s.delivered line).files.at_path place = s.files.at_path place := by
  unfold Logging.delivered
  split
  · exact append_archives pos
  · rfl

/-- What was in the log still is. -/
theorem delivered_contents (s : Logging) (line : List Byte) {place : Nat} {log : LogFile}
    (found : s.files.at_path place = some log) :
    ∃ later, (s.delivered line).files.at_path place = some later ∧ later.made = log.made ∧
      log.bytes <+: later.bytes := by
  by_cases log_place : place = 0
  · subst log_place
    unfold Logging.delivered
    split
    · refine ⟨{ log with bytes := log.bytes ++ Logging.line_end line }, ?_, rfl,
        List.prefix_append _ _⟩
      rw [append_log, found]
      rfl
    · exact ⟨log, found, rfl, List.prefix_rfl⟩
  · exact ⟨log, (delivered_archives s line (by omega)).trans found, rfl, List.prefix_rfl⟩

/-- An invariant of the lines. -/
theorem write_line_kept (kept : LoggingKept max n s) (pos : 0 < n) (line : List Byte)
    (faults : LineFaults) : LoggingKept max n (s.write_line line faults) :=
  delivered_kept (prepared_spec kept pos line faults).kept line

/-- No line loses what is in the log. -/
theorem write_line_contents (kept : LoggingKept max n s) (pos : 0 < n) (line : List Byte)
    (faults : LineFaults) :
    KeepsContents s.files.at_path (s.write_line line faults).files.at_path := by
  have prepared := prepared_spec kept pos line faults
  obtain ⟨checked, opens, -⟩ := staleness_checked_spec kept faults
  apply keeps_contents_trans (files_for_line s line faults).at_path
  · intro log found
    have there := opens.found found
    unfold files_for_line
    split
    · apply rotated_files_contents _ _ there
      rw [checked.retained]
      exact pos
    · exact ⟨0, there⟩
  · intro place log found
    exact delivered_contents _ line (prepared.opens.found found)

/-- A line deletes only what need not be retained, if and only if the rotation made for it, where
it comes to the archives, shifts them all. -/
theorem write_line_drops_iff (kept : LoggingKept max n s) (pos : 0 < n) (line : List Byte)
    (faults : LineFaults) :
    DropsOnlyOld n s.files.at_path (s.write_line line faults).files.at_path ↔
      ((s.staleness_checked faults).rotation_due line = true →
        ArchivesReached (s.staleness_checked faults) faults.rotation →
        ShiftsAll faults.rotation n (s.staleness_checked faults).files.at_path) := by
  have prepared := prepared_spec kept pos line faults
  obtain ⟨checked, opens, -⟩ := staleness_checked_spec kept faults
  have same : ∀ place, 1 ≤ place → (s.write_line line faults).files.at_path place =
      (files_for_line s line faults).at_path place := by
    intro place place_pos
    unfold Logging.write_line
    rw [delivered_archives _ line place_pos, prepared.opens.archives place_pos]
  rw [drops_only_old_congr (fun place place_pos => (opens.archives place_pos).symm) same]
  unfold files_for_line
  by_cases due : (s.staleness_checked faults).rotation_due line = true
  · rw [if_pos due, rotated_files_drops_iff checked pos faults.rotation]
    exact ⟨fun shifts _ => shifts, fun shifts => shifts due⟩
  · rw [if_neg due]
    exact ⟨fun _ due' => absurd due' due, fun _ => drops_only_old_refl⟩

/-- The log can be opened while a line is written. -/
def CanBeOpened (faults : LineFaults) : Prop :=
  faults.reopened = .opened ∧ faults.rotation.log_opened = .opened

/-- The line is added to the log. -/
def ReachesLog (s : Logging) (line : List Byte) (faults : LineFaults) : Prop :=
  ∃ log, (s.prepared line faults).files.at_path 0 = some log ∧
    (s.write_line line faults).files.at_path 0 =
      some { log with bytes := log.bytes ++ Logging.line_end line }

/-- A writer is there for the line: the one that is held, or one that the rotation opens. -/
def WriterFor (s : Logging) (line : List Byte) (faults : LineFaults) : Prop :=
  if (s.staleness_checked faults).rotation_due line then
    ¬ FlushFails (s.staleness_checked faults) faults.rotation
  else (s.staleness_checked faults).writer.writer = true

/-- A line reaches the log exactly where there is a writer for it. -/
theorem reaches_log_iff (kept : LoggingKept max n s) (pos : 0 < n) (line : List Byte)
    (faults : LineFaults) :
    ReachesLog s line faults ↔ (s.prepared line faults).writer.writer = true := by
  have prepared := prepared_spec kept pos line faults
  unfold ReachesLog Logging.write_line Logging.delivered
  constructor
  · rintro ⟨log, found, reached⟩
    by_cases held : (s.prepared line faults).writer.writer = true
    · exact held
    · rw [if_neg held, found] at reached
      have bytes := congrArg LogFile.bytes (Option.some.inj reached)
      have length := congrArg List.length bytes
      dsimp only at length
      rw [List.length_append] at length
      unfold Logging.line_end at length
      rw [List.length_append, List.length_singleton] at length
      omega
  · intro held
    obtain ⟨log, found, -⟩ := log_length_some (prepared.kept.held held)
    refine ⟨log, found, ?_⟩
    rw [if_pos held]
    dsimp only
    rw [append_log, found]
    rfl

/-- SRC: logging.rs:94-110 -/
theorem opened_reaches_log_iff (kept : LoggingKept max n s) (pos : 0 < n) (line : List Byte)
    (faults : LineFaults) :
    (CanBeOpened faults → ReachesLog s line faults) ↔
      (CanBeOpened faults → WriterFor s line faults) := by
  have prepared := prepared_spec kept pos line faults
  apply imp_congr_right
  intro opened
  rw [reaches_log_iff kept pos line faults]
  unfold WriterFor
  by_cases due : (s.staleness_checked faults).rotation_due line = true
  · rw [if_pos due]
    exact prepared.held due opened.2
  · rw [if_neg due, prepared.same (by simpa using due)]

/-- The log is as long as it may be, or it holds one of these lines and nothing else. -/
def LogFits (max : Nat) (lines : List (List Byte)) (files : LogFiles) : Prop :=
  ∀ log, files.at_path 0 = some log →
    log.bytes.length ≤ max ∨ ∃ line ∈ lines, log.bytes = Logging.line_end line

/-- A line leaves the log as long as it may be, or as the only line, unless the rotation made for
it fails. -/
theorem write_line_fits (kept : LoggingKept max n s) (pos : 0 < n) (line : List Byte)
    (faults : LineFaults) {lines : List (List Byte)}
    (none_failed : (s.write_line line faults).writer.suppressed_rotation_failures = 0)
    (fits : (s.staleness_checked faults).rotation_due line = false →
      s.writer.suppressed_rotation_failures = 0 → LogFits max lines s.files) :
    LogFits max (lines ++ [line]) (s.write_line line faults).files := by
  have prepared := prepared_spec kept pos line faults
  obtain ⟨checked, opens, failures⟩ := staleness_checked_spec kept faults
  have same_failures : (s.write_line line faults).writer.suppressed_rotation_failures =
      (s.prepared line faults).writer.suppressed_rotation_failures := by
    unfold Logging.write_line Logging.delivered
    split <;> rfl
  rw [same_failures] at none_failed
  have alone (empty : (s.prepared line faults).files.log_length = some 0) (log : LogFile)
      (found : ((s.prepared line faults).files.append (Logging.line_end line)).at_path 0 =
        some log) : log.bytes = Logging.line_end line := by
    obtain ⟨before, there, length⟩ := log_length_some empty
    rw [append_log, there] at found
    cases found
    dsimp only
    rw [List.length_eq_zero_iff.mp length, List.nil_append]
  intro log found
  unfold Logging.write_line Logging.delivered at found
  by_cases due : (s.staleness_checked faults).rotation_due line = true
  · obtain ⟨held, empty⟩ := prepared.works due none_failed
    rw [if_pos held] at found
    have length := prepared.kept.held held
    rw [empty] at length
    exact .inr ⟨line, List.mem_append_right _ (List.mem_singleton.mpr rfl),
      alone length log found⟩
  · have not_due : (s.staleness_checked faults).rotation_due line = false := by simpa using due
    have same := prepared.same not_due
    by_cases held : (s.prepared line faults).writer.writer = true
    · rw [if_pos held] at found
      have length := prepared.kept.held held
      by_cases empty : (s.prepared line faults).writer.bytes_written = 0
      · rw [empty] at length
        exact .inr ⟨line, List.mem_append_right _ (List.mem_singleton.mpr rfl),
          alone length log found⟩
      · left
        obtain ⟨before, there, before_length⟩ := log_length_some length
        dsimp only at found
        rw [append_log, there] at found
        cases found
        dsimp only
        rw [List.length_append, before_length, same]
        rw [same] at empty
        unfold Logging.rotation_due at not_due
        rw [Bool.and_eq_false_iff, checked.limit] at not_due
        rcases not_due with nothing_written | within
        · rw [bne_eq_false_iff_eq] at nothing_written
          exact absurd nothing_written empty
        · exact Nat.le_of_not_lt (of_decide_eq_false within)
    · rw [if_neg held, same] at found
      rw [same, failures] at none_failed
      rcases opens.new_log found with there | ⟨-, rfl, -⟩
      · rcases fits not_due none_failed log there with within | ⟨earlier, member, only⟩
        · exact .inl within
        · exact .inr ⟨earlier, List.mem_append_left _ member, only⟩
      · exact .inl (Nat.zero_le _)

end Lines

/-! ## Whole runs -/

/-- A line, and what the operating system answers while it is written. -/
structure LineWritten where
  line : List Byte
  faults : LineFaults

def LineStep (s : Logging) (event : LineWritten) (s' : Logging) : Prop :=
  s' = s.write_line event.line event.faults

/-- A log that is full when the writer starts is rotated at once. -/
def StartsFull (max : Nat) (files : LogFiles) : Prop :=
  ∃ length, files.log_length = some length ∧ max ≤ length

/-- A rotation was made for a line. -/
def RotationMade (t : Taken Logging LineWritten) : Prop :=
  (t.before.staleness_checked t.event.faults).rotation_due t.event.line = true

/-- The logs are kept that are to be retained, and lines reach the log. -/
structure RotationRetains (n : Nat) (files : LogFiles) (start : Logging)
    (steps : List (Taken Logging LineWritten)) : Prop where
  started : DropsOnlyOld n files.at_path start.files.at_path
  drops : ∀ t ∈ steps, DropsOnlyOld n t.before.files.at_path t.after.files.at_path
  reaches : ∀ t ∈ steps, CanBeOpened t.event.faults →
    ReachesLog t.before t.event.line t.event.faults

/-- The archives keep their order and the log its contents; where the last rotation that was made
did not fail, the log is as long as it may be or holds a single line. -/
structure RotationKeeps (max : Nat) (files : LogFiles) (start : Logging)
    (steps : List (Taken Logging LineWritten)) (s : Logging) : Prop where
  start_order : KeepsOrder files.at_path start.files.at_path
  order : ∀ t ∈ steps, KeepsOrder t.before.files.at_path t.after.files.at_path
  start_contents : KeepsContents files.at_path start.files.at_path
  contents : ∀ t ∈ steps, KeepsContents t.before.files.at_path t.after.files.at_path
  fits : (StartsFull max files ∨ ∃ t ∈ steps, RotationMade t) →
    s.writer.suppressed_rotation_failures = 0 →
    LogFits max (steps.map fun t => t.event.line) s.files

/-- The condition on the start: a rotation that is made and comes to the archives shifts them all
where the last one is to make room. -/
def StartShiftsAll (max n : Nat) (files : LogFiles) (faults : RotationFaults) : Prop :=
  StartsFull max files → faults.flush = false → ShiftsAll faults n files.at_path

/-- The condition on a line: so does the rotation that is made for it, and where the log can be
opened a writer is held for the line or opened by its rotation. -/
def LineShiftsAll (n : Nat) (s : Logging) (event : LineWritten) : Prop :=
  ((s.staleness_checked event.faults).rotation_due event.line = true →
    ArchivesReached (s.staleness_checked event.faults) event.faults.rotation →
    ShiftsAll event.faults.rotation n (s.staleness_checked event.faults).files.at_path) ∧
  (CanBeOpened event.faults → WriterFor s event.line event.faults)

section Run

variable {files : LogFiles} {max n : Nat} {answer : LogAnswer} {faults : RotationFaults}
  {start s : Logging} {steps : List (Taken Logging LineWritten)}

/-- What a writer starts with, and what its first rotation does.
SRC: logging.rs:72-88 -/
structure Starts (max n : Nat) (files : LogFiles) (faults : RotationFaults) (start : Logging) :
    Prop where
  kept : LoggingKept max n start
  order : KeepsOrder files.at_path start.files.at_path
  contents : KeepsContents files.at_path start.files.at_path
  drops_iff : DropsOnlyOld n files.at_path start.files.at_path ↔ StartShiftsAll max n files faults
  fits : StartsFull max files → start.writer.suppressed_rotation_failures = 0 →
    LogFits max [] start.files

/-- The writer with the log just opened. -/
def opened_start (files : LogFiles) (length max n : Nat) : Logging :=
  ⟨files, ⟨true, length, max, n, 0, 0⟩⟩

/-- A writer that has opened the log knows how long it is. -/
theorem opened_start_kept {length : Nat} (kept : FilesKept files)
    (found : files.log_length = some length) :
    LoggingKept max n (opened_start files length max n) := by
  refine ⟨kept, fun _ => found, ?_, rfl, rfl⟩
  intro length' found' less
  unfold opened_start at found' less
  dsimp only at found' less
  rw [found] at found'
  cases found'
  exact absurd less (Nat.lt_irrefl _)

/-- A log that is full is rotated. -/
theorem full_starts {length : Nat} (kept : FilesKept files) (pos : 0 < n)
    (found : files.log_length = some length) (full : max ≤ length) :
    Starts max n files faults ((opened_start files length max n).rotate_or_report faults) := by
  have starts_full : StartsFull max files := ⟨length, found, full⟩
  have first : LoggingKept max n (opened_start files length max n) := opened_start_kept kept found
  have done := rotate_done first pos faults
  refine ⟨?_, ?_, ?_, ?_, ?_⟩
  · exact ⟨done.kept.files, done.kept.held, done.kept.short, done.kept.limit, done.kept.retained⟩
  · exact keeps_order kept.descending done.kept.files.descending
  · apply keeps_contents_trans (rotated_files (opened_start files length max n) faults).at_path
    · intro log there
      have n_pos : 0 < (opened_start files length max n).writer.retained_files := pos
      exact rotated_files_contents n_pos faults there
    · intro place log there
      exact ⟨log, done.opens.found there, rfl, List.prefix_rfl⟩
  · have same : DropsOnlyOld n files.at_path
        ((opened_start files length max n).rotate_or_report faults).files.at_path ↔
        DropsOnlyOld n files.at_path
          (rotated_files (opened_start files length max n) faults).at_path :=
      drops_only_old_congr (fun _ _ => rfl) fun place place_pos => done.opens.archives place_pos
    have reached_iff : ArchivesReached (opened_start files length max n) faults ↔
        faults.flush = false := by
      unfold ArchivesReached FlushFails Logging.shorter_than_written opened_start
      dsimp only
      rw [found]
      simp
    rw [same]
    refine (rotated_files_drops_iff first pos faults).trans ?_
    rw [reached_iff]
    exact ⟨fun shifts _ => shifts, fun shifts => shifts starts_full⟩
  · intro _ none_failed log there
    cases worked : ((opened_start files length max n).rotate faults).2 with
    | true =>
      obtain ⟨held, empty⟩ := done.works worked
      obtain ⟨log', there', log_length⟩ := log_length_some (done.kept.held held)
      have same : log' = log := Option.some.inj (there'.symm.trans there)
      left
      rw [← same, log_length, empty]
      exact Nat.zero_le _
    | false =>
      unfold Logging.rotate_or_report at none_failed
      dsimp only at none_failed
      rw [worked, if_neg Bool.false_ne_true] at none_failed
      exact absurd none_failed (Nat.succ_ne_zero _)

/-- A new writer opens the log, after it was rotated if it was full. -/
theorem new_starts (kept : FilesKept files) (max_pos : 0 < max) (pos : 0 < n)
    (started : Logging.new files max n answer faults = some start) :
    Starts max n files faults start := by
  cases answer with
  | failed created => cases started
  | opened =>
    have opens : OnlyOpened files files.created := .inr rfl
    obtain ⟨length, found⟩ := created_length files
    unfold Logging.new LogFiles.open_log_file at started
    dsimp only at started
    rw [found] at started
    dsimp only at started
    by_cases full : length ≥ max
    · rw [if_pos full] at started
      cases started
      rcases opens.length found with same | ⟨-, empty⟩
      · obtain ⟨log, there, -⟩ := log_length_some same
        rw [created_of_log there]
        exact full_starts kept pos same full
      · omega
    · rw [if_neg full] at started
      cases started
      have not_full : ¬ StartsFull max files := by
        rintro ⟨length', some_length, full'⟩
        rcases opens.length found with same | ⟨missing, -⟩
        · rw [same] at some_length
          cases some_length
          exact full full'
        · rw [missing] at some_length
          cases some_length
      have first : LoggingKept max n (opened_start files.created length max n) :=
        opened_start_kept (opens.kept kept) found
      refine ⟨first, keeps_order kept.descending first.files.descending, ?_, ?_,
        fun full' => absurd full' not_full⟩
      · intro log there
        exact ⟨0, log, opens.found there, rfl, List.prefix_rfl⟩
      · have same : DropsOnlyOld n files.at_path files.created.at_path :=
          (drops_only_old_congr (fun _ _ => rfl) fun place place_pos =>
            opens.archives place_pos).mpr drops_only_old_refl
        exact ⟨fun _ full' => absurd full' not_full, fun _ => same⟩

/-- The invariant of a run. -/
theorem run_kept (kept : LoggingKept max n start) (pos : 0 < n)
    (run : Run LineStep start steps s) : LoggingKept max n s := by
  apply run.inv _ kept
  rintro s event s' kept rfl
  exact write_line_kept kept pos event.line event.faults

/-- The log of a run whose last rotation did not fail. -/
theorem run_fits (starts : Starts max n files faults start) (pos : 0 < n)
    (run : Run LineStep start steps s) :
    (StartsFull max files ∨ ∃ t ∈ steps, RotationMade t) →
      s.writer.suppressed_rotation_failures = 0 →
      LogFits max (steps.map fun t => t.event.line) s.files := by
  induction run with
  | nil =>
    rintro (full | ⟨t, member, -⟩) none_failed
    · exact starts.fits full none_failed
    · cases member
  | @snoc steps s s' event run taken ih =>
    intro made none_failed
    obtain rfl := taken
    have kept := run_kept starts.kept pos run
    rw [List.map_append]
    apply write_line_fits kept pos event.line event.faults none_failed
    intro not_due none_failed_before
    refine ih ?_ none_failed_before
    rcases made with full | ⟨t, member, made⟩
    · exact .inl full
    · rcases List.mem_append.mp member with earlier | last
      · exact .inr ⟨t, earlier, made⟩
      · obtain rfl := List.mem_singleton.mp last
        unfold RotationMade at made
        rw [not_due] at made
        cases made

/-- What a rotation of the log keeps in every run of lines, and exactly when it also keeps the
archives that are to be retained and loses no line of a log that can be opened.
SRC: logging.rs:72-111, 157-229 -/
theorem log_rotation_keeps (kept : FilesKept files) (max_pos : 0 < max) (pos : 0 < n)
    (started : Logging.new files max n answer faults = some start)
    (run : Run LineStep start steps s) :
    RotationKeeps max files start steps s ∧
    (RotationRetains n files start steps ↔
      StartShiftsAll max n files faults ∧ ∀ t ∈ steps, LineShiftsAll n t.before t.event) := by
  have starts := new_starts kept max_pos pos started
  have each {t : Taken Logging LineWritten} (member : t ∈ steps) :
      LoggingKept max n t.before ∧
        t.after = t.before.write_line t.event.line t.event.faults := by
    obtain ⟨taken, earlier, reached⟩ := run.of_mem member
    exact ⟨run_kept starts.kept pos reached, taken⟩
  constructor
  · refine ⟨starts.order, ?_, starts.contents, ?_, run_fits starts pos run⟩
    · intro t member
      obtain ⟨before, after⟩ := each member
      have still := write_line_kept before pos t.event.line t.event.faults
      rw [after]
      exact keeps_order before.files.descending still.files.descending
    · intro t member
      obtain ⟨before, after⟩ := each member
      rw [after]
      exact write_line_contents before pos t.event.line t.event.faults
  · constructor
    · intro retains
      refine ⟨starts.drops_iff.mp retains.started, fun t member => ?_⟩
      obtain ⟨before, after⟩ := each member
      have drops := retains.drops t member
      rw [after] at drops
      exact ⟨(write_line_drops_iff before pos t.event.line t.event.faults).mp drops,
        (opened_reaches_log_iff before pos t.event.line t.event.faults).mp
          (retains.reaches t member)⟩
    · rintro ⟨start_shifts, lines_shift⟩
      refine ⟨starts.drops_iff.mpr start_shifts, fun t member => ?_, fun t member => ?_⟩
      · obtain ⟨before, after⟩ := each member
        rw [after]
        exact (write_line_drops_iff before pos t.event.line t.event.faults).mpr
          (lines_shift t member).1
      · obtain ⟨before, -⟩ := each member
        exact (opened_reaches_log_iff before pos t.event.line t.event.faults).mpr
          (lines_shift t member).2

end Run

/-! ## One archive to retain -/

/-- A log of two bytes, and its archive. -/
def archived_once : LogFiles where
  at_path
    | 0 => some ⟨1, [97, 97]⟩
    | 1 => some ⟨0, [98]⟩
    | _ => none
  made := 2

/-- Nothing fails, or the rename of the log does. -/
def rename_answers (fails : Bool) : LineFaults :=
  ⟨⟨false, fun _ => false, fun _ => fails, .opened⟩, .opened⟩

def archived_once_start : Logging := ⟨archived_once, ⟨true, 2, 3, 1, 0, 0⟩⟩

/-- The files of the example are in order. -/
theorem archived_once_kept : FilesKept archived_once := by
  have held {place : Nat} {log : LogFile} (found : archived_once.at_path place = some log) :
      place = 0 ∧ log.made = 1 ∨ place = 1 ∧ log.made = 0 := by
    match place with
    | 0 =>
      cases found
      exact .inl ⟨rfl, rfl⟩
    | 1 =>
      cases found
      exact .inr ⟨rfl, rfl⟩
    | _ + 2 => cases found
  refine ⟨?_, ?_⟩
  · intro i j a b before at_i at_j
    have place_a := held at_i
    have place_b := held at_j
    omega
  · intro place log found
    have made := held found
    show log.made < 2
    omega

/-- The rotation for a line of one byte, which makes the log longer than three. -/
def rotated_once (fails : Bool) : Taken Logging LineWritten where
  before := archived_once_start
  event := ⟨[99], rename_answers fails⟩
  after := archived_once_start.write_line [99] (rename_answers fails)

/-- Its one line is a run. -/
theorem rotated_once_run (fails : Bool) :
    Run LineStep archived_once_start [rotated_once fails] (rotated_once fails).after :=
  .snoc .nil rfl

/-- With nothing failing, the archive is deleted for the log that takes its place. -/
theorem log_rotation_keeps_one :
    RotationKeeps 3 archived_once archived_once_start [rotated_once false]
        (rotated_once false).after ∧
      RotationRetains 1 archived_once archived_once_start [rotated_once false] := by
  have started : Logging.new archived_once 3 1 .opened (rename_answers false).rotation =
      some archived_once_start := rfl
  obtain ⟨keeps, retains_iff⟩ := log_rotation_keeps archived_once_kept (by decide) Nat.one_pos
    started (rotated_once_run false)
  refine ⟨keeps, retains_iff.mpr ⟨?_, ?_⟩⟩
  · rintro ⟨length, found, full⟩
    cases found
    exact absurd full (by decide)
  · intro t member
    obtain rfl := List.mem_singleton.mp member
    refine ⟨fun _ _ _ _ _ place before => ?_, fun _ => ?_⟩
    · obtain rfl : place = 0 := by omega
      exact ⟨rfl, rfl⟩
    · rintro ⟨-, flush⟩
      cases flush

/-- The archive is removed and the log is not renamed: nothing is archived any more. -/
theorem log_rotation_deletes_unretained :
    ¬ ∀ (files : LogFiles) (max n : Nat) (answer : LogAnswer) (faults : RotationFaults)
      (start s : Logging) (steps : List (Taken Logging LineWritten)), FilesKept files → 0 < max →
      0 < n → Logging.new files max n answer faults = some start → Run LineStep start steps s →
      RotationKeeps max files start steps s ∧ RotationRetains n files start steps := by
  intro always
  have retains := (always archived_once 3 1 .opened (rename_answers true).rotation
    archived_once_start _ _ archived_once_kept (by decide) (by decide) rfl
    (rotated_once_run true)).2
  have drops := retains.drops _ (List.mem_singleton.mpr rfl)
  have kept : LoggingKept 3 1 archived_once_start := opened_start_kept archived_once_kept rfl
  have shifts := (write_line_drops_iff kept Nat.one_pos [99] (rename_answers true)).mp drops rfl
    ⟨fun fails => (by cases fails.2), rfl⟩ rfl rfl rfl 0 Nat.one_pos
  cases shifts.2

end Captastic.Analysis
