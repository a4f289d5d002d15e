import Captastic.Analysis.AtomicWrite
import Captastic.Model.CaptureFile

/-!
# What writing a capture leaves of a directory

A capture is written under a name that nothing has, and every other file stays as it was
(`capture_written`), but for two kinds: the sweep before each attempt takes files away whose names
begin as those that earlier writes left beside this name (`stale_notes_swept`), and a temporary file
stays behind where its removal is refused.  On Unix a capture is also left by a write that fails:
its parent directory could not be synced.
-/

set_option autoImplicit false

namespace Captastic.Analysis

open Captastic.Model

/-! ## The sweep only removes -/

section Sweep

variable (io : WriteIo)

/-- Sweeping one name leaves every file alone or removes it. -/
theorem sweep_file_removes (files : Files) (swept name : String) :
    sweep_file io files swept name = files name ∨ sweep_file io files swept name = none := by
  by_cases same : name = swept
  · subst same
    unfold sweep_file
    split
    · exact Or.inr (Function.update_self _ _ _)
    · exact Or.inl rfl
  · exact Or.inl (sweep_file_of_ne io same)

/-- Sweeping names in turn leaves every file alone or removes it. -/
theorem sweep_files_remove (name : String) (swept : List String) (files : Files) :
    swept.foldl (sweep_file io) files name = files name ∨
      swept.foldl (sweep_file io) files name = none := by
  induction swept generalizing files with
  | nil => exact Or.inl rfl
  | cons first rest ih =>
    rw [List.foldl_cons]
    rcases ih (sweep_file io files first) with kept | gone
    · rw [kept]
      exact sweep_file_removes io files first name
    · exact Or.inr gone

/-- Sweeping a directory leaves every file alone or removes it. -/
theorem sweep_entries_remove (file_name : String) (protected_name : Option String)
    (name : String) (entries : List DirEntry) (state : Files × List Corrupt) :
    (entries.foldl (sweep_entry io file_name protected_name) state).1 name = state.1 name ∨
      (entries.foldl (sweep_entry io file_name protected_name) state).1 name = none := by
  induction entries generalizing state with
  | nil => exact Or.inl rfl
  | cons entry rest ih =>
    rw [List.foldl_cons]
    have one : (sweep_entry io file_name protected_name state entry).1 name = state.1 name ∨
        (sweep_entry io file_name protected_name state entry).1 name = none := by
      unfold sweep_entry
      split
      · split
        · split
          · exact sweep_file_removes io state.1 _ name
          · exact Or.inl rfl
        · split <;> exact Or.inl rfl
      · exact Or.inl rfl
    rcases ih (sweep_entry io file_name protected_name state entry) with kept | gone
    · rw [kept]
      exact one
    · exact Or.inr gone

/-- SRC: fsio.rs:269-316 -/
theorem maintain_config_artifacts_removes (file_name : String) (protected_name : Option String)
    (files : Files) (name : String) :
    maintain_config_artifacts io file_name protected_name files name = files name ∨
      maintain_config_artifacts io file_name protected_name files name = none := by
  unfold maintain_config_artifacts
  cases io.read_dir with
  | none => exact Or.inl rfl
  | some entries =>
    dsimp only
    rcases sweep_files_remove io name _ _ with kept | gone
    · rw [kept]
      exact sweep_entries_remove io file_name protected_name name entries (files, [])
    · exact Or.inr gone

end Sweep

/-- A temporary name that the writer makes is one the sweep takes. -/
theorem sweepable_temporary_name (pid : Nat) (file_name : String) (sequence : Nat) :
    Sweepable file_name (temporary_name pid file_name sequence) := by
  left
  unfold starts_with temporary_name
  rw [List.isPrefixOf_iff_prefix, String.toList_append]
  exact List.prefix_append _ _

/-! ## One attempt -/

/-- What an attempt to write under a name leaves. -/
structure AttemptLeaves (io : WriteIo) (platform : Platform) (file_name : String)
    (contents : List UInt8) (files : Files) (outcome : Except IoError Unit × Files) : Prop where
  outside : ∀ name, ¬ Sweepable file_name name → name ≠ file_name →
    outcome.2 name = files name
  debris : ∀ name, Sweepable file_name name → files name = none → outcome.2 name ≠ none →
    io.removes = false ∧ ∃ sequence, name = temporary_name io.pid file_name sequence
  own : (outcome.2 file_name = files file_name ∧ ∃ error, outcome.1 = .error error) ∨
    (files file_name = none ∧ outcome.2 file_name = some contents ∧
      outcome.1 = (sync_parent_directory platform io).elim (.ok ()) .error)

section Attempt

variable {io : WriteIo} {platform : Platform} {file_name : String} {contents : List UInt8}
  {files : Files}

/-- A file is moved only where nothing has its name. -/
theorem absent_of_moved {temporary : String} (other : temporary ≠ file_name)
    (moves : unmoved io platform (finalize_new io) file_name contents temporary files = none) :
    files file_name = none := by
  unfold unmoved at moves
  split at moves
  · cases moves
  · split at moves
    · cases moves
    · by_contra taken
      have there : (files.write temporary contents) file_name = files file_name :=
        Function.update_of_ne other.symm _ _
      have refused : ((finalize_new io).call (files.write temporary contents) temporary
          file_name).1 = .error ⟨.AlreadyExists, "destination already exists"⟩ := by
        show (move_file io false (files.write temporary contents) temporary file_name).1 = _
        unfold move_file
        rw [there, if_pos]
        simp only [Bool.not_false, Bool.true_and]
        exact Option.isSome_iff_ne_none.mpr taken
      rw [refused] at moves
      cases moves

/-- SRC: fsio.rs:158-186 -/
theorem attempt_leaves : AttemptLeaves io platform file_name contents files
    (atomic_write io platform (finalize_new io) (some file_name) contents files) := by
  have swept := maintain_config_artifacts_removes io file_name none files
  have unswept : ∀ name, ¬ Sweepable file_name name →
      maintain_config_artifacts io file_name none files name = files name :=
    fun name outside => maintain_config_artifacts_keeps io none files outside
  unfold atomic_write create_temporary_file
  dsimp only
  generalize maintain_config_artifacts io file_name none files = clean at swept unswept ⊢
  have own := unswept file_name (not_sweepable_self file_name)
  have absent : ∀ name, files name = none → clean name = none := by
    intro name missing
    rcases swept name with kept | gone
    · exact kept.trans missing
    · exact gone
  rcases create_new_spec io file_name clean (List.range 128) with
    ⟨sequence, unused, made⟩ | ⟨error, failed⟩
  · rw [made]
    have other := temporary_name_ne io.pid file_name sequence
    have temporary_sweepable := sweepable_temporary_name io.pid file_name sequence
    generalize temporary_eq : temporary_name io.pid file_name sequence = temporary at *
    dsimp only
    have there : (clean.write temporary []) temporary = some [] := Function.update_self _ _ _
    have elsewhere : ∀ name bytes, name ≠ temporary →
        ((clean.write temporary []).write temporary bytes) name = clean name := by
      intro name bytes apart
      exact (Function.update_of_ne apart _ _).trans (Function.update_of_ne apart _ _)
    cases stays : unmoved io platform (finalize_new io) file_name contents temporary
        (clean.write temporary []) with
    | some error =>
      obtain ⟨bytes, left⟩ := finish_write_unmoved io there stays
      rw [left]
      refine ⟨?_, ?_, Or.inl ⟨?_, error, rfl⟩⟩
      · intro name outside _
        have apart : name ≠ temporary := by
          rintro rfl
          exact outside temporary_sweepable
        dsimp only
        rw [remove_temporary_of_ne io apart, elsewhere name bytes apart]
        exact unswept name outside
      · intro name _ missing found
        by_cases same : name = temporary
        · subst same
          refine ⟨?_, sequence, temporary_eq.symm⟩
          have kept := mt (remove_temporary_self io).mpr found
          exact Bool.eq_false_of_not_eq_true kept
        · dsimp only at found
          rw [remove_temporary_of_ne io same, elsewhere name bytes same] at found
          exact absurd (absent name missing) found
      · dsimp only
        rw [remove_temporary_of_ne io other.symm, elsewhere file_name bytes other.symm]
        exact own
    | none =>
      rw [finish_write_moved io stays]
      have renamed := rename_to (clean.write temporary []) contents other
      refine ⟨?_, ?_, Or.inr ⟨?_, renamed.1, rfl⟩⟩
      · intro name outside apart
        have not_temporary : name ≠ temporary := by
          rintro rfl
          exact outside temporary_sweepable
        have kept : ((clean.write temporary []).write temporary contents).rename temporary file_name
            name = clean name := by
          unfold Files.rename Files.remove
          rw [Function.update_of_ne apart, Function.update_of_ne not_temporary]
          exact elsewhere name contents not_temporary
        exact kept.trans (unswept name outside)
      · intro name sweepable missing found
        exfalso
        apply found
        by_cases same : name = temporary
        · rw [same]
          exact renamed.2
        · have apart : name ≠ file_name := by
            rintro rfl
            exact not_sweepable_self _ sweepable
          show ((clean.write temporary []).write temporary contents).rename temporary file_name
            name = none
          unfold Files.rename Files.remove
          rw [Function.update_of_ne apart, Function.update_of_ne same]
          exact (elsewhere name contents same).trans (absent name missing)
      · have free := absent_of_moved other stays
        have same : (clean.write temporary []) file_name = clean file_name :=
          Function.update_of_ne other.symm _ _
        rw [← own, ← same]
        exact free
  · rw [failed]
    refine ⟨fun name outside _ => unswept name outside, ?_, Or.inl ⟨own, error, rfl⟩⟩
    intro name _ missing found
    exact absurd (absent name missing) found

end Attempt

/-! ## The names -/

section Names

variable (style : PathStyle) (directory : List Component) (stem extension : List Char)

/-- The name an attempt writes under, where it is in the directory. -/
def capture_name (attempt : Nat) : Option String :=
  (resolve style directory (candidate_stem stem attempt) extension).bind file_name_of

/-- What a name is behind a drive of its own. -/
def behind_drive (name : List Char) : List Char :=
  match drive_of style name with
  | some (_, rest) => rest
  | none => name

/-- What is put behind a stem makes no drive of it. -/
theorem behind_drive_append {c : Char} (no_colon : c ≠ ':') (no_letter : c.isAlpha = false)
    (rest : List Char) :
    behind_drive style (stem ++ c :: rest) = behind_drive style stem ++ c :: rest := by
  cases style with
  | Posix => rfl
  | Drives =>
    rcases stem with _ | ⟨first, _ | ⟨second, stem⟩⟩
    · have no_drive : drive_of .Drives (c :: rest) = none := by
        unfold drive_of
        split
        next drive rest letter =>
          obtain ⟨rfl, -⟩ := List.cons.inj letter
          rw [no_letter]
          rfl
        next => rfl
      show behind_drive .Drives (c :: rest) = c :: rest
      unfold behind_drive
      rw [no_drive]
    · have no_drive : drive_of .Drives (first :: c :: rest) = none := by
        unfold drive_of
        split
        next drive rest letter =>
          obtain ⟨-, letter⟩ := List.cons.inj letter
          exact absurd (List.cons.inj letter).1 no_colon
        next => rfl
      show behind_drive .Drives (first :: c :: rest) = first :: c :: rest
      unfold behind_drive
      rw [no_drive]
    · by_cases colon : second = ':'
      · subst colon
        have drive : ∀ rest, behind_drive .Drives (first :: ':' :: rest) =
            if first.isAlpha then rest else first :: ':' :: rest := by
          intro rest
          unfold behind_drive drive_of
          cases letter : first.isAlpha with
          | true => simp [letter]
          | false => simp [letter]
        show behind_drive .Drives (first :: ':' :: (stem ++ c :: rest)) =
          behind_drive .Drives (first :: ':' :: stem) ++ c :: rest
        rw [drive, drive]
        split <;> rfl
      · have no_drive : ∀ rest, drive_of .Drives (first :: second :: rest) = none := by
          intro rest
          unfold drive_of
          split
          next drive rest letter =>
            obtain ⟨-, letter⟩ := List.cons.inj letter
            exact absurd (List.cons.inj letter).1 colon
          next => rfl
        show behind_drive .Drives (first :: second :: (stem ++ c :: rest)) =
          behind_drive .Drives (first :: second :: stem) ++ c :: rest
        unfold behind_drive
        rw [no_drive, no_drive]
        rfl

/-- What the name of an attempt is made of. -/
def number_of (attempt : Nat) : List Char :=
  if attempt = 0 then [] else '-' :: (toString (attempt + 1)).toList

/-- A number that is tried has at most four digits. -/
theorem number_of_le {attempt : Nat} (tried : attempt < MAX_COLLISION_ATTEMPTS) :
    (number_of attempt).length ≤ 4 := by
  have each : ∀ attempt ∈ List.range MAX_COLLISION_ATTEMPTS, (number_of attempt).length ≤ 4 := by
    decide
  exact each attempt (List.mem_range.mpr tried)

variable {style directory stem extension}

/-- A path ends in the name its last component spells. -/
theorem name_of_component {path : List Component} {text : List Char} {name : String}
    (file : file_name_of (path ++ name_component text) = some name)
    (moved : name_component text = [] → file_name_of path = none) : name.toList = text := by
  unfold name_component at file moved
  split at file
  next nothing =>
    rw [if_pos nothing] at moved
    rw [List.append_nil, moved rfl] at file
    cases file
  next =>
    split at file
    next =>
      unfold file_name_of at file
      rw [List.getLast?_concat] at file
      cases file
    next =>
      unfold file_name_of at file
      rw [List.getLast?_concat] at file
      obtain rfl := Option.some.inj file
      exact String.toList_ofList

/-- SRC: filename_template.rs:177-180 -/
theorem name_of_resolved {text : List Char} {name : String}
    (inside : is_inside directory (join style directory text) = true)
    (file : file_name_of (join style directory text) = some name) :
    name.toList = behind_drive style text := by
  unfold join at inside file
  unfold behind_drive
  cases drive : drive_of style text with
  | some found =>
    obtain ⟨letter, rest⟩ := found
    rw [drive] at file
    exact @name_of_component [.Prefix letter] rest name file fun _ => rfl
  | none =>
    rw [drive] at inside file
    dsimp only at inside file
    refine name_of_component file fun nothing => ?_
    -- A directory is not its own parent.
    rw [nothing, List.append_nil] at inside
    unfold is_inside parent at inside
    unfold file_name_of
    cases last : directory.getLast? with
    | none => rfl
    | some component =>
      exfalso
      rw [last] at inside
      have nonempty : directory ≠ [] := by
        rintro rfl
        cases last
      have shorter : directory.dropLast ≠ directory := by
        intro same
        have lengths := congrArg List.length same
        rw [List.length_dropLast] at lengths
        have positive := List.length_pos_of_ne_nil nonempty
        omega
      split at inside
      · cases inside
      · cases component <;> simp [shorter] at inside

/-- SRC: filename_template.rs:177-180, file_output.rs:528-532 -/
theorem capture_name_eq {attempt : Nat} {name : String}
    (named : capture_name style directory stem extension attempt = some name) :
    name.toList = behind_drive style stem ++ (number_of attempt ++ '.' :: extension) := by
  unfold capture_name at named
  obtain ⟨path, resolved, file⟩ := Option.bind_eq_some_iff.mp named
  unfold resolve at resolved
  dsimp only at resolved
  split at resolved
  next inside =>
    obtain rfl := Option.some.inj resolved
    rw [name_of_resolved inside.2 file]
    unfold candidate_stem number_of
    split
    · exact behind_drive_append style stem (by decide) (by decide) extension
    · rw [List.append_assoc]
      exact behind_drive_append style stem (by decide) (by decide) _
  next => cases resolved

/-- **No name is swept beside another.** -/
theorem capture_names_apart {attempt other : Nat} {name swept : String}
    (tried : attempt < MAX_COLLISION_ATTEMPTS)
    (named : capture_name style directory stem extension attempt = some name)
    (other_named : capture_name style directory stem extension other = some swept) :
    ¬ Sweepable swept name := by
  have length := congrArg List.length (capture_name_eq named)
  have other_length := congrArg List.length (capture_name_eq other_named)
  have number := number_of_le tried
  simp only [List.length_append, List.length_cons, String.length_toList] at length other_length
  rintro (starts | starts)
  · have longer := length_le_of_starts_with starts
    rw [length_temporary_prefix_of] at longer
    omega
  · have longer := length_le_of_starts_with starts
    rw [length_corrupt_prefix_of] at longer
    omega

end Names

/-! ## Every attempt -/

section Attempts

variable {io : Nat → WriteIo} {platform : Platform} {style : PathStyle}
  {directory : List Component} {stem extension : List Char} {contents : List UInt8}

/-- An attempt's parent directory could not be synced once the file was there. -/
def Unsynced (io : Nat → WriteIo) (platform : Platform) (attempt : Nat) : Prop :=
  sync_parent_directory platform (io attempt) ≠ none

/-- What attempts leave of the files before them. -/
structure AttemptsLeave (io : Nat → WriteIo) (platform : Platform) (names : Nat → Option String)
    (contents : List UInt8) (attempts : List Nat) (files : Files)
    (outcome : Except CaptureWriteError (List Component × Nat) × Files) : Prop where
  /-- a name that no sweep is for keeps its file, or is the capture's -/
  fate : ∀ name, (∀ attempt ∈ attempts, ∀ tried, names attempt = some tried →
      ¬ Sweepable tried name) →
    outcome.2 name = files name ∨
      (files name = none ∧ outcome.2 name = some contents ∧
        ∃ attempt ∈ attempts, names attempt = some name ∧
          (Unsynced io platform attempt ∨ ∃ path, outcome.1 = .ok (path, attempt)))
  /-- what is new is the capture, or a temporary file whose removal was refused -/
  made : ∀ name, files name = none → outcome.2 name ≠ none →
    (outcome.2 name = some contents ∧ ∃ attempt ∈ attempts, names attempt = some name ∧
      (Unsynced io platform attempt ∨ ∃ path, outcome.1 = .ok (path, attempt))) ∨
    ∃ attempt ∈ attempts, ∃ tried sequence, names attempt = some tried ∧
      name = temporary_name (io attempt).pid tried sequence ∧ (io attempt).removes = false
  on_ok : ∀ path attempt, outcome.1 = .ok (path, attempt) → attempt ∈ attempts ∧
    ∃ name, file_name_of path = some name ∧ names attempt = some name ∧ files name = none ∧
      outcome.2 name = some contents

/-- Attempts that touch nothing. -/
theorem attempts_leave_all {names : Nat → Option String} {attempts : List Nat} {files : Files}
    {error : CaptureWriteError} :
    AttemptsLeave io platform names contents attempts files (.error error, files) where
  fate _ _ := Or.inl rfl
  made _ missing found := absurd missing found
  on_ok _ _ ok := by cases ok

/-- A name that the attempt's sweep is not for, after an attempt that failed. -/
theorem failed_attempt {attempt : Nat} {tried name : String} {files between : Files}
    {error : IoError}
    (leaves : AttemptLeaves (io attempt) platform tried contents files (.error error, between))
    (outside : ¬ Sweepable tried name) :
    between name = files name ∨ (name = tried ∧ files name = none ∧
      between name = some contents ∧ Unsynced io platform attempt) := by
  by_cases same : name = tried
  · subst same
    rcases leaves.own with ⟨kept, -⟩ | ⟨missing, written, failed⟩
    · exact Or.inl kept
    · refine Or.inr ⟨rfl, missing, written, ?_⟩
      intro synced
      rw [synced] at failed
      cases failed
  · exact Or.inl (leaves.outside name outside same)

/-- **One attempt that failed, and the rest.** -/
theorem attempts_leave_cons {names : Nat → Option String} {attempt : Nat} {rest : List Nat}
    {tried : String} {files : Files} {error : IoError} {between : Files}
    {outcome : Except CaptureWriteError (List Component × Nat) × Files}
    (apart : ∀ first ∈ attempt :: rest, ∀ second ∈ attempt :: rest, ∀ name swept,
      names first = some name → names second = some swept → ¬ Sweepable swept name)
    (named : names attempt = some tried)
    (leaves : AttemptLeaves (io attempt) platform tried contents files (.error error, between))
    (others : AttemptsLeave io platform names contents rest between outcome) :
    AttemptsLeave io platform names contents (attempt :: rest) files outcome := by
  have own := List.mem_cons_self (a := attempt) (l := rest)
  have later : ∀ {other}, other ∈ rest → other ∈ attempt :: rest :=
    fun member => List.mem_cons_of_mem attempt member
  -- What this attempt has left under its name stays there.
  have published : between tried = some contents → outcome.2 tried = some contents := by
    intro written
    rcases others.fate tried (fun other member swept swept_named =>
        apart attempt own other (later member) tried swept named swept_named) with
      kept | ⟨missing, -⟩
    · rw [kept, written]
    · rw [written] at missing
      cases missing
  refine ⟨?_, ?_, ?_⟩
  · intro name outside
    have before := failed_attempt leaves (outside attempt own tried named)
    rcases others.fate name (fun other member => outside other (later member)) with
      kept | ⟨missing, written, other, member, other_named, how⟩
    · rcases before with same | ⟨rfl, missing, written, unsynced⟩
      · exact Or.inl (kept.trans same)
      · exact Or.inr ⟨missing, kept.trans written, attempt, own, named, Or.inl unsynced⟩
    · rcases before with same | ⟨-, -, written', -⟩
      · exact Or.inr ⟨same ▸ missing, written, other, later member, other_named, how⟩
      · rw [missing] at written'
        cases written'
  · intro name missing found
    by_cases absent : between name = none
    · rcases others.made name absent found with
        ⟨written, other, member, other_named, how⟩ | ⟨other, member, swept, sequence, left⟩
      · exact Or.inl ⟨written, other, later member, other_named, how⟩
      · exact Or.inr ⟨other, later member, swept, sequence, left⟩
    · by_cases sweepable : Sweepable tried name
      · obtain ⟨kept, sequence, name_eq⟩ := leaves.debris name sweepable missing absent
        exact Or.inr ⟨attempt, own, tried, sequence, named, name_eq, kept⟩
      · rcases failed_attempt leaves sweepable with same | ⟨rfl, -, written, unsynced⟩
        · exact absurd (same.trans missing) absent
        · exact Or.inl ⟨published written, attempt, own, named, Or.inl unsynced⟩
  · intro path other ok
    obtain ⟨member, name, file, other_named, missing, written⟩ := others.on_ok path other ok
    refine ⟨later member, name, file, other_named, ?_, written⟩
    rcases failed_attempt leaves (apart other (later member) attempt own name tried other_named
        named) with same | ⟨-, missing', -, -⟩
    · exact same ▸ missing
    · exact missing'

/-- An attempt that succeeded. -/
theorem attempts_leave_ok {names : Nat → Option String} {attempt : Nat} {rest : List Nat}
    {path : List Component} {tried : String} {files after : Files}
    (file : file_name_of path = some tried) (named : names attempt = some tried)
    (leaves : AttemptLeaves (io attempt) platform tried contents files (.ok (), after)) :
    AttemptsLeave io platform names contents (attempt :: rest) files
      (.ok (path, attempt), after) := by
  have own := List.mem_cons_self (a := attempt) (l := rest)
  obtain ⟨missing, written⟩ : files tried = none ∧ after tried = some contents := by
    rcases leaves.own with ⟨-, error, failed⟩ | ⟨missing, written, -⟩
    · cases failed
    · exact ⟨missing, written⟩
  refine ⟨?_, ?_, ?_⟩
  · intro name outside
    by_cases same : name = tried
    · subst same
      exact Or.inr ⟨missing, written, attempt, own, named, Or.inr ⟨path, rfl⟩⟩
    · exact Or.inl (leaves.outside name (outside attempt own tried named) same)
  · intro name absent found
    by_cases sweepable : Sweepable tried name
    · obtain ⟨kept, sequence, name_eq⟩ := leaves.debris name sweepable absent found
      exact Or.inr ⟨attempt, own, tried, sequence, named, name_eq, kept⟩
    · by_cases same : name = tried
      · subst same
        exact Or.inl ⟨written, attempt, own, named, Or.inr ⟨path, rfl⟩⟩
      · exact absurd ((leaves.outside name sweepable same).trans absent) found
  · rintro path' attempt' ok
    cases ok
    exact ⟨own, tried, file, named, missing, written⟩

/-- **The attempts.**
SRC: file_output.rs:527-548 -/
theorem write_attempts_leave (io : Nat → WriteIo) (platform : Platform) (style : PathStyle)
    (directory : List Component) (stem extension : List Char) (contents : List UInt8)
    {attempts : List Nat} (within : ∀ attempt ∈ attempts, attempt < MAX_COLLISION_ATTEMPTS)
    (files : Files) :
    AttemptsLeave io platform (capture_name style directory stem extension) contents attempts files
      (write_attempts io platform style directory stem extension contents attempts files) := by
  induction attempts generalizing files with
  | nil => exact attempts_leave_all
  | cons attempt rest ih =>
    unfold write_attempts
    cases resolved : resolve style directory (candidate_stem stem attempt) extension with
    | none => exact attempts_leave_all
    | some path =>
      have named : capture_name style directory stem extension attempt = file_name_of path := by
        unfold capture_name
        rw [resolved]
        rfl
      dsimp only
      cases file : file_name_of path with
      | none => exact attempts_leave_all
      | some tried =>
        rw [file] at named
        have leaves : AttemptLeaves (io attempt) platform tried contents files _ := attempt_leaves
        generalize atomic_write (io attempt) platform (finalize_new (io attempt)) (some tried)
          contents files = outcome at leaves ⊢
        obtain ⟨result, between⟩ := outcome
        cases result with
        | ok done => exact attempts_leave_ok file named leaves
        | error error =>
          have apart : ∀ first ∈ attempt :: rest, ∀ second ∈ attempt :: rest, ∀ name swept,
              capture_name style directory stem extension first = some name →
              capture_name style directory stem extension second = some swept →
              ¬ Sweepable swept name :=
            fun first member _ _ _ _ named other_named =>
              capture_names_apart (within first member) named other_named
          dsimp only
          split
          · apply attempts_leave_cons apart named leaves
            exact ih (fun other member => within other (List.mem_cons_of_mem attempt member))
              between
          · exact attempts_leave_cons apart named leaves attempts_leave_all

/-- **Writing a capture is a frame operation**: it writes one file that was not there, whole. -/
structure CaptureWritten (io : Nat → WriteIo) (platform : Platform) (names : Nat → Option String)
    (contents : List UInt8) (files : Files)
    (outcome : Except CaptureWriteError (List Component × Nat) × Files) : Prop where
  kept : ∀ name bytes, files name = some bytes →
    (∀ attempt tried, attempt < MAX_COLLISION_ATTEMPTS → names attempt = some tried →
      ¬ Sweepable tried name) →
    outcome.2 name = some bytes
  on_ok : ∀ path attempt, outcome.1 = .ok (path, attempt) →
    ∃ name, file_name_of path = some name ∧ names attempt = some name ∧ files name = none ∧
      outcome.2 name = some contents ∧
      ∀ other, files other = none → outcome.2 other ≠ none → other = name ∨
        (∃ unsynced < MAX_COLLISION_ATTEMPTS, names unsynced = some other ∧
          Unsynced io platform unsynced) ∨
        ∃ refused tried sequence, refused < MAX_COLLISION_ATTEMPTS ∧ names refused = some tried ∧
          other = temporary_name (io refused).pid tried sequence ∧ (io refused).removes = false
  on_error : ∀ error, outcome.1 = .error error →
    ∀ attempt name, attempt < MAX_COLLISION_ATTEMPTS → names attempt = some name →
      files name = none → outcome.2 name = none ∨
        (outcome.2 name = some contents ∧ ∃ unsynced < MAX_COLLISION_ATTEMPTS,
          names unsynced = some name ∧ Unsynced io platform unsynced)

variable (io platform style directory stem extension contents) in
/-- SRC: file_output.rs:521-553 -/
theorem capture_written (files : Files) :
    CaptureWritten io platform (capture_name style directory stem extension) contents files
      (write_without_clobbering io platform style directory stem extension contents files) := by
  have leave := write_attempts_leave io platform style directory stem extension contents
    (fun _ (member : _ ∈ List.range MAX_COLLISION_ATTEMPTS) => List.mem_range.mp member) files
  refine ⟨?_, ?_, ?_⟩
  · intro name bytes there outside
    rcases leave.fate name (fun attempt member tried named =>
        outside attempt tried (List.mem_range.mp member) named) with kept | ⟨missing, -⟩
    · exact kept.trans there
    · rw [there] at missing
      cases missing
  · intro path attempt ok
    obtain ⟨-, name, file, named, missing, written⟩ := leave.on_ok path attempt ok
    refine ⟨name, file, named, missing, written, ?_⟩
    intro other absent found
    rcases leave.made other absent found with
      ⟨-, tried, member, tried_named, how⟩ | ⟨refused, member, tried, sequence, tried_named, left⟩
    · rcases how with unsynced | ⟨path', ok'⟩
      · exact Or.inr (Or.inl ⟨tried, List.mem_range.mp member, tried_named, unsynced⟩)
      · change (write_without_clobbering io platform style directory stem extension contents
          files).1 = _ at ok'
        rw [ok] at ok'
        cases ok'
        rw [named] at tried_named
        exact Or.inl (Option.some.inj tried_named).symm
    · exact Or.inr (Or.inr ⟨refused, tried, sequence, List.mem_range.mp member, tried_named, left⟩)
  · intro error failed attempt name tried named missing
    have outside : ∀ other ∈ List.range MAX_COLLISION_ATTEMPTS, ∀ swept,
        capture_name style directory stem extension other = some swept → ¬ Sweepable swept name :=
      fun _ _ _ other_named => capture_names_apart tried named other_named
    rcases leave.fate name outside with kept | ⟨-, written, other, member, other_named, how⟩
    · exact Or.inl (kept.trans missing)
    · rcases how with unsynced | ⟨path, ok⟩
      · exact Or.inr ⟨written, other, List.mem_range.mp member, other_named, unsynced⟩
      · change (write_without_clobbering io platform style directory stem extension contents
          files).1 = _ at ok
        rw [failed] at ok
        cases ok

end Attempts

/-! ## Notes in the directory -/

/-- Eight days after the epoch; every call succeeds but the sync of the parent directory. -/
def note_io (read_dir : Option (List DirEntry)) : WriteIo where
  pid := 1
  now := 691200000000000
  read_dir := read_dir
  sweeps := fun _ => true
  sequence := id
  create := fun _ => none
  metadata := none
  set_permissions := none
  write := none
  rename := none
  removes := true
  sync_parent := some ⟨.Other, "input/output error"⟩

/-- The user's notes, listed as they were left at the epoch. -/
def note_entries : List DirEntry := [⟨some ".shot.png.tmp-notes", some (some 0)⟩]

def note_files : Files := fun name => if name = ".shot.png.tmp-notes" then some [1] else none

/-- The sweep removes a file of the user's own whose name looks like a temporary. -/
theorem notes_swept : maintain_config_artifacts (note_io (some note_entries)) "shot.png" none
    note_files = note_files.remove ".shot.png.tmp-notes" := by
  show (((([] : List Corrupt).mergeSort Corrupt.before).drop CORRUPT_ARTIFACT_RETENTION).map
    Corrupt.name).foldl (sweep_file (note_io (some note_entries)))
      (note_files.remove ".shot.png.tmp-notes") = _
  rw [List.mergeSort_nil]
  rfl

/-- The files after a capture is written beside the notes, on Windows. -/
theorem notes_removed :
    (write_without_clobbering (fun _ => note_io (some note_entries)) .Windows .Drives
      [.Prefix 'C', .RootDir] "shot".toList "png".toList [7] note_files).2 ".shot.png.tmp-notes" =
        none := by
  have attempt : (atomic_write (note_io (some note_entries)) .Windows
      (finalize_new (note_io (some note_entries))) (some "shot.png") [7] note_files) =
        (.ok (), (((note_files.remove ".shot.png.tmp-notes").write ".shot.png.tmp-1-0" []).write
          ".shot.png.tmp-1-0" [7]).rename ".shot.png.tmp-1-0" "shot.png") := by
    unfold atomic_write create_temporary_file
    dsimp only
    rw [notes_swept]
    rfl
  have first : List.range MAX_COLLISION_ATTEMPTS = 0 :: List.range' 1 99 := rfl
  have resolved : resolve .Drives [.Prefix 'C', .RootDir] (candidate_stem "shot".toList 0)
      "png".toList = some [.Prefix 'C', .RootDir, .Normal "shot.png".toList] := by decide
  have file : file_name_of [.Prefix 'C', .RootDir, .Normal "shot.png".toList] =
      some "shot.png" := rfl
  unfold write_without_clobbering
  rw [first]
  unfold write_attempts
  rw [resolved]
  dsimp only
  rw [file, attempt]
  rfl

/-- On Windows, an old file whose name begins as a temporary one is gone after a capture is written;
on Unix, a capture that failed is there. -/
theorem stale_notes_swept :
    (note_files ".shot.png.tmp-notes" = some [1] ∧
      (write_without_clobbering (fun _ => note_io (some note_entries)) .Windows .Drives
        [.Prefix 'C', .RootDir] "shot".toList "png".toList [7] note_files).2
          ".shot.png.tmp-notes" = none) ∧
    ∃ error, (write_without_clobbering (fun _ => note_io none) .Unix .Posix [.RootDir]
        "shot".toList "png".toList [7] note_files).1 = .error error ∧
      note_files "shot.png" = none ∧
      (write_without_clobbering (fun _ => note_io none) .Unix .Posix [.RootDir] "shot".toList
        "png".toList [7] note_files).2 "shot.png" = some [7] :=
  ⟨⟨by decide, notes_removed⟩, _, rfl, by decide, by decide⟩

end Captastic.Analysis
