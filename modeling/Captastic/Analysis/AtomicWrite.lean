import Captastic.Model.Fsio

/-!
# A write is all or nothing

A write that goes wrong before its file is moved leaves the destination alone, and one that
moves it leaves exactly the new bytes.  Two things escape: a temporary file whose removal
fails stays, and an error in syncing the parent directory is reported after the file has
been moved.  `atomic_write_iff` says that nothing else does.
-/

set_option autoImplicit false

namespace Captastic.Analysis

open Captastic.Model

variable (io : WriteIo)

/-! ## Names -/

/-- The prefix of a temporary name is six characters longer than the file's name. -/
theorem length_temporary_prefix_of (file_name : String) :
    (temporary_prefix_of file_name).length = file_name.length + 6 := by
  unfold temporary_prefix_of
  rw [String.length_append, String.length_append]
  have dot : ".".length = 1 := rfl
  have tmp : ".tmp-".length = 5 := rfl
  omega

/-- That of a corrupt one is nine characters longer. -/
theorem length_corrupt_prefix_of (file_name : String) :
    (corrupt_prefix_of file_name).length = file_name.length + 9 := by
  unfold corrupt_prefix_of
  rw [String.length_append]
  rfl

/-- A name is no shorter than what it starts with. -/
theorem length_le_of_starts_with {name start : String} (starts : starts_with name start = true) :
    start.length ≤ name.length := by
  unfold starts_with at starts
  rw [List.isPrefixOf_iff_prefix] at starts
  rw [← String.length_toList, ← String.length_toList]
  exact starts.length_le

/-- A temporary file is not the file. -/
theorem temporary_name_ne (pid : Nat) (file_name : String) (sequence : Nat) :
    temporary_name pid file_name sequence ≠ file_name := by
  intro same
  have lengths := congrArg String.length same
  unfold temporary_name at lengths
  rw [String.length_append, length_temporary_prefix_of] at lengths
  omega

/-! ## The sweep -/

/-- The names the sweep beside a file may remove. -/
def Sweepable (file_name name : String) : Prop :=
  starts_with name (temporary_prefix_of file_name) = true ∨
    starts_with name (corrupt_prefix_of file_name) = true

/-- The file is never swept. -/
theorem not_sweepable_self (file_name : String) : ¬ Sweepable file_name file_name := by
  rintro (starts | starts)
  · have longer := length_le_of_starts_with starts
    rw [length_temporary_prefix_of] at longer
    omega
  · have longer := length_le_of_starts_with starts
    rw [length_corrupt_prefix_of] at longer
    omega

/-- Sweeping one file leaves the others. -/
theorem sweep_file_of_ne {files : Files} {name swept : String} (other : name ≠ swept) :
    sweep_file io files swept name = files name := by
  unfold sweep_file
  split
  · exact Function.update_of_ne other _ _
  · rfl

/-- Sweeping several leaves the rest. -/
theorem sweep_files_of_ne {name : String} (swept : List String)
    (others : ∀ other ∈ swept, name ≠ other) (files : Files) :
    swept.foldl (sweep_file io) files name = files name := by
  induction swept generalizing files with
  | nil => rfl
  | cons first rest ih =>
    rw [List.foldl_cons, ih fun other member => others other (List.mem_cons_of_mem first member)]
    exact sweep_file_of_ne io (others first List.mem_cons_self)

/-- **One entry**: a name that the sweep may not remove holds what it held, and what is set
aside as quarantined has a name it may remove. -/
theorem sweep_entry_keeps {file_name name : String} {protected_name : Option String}
    {files : Files} {state : Files × List Corrupt} (outside : ¬ Sweepable file_name name)
    (kept : state.1 name = files name)
    (quarantined : ∀ one ∈ state.2, Sweepable file_name one.name) (entry : DirEntry) :
    (sweep_entry io file_name protected_name state entry).1 name = files name ∧
      ∀ one ∈ (sweep_entry io file_name protected_name state entry).2,
        Sweepable file_name one.name := by
  unfold sweep_entry
  split
  · split
    · rename_i starts
      split
      · refine ⟨?_, quarantined⟩
        rw [← kept]
        apply sweep_file_of_ne
        rintro rfl
        exact outside (.inl starts)
      · exact ⟨kept, quarantined⟩
    · split
      · rename_i starts
        refine ⟨kept, fun one member => ?_⟩
        rcases List.mem_append.mp member with member | member
        · exact quarantined one member
        · rw [List.mem_singleton.mp member]
          exact .inr starts
      · exact ⟨kept, quarantined⟩
  · exact ⟨kept, quarantined⟩

/-- The whole sweep leaves every file that cannot be swept. -/
theorem sweep_entries_keep {file_name name : String} (protected_name : Option String)
    {files : Files} (outside : ¬ Sweepable file_name name) (entries : List DirEntry)
    {state : Files × List Corrupt} (kept : state.1 name = files name)
    (quarantined : ∀ one ∈ state.2, Sweepable file_name one.name) :
    (entries.foldl (sweep_entry io file_name protected_name) state).1 name = files name ∧
      ∀ one ∈ (entries.foldl (sweep_entry io file_name protected_name) state).2,
        Sweepable file_name one.name := by
  induction entries generalizing state with
  | nil => exact ⟨kept, quarantined⟩
  | cons entry rest ih =>
    rw [List.foldl_cons]
    obtain ⟨kept, quarantined⟩ := sweep_entry_keeps io outside kept quarantined entry
    exact ih kept quarantined

/-- **The sweep** leaves every name it may not remove as it was. -/
theorem maintain_config_artifacts_keeps {file_name name : String} (protected_name : Option String)
    (files : Files) (outside : ¬ Sweepable file_name name) :
    maintain_config_artifacts io file_name protected_name files name = files name := by
  unfold maintain_config_artifacts
  cases io.read_dir with
  | none => rfl
  | some entries =>
    dsimp only
    have nothing : ∀ one ∈ ([] : List Corrupt), Sweepable file_name one.name := nofun
    have same : (files, ([] : List Corrupt)).1 name = files name := rfl
    obtain ⟨kept, quarantined⟩ :=
      sweep_entries_keep io protected_name outside entries same nothing
    refine Eq.trans ?_ kept
    apply sweep_files_of_ne
    intro other member same
    obtain ⟨one, found, named⟩ := List.mem_map.mp member
    have sweepable := quarantined one (List.mem_mergeSort.mp (List.mem_of_mem_drop found))
    rw [named, ← same] at sweepable
    exact outside sweepable

/-! ## The temporary file -/

/-- **Creation**: a name beside the destination that nothing had, empty now, or an error and
nothing created. -/
theorem create_new_spec (file_name : String) (files : Files) (attempts : List Nat) :
    (∃ sequence, files (temporary_name io.pid file_name sequence) = none ∧
      create_new io file_name files attempts =
        (.ok (temporary_name io.pid file_name sequence),
          files.write (temporary_name io.pid file_name sequence) [])) ∨
      ∃ error, create_new io file_name files attempts = (.error error, files) := by
  induction attempts with
  | nil => exact .inr ⟨no_unique_name, rfl⟩
  | cons attempt rest ih =>
    unfold create_new
    dsimp only
    split
    · exact ih
    · rename_i unused
      cases io.create attempt with
      | none =>
        refine .inl ⟨io.sequence attempt, ?_, rfl⟩
        exact Option.not_isSome_iff_eq_none.mp unused
      | some error =>
        dsimp only
        split
        · exact ih
        · exact .inr ⟨error, rfl⟩

/-- The temporary file a write creates. -/
def created (path : Option String) (files : Files) : Option String :=
  path.bind fun file_name => (create_temporary_file io file_name files).1.toOption

/-! ## The rest of the write -/

variable (platform : Platform) (replace : Replace)

/-- Why a write does not come to move its temporary file. -/
def unmoved (file_name : String) (contents : List UInt8) (temporary : String) (files : Files) :
    Option IoError :=
  match preserve_existing_permissions platform io with
  | some error => some error
  | none =>
    match io.write with
    | some (error, _) => some error
    | none =>
      match (replace.call (files.write temporary contents) temporary file_name).1 with
      | .error error => some error
      | .ok () => none

variable {platform replace} {file_name temporary : String} {contents : List UInt8} {files : Files}

/-- **A write that moves nothing** differs from what it found in its temporary file alone,
which it asks to be removed. -/
theorem finish_write_unmoved {error : IoError} (there : files temporary = some [])
    (stays : unmoved io platform replace file_name contents temporary files = some error) :
    ∃ bytes, finish_write io platform replace file_name contents temporary files =
      (.error error, remove_temporary io (files.write temporary bytes) temporary) := by
  unfold unmoved at stays
  unfold finish_write
  revert stays
  cases preserve_existing_permissions platform io with
  | some refused =>
    intro stays
    obtain rfl := Option.some.inj stays
    have empty : files.write temporary [] = files := by
      unfold Files.write
      rw [← there]
      exact Function.update_eq_self temporary files
    exact ⟨[], by rw [empty]⟩
  | none =>
    cases io.write with
    | some failed =>
      intro stays
      obtain rfl := Option.some.inj stays
      exact ⟨failed.2, rfl⟩
    | none =>
      intro stays
      refine ⟨contents, ?_⟩
      dsimp only at stays ⊢
      rcases replace.whole (files.write temporary contents) temporary file_name with
        ⟨refusal, call⟩ | call
      · rw [call] at stays ⊢
        obtain rfl := Option.some.inj stays
        rfl
      · rw [call] at stays
        cases stays

/-- **A write that moves its file** leaves the destination with the new bytes and the
temporary name free, whatever syncing the parent directory says. -/
theorem finish_write_moved
    (moves : unmoved io platform replace file_name contents temporary files = none) :
    finish_write io platform replace file_name contents temporary files =
      ((sync_parent_directory platform io).elim (.ok ()) .error,
        (files.write temporary contents).rename temporary file_name) := by
  unfold unmoved at moves
  unfold finish_write
  revert moves
  cases preserve_existing_permissions platform io with
  | some refused => exact nofun
  | none =>
    cases io.write with
    | some failed => exact nofun
    | none =>
      intro moves
      dsimp only at moves ⊢
      rcases replace.whole (files.write temporary contents) temporary file_name with
        ⟨refusal, call⟩ | call
      · rw [call] at moves
        cases moves
      · rw [call]
        dsimp only
        cases sync_parent_directory platform io with
        | none => rfl
        | some error => rfl

/-- Removing the temporary file leaves the others. -/
theorem remove_temporary_of_ne {name : String} (other : name ≠ temporary) :
    remove_temporary io files temporary name = files name := by
  unfold remove_temporary
  split
  · exact Function.update_of_ne other _ _
  · rfl

/-- It is gone exactly where it can be removed. -/
theorem remove_temporary_self {bytes : List UInt8} :
    remove_temporary io (files.write temporary bytes) temporary temporary = none ↔
      io.removes = true := by
  unfold remove_temporary
  split
  · rename_i removed
    exact ⟨fun _ => removed, fun _ => Function.update_self _ _ _⟩
  · rename_i kept
    have there : (files.write temporary bytes) temporary = some bytes := Function.update_self _ _ _
    rw [there]
    exact ⟨nofun, fun removed => absurd removed kept⟩

/-- Renaming puts the contents in the file's place, and leaves no temporary file. -/
theorem rename_to (files : Files) (contents : List UInt8) (other : temporary ≠ file_name) :
    (files.write temporary contents).rename temporary file_name file_name = some contents ∧
      (files.write temporary contents).rename temporary file_name temporary = none := by
  unfold Files.rename
  constructor
  · rw [Function.update_self]
    exact Function.update_self _ _ _
  · rw [Function.update_of_ne other]
    exact Function.update_self _ _ _

/-! ## All or nothing -/

/-- What a write promises: the destination holds what it held or exactly the new bytes; after
an error it holds what it held and the file the write created is gone; after a success it holds
the new bytes. -/
structure AllOrNothing (before : Files) (path : Option String) (contents : List UInt8)
    (temporary : Option String) (outcome : Except IoError Unit × Files) : Prop where
  whole : outcome.2.found path = before.found path ∨ outcome.2.found path = some contents
  on_error : ∀ error, outcome.1 = .error error →
    outcome.2.found path = before.found path ∧ ∀ name ∈ temporary, outcome.2 name = none
  on_ok : outcome.1 = .ok () → outcome.2.found path = some contents

/-- Where a write keeps its promise: the removal of its temporary file succeeds if the file is
not moved, and if it is, the parent directory syncs or the bytes are those already there. -/
def WriteUndisturbed (io : WriteIo) (platform : Platform) (replace : Replace) (path : Option String)
    (contents : List UInt8) (files : Files) : Prop :=
  ∀ file_name ∈ path, ∀ temporary,
    (create_temporary_file io file_name files).1 = .ok temporary →
      if (unmoved io platform replace file_name contents temporary
          (create_temporary_file io file_name files).2).isSome then io.removes = true
      else sync_parent_directory platform io = none ∨ files file_name = some contents

/-- The two ways a write ends once its temporary file is there. -/
theorem finish_write_whole_iff (there : files temporary = some []) (other : temporary ≠ file_name)
    (before : Files) (same : files file_name = before file_name) :
    AllOrNothing before (some file_name) contents (some temporary)
        (finish_write io platform replace file_name contents temporary files) ↔
      if (unmoved io platform replace file_name contents temporary files).isSome then
        io.removes = true
      else sync_parent_directory platform io = none ∨ before file_name = some contents := by
  cases stays : unmoved io platform replace file_name contents temporary files with
  | some error =>
    obtain ⟨bytes, finished⟩ := finish_write_unmoved io there stays
    have unchanged : remove_temporary io (files.write temporary bytes) temporary file_name =
        before file_name := by
      rw [remove_temporary_of_ne io other.symm, ← same]
      exact Function.update_of_ne other.symm _ _
    rw [finished, Option.isSome_some, if_pos rfl]
    constructor
    · intro holds
      have gone := (holds.on_error error rfl).2 temporary rfl
      exact (remove_temporary_self io).mp gone
    · intro removes
      refine ⟨.inl unchanged, fun _ _ => ⟨unchanged, fun name member => ?_⟩, nofun⟩
      obtain rfl := Option.mem_some.mp member
      exact (remove_temporary_self io).mpr removes
  | none =>
    obtain ⟨written, gone⟩ := rename_to files contents other
    rw [finish_write_moved io stays, Option.isSome_none, if_neg Bool.false_ne_true]
    cases sync_parent_directory platform io with
    | none => exact ⟨fun _ => .inl rfl, fun _ => ⟨.inr written, nofun, fun _ => written⟩⟩
    | some error =>
      constructor
      · intro holds
        have unchanged := (holds.on_error error rfl).1
        exact .inr (unchanged.symm.trans written)
      · rintro (synced | held)
        · cases synced
        · refine ⟨.inr written, fun _ _ => ⟨written.trans held.symm, fun name member => ?_⟩, nofun⟩
          obtain rfl := Option.mem_some.mp member
          exact gone

/-- **A write is all or nothing** exactly where it is not disturbed. -/
theorem atomic_write_iff (platform : Platform) (replace : Replace) (path : Option String)
    (contents : List UInt8) (files : Files) :
    AllOrNothing files path contents (created io path files)
        (atomic_write io platform replace path contents files) ↔
      WriteUndisturbed io platform replace path contents files := by
  cases path with
  | none =>
    constructor
    · exact fun _ => nofun
    · exact fun _ => ⟨.inl rfl, fun _ _ => ⟨rfl, nofun⟩, nofun⟩
  | some file_name =>
    have swept : maintain_config_artifacts io file_name none files file_name = files file_name :=
      maintain_config_artifacts_keeps io none files (not_sweepable_self file_name)
    unfold created atomic_write WriteUndisturbed
    rw [Option.bind_some]
    rcases create_new_spec io file_name (maintain_config_artifacts io file_name none files)
      (List.range 128) with ⟨sequence, unused, made⟩ | ⟨error, refused⟩
    · have other := temporary_name_ne io.pid file_name sequence
      have made : create_temporary_file io file_name files = _ := made
      have there : ((maintain_config_artifacts io file_name none files).write
          (temporary_name io.pid file_name sequence) []) _ = some [] := Function.update_self _ _ _
      have same : ((maintain_config_artifacts io file_name none files).write
          (temporary_name io.pid file_name sequence) []) file_name = files file_name :=
        (Function.update_of_ne other.symm _ _).trans swept
      simp only [made, Except.toOption]
      rw [finish_write_whole_iff io there other files same]
      constructor
      · intro kept name named temporary same
        obtain rfl := Option.mem_some.mp named
        rw [made] at same ⊢
        obtain rfl := Except.ok.inj same
        exact kept
      · intro kept
        have kept := kept file_name rfl _ (congrArg Prod.fst made)
        rw [made] at kept
        exact kept
    · have refused : create_temporary_file io file_name files = _ := refused
      simp only [refused, Except.toOption]
      constructor
      · intro _ name named temporary same
        obtain rfl := Option.mem_some.mp named
        rw [refused] at same
        cases same
      · exact fun _ => ⟨.inl swept, fun _ _ => ⟨swept, nofun⟩, nofun⟩

/-! ## The file at the path -/

/-- A write comes to move its file onto the path. -/
def MovesFile (io : WriteIo) (platform : Platform) (replace : Replace) (path : Option String)
    (contents : List UInt8) (files : Files) : Prop :=
  ∃ file_name temporary, path = some file_name ∧
    (create_temporary_file io file_name files).1 = .ok temporary ∧
    unmoved io platform replace file_name contents temporary
      (create_temporary_file io file_name files).2 = none

/-- **The path** holds the new bytes once the file is moved, and what it held if it is not. -/
theorem atomic_write_found (platform : Platform) (replace : Replace) (path : Option String)
    (contents : List UInt8) (files : Files) :
    (MovesFile io platform replace path contents files ∧
      (atomic_write io platform replace path contents files).1 =
        (sync_parent_directory platform io).elim (.ok ()) .error ∧
      (atomic_write io platform replace path contents files).2.found path = some contents) ∨
    (¬ MovesFile io platform replace path contents files ∧
      (∃ error, (atomic_write io platform replace path contents files).1 = .error error) ∧
      (atomic_write io platform replace path contents files).2.found path = files.found path) := by
  cases path with
  | none =>
    refine .inr ⟨?_, ⟨no_file_name, rfl⟩, rfl⟩
    rintro ⟨file_name, temporary, named, -⟩
    cases named
  | some file_name =>
    have swept : maintain_config_artifacts io file_name none files file_name = files file_name :=
      maintain_config_artifacts_keeps io none files (not_sweepable_self file_name)
    unfold atomic_write MovesFile Files.found
    simp only [Option.bind_some]
    rcases create_new_spec io file_name (maintain_config_artifacts io file_name none files)
      (List.range 128) with ⟨sequence, -, made⟩ | ⟨error, refused⟩
    · have other := temporary_name_ne io.pid file_name sequence
      have made : create_temporary_file io file_name files = _ := made
      have there : ((maintain_config_artifacts io file_name none files).write
          (temporary_name io.pid file_name sequence) []) _ = some [] := Function.update_self _ _ _
      have same : ((maintain_config_artifacts io file_name none files).write
          (temporary_name io.pid file_name sequence) []) file_name = files file_name :=
        (Function.update_of_ne other.symm _ _).trans swept
      rw [made]
      dsimp only
      cases stays : unmoved io platform replace file_name contents
          (temporary_name io.pid file_name sequence)
          ((maintain_config_artifacts io file_name none files).write
            (temporary_name io.pid file_name sequence) []) with
      | none =>
        rw [finish_write_moved io stays]
        refine .inl ⟨⟨file_name, _, rfl, congrArg Prod.fst made, ?_⟩, rfl,
          (rename_to _ contents other).1⟩
        rw [made]
        exact stays
      | some error =>
        obtain ⟨bytes, finished⟩ := finish_write_unmoved io there stays
        rw [finished]
        refine .inr ⟨?_, ⟨error, rfl⟩, ?_⟩
        · rintro ⟨name, temporary, named, created, moves⟩
          cases named
          rw [made] at created moves
          cases created
          rw [stays] at moves
          cases moves
        · dsimp only
          rw [remove_temporary_of_ne io other.symm, ← same]
          exact Function.update_of_ne other.symm _ _
    · have refused : create_temporary_file io file_name files = _ := refused
      rw [refused]
      refine .inr ⟨?_, ⟨error, rfl⟩, swept⟩
      rintro ⟨name, temporary, named, created, -⟩
      cases named
      rw [refused] at created
      cases created

/-- A disk that takes the new bytes and the move but cannot flush the directory. -/
def unsynced_io : WriteIo where
  pid := 1
  now := 0
  read_dir := none
  sweeps := fun _ => true
  sequence := id
  create := fun _ => none
  metadata := none
  set_permissions := none
  write := none
  rename := none
  removes := true
  sync_parent := some ⟨.Other, "input/output error"⟩

/-- A directory with one file of one byte. -/
def one_file : Files := fun name => if name = "state" then some [1] else none

/-- The write reports an error, and the destination holds the new bytes. -/
theorem write_reported_lost :
    ¬ AllOrNothing one_file (some "state") [2] (created unsynced_io (some "state") one_file)
      (atomic_write unsynced_io .Unix (replace_file unsynced_io) (some "state") [2] one_file) := by
  intro promised
  have reported : (atomic_write unsynced_io .Unix (replace_file unsynced_io) (some "state") [2]
      one_file).1 = .error ⟨.Other, "input/output error"⟩ := by decide +kernel
  have replaced : (atomic_write unsynced_io .Unix (replace_file unsynced_io) (some "state") [2]
      one_file).2 "state" = some [2] := by decide +kernel
  have unchanged := (promised.on_error _ reported).1
  rw [Files.found, Option.bind_some, replaced] at unchanged
  exact absurd unchanged (by decide)

end Captastic.Analysis
