import Captastic.Analysis.AtomicWrite
import Captastic.Model.ConfigEdit
import Mathlib.Data.List.Perm.Subperm

/-!
# What changing a setting leaves as it was

`set_key` changes one value of a document and nothing else (`set_key_changes`), but with the value
goes every comment that belongs to it (`comments_survive_iff`).  A write that is not moved onto
the path leaves it as it was, and one that is leaves its contents there (`atomic_write_found`).
The passes over the file are put together in `set_setting_keeps_iff`.
-/

set_option autoImplicit false

namespace Captastic.Analysis

open Captastic.Library Captastic.Model

/-! ## Comments -/

/-- A text around something, where it holds a comment. -/
def comment_of (text : Option String) : List String :=
  match text with
  | some text => if '#' ∈ text.toList then [text] else []
  | none => []

def decor_comments (decor : Decor) : List String := comment_of decor.before ++ comment_of decor.after

mutual

/-- The comments of an item, those of everything in it among them. -/
def item_comments : TomlItem → List String
  | .scalar _ _ decor => decor_comments decor
  | .array decor values trailing =>
    decor_comments decor ++ values_comments values ++ comment_of (some trailing)
  | .inline_table decor preamble entries =>
    decor_comments decor ++ comment_of (some preamble) ++ entries_comments entries
  | .table decor _ _ entries => decor_comments decor ++ entries_comments entries
  | .array_of_tables tables => values_comments tables

def values_comments : List TomlItem → List String
  | [] => []
  | item :: rest => item_comments item ++ values_comments rest

def entries_comments : List (TomlKey × TomlItem) → List String
  | [] => []
  | (key, item) :: rest => decor_comments key.decor ++ item_comments item ++ entries_comments rest

end

/-- The comments of a document, from its first to its last. -/
def document_comments (document : Document) : List String :=
  decor_comments document.decor ++ entries_comments document.entries ++
    comment_of (some document.trailing)

/-- The comments of two parts are those of the first and those of the second. -/
theorem entries_comments_append (earlier later : List (TomlKey × TomlItem)) :
    entries_comments (earlier ++ later) = entries_comments earlier ++ entries_comments later := by
  induction earlier with
  | nil => rfl
  | cons entry rest ih =>
    obtain ⟨key, item⟩ := entry
    rw [List.cons_append, entries_comments, entries_comments, ih]
    simp only [List.append_assoc]

/-- A key and a value that a command makes have no comments. -/
theorem new_key_comments (name : String) : decor_comments (TomlKey.new name).decor = [] := rfl

/-- A value that is newly written has no comment of its own. -/
theorem toml_value_comments (value : SettingValue) : item_comments (toml_value value) = [] := by
  unfold toml_value
  rw [item_comments]
  rfl

/-! ## One value changed -/

section Put

variable {name : String} {old : TomlItem} (item : TomlItem) {entries : List (TomlKey × TomlItem)}

/-- Putting a value in the place of another one takes the other's comments for its own. -/
theorem put_comments_some (found : Entries.lookup TomlKey.name name entries = some old) :
    ∃ earlier later, entries_comments entries = earlier ++ item_comments old ++ later ∧
      entries_comments (Entries.put TomlKey.name (.new name) item entries) =
        earlier ++ item_comments item ++ later := by
  obtain ⟨earlier, key, later, split, changed⟩ := Entries.assign_split item found
  refine ⟨entries_comments earlier ++ decor_comments key.decor, entries_comments later, ?_, ?_⟩
  · rw [split, entries_comments_append, entries_comments]
    simp only [List.append_assoc]
  · have put_eq : Entries.put TomlKey.name (.new name) item entries =
        Entries.assign TomlKey.name name item entries := by
      unfold Entries.put
      exact if_pos (by rw [show (TomlKey.new name).name = name from rfl, found]; rfl)
    rw [put_eq, changed, entries_comments_append, entries_comments]
    simp only [List.append_assoc]

/-- An entry that is added adds its comments. -/
theorem put_comments_none (missing : Entries.lookup TomlKey.name name entries = none) :
    entries_comments (Entries.put TomlKey.name (.new name) item entries) =
      entries_comments entries ++ item_comments item := by
  have put_eq : Entries.put TomlKey.name (.new name) item entries =
      entries ++ [(.new name, item)] := by
    unfold Entries.put
    exact if_neg (by rw [show (TomlKey.new name).name = name from rfl, missing]; simp)
  rw [put_eq, entries_comments_append, entries_comments, entries_comments, new_key_comments,
    List.nil_append, List.append_nil]

end Put

/-- The table a setting is in, once its header is written. -/
def setting_table (document : Document) (setting : Setting) : TomlItem :=
  ((Entries.lookup TomlKey.name setting.section_name document.entries).getD
    .new_table).set_explicit

/-- The setting's item, if the document has one. -/
def setting_item (document : Document) (setting : Setting) : Option TomlItem :=
  (setting_table document setting).as_table_like.bind
    (Entries.lookup TomlKey.name setting.key)

/-- The keys of a list with one that is added at its end where its name is new. -/
def KeysAdded (name : String) (before after : List (TomlKey × TomlItem)) : Prop :=
  after.map Prod.fst = before.map Prod.fst ++
    (if (Entries.lookup TomlKey.name name before).isSome then [] else [.new name])

/-- Nothing but the value of one setting differs: not what is around the document, not its keys
or another section, not what is around the setting's table, its keys or another value in it.
A table that is missing is added, and one that has no header of its own gets one. -/
structure SettingChanged (setting : Setting) (before after : Document) : Prop where
  decor : after.decor = before.decor
  trailing : after.trailing = before.trailing
  sections : KeysAdded setting.section_name before.entries after.entries
  others : ∀ name, name ≠ setting.section_name →
    Entries.lookup TomlKey.name name after.entries = Entries.lookup TomlKey.name name before.entries
  table : ∃ entries changed,
    (setting_table before setting).as_table_like = some entries ∧
    Entries.lookup TomlKey.name setting.section_name after.entries =
      some ((setting_table before setting).with_entries changed) ∧
    KeysAdded setting.key entries changed ∧
    (∀ name, name ≠ setting.key →
      Entries.lookup TomlKey.name name changed = Entries.lookup TomlKey.name name entries) ∧
    Entries.lookup TomlKey.name setting.key changed = some (toml_value setting.value)

/-- SRC: config_edit.rs:167-198 -/
theorem set_key_eq_ok {document changed : Document} {setting : Setting}
    (set : set_key document setting = .ok changed) :
    ∃ entries, (setting_table document setting).as_table_like = some entries ∧
      changed = { document with
        entries := Entries.put TomlKey.name (.new setting.section_name)
          ((setting_table document setting).with_entries
            (Entries.put TomlKey.name (.new setting.key) (toml_value setting.value) entries))
          document.entries } := by
  have table_eq : ((Entries.lookup TomlKey.name setting.section_name document.entries).getD
      .new_table).set_explicit = setting_table document setting := rfl
  unfold set_key at set
  dsimp only at set
  rw [table_eq] at set
  cases like : (setting_table document setting).as_table_like with
  | none =>
    rw [like] at set
    cases set
  | some entries =>
    rw [like] at set
    cases set
    exact ⟨entries, rfl, rfl⟩

/-- Setting a key differs from the document in that setting's value only. -/
theorem set_key_changes {document changed : Document} {setting : Setting}
    (set : set_key document setting = .ok changed) : SettingChanged setting document changed := by
  obtain ⟨entries, like, rfl⟩ := set_key_eq_ok set
  refine ⟨rfl, rfl, Entries.keys_put, fun name ne => Entries.lookup_put_of_ne ne, ?_⟩
  exact ⟨entries, Entries.put TomlKey.name (.new setting.key) (toml_value setting.value) entries,
    like, Entries.lookup_put_self rfl, Entries.keys_put,
    fun name ne => Entries.lookup_put_of_ne ne, Entries.lookup_put_self rfl⟩

/-! ## The comments that survive -/

/-- A table that is written with a header has the same comments. -/
theorem set_explicit_comments (item : TomlItem) :
    item_comments item.set_explicit = item_comments item := by
  cases item with
  | table decor implicit dotted entries =>
    unfold TomlItem.set_explicit
    rw [item_comments, item_comments]
  | scalar type_name text decor => rfl
  | array decor values trailing => rfl
  | inline_table decor preamble entries => rfl
  | array_of_tables tables => rfl

/-- The comments of a table are around it and in its entries. -/
theorem table_comments {item : TomlItem} {entries : List (TomlKey × TomlItem)}
    (like : item.as_table_like = some entries) :
    ∃ around, item_comments item = around ++ entries_comments entries ∧
      ∀ changed, item_comments (item.with_entries changed) =
        around ++ entries_comments changed := by
  cases item with
  | scalar type_name text decor => cases like
  | array decor values trailing => cases like
  | array_of_tables tables => cases like
  | inline_table decor preamble entries' =>
    cases like
    refine ⟨decor_comments decor ++ comment_of (some preamble), ?_, fun changed => ?_⟩
    · rw [item_comments]
    · unfold TomlItem.with_entries
      rw [item_comments]
  | table decor implicit dotted entries' =>
    cases like
    refine ⟨decor_comments decor, ?_, fun changed => ?_⟩
    · rw [item_comments]
    · unfold TomlItem.with_entries
      rw [item_comments]

/-- The comments of a value that is replaced are those that are gone. -/
theorem set_key_comments {document changed : Document} {setting : Setting}
    (set : set_key document setting = .ok changed) :
    ∃ earlier later,
      document_comments document =
        earlier ++ ((setting_item document setting).map item_comments).getD [] ++ later ∧
      document_comments changed = earlier ++ later := by
  obtain ⟨entries, like, rfl⟩ := set_key_eq_ok set
  obtain ⟨around, before, after⟩ := table_comments like
  have item_eq : setting_item document setting =
      Entries.lookup TomlKey.name setting.key entries := by
    unfold setting_item
    rw [like, Option.bind_some]
  -- Within the table.
  have within : ∃ earlier later, entries_comments entries =
      earlier ++ ((setting_item document setting).map item_comments).getD [] ++ later ∧
      entries_comments (Entries.put TomlKey.name (.new setting.key) (toml_value setting.value)
        entries) = earlier ++ later := by
    rw [item_eq]
    cases found : Entries.lookup TomlKey.name setting.key entries with
    | some old =>
      obtain ⟨earlier, later, split, put⟩ :=
        put_comments_some (toml_value setting.value) found
      refine ⟨earlier, later, split, ?_⟩
      rw [put, toml_value_comments, List.append_nil]
    | none =>
      refine ⟨entries_comments entries, [], ?_, ?_⟩
      · rw [Option.map_none, Option.getD_none, List.append_nil, List.append_nil]
      · rw [put_comments_none _ found, toml_value_comments]
  obtain ⟨earlier, later, split, put⟩ := within
  have table_eq : setting_table document setting =
      ((Entries.lookup TomlKey.name setting.section_name document.entries).getD
        .new_table).set_explicit := rfl
  unfold document_comments
  dsimp only
  cases found : Entries.lookup TomlKey.name setting.section_name document.entries with
  | some old =>
    obtain ⟨outside, further, outside_split, outside_put⟩ := put_comments_some
      ((setting_table document setting).with_entries
        (Entries.put TomlKey.name (.new setting.key) (toml_value setting.value) entries)) found
    have old_comments : item_comments old = around ++ entries_comments entries := by
      rw [← before, table_eq, found, Option.getD_some, set_explicit_comments]
    refine ⟨decor_comments document.decor ++ outside ++ around ++ earlier,
      later ++ further ++ comment_of (some document.trailing), ?_, ?_⟩
    · rw [outside_split, old_comments, split]
      simp only [List.append_assoc]
    · rw [outside_put, after, put]
      simp only [List.append_assoc]
  | none =>
    have empty : around = [] ∧ entries_comments entries = [] := by
      rw [table_eq, found, Option.getD_none] at before
      have none_there : item_comments TomlItem.new_table.set_explicit = [] := by
        rw [set_explicit_comments]
        unfold TomlItem.new_table
        rw [item_comments, entries_comments]
        rfl
      rw [none_there] at before
      exact List.append_eq_nil_iff.mp before.symm
    rw [empty.2] at split
    have parts := List.append_eq_nil_iff.mp split.symm
    have parts_before := List.append_eq_nil_iff.mp parts.1
    refine ⟨decor_comments document.decor ++ entries_comments document.entries,
      comment_of (some document.trailing), ?_, ?_⟩
    · rw [parts_before.2, List.append_nil]
    · rw [put_comments_none _ found, after, put, empty.1, parts_before.1, parts.2, List.append_nil,
        List.append_nil, List.append_nil]

/-- Every comment of a document is one of the other. -/
def CommentsSurvive (before after : Document) : Prop :=
  (document_comments before).Subperm (document_comments after)

/-- The comments that belong to the value of a setting. -/
def setting_comments (document : Document) (setting : Setting) : List String :=
  ((setting_item document setting).map item_comments).getD []

/-- Every comment survives if and only if none belongs to the value that is replaced.
SRC: config_edit.rs:186-196 -/
theorem comments_survive_iff {document changed : Document} {setting : Setting}
    (set : set_key document setting = .ok changed) :
    CommentsSurvive document changed ↔ setting_comments document setting = [] := by
  obtain ⟨earlier, later, before, after⟩ := set_key_comments set
  unfold CommentsSurvive setting_comments
  rw [before, after]
  constructor
  · intro survive
    have shorter := survive.length_le
    rw [List.length_append, List.length_append, List.length_append] at shorter
    exact List.length_eq_zero_iff.mp (by omega)
  · intro none_there
    rw [none_there, List.append_nil]

/-! ## The writes -/

section Writes

variable (toml : TomlEdit) (platform : Platform) (path : ConfigPath) (setting : Setting)

/-- The path holds what it held. -/
def LeavesFile (write : ConfigWrite) : Prop :=
  write.after.found path.file_name = write.before.found path.file_name

/-- The path holds the document, which is the one read but for the value of the setting. -/
structure HoldsChanged (write : ConfigWrite) (text : String) (changed : Document) : Prop where
  found : write.after.found path.file_name = some (as_bytes (toml.to_string changed))
  parsed : ∃ document, toml.parse text = .ok document ∧ SettingChanged setting document changed

/-- What a write may do to the path: an error leaves it as it was, a document takes the place of
the one read and loses no comment, and a new document takes the place of no file. -/
structure WriteAllowed (write : ConfigWrite) : Prop where
  on_error : ∀ error, write.answer = .error error → LeavesFile path write
  edited : ∀ text changed, write.edit = some (text, changed) → LeavesFile path write ∨
    HoldsChanged toml path setting write text changed ∧
      ∀ document, toml.parse text = .ok document → CommentsSurvive document changed
  created : write.edit = none → write.before.found path.file_name ≠ none → LeavesFile path write

/-- What a write that succeeds leaves at the path. -/
def WriteDone (write : ConfigWrite) : Prop :=
  match write.edit with
  | none => write.after.found path.file_name = some (as_bytes (new_document setting))
  | some (text, changed) => HoldsChanged toml path setting write text changed

variable {toml platform path setting} {pass : SettingPass}

/-- The creation of a file meets no file that appeared, and its directory is flushed. -/
def CreationUndisturbed (platform : Platform) (path : ConfigPath) (setting : Setting)
    (pass : SettingPass) : Prop :=
  MovesFile pass.io platform (finalize_new_among platform pass.io pass.found_at_check)
      path.file_name (as_bytes (new_document setting)) pass.at_write →
    pass.at_write.found path.file_name = some (as_bytes (new_document setting)) ∨
    pass.at_write.found path.file_name = none ∧ sync_parent_directory platform pass.io = none

/-- The value that is replaced has no comment of its own, and the directory is flushed. -/
def EditUndisturbed (toml : TomlEdit) (platform : Platform) (path : ConfigPath)
    (setting : Setting) (pass : SettingPass) (document changed : Document) : Prop :=
  MovesFile pass.io platform (replace_file pass.io) path.file_name
      (as_bytes (toml.to_string changed)) pass.at_write →
    pass.at_write.found path.file_name = some (as_bytes (toml.to_string changed)) ∨
    setting_comments document setting = [] ∧ sync_parent_directory platform pass.io = none

/-- SRC: config_edit.rs:133-150 -/
theorem create_config_allowed_iff :
    WriteAllowed toml path setting (create_config platform path setting pass) ↔
      CreationUndisturbed platform path setting pass := by
  have outcome := atomic_write_found pass.io platform
    (finalize_new_among platform pass.io pass.found_at_check) path.file_name
    (as_bytes (new_document setting)) pass.at_write
  unfold CreationUndisturbed
  rcases outcome with ⟨moves, answer, found⟩ | ⟨stays, failed, found⟩
  · constructor
    · intro allowed _
      by_cases missing : pass.at_write.found path.file_name = none
      · right
        refine ⟨missing, ?_⟩
        cases synced : sync_parent_directory platform pass.io with
        | none => rfl
        | some error =>
          rw [synced] at answer
          have same := allowed.on_error error answer
          have same := same.symm.trans found
          rw [show (create_config platform path setting pass).before = pass.at_write from rfl,
            missing] at same
          cases same
      · left
        have same := allowed.created rfl missing
        exact same.symm.trans found
    · intro undisturbed
      have leaves (held : pass.at_write.found path.file_name =
          some (as_bytes (new_document setting))) :
          LeavesFile path (create_config platform path setting pass) := found.trans held.symm
      refine ⟨?_, fun _ _ none_edit => (by cases none_edit), ?_⟩
      · intro error failed
        rcases undisturbed moves with held | ⟨-, synced⟩
        · exact leaves held
        · rw [synced] at answer
          have same := answer.symm.trans failed
          cases same
      · intro _ there
        rcases undisturbed moves with held | ⟨missing, -⟩
        · exact leaves held
        · exact absurd missing there
  · constructor
    · exact fun _ moves => absurd moves stays
    · intro _
      exact ⟨fun _ _ => found, fun _ _ none_edit => (by cases none_edit), fun _ _ => found⟩

/-- SRC: config_edit.rs:151-157 -/
theorem replace_config_allowed_iff {text : String} {document changed : Document}
    (parsed : toml.parse text = .ok document) (set : set_key document setting = .ok changed) :
    WriteAllowed toml path setting (replace_config toml platform path pass text changed) ↔
      EditUndisturbed toml platform path setting pass document changed := by
  have outcome := atomic_write_found pass.io platform (replace_file pass.io) path.file_name
    (as_bytes (toml.to_string changed)) pass.at_write
  unfold EditUndisturbed
  rcases outcome with ⟨moves, answer, found⟩ | ⟨stays, failed, found⟩
  · constructor
    · intro allowed _
      by_cases held : LeavesFile path (replace_config toml platform path pass text changed)
      · exact .inl (held.symm.trans found)
      · right
        constructor
        · rcases allowed.edited text changed rfl with held' | ⟨-, survive⟩
          · exact absurd held' held
          · exact (comments_survive_iff set).mp (survive document parsed)
        · cases synced : sync_parent_directory platform pass.io with
          | none => rfl
          | some error =>
            rw [synced] at answer
            exact absurd (allowed.on_error error answer) held
    · intro undisturbed
      refine ⟨?_, ?_, fun none_edit => (by cases none_edit)⟩
      · intro error failed
        rcases undisturbed moves with held | ⟨-, synced⟩
        · exact found.trans held.symm
        · rw [synced] at answer
          have same := answer.symm.trans failed
          cases same
      · intro text' changed' edit
        obtain ⟨rfl, rfl⟩ := Prod.mk.inj (Option.some.inj edit)
        rcases undisturbed moves with held | ⟨no_comments, -⟩
        · exact .inl (found.trans held.symm)
        · refine .inr ⟨⟨found, document, parsed, set_key_changes set⟩, ?_⟩
          intro document' parsed'
          rw [parsed] at parsed'
          cases parsed'
          exact (comments_survive_iff set).mpr no_comments
  · constructor
    · exact fun _ moves => absurd moves stays
    · intro _
      exact ⟨fun _ _ => found, fun _ _ _ => .inl found, fun none_edit => (by cases none_edit)⟩

/-! ## The passes -/

/-- The condition on a pass: the file it creates or the document it writes is undisturbed. -/
structure PassUndisturbed (toml : TomlEdit) (platform : Platform) (path : ConfigPath)
    (setting : Setting) (pass : SettingPass) : Prop where
  creation : ∀ error, read_to_string pass path.file_name = .error error →
    error.kind = .NotFound → CreationUndisturbed platform path setting pass
  edit : ∀ text document changed, read_to_string pass path.file_name = .ok text →
    toml.parse text = .ok document → set_key document setting = .ok changed →
    EditUndisturbed toml platform path setting pass document changed

/-- What a pass answers about its writes. -/
structure PassAnswers (toml : TomlEdit) (path : ConfigPath) (setting : Setting)
    (r : Option (Except ConfigError Unit) × List ConfigWrite) : Prop where
  done : r.1 = some (.ok ()) → ∃ write ∈ r.2, write.answer = .ok () ∧
    WriteDone toml path setting write
  failed : r.1 ≠ some (.ok ()) → ∀ write ∈ r.2, ∃ error, write.answer = .error error

/-- SRC: config_edit.rs:122-157 -/
theorem set_once_spec (toml : TomlEdit) (platform : Platform) (path : ConfigPath)
    (setting : Setting) (attempt : Nat) (pass : SettingPass) :
    PassAnswers toml path setting (set_once toml platform path setting attempt pass) ∧
    ((∀ write ∈ (set_once toml platform path setting attempt pass).2,
        WriteAllowed toml path setting write) ↔
      PassUndisturbed toml platform path setting pass) := by
  have nothing_written {answer : Option (Except ConfigError Unit)} (bad : answer ≠ some (.ok ()))
      (undisturbed : PassUndisturbed toml platform path setting pass) :
      PassAnswers toml path setting (answer, []) ∧
      ((∀ write ∈ ([] : List ConfigWrite), WriteAllowed toml path setting write) ↔
        PassUndisturbed toml platform path setting pass) := by
    refine ⟨⟨fun ok => absurd ok bad, fun _ write member => (by cases member)⟩, ?_⟩
    exact ⟨fun _ => undisturbed, fun _ write member => (by cases member)⟩
  unfold set_once
  cases read : read_to_string pass path.file_name with
  | error error =>
    dsimp only
    by_cases missing : error.kind = .NotFound
    · rw [if_pos missing]
      have allowed_iff : (∀ write ∈ [create_config platform path setting pass],
          WriteAllowed toml path setting write) ↔
            PassUndisturbed toml platform path setting pass := by
        rw [List.forall_mem_singleton, create_config_allowed_iff]
        constructor
        · intro undisturbed
          refine ⟨fun _ _ _ => undisturbed, fun text _ _ read' => ?_⟩
          rw [read] at read'
          cases read'
        · intro undisturbed
          exact undisturbed.creation error read missing
      cases answer : (create_config platform path setting pass).answer with
      | ok done =>
        dsimp only
        refine ⟨⟨fun _ => ⟨_, List.mem_singleton.mpr rfl, answer, ?_⟩,
          fun bad => absurd rfl bad⟩, allowed_iff⟩
        have outcome := atomic_write_found pass.io platform
          (finalize_new_among platform pass.io pass.found_at_check) path.file_name
          (as_bytes (new_document setting)) pass.at_write
        rcases outcome with ⟨-, -, found⟩ | ⟨-, ⟨error', failed⟩, -⟩
        · exact found
        · have same := failed.symm.trans answer
          cases same
      | error error' =>
        dsimp only
        have fails : ∀ write ∈ [create_config platform path setting pass],
            ∃ error, write.answer = .error error := by
          rw [List.forall_mem_singleton]
          exact ⟨error', answer⟩
        split
        · exact ⟨⟨fun ok => (by cases ok), fun _ => fails⟩, allowed_iff⟩
        · exact ⟨⟨fun ok => (by cases ok), fun _ => fails⟩, allowed_iff⟩
    · rw [if_neg missing]
      refine nothing_written (fun ok => (by cases ok)) ⟨?_, ?_⟩
      · intro error' read' missing'
        rw [read] at read'
        cases read'
        exact absurd missing' missing
      · intro text _ _ read'
        rw [read] at read'
        cases read'
  | ok text =>
    dsimp only
    have no_creation : ∀ error, read_to_string pass path.file_name = .error error →
        error.kind = .NotFound → CreationUndisturbed platform path setting pass := by
      intro error read'
      rw [read] at read'
      cases read'
    cases parsed : toml.parse text with
    | error message =>
      refine nothing_written (fun ok => (by cases ok)) ⟨no_creation, ?_⟩
      intro text' _ _ read' parsed'
      rw [read] at read'
      cases read'
      rw [parsed] at parsed'
      cases parsed'
    | ok document =>
      dsimp only
      cases set : set_key document setting with
      | error error =>
        refine nothing_written (fun ok => (by cases ok)) ⟨no_creation, ?_⟩
        intro text' document' _ read' parsed' set'
        rw [read] at read'
        cases read'
        rw [parsed] at parsed'
        cases parsed'
        rw [set] at set'
        cases set'
      | ok changed =>
        dsimp only
        have allowed_iff : (∀ write ∈ [replace_config toml platform path pass text changed],
            WriteAllowed toml path setting write) ↔
              PassUndisturbed toml platform path setting pass := by
          rw [List.forall_mem_singleton, replace_config_allowed_iff parsed set]
          constructor
          · intro undisturbed
            refine ⟨no_creation, ?_⟩
            intro text' document' changed' read' parsed' set'
            rw [read] at read'
            cases read'
            rw [parsed] at parsed'
            cases parsed'
            rw [set] at set'
            cases set'
            exact undisturbed
          · intro undisturbed
            exact undisturbed.edit text document changed read parsed set
        cases answer : (replace_config toml platform path pass text changed).answer with
        | ok done =>
          dsimp only
          refine ⟨⟨fun _ => ⟨_, List.mem_singleton.mpr rfl, answer, ?_⟩,
            fun bad => absurd rfl bad⟩, allowed_iff⟩
          have outcome := atomic_write_found pass.io platform (replace_file pass.io)
            path.file_name (as_bytes (toml.to_string changed)) pass.at_write
          rcases outcome with ⟨-, -, found⟩ | ⟨-, ⟨error', failed⟩, -⟩
          · exact ⟨found, document, parsed, set_key_changes set⟩
          · have same := failed.symm.trans answer
            cases same
        | error error' =>
          dsimp only
          refine ⟨⟨fun ok => (by cases ok), fun _ => ?_⟩, allowed_iff⟩
          rw [List.forall_mem_singleton]
          exact ⟨error', answer⟩

/-- The condition on the passes that are made: a pass after another one is made where the other
one met a file that had appeared. -/
def PassesUndisturbed (toml : TomlEdit) (platform : Platform) (path : ConfigPath)
    (setting : Setting) (pass : Nat → SettingPass) : List Nat → Prop
  | [] => True
  | attempt :: rest =>
    PassUndisturbed toml platform path setting (pass attempt) ∧
    ((set_once toml platform path setting attempt (pass attempt)).1 = none →
      PassesUndisturbed toml platform path setting pass rest)

/-- What changing a setting may do: it fails and leaves the file as it was, or it leaves there a
document that is the one read but for the value of the setting, or a new one; no comment is lost,
and no file that appeared is replaced by a new document. -/
structure SettingLaws (toml : TomlEdit) (path : ConfigPath) (setting : Setting)
    (r : Except ConfigError Unit × List ConfigWrite) : Prop where
  allowed : ∀ write ∈ r.2, WriteAllowed toml path setting write
  failed : ∀ error, r.1 = .error error → ∀ write ∈ r.2, LeavesFile path write
  done : r.1 = .ok () → ∃ write ∈ r.2, write.answer = .ok () ∧ WriteDone toml path setting write

/-- The laws, by induction on the passes that are left. -/
theorem set_in_passes_laws_iff (toml : TomlEdit) (platform : Platform) (path : ConfigPath)
    (setting : Setting) (pass : Nat → SettingPass) (attempts : List Nat) :
    SettingLaws toml path setting (set_in_passes toml platform path setting pass attempts) ↔
      PassesUndisturbed toml platform path setting pass attempts := by
  induction attempts with
  | nil =>
    refine ⟨fun _ => trivial, fun _ => ⟨?_, ?_, fun ok => (by cases ok)⟩⟩
    · exact fun write member => (by cases member)
    · exact fun _ _ write member => (by cases member)
  | cons attempt rest ih =>
    obtain ⟨answers, allowed_iff⟩ :=
      set_once_spec toml platform path setting attempt (pass attempt)
    unfold set_in_passes PassesUndisturbed
    rw [← allowed_iff]
    revert answers
    generalize set_once toml platform path setting attempt (pass attempt) = once
    obtain ⟨answer, writes⟩ := once
    intro answers
    cases answer with
    | some answer =>
      dsimp only
      constructor
      · exact fun laws => ⟨laws.allowed, fun again => (by cases again)⟩
      · rintro ⟨allowed, -⟩
        refine ⟨allowed, ?_, fun ok => answers.done (congrArg some ok)⟩
        rintro error rfl write member
        have bad : (some (Except.error error) : Option (Except ConfigError Unit)) ≠
            some (.ok ()) := fun same => (by cases same)
        obtain ⟨error', answer⟩ := answers.failed bad write member
        exact (allowed write member).on_error error' answer
    | none =>
      dsimp only
      have bad : (none : Option (Except ConfigError Unit)) ≠ some (.ok ()) :=
        fun same => (by cases same)
      constructor
      · intro laws
        refine ⟨fun write member => laws.allowed write (List.mem_append_left _ member), fun _ => ?_⟩
        refine ih.mp ⟨fun write member => laws.allowed write (List.mem_append_right _ member),
          fun error failed write member =>
            laws.failed error failed write (List.mem_append_right _ member), fun ok => ?_⟩
        obtain ⟨write, member, answer, done⟩ := laws.done ok
        rcases List.mem_append.mp member with earlier | later
        · obtain ⟨error, failed⟩ := answers.failed bad write earlier
          rw [failed] at answer
          cases answer
        · exact ⟨write, later, answer, done⟩
      · rintro ⟨allowed, later⟩
        have laws := ih.mpr (later rfl)
        refine ⟨?_, ?_, fun ok => ?_⟩
        · rw [List.forall_mem_append]
          exact ⟨allowed, laws.allowed⟩
        · intro error failed
          rw [List.forall_mem_append]
          refine ⟨fun write member => ?_, laws.failed error failed⟩
          obtain ⟨error', answer⟩ := answers.failed bad write member
          exact (allowed write member).on_error error' answer
        · obtain ⟨write, member, done⟩ := laws.done ok
          exact ⟨write, List.mem_append_right _ member, done⟩

/-- Changing one setting changes nothing else, whatever other writers do meanwhile, if and only if
the value that is replaced has no comment of its own, no file appears between the check and the
rename of a platform that makes them two steps, and no directory fails to be flushed after the
file was moved.
SRC: config_edit.rs:104-164 -/
theorem set_setting_keeps_iff (toml : TomlEdit) (platform : Platform) (path : ConfigPath)
    (setting : Setting) (io : SettingIo) :
    SettingLaws toml path setting (set_setting toml platform path setting io) ↔
      (path.parent = none ∨ io.create_dir_all = none → io.acquire = none →
        PassesUndisturbed toml platform path setting io.pass (List.range 2)) := by
  have refused (error : ConfigError) : SettingLaws toml path setting (.error error, []) :=
    ⟨fun write member => (by cases member), fun _ _ write member => (by cases member),
      fun ok => (by cases ok)⟩
  unfold set_setting
  cases parent : path.parent with
  | none =>
    dsimp only
    cases acquire : io.acquire with
    | none =>
      dsimp only
      rw [set_in_passes_laws_iff]
      exact ⟨fun undisturbed _ _ => undisturbed, fun undisturbed => undisturbed (.inl rfl) rfl⟩
    | some error => exact ⟨fun _ _ locked => (by cases locked), fun _ => refused error⟩
  | some parent =>
    cases create : io.create_dir_all with
    | some error =>
      refine ⟨fun _ => ?_, fun _ => refused _⟩
      rintro (none_parent | none_error)
      · cases none_parent
      · cases none_error
    | none =>
      dsimp only
      cases acquire : io.acquire with
      | none =>
        dsimp only
        rw [set_in_passes_laws_iff]
        exact ⟨fun undisturbed _ _ => undisturbed, fun undisturbed => undisturbed (.inr rfl) rfl⟩
      | some error => exact ⟨fun _ _ locked => (by cases locked), fun _ => refused error⟩

end Writes

/-! ## A comment on the setting's own line -/

def commented_text : String := "[output]\nenabled = false # mine\n"

def uncommented_text : String := "[output]\nenabled = true\n"

/-- The document of `commented_text`. -/
def commented_document : Document where
  decor := .default
  entries := [(.new "output", .table .default false false
    [(⟨"enabled", ⟨some "", some " "⟩⟩, .scalar "boolean" "false" ⟨some " ", some " # mine"⟩)])]
  trailing := ""

/-- Reads the one text, and prints its document and that document without the comment. -/
def commented_toml : TomlEdit where
  parse text := if text = commented_text then .ok commented_document else .error "unexpected"
  to_string document :=
    if (document_comments document).isEmpty then uncommented_text else commented_text

def commented_files : Files :=
  fun name => if name = "c.toml" then some (as_bytes commented_text) else none

/-- Nothing fails and nobody else writes. -/
def quiet_io : SettingIo where
  create_dir_all := none
  acquire := none
  pass _ :=
    { at_read := commented_files
      read := none
      found_at_check := true
      at_write := commented_files
      io := { unsynced_io with sync_parent := none } }

/-- A text that was written as bytes is read back as it was. -/
theorem decoded_as_bytes (text : String) : decoded (as_bytes text) = some text := by
  unfold decoded as_bytes String.fromUTF8?
  have same : (⟨text.toUTF8.data.toList.toArray⟩ : ByteArray) = text.toUTF8 := by
    rw [Array.toArray_toList]
  have valid : text.toUTF8.IsValidUTF8 := text.isValidUTF8
  rw [same, dif_pos valid]
  rfl

/-- Switching the setting on deletes the comment behind it. -/
theorem set_setting_deletes_comment :
    ¬ ∀ (toml : TomlEdit) (platform : Platform) (path : ConfigPath) (setting : Setting)
      (io : SettingIo), SettingLaws toml path setting
        (set_setting toml platform path setting io) := by
  intro always
  have laws := always commented_toml .Windows ⟨"c.toml", none, some "c.toml"⟩
    (output_enabled true) quiet_io
  have undisturbed := ((set_in_passes_laws_iff commented_toml .Windows _ (output_enabled true)
    quiet_io.pass (List.range 2)).mp laws).1
  have read : read_to_string (quiet_io.pass 0) (some "c.toml") = .ok commented_text := by
    have there : (quiet_io.pass 0).at_read.found (some "c.toml") =
        some (as_bytes commented_text) := rfl
    have readable : (quiet_io.pass 0).read = none := rfl
    unfold read_to_string
    rw [readable]
    dsimp only
    rw [there]
    dsimp only
    rw [decoded_as_bytes]
  have moves : MovesFile (quiet_io.pass 0).io .Windows (replace_file (quiet_io.pass 0).io)
      (some "c.toml") (as_bytes uncommented_text) commented_files :=
    ⟨"c.toml", temporary_name 1 "c.toml" 0, rfl, by decide +kernel, by decide +kernel⟩
  rcases undisturbed.edit commented_text commented_document _ read rfl rfl moves with
    same | ⟨no_comments, -⟩
  · have same_text := (decoded_as_bytes commented_text).symm.trans
      ((congrArg decoded (Option.some.inj same)).trans (decoded_as_bytes _))
    exact absurd (Option.some.inj same_text) (by decide +kernel)
  · exact absurd no_comments (by decide +kernel)

end Captastic.Analysis
