import Captastic.Library.UndoLog
import Captastic.Model.Edit

/-!
# The history of an edit

`Edit` keeps its operations as steps whose `index` is a position in the list of
marks at the time of the step.  Read on the picture an edit holds, its crop and its
marks, a step relates the picture before to the picture after (`Perform`), and the
edit is an undo log over that relation (`edit_rules`, `Edit.log`): every step a call
records fits the picture it is recorded on, so no index is ever out of range, the
undo stack replays to the current picture, and undoing and redoing are inverse.
-/

set_option autoImplicit false

namespace Captastic.Analysis

open Captastic.Library Captastic.Model

variable {F : Type}

/-! ## Steps on pictures -/

/-- What an edit's steps act on: the crop and the marks. -/
abbrev Picture (F : Type) := Rect × List (Mark F)

/-- A step made again on a picture. -/
def Picture.apply (p : Picture F) : Step F → Option (Picture F)
  | .Crop _ after => some (after, p.2)
  | .Mark mark => some (p.1, p.2 ++ [mark])
  | .Replace index _ (some mark) =>
    if index < p.2.length then some (p.1, p.2.set index mark) else none
  | .Replace index _ none => if index < p.2.length then some (p.1, p.2.eraseIdx index) else none

/-- A step taken back from a picture. -/
def Picture.revert (p : Picture F) : Step F → Option (Picture F)
  | .Crop before _ => some (before, p.2)
  | .Mark _ => some (p.1, p.2.dropLast)
  | .Replace index before (some _) =>
    if index < p.2.length then some (p.1, p.2.set index before) else none
  | .Replace index before none => (Edit.insert_mark p.2 index before).map (p.1, ·)

/-- A crop that a capture with these bounds can have. -/
def CropOf (bounds crop : Rect) : Prop := crop.NonEmpty ∧ crop.Within bounds

/-- `step` fits the picture `p` and makes `q` of it: its `before` is what `p` holds. -/
def Perform (bounds : Rect) (p : Picture F) (step : Step F) (q : Picture F) : Prop :=
  match step with
  | .Crop before after =>
    p.1 = before ∧ CropOf bounds before ∧ CropOf bounds after ∧ q = (after, p.2)
  | .Mark mark => q = (p.1, p.2 ++ [mark])
  | .Replace index before (some after) =>
    p.2[index]? = some before ∧ q = (p.1, p.2.set index after)
  | .Replace index before none => p.2[index]? = some before ∧ q = (p.1, p.2.eraseIdx index)

/-- Putting an element back where one was removed restores the list. -/
theorem insertIdx_eraseIdx_of_getElem? {α : Type} {l : List α} {i : Nat} {a : α}
    (h : l[i]? = some a) : (l.eraseIdx i).insertIdx i a = l := by
  induction l generalizing i with
  | nil => simp at h
  | cons b l ih =>
      cases i with
      | zero =>
          obtain rfl : b = a := by simpa using h
          simp
      | succ i =>
          simp only [List.getElem?_cons_succ] at h
          simp [ih h]

/-- Setting an element back to what it was restores the list. -/
theorem set_set_of_getElem? {α : Type} {l : List α} {i : Nat} {a b : α}
    (h : l[i]? = some a) : (l.set i b).set i a = l := by
  obtain ⟨hi, rfl⟩ := List.getElem?_eq_some_iff.mp h
  simp

/-- A step that can be performed is applied. -/
theorem apply_of_perform {bounds : Rect} {p q : Picture F} {step : Step F}
    (h : Perform bounds p step q) : p.apply step = some q := by
  match step, h with
  | .Crop _ _, ⟨_, _, _, hq⟩ => simp [Picture.apply, hq]
  | .Mark _, hq => simp [Picture.apply, show q = _ from hq]
  | .Replace index _ (some _), ⟨hi, hq⟩ =>
      have := (List.getElem?_eq_some_iff.mp hi).1
      simp [Picture.apply, hq, this]
  | .Replace index _ none, ⟨hi, hq⟩ =>
      have := (List.getElem?_eq_some_iff.mp hi).1
      simp [Picture.apply, hq, this]

/-- A step that was performed can be reverted. -/
theorem revert_of_perform {bounds : Rect} {p q : Picture F} {step : Step F}
    (h : Perform bounds p step q) : q.revert step = some p := by
  match step, h with
  | .Crop _ _, ⟨hp, _, _, hq⟩ => simp [Picture.revert, hq, ← hp]
  | .Mark _, hq => simp [Picture.revert, show q = _ from hq]
  | .Replace index _ (some _), ⟨hi, hq⟩ =>
      have := (List.getElem?_eq_some_iff.mp hi).1
      simp [Picture.revert, hq, this, set_set_of_getElem? hi]
  | .Replace index before none, ⟨hi, hq⟩ =>
      have hlt := (List.getElem?_eq_some_iff.mp hi).1
      have hle : index ≤ (p.2.eraseIdx index).length := by
        rw [List.length_eraseIdx_of_lt hlt]
        omega
      simp [Picture.revert, Edit.insert_mark, hq, hle, insertIdx_eraseIdx_of_getElem? hi]

/-- An edit's steps, as operations of an undo log. -/
def edit_rules (F : Type) (bounds : Rect) : UndoRules (Picture F) (Step F) where
  apply := Picture.apply
  revert := Picture.revert
  Perform := Perform bounds
  apply_of_perform := apply_of_perform
  revert_of_perform := revert_of_perform

/-! ## An edit is such a log -/

/-- The undo log an edit keeps. -/
def log (e : Edit F) : UndoLog (Picture F) (Step F) :=
  ⟨(e.crop, e.marks), e.undo_steps, e.redo_steps⟩

/-- The edit of `source` that keeps `l`. -/
def of_log (source : CpuFrame) (l : UndoLog (Picture F) (Step F)) : Edit F :=
  ⟨source, l.doc.1, l.doc.2, l.done, l.undone⟩

/-- An edit is its log over its capture. -/
@[simp] theorem of_log_log (e : Edit F) : of_log e.source (log e) = e := rfl

/-- And its log is the one it was made of. -/
@[simp] theorem log_of_log (source : CpuFrame) (l : UndoLog (Picture F) (Step F)) :
    log (of_log source l) = l := rfl

/-- SRC: edit.rs:411-422 -/
theorem apply_eq (e : Edit F) (step : Step F) :
    e.apply step = (Picture.apply (e.crop, e.marks) step).map
      fun p => { e with crop := p.1, marks := p.2 } := by
  match step with
  | .Crop _ _ => rfl
  | .Mark _ => rfl
  | .Replace index _ (some _) =>
      simp only [Edit.apply, Picture.apply]
      split <;> rfl
  | .Replace index _ none =>
      simp only [Edit.apply, Picture.apply]
      split <;> rfl

/-- SRC: edit.rs:373-389 -/
theorem revert_eq (e : Edit F) (step : Step F) :
    e.revert step = (Picture.revert (e.crop, e.marks) step).map
      fun p => { e with crop := p.1, marks := p.2 } := by
  match step with
  | .Crop _ _ => rfl
  | .Mark _ => rfl
  | .Replace index _ (some _) =>
      simp only [Edit.revert, Picture.revert]
      split <;> rfl
  | .Replace index before none =>
      simp only [Edit.revert, Picture.revert, Option.map_map]
      rfl

/-- Recording a step records it in the log. -/
theorem record_eq (bounds : Rect) (e : Edit F) (step : Step F) :
    e.record step = ((log e).record (edit_rules F bounds) step).map (of_log e.source) := by
  simp only [Edit.record, UndoLog.record, apply_eq, edit_rules, log, Option.map_map]
  rfl

/-- Undoing undoes in the log. -/
theorem undo_eq (bounds : Rect) (e : Edit F) :
    e.undo = ((log e).undo (edit_rules F bounds)).map fun r => (of_log e.source r.1, r.2) := by
  simp only [Edit.undo, UndoLog.undo, log]
  cases e.undo_steps.getLast? with
  | none => rfl
  | some step =>
      simp only [revert_eq, edit_rules, Option.map_map]
      rfl

/-- Redoing redoes in the log. -/
theorem redo_eq (bounds : Rect) (e : Edit F) :
    e.redo = ((log e).redo (edit_rules F bounds)).map fun r => (of_log e.source r.1, r.2) := by
  simp only [Edit.redo, UndoLog.redo, log]
  cases e.redo_steps.getLast? with
  | none => rfl
  | some step =>
      simp only [apply_eq, edit_rules, Option.map_map]
      rfl

/-! ## Calls and runs -/

/-- A call that changes an edit. -/
inductive Call (F : Type) where
  | set_crop (rect : Rect)
  | add (mark : Mark F)
  | redact (rect : Rect)
  | replace (index : Nat) (mark : Option (Mark F))
  | undo
  | redo

/-- The call makes a new operation rather than moving along the history. -/
def Call.Records : Call F → Prop
  | .undo | .redo => False
  | _ => True

variable [BEq F] (D : Drawing F)

/-- Makes one call; the flag is what it returns. -/
def call (e : Edit F) : Call F → Option (Edit F × Bool)
  | .set_crop rect => e.set_crop rect
  | .add mark => e.add D mark
  | .redact rect => e.redact D rect
  | .replace index mark => e.replace D index mark
  | .undo => e.undo
  | .redo => e.redo

/-- Makes calls in order. -/
def run (calls : List (Call F)) (e : Edit F) : Option (Edit F) :=
  calls.foldlM (fun e c => (call D e c).map Prod.fst) e

/-- Makes steps again, in order, on an edit. -/
def replay (steps : List (Step F)) (e : Edit F) : Option (Edit F) :=
  steps.foldlM Edit.apply e

/-- Calls `undo` `k` times, counting the calls that returned true. -/
def undo_times : Nat → Edit F → Option (Edit F × Nat)
  | 0, e => some (e, 0)
  | k + 1, e => do
    let (e₁, b) ← e.undo
    let (e₂, n) ← undo_times k e₁
    some (e₂, n + b.toNat)

/-- Calls `redo` `k` times. -/
def redo_times : Nat → Edit F → Option (Edit F)
  | 0, e => some e
  | k + 1, e => do
    let (e₁, _) ← e.redo
    redo_times k e₁

/-! ## The invariant -/

/-- The invariant of an edit of `source`: its log is sound, and its crop is one the
capture can have. -/
structure HistoryInv (source : CpuFrame) (e : Edit F) : Prop where
  source_eq : e.source = source
  sound : UndoLog.Sound (edit_rules F (full_bounds source)) (full_bounds source, []) (log e)
  crop : CropOf (full_bounds source) e.crop

omit [BEq F] in
/-- A new edit's history is empty. -/
theorem history_inv_new (source : CpuFrame) : HistoryInv source (Edit.new source : Edit F) where
  source_eq := rfl
  sound := UndoLog.Sound.init _
  crop := by
    obtain ⟨⟨hw, hh⟩, -⟩ := source.layout_facts
    exact ⟨⟨hw, hh⟩, le_refl _, le_refl _, le_refl _, le_refl _⟩

omit [BEq F] in
/-- The crop along a path of steps stays one the capture can have. -/
theorem crop_of_path {bounds : Rect} {p q : Picture F} {steps : List (Step F)}
    (h : UndoLog.Path (edit_rules F bounds) p steps q) (hp : CropOf bounds p.1) :
    CropOf bounds q.1 := by
  induction steps generalizing p with
  | nil =>
      obtain rfl := h
      exact hp
  | cons step steps ih =>
      obtain ⟨m, hm, hq⟩ := h
      refine ih hq ?_
      match step, hm with
      | .Crop _ _, ⟨_, _, hafter, hm⟩ => simpa [hm] using hafter
      | .Mark _, hm => simpa [show m = _ from hm] using hp
      | .Replace _ _ (some _), ⟨_, hm⟩ => simpa [hm] using hp
      | .Replace _ _ none, ⟨_, hm⟩ => simpa [hm] using hp

omit [BEq F] in
/-- A sound log of a capture is the history of an edit. -/
theorem history_inv_of_log {source : CpuFrame} {l : UndoLog (Picture F) (Step F)}
    (h : UndoLog.Sound (edit_rules F (full_bounds source)) (full_bounds source, []) l) :
    HistoryInv source (of_log source l) where
  source_eq := rfl
  sound := h
  crop := crop_of_path h.done (history_inv_new (F := F) source).crop

omit [BEq F] in
/-- Recording a step that fits the picture keeps the invariant and empties redo. -/
theorem record_inv {source : CpuFrame} {e : Edit F} {q : Picture F} (step : Step F)
    (h : HistoryInv source e) (hstep : Perform (full_bounds source) (e.crop, e.marks) step q) :
    ∃ e', e.record step = some e' ∧ HistoryInv source e' ∧ e'.redo_steps = [] ∧
      e'.undo_steps = e.undo_steps ++ [step] := by
  obtain ⟨l', hl', rfl, hs⟩ := h.sound.record (l := log e) hstep
  refine ⟨of_log source _, ?_, history_inv_of_log hs, rfl, rfl⟩
  rw [record_eq (full_bounds source), hl', h.source_eq]
  rfl

/-! ## One call -/

/-- What a call comes to: it does not panic, it keeps the invariant, it changes
nothing when it returns false, and a new operation empties redo. -/
structure CallOutcome (source : CpuFrame) (e : Edit F) (c : Call F) (e' : Edit F) (b : Bool) :
    Prop where
  eq : call D e c = some (e', b)
  inv : HistoryInv source e'
  unchanged : b = false → e' = e
  records : b = true → c.Records → e'.redo_steps = [] ∧ ∃ s, e'.undo_steps = e.undo_steps ++ [s]

/-- Cropping records a step where it changes the crop. -/
theorem set_crop_outcome {source : CpuFrame} {e : Edit F} (h : HistoryInv source e)
    (rect : Rect) : ∃ e' b, CallOutcome D source e (.set_crop rect) e' b := by
  have hb : e.bounds = full_bounds source := by rw [Edit.bounds, h.source_eq]
  cases hr : rect.intersection e.bounds with
  | none => exact ⟨e, false, by simp [call, Edit.set_crop, hr], h, fun _ => rfl, by simp⟩
  | some after =>
      by_cases heq : after = e.crop
      · exact ⟨e, false, by simp [call, Edit.set_crop, hr, heq], h, fun _ => rfl, by simp⟩
      · have hafter : CropOf (full_bounds source) after := by
          rw [hb] at hr
          exact ⟨(Rect.intersection_eq_some hr).2.2.2.2, Rect.within_of_intersection hr⟩
        obtain ⟨e', he', hinv, hredo, hundo⟩ :=
          record_inv (.Crop e.crop after) h ⟨rfl, h.crop, hafter, rfl⟩
        exact ⟨e', true, by simp [call, Edit.set_crop, hr, heq, he'], hinv, by simp,
          fun _ _ => ⟨hredo, _, hundo⟩⟩

/-- Adding a mark records a step where the mark shows. -/
theorem add_outcome {source : CpuFrame} {e : Edit F} (h : HistoryInv source e)
    (mark : Mark F) : ∃ e' b, CallOutcome D source e (.add mark) e' b := by
  cases hm : e.accept D mark with
  | none => exact ⟨e, false, by simp [call, Edit.add, hm], h, fun _ => rfl, by simp⟩
  | some kept =>
      obtain ⟨e', he', hinv, hredo, hundo⟩ := record_inv (.Mark kept) h rfl
      exact ⟨e', true, by simp [call, Edit.add, hm, he'], hinv, by simp,
        fun _ _ => ⟨hredo, _, hundo⟩⟩

/-- Redacting is adding a mark that hides. -/
theorem redact_outcome {source : CpuFrame} {e : Edit F} (h : HistoryInv source e)
    (rect : Rect) : ∃ e' b, CallOutcome D source e (.redact rect) e' b := by
  obtain ⟨e', b, heq, hinv, hu, hr⟩ := add_outcome D h (.Redaction rect)
  exact ⟨e', b, heq, hinv, hu, fun hb _ => hr hb trivial⟩

/-- Replacing a mark records a step where it changes the mark. -/
theorem replace_outcome {source : CpuFrame} {e : Edit F} (h : HistoryInv source e)
    (index : Nat) (mark : Option (Mark F)) :
    ∃ e' b, CallOutcome D source e (.replace index mark) e' b := by
  cases hi : e.marks[index]? with
  | none => exact ⟨e, false, by simp [call, Edit.replace, hi], h, fun _ => rfl, by simp⟩
  | some before =>
      cases mark with
      | none =>
          obtain ⟨e', he', hinv, hredo, hundo⟩ :=
            record_inv (.Replace index before none) h ⟨hi, rfl⟩
          exact ⟨e', true, by simp [call, Edit.replace, hi, he'], hinv, by simp,
            fun _ _ => ⟨hredo, _, hundo⟩⟩
      | some mark =>
          cases hm : e.accept D mark with
          | none =>
              exact ⟨e, false, by simp [call, Edit.replace, hi, hm], h, fun _ => rfl, by simp⟩
          | some kept =>
              by_cases hne : kept != before
              · obtain ⟨e', he', hinv, hredo, hundo⟩ :=
                  record_inv (.Replace index before (some kept)) h ⟨hi, rfl⟩
                exact ⟨e', true, by simp [call, Edit.replace, hi, hm, hne, he'], hinv, by simp,
                  fun _ _ => ⟨hredo, _, hundo⟩⟩
              · exact ⟨e, false, by simp [call, Edit.replace, hi, hm, hne], h, fun _ => rfl,
                  by simp⟩

/-- Undoing reverts the last step, if there is one. -/
theorem undo_outcome {source : CpuFrame} {e : Edit F} (h : HistoryInv source e) :
    ∃ e' b, CallOutcome D source e .undo e' b := by
  rcases h.sound.undo_cases with ⟨-, hu⟩ | ⟨l', t, hu, -, -, -, hs⟩
  · refine ⟨e, false, ?_, h, fun _ => rfl, by simp⟩
    simp [call, undo_eq (full_bounds source), hu]
  · refine ⟨of_log source l', true, ?_, history_inv_of_log hs, by simp, fun _ hc => hc.elim⟩
    simp [call, undo_eq (full_bounds source), hu, h.source_eq]

/-- Redoing applies the next one, if there is one. -/
theorem redo_outcome {source : CpuFrame} {e : Edit F} (h : HistoryInv source e) :
    ∃ e' b, CallOutcome D source e .redo e' b := by
  rcases h.sound.redo_cases with ⟨-, hu⟩ | ⟨l', t, hu, -, -, -, hs⟩
  · refine ⟨e, false, ?_, h, fun _ => rfl, by simp⟩
    simp [call, redo_eq (full_bounds source), hu]
  · refine ⟨of_log source l', true, ?_, history_inv_of_log hs, by simp, fun _ hc => hc.elim⟩
    simp [call, redo_eq (full_bounds source), hu, h.source_eq]

/-- **The step lemma**: a call on an edit that satisfies the invariant. -/
theorem call_outcome {source : CpuFrame} {e : Edit F} (h : HistoryInv source e) (c : Call F) :
    ∃ e' b, CallOutcome D source e c e' b := by
  match c with
  | .set_crop rect => exact set_crop_outcome D h rect
  | .add mark => exact add_outcome D h mark
  | .redact rect => exact redact_outcome D h rect
  | .replace index mark => exact replace_outcome D h index mark
  | .undo => exact undo_outcome D h
  | .redo => exact redo_outcome D h

/-! ## Whole runs -/

/-- **The run lemma**: calls on a fresh edit never panic and keep the invariant. -/
theorem run_inv (source : CpuFrame) (calls : List (Call F)) :
    ∃ e, run D calls (Edit.new source) = some e ∧ HistoryInv source e := by
  refine foldlM_inv (HistoryInv source) _ calls ?_ _ (history_inv_new source)
  intro e c _ he
  obtain ⟨e', b, hcall, hinv, -⟩ := call_outcome D he c
  exact ⟨e', by simp [hcall], hinv⟩

omit [BEq F] in
/-- Replaying steps on an edit is replaying them on its picture. -/
theorem replay_eq (bounds : Rect) (steps : List (Step F)) (e : Edit F) :
    replay steps e = (UndoLog.replay (edit_rules F bounds) (e.crop, e.marks) steps).map
      fun p => { e with crop := p.1, marks := p.2 } := by
  induction steps generalizing e with
  | nil => rfl
  | cons step steps ih =>
      simp only [replay, UndoLog.replay, List.foldlM_cons, apply_eq] at ih ⊢
      simp only [edit_rules]
      cases Picture.apply (e.crop, e.marks) step with
      | none => rfl
      | some p => exact ih _

omit [BEq F] in
/-- The marks and crop of an edit are its undo stack replayed on a fresh edit. -/
theorem replay_undo_steps {source : CpuFrame} {e : Edit F} (h : HistoryInv source e) :
    ∃ e₀, replay e.undo_steps (Edit.new source) = some e₀ ∧ e₀.crop = e.crop ∧
      e₀.marks = e.marks := by
  refine ⟨{ (Edit.new source : Edit F) with crop := e.crop, marks := e.marks }, ?_, rfl, rfl⟩
  have hr : UndoLog.replay (edit_rules F (full_bounds source)) (full_bounds source, [])
      e.undo_steps = some (e.crop, e.marks) := h.sound.replay
  rw [replay_eq (full_bounds source), show ((Edit.new source : Edit F).crop,
    (Edit.new source : Edit F).marks) = (full_bounds source, []) from rfl, hr]
  rfl

omit [BEq F] in
/-- Undoing several times undoes so many in the log. -/
theorem undo_times_eq (bounds : Rect) (k : Nat) (e : Edit F) :
    undo_times k e = ((log e).undos (edit_rules F bounds) k).map
      fun r => (of_log e.source r.1, r.2) := by
  induction k generalizing e with
  | zero => rfl
  | succ k ih =>
      simp only [undo_times, UndoLog.undos, undo_eq bounds e]
      cases hu : (log e).undo (edit_rules F bounds) with
      | none => rfl
      | some r =>
          obtain ⟨l₁, b⟩ := r
          simp only [Option.map_some, Option.bind_eq_bind, Option.bind_some,
            ih (of_log e.source l₁), log_of_log]
          cases UndoLog.undos (edit_rules F bounds) k l₁ <;> rfl

omit [BEq F] in
/-- Redoing several times redoes so many in the log. -/
theorem redo_times_eq (bounds : Rect) (k : Nat) (e : Edit F) :
    redo_times k e = ((log e).redos (edit_rules F bounds) k).map (of_log e.source) := by
  induction k generalizing e with
  | zero => rfl
  | succ k ih =>
      simp only [redo_times, UndoLog.redos, redo_eq bounds e]
      cases hu : (log e).redo (edit_rules F bounds) with
      | none => rfl
      | some r =>
          obtain ⟨l₁, b⟩ := r
          simp only [Option.map_some, Option.bind_eq_bind, Option.bind_some,
            ih (of_log e.source l₁), log_of_log]
          rfl

omit [BEq F] in
/-- Undoing `k` times, and redoing as often as that took something back, restores the
edit; the first `undo_steps.length` of the undos do take something back. -/
theorem redo_times_undo_times {source : CpuFrame} {e : Edit F} (h : HistoryInv source e)
    (k : Nat) : ∃ e' n, undo_times k e = some (e', n) ∧
      (k ≤ e.undo_steps.length → n = k) ∧ redo_times n e' = some e := by
  obtain ⟨l', n, hu, -, -, hn⟩ := h.sound.undos_sound k
  refine ⟨of_log source l', n, ?_, hn, ?_⟩
  · rw [undo_times_eq (full_bounds source), hu, h.source_eq]
    rfl
  · rw [redo_times_eq (full_bounds source), log_of_log, h.sound.redos_undos k hu, ← h.source_eq]
    rfl

omit [BEq F] in
/-- `last_changed` names the mark that the last step of the undo stack added or
replaced.
SRC: edit.rs:343-353 -/
theorem last_changed_eq {source : CpuFrame} {e : Edit F} (h : HistoryInv source e) {i : Nat}
    (hi : e.last_changed = some i) :
    ∃ steps step e₀, e.undo_steps = steps ++ [step] ∧
      replay steps (Edit.new source) = some e₀ ∧
      ((∃ mark, step = .Mark mark ∧ i = e₀.marks.length ∧ e.marks[i]? = some mark) ∨
        ∃ before after, step = .Replace i before (some after) ∧ e₀.marks[i]? = some before ∧
          e.marks[i]? = some after) := by
  rcases List.eq_nil_or_concat e.undo_steps with hnil | ⟨steps, step, hsteps⟩
  · simp [Edit.last_changed, hnil] at hi
  · rw [List.concat_eq_append] at hsteps
    have hdone := h.sound.done
    rw [show (log e).done = steps ++ [step] from hsteps] at hdone
    obtain ⟨p, hp, hlast⟩ := hdone.snoc_inv
    refine ⟨steps, step, { (Edit.new source : Edit F) with crop := p.1, marks := p.2 }, hsteps,
      ?_, ?_⟩
    · rw [replay_eq (full_bounds source), show ((Edit.new source : Edit F).crop,
        (Edit.new source : Edit F).marks) = (full_bounds source, []) from rfl, hp.replay]
      rfl
    · simp only [Edit.last_changed, hsteps, List.getLast?_concat] at hi
      cases step with
      | Crop before after => cases hi
      | Mark mark =>
          left
          have hmarks : e.marks = p.2 ++ [mark] := (Prod.mk.inj hlast).2
          have hi' : i = p.2.length := by
            simp only [hmarks, List.length_append, List.length_singleton] at hi
            rw [if_pos (by omega)] at hi
            exact (Option.some.inj hi).symm
          exact ⟨mark, rfl, hi', by rw [hmarks, hi']; simp⟩
      | Replace index before after =>
          cases after with
          | none => cases hi
          | some after =>
              right
              obtain ⟨hb, hq⟩ := hlast
              obtain rfl : index = i := Option.some.inj hi
              have hlt := (List.getElem?_eq_some_iff.mp hb).1
              have hmarks : e.marks = p.2.set index after := (Prod.mk.inj hq).2
              exact ⟨before, after, rfl, hb, by rw [hmarks, List.getElem?_set_self hlt]⟩

/-- **The history of an edit.**  After any calls on a fresh edit: the next call does
not panic, changes nothing when it returns false, and empties redo when it records an
operation; crop and marks are the undo stack replayed; `k` undos followed by a redo
for each of them that took something back restore the edit, and all `k` do so while
the undo stack holds that many steps; the crop is non-empty and inside the capture;
and `last_changed` names the mark the last step added or replaced. -/
theorem edit_history (source : CpuFrame) (calls : List (Call F)) :
    ∃ e, run D calls (Edit.new source) = some e ∧
      (∀ c, ∃ e' b, call D e c = some (e', b) ∧ (b = false → e' = e) ∧
        (b = true → c.Records → e'.redo_steps = [] ∧
          ∃ s, e'.undo_steps = e.undo_steps ++ [s])) ∧
      (∃ e₀, replay e.undo_steps (Edit.new source) = some e₀ ∧ e₀.crop = e.crop ∧
        e₀.marks = e.marks) ∧
      (∀ k, ∃ e' n, undo_times k e = some (e', n) ∧ (k ≤ e.undo_steps.length → n = k) ∧
        redo_times n e' = some e) ∧
      (e.crop.NonEmpty ∧ e.crop.Within e.bounds) ∧
      (∀ i, e.last_changed = some i → ∃ steps step e₀, e.undo_steps = steps ++ [step] ∧
        replay steps (Edit.new source) = some e₀ ∧
        ((∃ mark, step = .Mark mark ∧ i = e₀.marks.length ∧ e.marks[i]? = some mark) ∨
          ∃ before after, step = .Replace i before (some after) ∧
            e₀.marks[i]? = some before ∧ e.marks[i]? = some after)) := by
  obtain ⟨e, hrun, h⟩ := run_inv D source calls
  refine ⟨e, hrun, ?_, replay_undo_steps h, redo_times_undo_times h, ?_,
    fun i hi => last_changed_eq h hi⟩
  · intro c
    obtain ⟨e', b, hcall, -, hunchanged, hrecords⟩ := call_outcome D h c
    exact ⟨e', b, hcall, hunchanged, hrecords⟩
  · rw [Edit.bounds, h.source_eq]
    exact h.crop

/-! ## Where an undo that does nothing is answered by a redo -/

/-- Metadata of a capture whose source is one pixel. -/
def plain_metadata : FrameMetadata where
  capture_id := 1
  backend := "test"
  display_id := "display"
  source_rect := .origin_pixel
  rotation_degrees := 0
  capture_mode := .Fresh 0
  presentation_offset_ns := none
  timing_provenance := .Unavailable
  native_ready_offset_ns := 0
  cpu_ready_offset_ns := none
  frame_age_ns := none
  verified_current_offset_ns := none
  frame_generation := none
  copy_count := 0
  pool_slot := none
  cursor := none

/-- A capture of one pixel. -/
def one_pixel (pixel : Quad) : CpuFrame where
  pixels := pixel.toList
  width := 1
  height := 1
  stride_bytes := 4
  format := .Bgra8Unorm
  origin := .TopLeft
  color_space := .Srgb
  alpha := .Opaque
  metadata := plain_metadata
  layout := rfl

/-- A drawing whose marks cover nothing. -/
def blank_drawing : Drawing Unit where
  positive _ := false
  of_u32 _ := ()
  of_coverage _ := ()
  highlighter := id
  stroke_edges _ _ := (0, 0, 0, 0)
  arrow_edges _ _ _ := none
  box_outline_coverage _ _ _ _ _ := ()
  stroke_coverage _ _ area := List.replicate (area.width * area.height) ()
  stroke_coverage_length _ _ _ := List.length_replicate
  arrow_coverage _ _ _ := none
  blend_over pixel _ _ _ := pixel
  tint pixel _ _ := pixel

/-- A redaction of that pixel. -/
def redact_one_pixel : Call Unit := .redact .origin_pixel

/-- With nothing left to take back, an undo returns false and leaves the operations
taken back before it, so a redo after it does not restore the edit: it makes the
redaction again.
SRC: edit.rs:369-402 -/
theorem undo_redo_past_the_first_operation :
    ∃ e e₁ e₂, run blank_drawing [redact_one_pixel, .undo] (Edit.new (one_pixel ⟨1, 2, 3, 255⟩)) =
        some e ∧
      undo_times 1 e = some (e₁, 0) ∧ redo_times 1 e₁ = some e₂ ∧ e₂.marks ≠ e.marks :=
  ⟨_, _, _, rfl, rfl, rfl, by decide⟩

end Captastic.Analysis
