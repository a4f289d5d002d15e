import Captastic.Analysis.OverlayRuns

/-!
# How a run of the overlay ends

Whatever the run and the input, the effects that are returned end the run in order
(`closing_discipline`): a close is the last of them, and so is the request for a window
preview, whose outcome may close the overlay; what is remembered comes directly before a close
that the user asked for; and a confirmation is of the selection shown, by an intent the run
offers.  It is of the kind that the tool selects where no window preview's outcome came unasked;
the machine itself does not look (`stray_preview_confirms_window`).

Behind it is one invariant of the geometry (`InKind`): the kind of the selection is the tool's,
unless a preview came unasked and it is the window's, a window is selected only under the Window
tool, and a region is dragged only under the Region tool.
-/

set_option autoImplicit false

namespace Captastic.Analysis

open Captastic.Library Captastic.Model

variable {model model' : OverlayModel} {effects : List OverlayEffect}
  {offers : ConfirmIntent → Bool} {stray : Prop}

/-! ## The kind of a selection -/

/-- What is selected, and what is dragged, is of the tool's kind, except a window where previews
may come unasked (`stray`), and what is offered is what the run offers. -/
structure InKind (offers : ConfirmIntent → Bool) (stray : Prop) (g : Geometry) : Prop where
  kind : ∀ kind, g.selection_kind = some kind →
    g.tool = CaptureTool.from_selection_kind kind ∨ kind = .Window ∧ stray
  window : g.selected_window.isSome = true → g.tool = .Window
  anchor : g.anchor.isSome = true → g.tool = .Region
  resizing : g.resizing.isSome = true → g.tool = .Region
  moving : g.moving_region.isSome = true → g.tool = .Region
  offers : g.offers = offers

namespace InKind

variable {offers : ConfirmIntent → Bool} {stray : Prop} {g g' : Geometry}

/-- Dropping the drags keeps the kinds. -/
theorem undragged (held : InKind offers stray g) : InKind offers stray g.undragged where
  kind := held.kind
  window := held.window
  anchor := by simp [Geometry.undragged]
  resizing := by simp [Geometry.undragged]
  moving := by simp [Geometry.undragged]
  offers := held.offers

/-- What becomes of the selection's place, of the toolbar and of the pointer is of no kind. -/
theorem of_same (held : InKind offers stray g) (tool : g'.tool = g.tool)
    (selection_kind : g'.selection_kind = g.selection_kind)
    (selected_window : g'.selected_window = g.selected_window ∨ g'.selected_window = none)
    (anchor : g'.anchor = g.anchor ∨ g'.anchor = none)
    (resizing : g'.resizing = g.resizing ∨ g'.resizing = none)
    (moving : g'.moving_region = g.moving_region ∨ g'.moving_region = none)
    (offered : g'.offers = g.offers) : InKind offers stray g' where
  kind := by
    rw [tool, selection_kind]
    exact held.kind
  window := by
    rw [tool]
    rcases selected_window with same | gone
    · rw [same]
      exact held.window
    · simp [gone]
  anchor := by
    rw [tool]
    rcases anchor with same | gone
    · rw [same]
      exact held.anchor
    · simp [gone]
  resizing := by
    rw [tool]
    rcases resizing with same | gone
    · rw [same]
      exact held.resizing
    · simp [gone]
  moving := by
    rw [tool]
    rcases moving with same | gone
    · rw [same]
      exact held.moving
    · simp [gone]
  offers := offered.trans held.offers

/-- Under the Region tool with a region selected, anything of a region may be dragged. -/
theorem of_region (tool : g.tool = .Region)
    (selection_kind : g.selection_kind = some .Region ∨ g.selection_kind = none)
    (selected_window : g.selected_window = none) (offered : g.offers = offers) :
    InKind offers stray g where
  kind := by
    intro kind selected
    rcases selection_kind with region | nothing
    · rw [region] at selected
      cases selected
      exact .inl tool
    · rw [nothing] at selected
      cases selected
  window := by simp [selected_window]
  anchor := fun _ => tool
  resizing := fun _ => tool
  moving := fun _ => tool
  offers := offered

end InKind

/-- A tool's initial selection is of its kind.
SRC: machine.rs:1386-1401 -/
theorem initial_selection_kind {tool : CaptureTool} {last_region selection : Option Rect}
    {source : Rect} {selection_kind : Option SelectionKind}
    (selected : initial_selection tool last_region source = some (selection, selection_kind)) :
    ∀ kind, selection_kind = some kind → tool = CaptureTool.from_selection_kind kind := by
  intro kind shown
  unfold initial_selection at selected
  cases tool with
  | FullDisplay =>
    cases selected
    cases shown
    rfl
  | Window =>
    cases selected
    cases shown
  | Region =>
    simp only [Option.bind_eq_bind, Option.bind_eq_some_iff] at selected
    obtain ⟨region, -, selected⟩ := selected
    cases selected
    cases shown
    rfl

/-! ## Effects in order -/

/-- The effects a handler may return, with the model it leaves: quiet ones, after which it may
ask for a window preview; or the end of the run. -/
inductive Closing (offers : ConfirmIntent → Bool) (stray : Prop) (model' : OverlayModel) :
    List OverlayEffect → Prop
  | settled {effects : List OverlayEffect} (is_quiet : Quiet effects) :
      Closing offers stray model' effects
  | preview {effects : List OverlayEffect} {slot : Option NativeWindowHandle}
      (is_quiet : Quiet effects) (tool : model'.tool = .Window) :
      Closing offers stray model' (effects ++ [.UpdateWindowPreview slot])
  | confirmed {rect : Rect} {kind : SelectionKind} {intent : ConfirmIntent}
      {region : Option Rect} (selection : model'.selection = some rect)
      (selection_kind : model'.selection_kind = some kind)
      (tool : model'.tool = CaptureTool.from_selection_kind kind ∨ kind = .Window ∧ stray)
      (offered : offers intent = true)
      (window : model'.selected_window.isSome = true → kind = .Window)
      (region_kind : kind = .Region → region = some rect) :
      Closing offers stray model' [.PersistInteraction region,
        .Close (.Confirmed rect kind model'.selected_window intent)]
  | cancelled {region : Option Rect} :
      Closing offers stray model' [.PersistInteraction region, .Close .Cancelled]
  | invalidated {reason : String} :
      Closing offers stray model' [.Close (.DisplayConfigurationInvalidated reason)]

/-- An attempt to end a run keeps the kinds, and ends it in order. -/
theorem ended_closing (held : InKind offers stray (geometry model))
    (ended : Ended model model' effects) :
    InKind offers stray (geometry model') ∧ Closing offers stray model' effects := by
  obtain ⟨last_region, -, leaves⟩ := ended.leaves
  refine ⟨?_, ?_⟩
  · rw [leaves]
    exact held.of_same rfl rfl (.inl rfl) (.inl rfl) (.inl rfl) (.inl rfl) rfl
  · cases ended with
    | unavailable => exact .settled quiet_nil
    | cancelled => exact .cancelled
    | @confirmed rect kind intent selection selection_kind offered =>
      have tool := held.kind kind selection_kind
      apply Closing.confirmed
      · exact selection
      · exact selection_kind
      · exact tool
      · rw [← held.offers, geometry_offers]
        exact offered
      · intro window
        have window_tool := held.window window
        rcases tool with tool | ⟨of_window, -⟩
        · rw [tool] at window_tool
          cases kind with
          | Window => rfl
          | Display => cases window_tool
          | Region => cases window_tool
        · exact of_window
      · intro region
        subst region
        have region_tool : (geometry model).tool = .Region := by
          rcases tool with tool | ⟨of_window, -⟩
          · exact tool
          · cases of_window
        have region_kind : (geometry model).selection_kind = some .Region := selection_kind
        have shown : (geometry model).selection = some rect := selection
        simp [Geometry.latest_region, latest_interaction_region, region_tool, region_kind, shown]

/-! ## What every event keeps -/

/-- A press of a control keeps the kinds, and ends the run in order, if it does. -/
theorem control_closing {point : Point} {control : ToolbarControl} {in_toolbar_bounds : Bool}
    (held : InKind offers stray (geometry model))
    (pressed : ControlPressed model point control in_toolbar_bounds model' effects) :
    InKind offers stray (geometry model') ∧ Closing offers stray model' effects := by
  cases pressed with
  | dragged _ leaves is_quiet =>
    refine ⟨?_, .settled is_quiet⟩
    rw [leaves]
    exact held.undragged.of_same rfl rfl (.inl rfl) (.inl rfl) (.inl rfl) (.inl rfl) rfl
  | ended _ leaves ended =>
    apply ended_closing _ ended
    rw [leaves]
    exact held.undragged
  | switched _ _ selected leaves is_quiet =>
    refine ⟨?_, .settled is_quiet⟩
    rw [leaves]
    exact {
      kind := fun kind shown => .inl (initial_selection_kind selected kind shown)
      window := by simp [Geometry.switched]
      anchor := by simp [Geometry.switched, Geometry.undragged]
      resizing := by simp [Geometry.switched, Geometry.undragged]
      moving := by simp [Geometry.switched, Geometry.undragged]
      offers := held.offers }
  | kept _ leaves is_quiet =>
    refine ⟨?_, .settled is_quiet⟩
    rw [leaves]
    exact held.undragged

/-- A press outside the toolbar keeps the kinds, and asks for a preview only of a window. -/
theorem outside_closing {point : Point} (held : InKind offers stray (geometry model))
    (pressed : PressedOutside (geometry model) point model' effects) :
    InKind offers stray (geometry model') ∧ Closing offers stray model' effects := by
  cases pressed with
  | window tool leaves is_quiet =>
    refine ⟨?_, .preview is_quiet ((congrArg Geometry.tool leaves).trans tool)⟩
    rw [leaves]
    exact { held with window := fun _ => tool }
  | display _ leaves is_quiet =>
    rw [leaves]
    exact ⟨held, .settled is_quiet⟩
  | resize tool _ _ leaves is_quiet =>
    refine ⟨?_, .settled is_quiet⟩
    rw [leaves]
    exact { held.undragged with resizing := fun _ => tool }
  | move tool _ _ _ leaves is_quiet =>
    refine ⟨?_, .settled is_quiet⟩
    rw [leaves]
    exact { held.undragged with resizing := fun _ => tool, moving := fun _ => tool }
  | band tool _ _ leaves is_quiet =>
    refine ⟨?_, .settled is_quiet⟩
    rw [leaves]
    exact .of_region tool (.inr rfl) rfl held.offers

/-- A move keeps the kinds. -/
theorem moved_in_kind {aimed : OverlayModel} {point : Point} {modifiers : Modifiers}
    (held : InKind offers stray (geometry model))
    (moved : Moved aimed ((geometry model).pointed point) point modifiers model') :
    InKind offers stray (geometry model') := by
  cases moved with
  | hovered leaves =>
    rw [leaves]
    exact held.of_same rfl rfl (.inl rfl) (.inl rfl) (.inl rfl) (.inl rfl) rfl
  | resized _ _ leaves =>
    rw [leaves]
    exact held.of_same rfl rfl (.inl rfl) (.inl rfl) (.inl rfl) (.inl rfl) rfl
  | moved _ _ leaves =>
    rw [leaves]
    exact held.of_same rfl rfl (.inl rfl) (.inl rfl) (.inl rfl) (.inl rfl) rfl
  | banded drag _ _ leaves =>
    have anchor : (geometry model).anchor = some _ := drag
    rw [leaves]
    exact .of_region (held.anchor (by simp [anchor])) (.inl rfl) rfl held.offers

/-- A release keeps the kinds. -/
theorem released_in_kind {point : Point} {modifiers : Modifiers}
    (held : InKind offers stray (geometry model))
    (released : Released model point modifiers model') : InKind offers stray (geometry model') := by
  cases released with
  | toolbar leaves =>
    rw [leaves]
    exact held.of_same rfl rfl (.inl rfl) (.inl rfl) (.inl rfl) (.inl rfl) rfl
  | elsewhere _ leaves =>
    rw [leaves]
    exact held
  | resized tool _ _ leaves =>
    rw [leaves]
    exact .of_region tool (.inl rfl) rfl held.offers
  | moved tool _ _ leaves =>
    rw [leaves]
    exact .of_region tool (.inl rfl) rfl held.offers
  | banded tool _ _ leaves =>
    rw [leaves]
    exact .of_region tool (.inl rfl) rfl held.offers
  | clicked _ leaves =>
    rw [leaves]
    exact held.of_same rfl rfl (.inl rfl) (.inr rfl) (.inl rfl) (.inl rfl) rfl

/-- Every event keeps the kinds and returns effects in order, where a window preview that is not
stray is resolved under the Window tool. -/
theorem handled_closing {event : OverlayEvent} (held : InKind offers stray (geometry model))
    (due : resolves_preview event = true → model.tool = .Window ∨ stray)
    (taken : handled model event = some (model', effects)) :
    InKind offers stray (geometry model') ∧ Closing offers stray model' effects := by
  cases event with
  | pruned dead =>
    obtain ⟨rfl, rfl⟩ := Prod.ext_iff.mp (Option.some.inj taken)
    obtain ⟨is_quiet, same | cleared⟩ := window_sources_pruned_cases model dead
    · rw [same]
      exact ⟨held, .settled is_quiet⟩
    · refine ⟨?_, .settled is_quiet⟩
      rw [cleared]
      exact held.of_same rfl rfl (.inr rfl) (.inl rfl) (.inl rfl) (.inl rfl) rfl
  | input input =>
    cases input with
    | PointerDown =>
      rcases pointer_down_cases taken with ⟨_, _, -, pressed⟩ | ⟨-, pressed⟩
      · exact control_closing held pressed
      · exact outside_closing held pressed
    | PointerMoved =>
      obtain ⟨is_quiet, -, aimed, -, moved⟩ := pointer_moved_cases taken
      exact ⟨moved_in_kind held moved, .settled is_quiet⟩
    | PointerUp =>
      obtain ⟨is_quiet, -, released⟩ := pointer_up_cases taken
      exact ⟨released_in_kind held released, .settled is_quiet⟩
    | DoubleClicked => exact ended_closing held (double_clicked_cases taken)
    | PointerCaptureLost =>
      obtain ⟨rfl, rfl⟩ := Prod.ext_iff.mp (Option.some.inj taken)
      obtain ⟨leaves, is_quiet⟩ := pointer_capture_lost_cases model
      refine ⟨?_, .settled is_quiet⟩
      rw [leaves]
      exact held.undragged.of_same rfl rfl (.inl rfl) (.inl rfl) (.inl rfl) (.inl rfl) rfl
    | WindowPreviewResolved rect intent =>
      obtain ⟨resolved, leaves, ended⟩ := window_preview_resolved_cases model rect intent
      obtain ⟨rfl, rfl⟩ := Prod.ext_iff.mp (Option.some.inj taken)
      have in_kind : InKind offers stray (geometry resolved) := by
        rw [leaves]
        refine { held with kind := ?_ }
        intro kind resolves
        obtain ⟨shown, -, rfl⟩ := Option.map_eq_some_iff.mp resolves
        exact (due rfl).imp_right fun unasked => ⟨rfl, unasked⟩
      rcases ended with ended | ⟨same, is_quiet⟩
      · exact ended_closing in_kind ended
      · rw [same]
        exact ⟨in_kind, .settled is_quiet⟩
    | SnapTargetsReady =>
      cases taken
      exact ⟨held, .settled quiet_nil⟩
    | LoupeKeyChanged key_held =>
      obtain ⟨rfl, rfl⟩ := Prod.ext_iff.mp (Option.some.inj taken)
      obtain ⟨same, is_quiet⟩ := loupe_key_changed_keeps model key_held
      rw [same]
      exact ⟨held, .settled is_quiet⟩
    | Tick =>
      obtain ⟨is_quiet, same⟩ := loupe_tick_cases taken
      rw [same]
      exact ⟨held, .settled is_quiet⟩
    | ToggleView =>
      obtain ⟨rfl, rfl⟩ := Prod.ext_iff.mp (Option.some.inj taken)
      obtain ⟨same, is_quiet⟩ := toggle_view_keeps model
      rw [same]
      exact ⟨held, .settled is_quiet⟩
    | Nudge =>
      obtain ⟨is_quiet, -, same | ⟨_, _, _, -, -, -, -, leaves⟩⟩ := nudge_cases taken
      · rw [same]
        exact ⟨held, .settled is_quiet⟩
      · refine ⟨?_, .settled is_quiet⟩
        rw [leaves]
        exact held.of_same rfl rfl (.inl rfl) (.inl rfl) (.inl rfl) (.inl rfl) rfl
    | ConfirmRequested intent =>
      obtain ⟨rfl, rfl⟩ := Prod.ext_iff.mp (Option.some.inj taken)
      exact ended_closing held (confirm_ended model intent)
    | CancelRequested =>
      obtain ⟨rfl, rfl⟩ := Prod.ext_iff.mp (Option.some.inj taken)
      exact ended_closing held (cancel_ended model)
    | DisplayConfigurationInvalidated =>
      cases taken
      exact ⟨held, .invalidated⟩

/-! ## Closing discipline -/

/-- Whether the effect keeps something for later runs. -/
def persists : OverlayEffect → Bool
  | .PersistToolbarCenter _ | .PersistInteraction _ | .PersistSnapPreference _
  | .PersistRegionZoom _ => true
  | _ => false

/-- Whether the effect keeps what was selected. -/
def persists_interaction : OverlayEffect → Bool
  | .PersistInteraction _ => true
  | _ => false

/-- A confirmation of what the model shows: by an intent the run offers, with a window only if
one is what is selected, and with a region only if the region kept is that region. -/
structure Confirms (offers : ConfirmIntent → Bool) (model' : OverlayModel) (kept : Option Rect)
    (rect : Rect) (kind : SelectionKind) (window : Option NativeWindowHandle)
    (intent : ConfirmIntent) : Prop where
  selection : model'.selection = some rect
  selection_kind : model'.selection_kind = some kind
  offered : offers intent = true
  window : window.isSome = true → kind = .Window
  region : kind = .Region → kept = some rect

/-- **Closing discipline** of the effects returned with a model: a close is the last of them,
and so is the request for a window preview; a close the user asked for comes right after the
one effect that keeps the interaction, and one that the display forces comes with none that
keeps anything; and a confirmation is one of what the model shows. -/
structure ClosingDiscipline (offers : ConfirmIntent → Bool) (model' : OverlayModel)
    (effects : List OverlayEffect) : Prop where
  close_last : ∀ before outcome rest, effects = before ++ .Close outcome :: rest → rest = []
  preview_last : ∀ before window rest,
    effects = before ++ .UpdateWindowPreview window :: rest → rest = []
  cancelled : ∀ before, effects = before ++ [.Close .Cancelled] →
    ∃ earlier kept, before = earlier ++ [.PersistInteraction kept] ∧
      ∀ effect ∈ earlier, persists_interaction effect = false
  confirmed : ∀ before rect kind window intent,
    effects = before ++ [.Close (.Confirmed rect kind window intent)] →
    ∃ earlier kept, before = earlier ++ [.PersistInteraction kept] ∧
      (∀ effect ∈ earlier, persists_interaction effect = false) ∧
      Confirms offers model' kept rect kind window intent
  invalidated : ∀ before reason,
    effects = before ++ [.Close (.DisplayConfigurationInvalidated reason)] →
    ∀ effect ∈ before, persists effect = false

/-- What the effects confirm is of the kind that the tool selects. -/
def ConfirmsOfTool (model' : OverlayModel) (effects : List OverlayEffect) : Prop :=
  ∀ rect kind window intent, .Close (.Confirmed rect kind window intent) ∈ effects →
    model'.tool = CaptureTool.from_selection_kind kind

/-- Quiet effects hold neither a close nor the request for a preview. -/
theorem Quiet.not_mem {effect : OverlayEffect} (is_quiet : Quiet effects)
    (loud : quiet effect = false) : effect ∉ effects := by
  intro member
  have contradiction := is_quiet effect member
  rw [loud] at contradiction
  cases contradiction

/-- Where an effect of quiet ones and a last one is not quiet, it is the last. -/
theorem last_of_quiet {before rest : List OverlayEffect} {last effect : OverlayEffect}
    (is_quiet : Quiet effects) (loud : quiet effect = false)
    (split : effects ++ [last] = before ++ effect :: rest) : rest = [] ∧ effect = last := by
  rcases List.eq_nil_or_concat rest with rfl | ⟨init, final, rfl⟩
  · obtain ⟨-, same⟩ := List.append_inj' split rfl
    exact ⟨rfl, (List.cons.inj same).1.symm⟩
  · rw [List.concat_eq_append, ← List.cons_append, ← List.append_assoc] at split
    obtain ⟨same, -⟩ := List.append_inj' split rfl
    have member : effect ∈ effects := by
      rw [same]
      simp
    exact absurd member (is_quiet.not_mem loud)

/-- Quiet effects hold no other. -/
theorem quiet_split {before rest : List OverlayEffect} {effect : OverlayEffect}
    (is_quiet : Quiet effects) (loud : quiet effect = false)
    (split : effects = before ++ effect :: rest) : False := by
  apply is_quiet.not_mem loud
  rw [split]
  simp

/-- Where one of two effects stands. -/
theorem pair_split {first last effect : OverlayEffect} {before rest : List OverlayEffect}
    (split : [first, last] = before ++ effect :: rest) :
    (effect = first ∧ before = [] ∧ rest = [last]) ∨
      (effect = last ∧ before = [first] ∧ rest = []) := by
  cases before with
  | nil =>
    cases split
    exact .inl ⟨rfl, rfl, rfl⟩
  | cons first' before =>
    cases before with
    | nil =>
      cases split
      exact .inr ⟨rfl, rfl, rfl⟩
    | cons last' before => simp at split

/-- Effects that keep the interaction and close the overlay, as the user asked, are in order. -/
theorem discipline_of_pair {kept : Option Rect} {outcome : CloseOutcome}
    (asked : ∀ reason, outcome ≠ .DisplayConfigurationInvalidated reason)
    (confirms : ∀ rect kind window intent, outcome = .Confirmed rect kind window intent →
      Confirms offers model' kept rect kind window intent) :
    ClosingDiscipline offers model' [.PersistInteraction kept, .Close outcome] where
  close_last := by
    intro before outcome' rest split
    rcases pair_split split with ⟨same, -⟩ | ⟨-, -, last⟩
    · cases same
    · exact last
  preview_last := by
    intro before window rest split
    rcases pair_split split with ⟨same, -⟩ | ⟨same, -⟩
    · cases same
    · cases same
  cancelled := by
    intro before split
    rcases pair_split split with ⟨same, -⟩ | ⟨-, rfl, -⟩
    · cases same
    · exact ⟨[], kept, rfl, by simp⟩
  confirmed := by
    intro before rect kind window intent split
    rcases pair_split split with ⟨same, -⟩ | ⟨same, rfl, -⟩
    · cases same
    · cases same
      exact ⟨[], kept, rfl, by simp, confirms rect kind window intent rfl⟩
  invalidated := by
    intro before reason split
    rcases pair_split split with ⟨same, -⟩ | ⟨same, -, -⟩
    · cases same
    · cases same
      exact absurd rfl (asked reason)

/-- Effects a handler may return are in order. -/
theorem Closing.discipline (closing : Closing offers stray model' effects) :
    ClosingDiscipline offers model' effects := by
  cases closing with
  | settled is_quiet =>
    refine ⟨?_, ?_, ?_, ?_, ?_⟩
    · intro before outcome rest split
      exact (quiet_split is_quiet rfl split).elim
    · intro before window rest split
      exact (quiet_split is_quiet rfl split).elim
    · intro before split
      exact (quiet_split is_quiet rfl split).elim
    · intro before rect kind window intent split
      exact (quiet_split is_quiet rfl split).elim
    · intro before reason split
      exact (quiet_split is_quiet rfl split).elim
  | preview is_quiet tool =>
    refine ⟨?_, ?_, ?_, ?_, ?_⟩
    · intro before outcome rest split
      exact (last_of_quiet is_quiet rfl split).1
    · intro before window rest split
      exact (last_of_quiet is_quiet rfl split).1
    · intro before split
      cases (last_of_quiet is_quiet rfl split).2
    · intro before rect kind window intent split
      cases (last_of_quiet is_quiet rfl split).2
    · intro before reason split
      cases (last_of_quiet is_quiet rfl split).2
  | confirmed selection selection_kind tool offered window region_kind =>
    apply discipline_of_pair
    · intro reason same
      cases same
    · intro rect kind selected intent same
      cases same
      exact ⟨selection, selection_kind, offered, window, region_kind⟩
  | cancelled =>
    apply discipline_of_pair
    · intro reason same
      cases same
    · intro rect kind selected intent same
      cases same
  | invalidated =>
    have alone {before rest : List OverlayEffect} {close effect : OverlayEffect}
        (split : [close] = before ++ effect :: rest) :
        effect = close ∧ before = [] ∧ rest = [] := by
      cases before with
      | nil =>
        cases split
        exact ⟨rfl, rfl, rfl⟩
      | cons close' before => simp at split
    refine ⟨?_, ?_, ?_, ?_, ?_⟩
    · intro before outcome rest split
      exact (alone split).2.2
    · intro before window rest split
      exact (alone split).2.2
    · intro before split
      cases (alone split).1
    · intro before rect kind window intent split
      cases (alone split).1
    · intro before reason split
      obtain ⟨-, rfl, -⟩ := alone split
      simp

/-- Where no preview comes unasked, what is confirmed is of the kind that the tool selects. -/
theorem Closing.of_tool (closing : Closing offers False model' effects) :
    ConfirmsOfTool model' effects := by
  intro rect kind window intent member
  cases closing with
  | settled is_quiet => exact absurd member (is_quiet.not_mem rfl)
  | preview is_quiet _ =>
    rcases List.mem_append.mp member with earlier | last
    · exact absurd earlier (is_quiet.not_mem rfl)
    · cases List.mem_singleton.mp last
  | confirmed _ _ tool =>
    simp only [List.mem_cons, List.not_mem_nil, or_false, reduceCtorEq, false_or] at member
    cases member
    rcases tool with tool | ⟨-, unasked⟩
    · exact tool
    · exact unasked.elim
  | cancelled => simp at member
  | invalidated => simp at member

/-- Effects in order ask for a window preview only under the Window tool. -/
theorem Closing.preview_under_tool (closing : Closing offers stray model' effects)
    (asks : effects.any asks_preview = true) : model'.tool = .Window := by
  obtain ⟨effect, member, preview⟩ := List.any_eq_true.mp asks
  have loud : quiet effect = false := by
    cases effect with
    | UpdateWindowPreview => rfl
    | _ => cases preview
  cases closing with
  | settled is_quiet => exact absurd member (is_quiet.not_mem loud)
  | preview _ tool => exact tool
  | confirmed =>
    simp only [List.mem_cons, List.not_mem_nil, or_false] at member
    rcases member with rfl | rfl <;> cases preview
  | cancelled =>
    simp only [List.mem_cons, List.not_mem_nil, or_false] at member
    rcases member with rfl | rfl <;> cases preview
  | invalidated =>
    obtain rfl := List.mem_singleton.mp member
    cases preview

/-! ## Runs -/

/-- What a run offers, from its opening. -/
def offered_by (run : OverlayRun) : ConfirmIntent → Bool
  | .Capture => true
  | .Pin => run.pin_available
  | .Edit => run.edit_available
  | .Record => run.record_format.isSome

/-- What every step of an overlay on screen keeps. -/
structure SessionInKind (offers : ConfirmIntent → Bool) (stray : Prop)
    (session : OverlaySession) : Prop where
  in_kind : InKind offers stray (geometry session.model)
  due : session.preview_due = true → session.model.tool = .Window

/-- An overlay opens with a selection of its tool's kind. -/
theorem opened_in_kind {source : Rect} {run : OverlayRun}
    (opened : open_overlay source run = some model) :
    SessionInKind (offered_by run) stray (opened_session model) := by
  unfold open_overlay at opened
  split at opened
  · cases opened
  · simp only [Option.bind_eq_bind, Option.bind_eq_some_iff] at opened
    obtain ⟨region, -, ⟨selection, kind⟩, selected, opened⟩ := opened
    cases opened
    refine ⟨?_, by simp [opened_session]⟩
    exact {
      kind := fun kind shown => .inl (initial_selection_kind selected kind shown)
      window := by simp [opened_session, geometry]
      anchor := by simp [opened_session, geometry]
      resizing := by simp [opened_session, geometry]
      moving := by simp [opened_session, geometry]
      offers := rfl }

/-- A preview that was asked for is resolved under the Window tool. -/
theorem SessionInKind.under_tool {session : OverlaySession} {event : OverlayEvent}
    (held : SessionInKind offers stray session) (asked : PreviewDue session event ∨ stray)
    (resolves : resolves_preview event = true) : session.model.tool = .Window ∨ stray :=
  asked.imp_left fun due => held.due (due resolves)

/-- A step keeps the kinds. -/
theorem step_in_kind {session session' : OverlaySession} {event : OverlayEvent}
    (held : SessionInKind offers stray session) (asked : PreviewDue session event ∨ stray)
    (step : OverlayStep session event session') : SessionInKind offers stray session' := by
  obtain ⟨effects, taken, asks, -⟩ := step.inversion
  obtain ⟨in_kind, closing⟩ := handled_closing held.in_kind (held.under_tool asked) taken
  refine ⟨in_kind, ?_⟩
  rw [asks]
  exact closing.preview_under_tool

/-- What an event returns after a run, and what is behind it: any previews may have come unasked,
or each was asked for. -/
theorem run_closing {source : Rect} {run : OverlayRun} {session : OverlaySession}
    {steps : List (Taken OverlaySession OverlayEvent)}
    (opened : open_overlay source run = some model)
    (runs : Run OverlayStep (opened_session model) steps session)
    (asked : ∀ step ∈ steps, PreviewDue step.before step.event ∨ stray)
    {event : OverlayEvent} (asked_last : PreviewDue session event ∨ stray)
    (taken : handled session.model event = some (model', effects)) :
    Closing (offered_by run) stray model' effects := by
  have held : SessionInKind (offered_by run) stray session := by
    apply runs.inv_of_meets (P := SessionInKind (offered_by run) stray)
      (C := fun session event => PreviewDue session event ∨ stray)
    · intro session event session' held asked step
      exact step_in_kind held asked step
    · exact opened_in_kind opened
    · exact asked
  exact (handled_closing held.in_kind (held.under_tool asked_last) taken).2

/-- **Closing discipline**: whatever the run of an overlay so far, the effects that the next
event returns end it in order; and where the outcome of a window preview has come only directly
after it was asked for, what they confirm is of the kind that the tool selects. -/
theorem closing_discipline {source : Rect} {run : OverlayRun} {model : OverlayModel}
    {session : OverlaySession} {steps : List (Taken OverlaySession OverlayEvent)}
    (opened : open_overlay source run = some model)
    (runs : Run OverlayStep (opened_session model) steps session)
    {event : OverlayEvent} {model' : OverlayModel} {effects : List OverlayEffect}
    (taken : handled session.model event = some (model', effects)) :
    ClosingDiscipline (offered_by run) model' effects ∧
      ((∀ step ∈ steps, PreviewDue step.before step.event) → PreviewDue session event →
        ConfirmsOfTool model' effects) := by
  constructor
  · have closing : Closing (offered_by run) True model' effects :=
      run_closing opened runs (fun _ _ => .inr trivial) (.inr trivial) taken
    exact closing.discipline
  · intro asked asked_last
    have closing : Closing (offered_by run) False model' effects :=
      run_closing opened runs (fun step member => .inl (asked step member)) (.inl asked_last) taken
    exact closing.of_tool

/-- The release of a resize, then Enter: the region kept is the one confirmed, under the Region
tool. -/
theorem closing_discipline_after_resize :
    ∃ session model' effects,
      region_session [press 480 270, release 500 300] = some session ∧
      handled session.model (.input (.ConfirmRequested .Capture)) = some (model', effects) ∧
      effects.length = 2 ∧ ClosingDiscipline (offered_by region_run) model' effects ∧
      ConfirmsOfTool model' effects := by
  have computed : (region_session [press 480 270, release 500 300]).any (fun session =>
      (session.model.confirm .Capture).2.length = 2) = true := by decide
  obtain ⟨session, ran, length⟩ := Option.any_eq_true _ _ |>.mp computed
  obtain ⟨model, steps, opened, same, runs⟩ := region_session_runs ran
  have enter : handled session.model (.input (.ConfirmRequested .Capture)) =
      some (session.model.confirm .Capture) := rfl
  have closes := closing_discipline opened runs enter
  refine ⟨session, _, _, ran, rfl, of_decide_eq_true length, closes.1, closes.2 ?_ ?_⟩
  · intro step member
    have listed : step.event ∈ [press 480 270, release 500 300] :=
      same ▸ List.mem_map_of_mem member
    simp only [List.mem_cons, List.not_mem_nil, or_false] at listed
    rcases listed with pressed | released
    · simp [PreviewDue, pressed, resolves_preview, press]
    · simp [PreviewDue, released, resolves_preview, release]
  · simp [PreviewDue, resolves_preview]

/-- A window preview's outcome that nothing asked for, right after the overlay opens under the
Region tool, confirms a window. -/
theorem stray_preview_confirms_window :
    ∃ model model' effects, open_overlay full_hd region_run = some model ∧
      handled model (.input (.WindowPreviewResolved (some full_hd) .Capture)) =
        some (model', effects) ∧
      .Close (.Confirmed full_hd .Window none .Capture) ∈ effects ∧ model'.tool = .Region := by
  have computed : (open_overlay full_hd region_run).any (fun model =>
      (handled model (.input (.WindowPreviewResolved (some full_hd) .Capture))).any
        fun left => decide (.Close (.Confirmed full_hd .Window none .Capture) ∈ left.2) &&
          decide (left.1.tool = .Region)) = true := by decide
  obtain ⟨model, opened, computed⟩ := Option.any_eq_true _ _ |>.mp computed
  obtain ⟨⟨model', effects⟩, taken, held⟩ := Option.any_eq_true _ _ |>.mp computed
  rw [Bool.and_eq_true, decide_eq_true_eq, decide_eq_true_eq] at held
  exact ⟨model, model', effects, opened, taken, held⟩

end Captastic.Analysis
