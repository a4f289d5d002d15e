import Captastic.Analysis.EditorBuffers
import Captastic.Library.Runs

/-!
# The editor's preview follows the pending mark

Every handler that changes the pending mark shows it again, but one: letting go a swatch of
another colour, while text is being typed, leaves the preview in the old one
(`preview_keeps_old_colour`).  Where no such swatch is let go the preview is the committed buffer
with the pending mark over it in every state (`preview_follows`).  The invariant says beside that
when text is open: with the text tool only, with no drag, and with no button held but a swatch
(`Apart`), so that an undo, a resized arrow or a drag never finds text to hide.
-/

set_option autoImplicit false

namespace Captastic.Analysis

open Captastic.Library Captastic.Model

variable {F I : Type} {D : Drawing F} {G : EditorGeometry F I}

/-! ## An edit keeps its capture -/

section Sources

variable {e e' : Edit F} {changed : Bool}

/-- Recording a step leaves the capture. -/
theorem record_source {step : Step F} (ran : e.record step = some e') : e'.source = e.source := by
  unfold Edit.record at ran
  rw [apply_eq, Option.map_map, Option.map_eq_some_iff] at ran
  obtain ⟨picture, -, rfl⟩ := ran
  rfl

/-- So does a step that is recorded if it changes something. -/
theorem source_of_recorded {step : Step F}
    (ran : (e.record step).map (·, true) = some (e', changed)) : e'.source = e.source := by
  rw [Option.map_eq_some_iff] at ran
  obtain ⟨recorded, recorded_eq, same⟩ := ran
  cases same
  exact record_source recorded_eq

/-- Cropping leaves it. -/
theorem set_crop_source {rect : Rect} (ran : e.set_crop rect = some (e', changed)) :
    e'.source = e.source := by
  unfold Edit.set_crop at ran
  split at ran
  · cases ran
    rfl
  · split at ran
    · cases ran
      rfl
    · exact source_of_recorded ran

/-- Adding a mark leaves it. -/
theorem add_source {mark : Mark F} (ran : e.add D mark = some (e', changed)) :
    e'.source = e.source := by
  unfold Edit.add at ran
  split at ran
  · cases ran
    rfl
  · exact source_of_recorded ran

/-- Undoing leaves it. -/
theorem undo_source (ran : e.undo = some (e', changed)) : e'.source = e.source := by
  rw [undo_eq (full_bounds e.source), Option.map_eq_some_iff] at ran
  obtain ⟨result, -, same⟩ := ran
  cases same
  rfl

/-- Redoing leaves it. -/
theorem redo_source (ran : e.redo = some (e', changed)) : e'.source = e.source := by
  rw [redo_eq (full_bounds e.source), Option.map_eq_some_iff] at ran
  obtain ⟨result, -, same⟩ := ran
  cases same
  rfl

variable [BEq F]

/-- Replacing a mark leaves it. -/
theorem replace_source {index : Nat} {mark : Option (Mark F)}
    (ran : e.replace D index mark = some (e', changed)) : e'.source = e.source := by
  unfold Edit.replace at ran
  split at ran
  · cases ran
    rfl
  · split at ran
    · split at ran
      · split at ran
        · exact source_of_recorded ran
        · cases ran
          rfl
      · cases ran
        rfl
    · exact source_of_recorded ran

end Sources

/-! ## What the handlers leave -/

section Handlers

variable {s s' s'' : EditorState F I}

/-- Only the edit and the buffers changed, of the same capture. -/
def Repainted (s s' : EditorState F I) : Prop :=
  ∃ edit committed preview dirty, edit.source = s.edit.source ∧
    s' = { s with edit := edit, committed := committed, preview := preview, pending_dirty := dirty }

/-- Nothing is repainted. -/
theorem Repainted.refl (s : EditorState F I) : Repainted s s :=
  ⟨s.edit, s.committed, s.preview, s.pending_dirty, rfl, rfl⟩

/-- Repainting twice is repainting. -/
theorem Repainted.trans (first : Repainted s s') (second : Repainted s' s'') :
    Repainted s s'' := by
  obtain ⟨edit, committed, preview, dirty, source_eq, rfl⟩ := first
  obtain ⟨edit', committed', preview', dirty', source_eq', rfl⟩ := second
  exact ⟨edit', committed', preview', dirty', source_eq'.trans source_eq, rfl⟩

/-- An edit of the same capture, not painted yet. -/
theorem Repainted.of_edit {edit : Edit F} (source_eq : edit.source = s.edit.source) :
    Repainted s { s with edit := edit } :=
  ⟨edit, s.committed, s.preview, s.pending_dirty, source_eq, rfl⟩

/-- The buffers are kept by a change of the edit that keeps its capture. -/
theorem EditorKept.of_edit {edit : Edit F} (kept : EditorKept s)
    (source_eq : edit.source = s.edit.source) : EditorKept { s with edit := edit } := by
  unfold EditorKept at kept ⊢
  show BuffersKept edit.source _ _ _
  rw [source_eq]
  exact kept

/-- With no drag the pending mark is the text's. -/
theorem pending_mark_of_still (still : s.drag = none) :
    s.pending_mark G = s.typing.bind (TextEntry.mark G) := by
  unfold EditorState.pending_mark
  rw [still]

/-- Text changed in what is not part of its mark. -/
theorem pending_mark_of_typing {typing : Option (TextEntry I)}
    (same : typing.bind (TextEntry.mark G) = s.typing.bind (TextEntry.mark G)) :
    EditorState.pending_mark G { s with typing := typing } = s.pending_mark G := by
  unfold EditorState.pending_mark
  cases s.drag with
  | none => exact same
  | some drag =>
    cases drag with
    | Draw tool anchor current moved =>
      cases moved with
      | true => rfl
      | false => rfl
    | Crop grip start anchor current => rfl
    | Stroke tool points => rfl
    | ArrowEnd index tip current => rfl

/-- With no drag and no open text there is no pending mark. -/
theorem pending_mark_of_idle (still : s.drag = none) (closed : s.typing = none) :
    s.pending_mark G = none := by
  rw [pending_mark_of_still still, closed]
  rfl

/-- So none appears or goes while both stay so. -/
theorem pending_mark_idle_eq (still' : s'.drag = none) (closed' : s'.typing = none)
    (still : s.drag = none) (closed : s.typing = none) : s'.pending_mark G = s.pending_mark G := by
  rw [pending_mark_of_idle still' closed', pending_mark_of_idle still closed]

/-- Showing the pending mark repaints, and the preview shows it. -/
theorem show_pending_repaints (kept : EditorKept s) (ran : s.show_pending D G = some s') :
    Repainted s s' ∧ PreviewKept D G s' := by
  obtain ⟨preview, dirty, ran', shows⟩ := show_pending_spec (D := D) (G := G) kept
  rw [ran] at ran'
  obtain rfl := Option.some.inj ran'
  exact ⟨⟨s.edit, s.committed, preview, dirty, rfl, rfl⟩, shows⟩

/-- The preview composed again is the committed buffer. -/
theorem recomposed {marks : List (Mark F)} {source : CpuFrame} {pixels : List Byte}
    (source_eq : source = s.edit.source) (composed : compose_preview D source marks = some pixels) :
    Repainted s { s with committed := pixels, preview := pixels, pending_dirty := none } ∧
      EditorKept { s with committed := pixels, preview := pixels, pending_dirty := none } := by
  subst source_eq
  exact ⟨⟨s.edit, pixels, pixels, none, rfl, rfl⟩, .of_same (packed_compose_preview composed)⟩

/-- SRC: editor.rs:1504-1513 -/
theorem refresh_repaints (ran : s.refresh_preview D = some s') :
    Repainted s s' ∧ EditorKept s' ∧ (s.pending_mark G = none → PreviewKept D G s') := by
  unfold EditorState.refresh_preview at ran
  rw [Option.bind_eq_bind, Option.bind_eq_some_iff] at ran
  obtain ⟨pixels, composed, made⟩ := ran
  obtain rfl := Option.some.inj made
  obtain ⟨repainted, kept⟩ := recomposed (s := s) rfl composed
  refine ⟨repainted, kept, fun no_mark => ?_⟩
  exact .of_refreshed rfl rfl rfl (packed_compose_preview composed) no_mark

/-- SRC: editor.rs:1725-1743 -/
theorem leave_out_repaints {index : Nat} (ran : s.leave_out_of_preview D index = some s') :
    Repainted s s' ∧ EditorKept s' := by
  unfold EditorState.leave_out_of_preview at ran
  rw [Option.bind_eq_bind, Option.bind_eq_some_iff] at ran
  obtain ⟨pixels, composed, made⟩ := ran
  obtain rfl := Option.some.inj made
  exact recomposed rfl composed

/-- **A mark committed** waits to be restored with what waited already.
SRC: editor.rs:1515-1537 -/
theorem commit_mark_repaints {mark : Mark F} (kept : EditorKept s)
    (ran : s.commit_mark D mark = some s') : Repainted s s' ∧ EditorKept s' := by
  unfold EditorState.commit_mark at ran
  rw [Option.bind_eq_bind, Option.bind_eq_some_iff] at ran
  obtain ⟨⟨edit, added⟩, added_eq, ran⟩ := ran
  have source_eq := add_source added_eq
  cases added with
  | false =>
    obtain rfl := Option.some.inj ran
    exact ⟨.of_edit source_eq, kept.of_edit source_eq⟩
  | true =>
    simp only [Bool.not_true, Bool.false_eq_true, if_false, Option.bind_eq_bind,
      Option.bind_eq_some_iff] at ran
    obtain ⟨painted, painted_eq, made⟩ := ran
    obtain rfl := Option.some.inj made
    refine ⟨⟨edit, painted, s.preview, _, source_eq, rfl⟩, ?_⟩
    unfold EditorKept
    show BuffersKept edit.source painted s.preview _
    rw [source_eq]
    exact kept.of_committed painted_eq

/-! ## Text that is open -/

/-- Text is open with the text tool in hand only, with no drag, and with no button held but a
swatch. -/
def Apart (s : EditorState F I) : Prop :=
  s.typing ≠ none → s.drag = none ∧ s.tool = .Text ∧
    ∀ button, s.pressed = some button → ∃ index, button = .Swatch index

/-- Where no text is open there is nothing to keep apart. -/
theorem Apart.of_closed (closed : s.typing = none) : Apart s := fun opened => absurd closed opened

/-- During a drag no text is open. -/
theorem Apart.closed_of_drag (apart : Apart s) (dragging : s.drag ≠ none) : s.typing = none := by
  by_contra opened
  exact dragging (apart opened).1

/-- Under another tool none is. -/
theorem Apart.closed_of_tool (apart : Apart s) (other : s.tool ≠ .Text) : s.typing = none := by
  by_contra opened
  exact other (apart opened).2.1

/-- While a button other than a swatch is held none is. -/
theorem Apart.closed_of_pressed {button : EditorButton} (apart : Apart s)
    (pressed : s.pressed = some button) (other : ∀ index, button ≠ .Swatch index) :
    s.typing = none := by
  by_contra opened
  obtain ⟨index, same⟩ := (apart opened).2.2 button pressed
  exact other index same

/-- What an event leaves: the preview shows the pending mark, and open text stands apart. -/
structure EditorInv (D : Drawing F) (G : EditorGeometry F I) (s : EditorState F I) : Prop where
  shows : PreviewKept D G s
  apart : Apart s
  format : s.edit.source.format = .Bgra8Unorm

/-- The pending mark shown, where the buffers are kept. -/
theorem EditorInv.of_shown (ran : s.show_pending D G = some s') (kept : EditorKept s)
    (apart : Apart s) (format : s.edit.source.format = .Bgra8Unorm) : EditorInv D G s' := by
  obtain ⟨repainted, shows⟩ := show_pending_repaints kept ran
  obtain ⟨edit, committed, preview, dirty, source_eq, rfl⟩ := repainted
  exact ⟨shows, apart, source_eq ▸ format⟩

/-- The preview composed again, where nothing is pending. -/
theorem EditorInv.of_refreshed (ran : s.refresh_preview D = some s') (apart : Apart s)
    (format : s.edit.source.format = .Bgra8Unorm) (no_mark : s.pending_mark G = none) :
    EditorInv D G s' := by
  obtain ⟨repainted, -, shows⟩ := refresh_repaints (G := G) ran
  obtain ⟨edit, committed, preview, dirty, source_eq, same⟩ := repainted
  have shows := shows no_mark
  subst same
  exact ⟨shows, apart, source_eq ▸ format⟩

section Typing

variable {layout_text : String → I32 → Option TextLayout}

/-- Text laid out again: it is shown, and stays open.
SRC: editor.rs:1745-1754 -/
theorem retype_inv (ran : s.retype D G layout_text = some s') (kept : EditorKept s)
    (apart : Apart s) (format : s.edit.source.format = .Bgra8Unorm) : EditorInv D G s' := by
  unfold EditorState.retype at ran
  refine EditorInv.of_shown ran kept ?_ format
  exact fun opened => apart fun closed => opened (by rw [closed]; rfl)

/-- SRC: editor.rs:1756-1763 -/
theorem type_text_inv {value : String} (ran : s.type_text D G layout_text value = some s')
    (kept : EditorKept s) (apart : Apart s) (format : s.edit.source.format = .Bgra8Unorm) :
    EditorInv D G s' := by
  unfold EditorState.type_text at ran
  refine retype_inv ran kept ?_ format
  exact fun opened => apart fun closed => opened (by rw [closed]; rfl)

/-- SRC: editor.rs:1701-1710 -/
theorem discard_typing_inv (inv : EditorInv D G s) (ran : s.discard_typing D G = some s') :
    EditorInv D G s' := by
  unfold EditorState.discard_typing at ran
  cases typing_eq : s.typing with
  | none =>
    rw [typing_eq] at ran
    obtain rfl := Option.some.inj ran
    exact inv
  | some entry =>
    obtain ⟨still, -, -⟩ := inv.apart (by rw [typing_eq]; exact Option.some_ne_none _)
    rw [typing_eq] at ran
    simp only at ran
    split at ran
    · exact EditorInv.of_refreshed ran (.of_closed rfl) inv.format (pending_mark_of_idle still rfl)
    · exact EditorInv.of_shown ran inv.shows.kept (.of_closed rfl) inv.format

variable [BEq F]

/-- **Text finished**: nothing is open, and the preview shows what was committed.
SRC: editor.rs:1680-1699 -/
theorem commit_typing_inv (inv : EditorInv D G s) (ran : s.commit_typing D G = some s') :
    EditorInv D G s' ∧ s'.typing = none ∧ s'.drag = s.drag ∧ s'.tool = s.tool ∧
      s'.pressed = s.pressed ∧ s'.text_size = s.text_size := by
  unfold EditorState.commit_typing at ran
  cases typing_eq : s.typing with
  | none =>
    rw [typing_eq] at ran
    obtain rfl := Option.some.inj ran
    exact ⟨inv, typing_eq, rfl, rfl, rfl, rfl⟩
  | some entry =>
    obtain ⟨still, -, -⟩ := inv.apart (by rw [typing_eq]; exact Option.some_ne_none _)
    rw [typing_eq] at ran
    obtain ⟨closed, closed_eq⟩ : ∃ closed : EditorState F I, closed = { s with typing := none } :=
      ⟨_, rfl⟩
    have kept : EditorKept closed := closed_eq ▸ inv.shows.kept
    simp only [← closed_eq] at ran
    cases replacing_eq : entry.replacing with
    | some index =>
      rw [replacing_eq] at ran
      rw [Option.bind_eq_bind, Option.bind_eq_some_iff] at ran
      obtain ⟨⟨edit, changed⟩, replaced, ran⟩ := ran
      have source_eq : edit.source = s.edit.source := replace_source replaced
      obtain ⟨repainted, -⟩ := refresh_repaints (G := G) ran
      have after : EditorInv D G s' := by
        refine EditorInv.of_refreshed ran (.of_closed rfl) ?_ ?_
        · exact source_eq ▸ inv.format
        · exact pending_mark_of_idle still rfl
      obtain ⟨edit', committed, preview, dirty, -, rfl⟩ := repainted
      exact ⟨after, rfl, rfl, rfl, rfl, rfl⟩
    | none =>
      rw [replacing_eq] at ran
      have committed : ∃ between, Repainted closed between ∧ EditorKept between ∧
          between.show_pending D G = some s' := by
        cases mark_eq : entry.mark G with
        | none =>
          rw [mark_eq] at ran
          exact ⟨closed, .refl _, kept, ran⟩
        | some mark =>
          rw [mark_eq] at ran
          simp only [Option.bind_eq_bind, Option.bind_eq_some_iff] at ran
          obtain ⟨between, committed, ran⟩ := ran
          obtain ⟨repainted, between_kept⟩ := commit_mark_repaints kept committed
          exact ⟨between, repainted, between_kept, ran⟩
      obtain ⟨between, repainted, between_kept, ran⟩ := committed
      obtain ⟨repainted', shows⟩ := show_pending_repaints between_kept ran
      obtain ⟨edit, committed', preview, dirty, source_eq, rfl⟩ := repainted.trans repainted'
      subst closed_eq
      exact ⟨⟨shows, .of_closed rfl, source_eq ▸ inv.format⟩, rfl, rfl, rfl, rfl, rfl⟩

/-- **Text opened**, at a place with none or where it was: the preview shows it.
SRC: editor.rs:1624-1678 -/
theorem start_typing_inv {place : I} (inv : EditorInv D G s) (still : s.drag = none)
    (tool_eq : s.tool = .Text) (unpressed : s.pressed = none)
    (blank : ∀ layout, layout_text "" (G.text_pixels s.text_size) = some layout →
      layout.mask = none)
    (ran : s.start_typing D G layout_text place = some s') : EditorInv D G s' := by
  unfold EditorState.start_typing at ran
  rw [Option.bind_eq_bind, Option.bind_eq_some_iff] at ran
  obtain ⟨between, finished, ran⟩ := ran
  obtain ⟨inv, closed, drag_eq, tool_eq', pressed_eq, size_eq⟩ := commit_typing_inv inv finished
  rw [still] at drag_eq
  rw [tool_eq] at tool_eq'
  rw [unpressed] at pressed_eq
  have stands_apart : ∀ typing : Option (TextEntry I), Apart { between with typing := typing } := by
    intro typing opened
    refine ⟨drag_eq, tool_eq', ?_⟩
    intro button pressed
    cases pressed_eq.symm.trans pressed
  simp only at ran
  split at ran
  · split at ran
    · obtain rfl := Option.some.inj ran
      exact inv
    · rw [Option.bind_eq_some_iff] at ran
      obtain ⟨left_out, left_out_eq, ran⟩ := ran
      obtain ⟨repainted, kept⟩ := leave_out_repaints left_out_eq
      obtain ⟨edit, committed, preview, dirty, source_eq, rfl⟩ := repainted
      exact EditorInv.of_shown ran kept (stands_apart _) (source_eq ▸ inv.format)
  · obtain rfl := Option.some.inj ran
    unfold EditorState.open_text
    simp only
    split
    · rename_i layout layout_eq
      refine ⟨inv.shows.of_mark ?_ rfl rfl rfl rfl, stands_apart _, inv.format⟩
      rw [size_eq] at layout_eq
      rw [pending_mark_of_idle drag_eq closed]
      refine Eq.trans (pending_mark_of_still ?_) ?_
      · exact drag_eq
      · unfold TextEntry.mark
        simp only [Option.bind_some, blank layout layout_eq, Option.map_none]
    · exact inv

end Typing

/-! ## Buttons -/

section Buttons

variable {layout_text : String → I32 → Option TextLayout} [BEq F]

/-- SRC: editor.rs:1598-1618 -/
theorem thicken_last_inv (ran : s.thicken_last D G = some s') (inv : EditorInv D G s)
    (still : s.drag = none) (closed : s.typing = none) : EditorInv D G s' := by
  unfold EditorState.thicken_last at ran
  split at ran
  · rw [Option.bind_eq_bind, Option.bind_eq_some_iff] at ran
    obtain ⟨⟨edit, replaced⟩, replaced_eq, ran⟩ := ran
    have source_eq := replace_source replaced_eq
    simp only at ran
    split at ran
    · refine EditorInv.of_refreshed ran (.of_closed closed) ?_ (pending_mark_of_idle still closed)
      exact source_eq ▸ inv.format
    · obtain rfl := Option.some.inj ran
      refine ⟨inv.shows.of_mark ?_ source_eq rfl rfl rfl, .of_closed closed, source_eq ▸ inv.format⟩
      exact pending_mark_idle_eq still closed still closed
  · obtain rfl := Option.some.inj ran
    exact inv

/-- SRC: editor.rs:1580-1622 -/
theorem resize_inv {by_step : Int} (inv : EditorInv D G s) (still : s.drag = none)
    (ran : s.resize D G layout_text by_step = some s') : EditorInv D G s' := by
  unfold EditorState.resize at ran
  split at ran
  · split at ran
    · obtain rfl := Option.some.inj ran
      exact inv
    · refine retype_inv ran inv.shows.kept ?_ inv.format
      exact fun opened => inv.apart fun closed => opened (by rw [closed]; rfl)
  · rename_i tool_eq
    have closed : s.typing = none := inv.apart.closed_of_tool (by rw [tool_eq]; decide)
    split at ran
    · obtain rfl := Option.some.inj ran
      exact inv
    · refine thicken_last_inv ran ?_ still closed
      refine ⟨inv.shows.of_mark ?_ rfl rfl rfl rfl, .of_closed closed, inv.format⟩
      exact pending_mark_idle_eq still closed still closed
  · obtain rfl := Option.some.inj ran
    exact inv

omit [BEq F] in
/-- A step back or forward in the history, with nothing open. -/
theorem stepped_back_inv {result : Edit F × Bool} (inv : EditorInv D G s) (still : s.drag = none)
    (closed : s.typing = none) (source_eq : result.1.source = s.edit.source)
    (ran : s.stepped_back D result = some s') : EditorInv D G s' := by
  unfold EditorState.stepped_back at ran
  simp only at ran
  split at ran
  · refine EditorInv.of_refreshed ran (.of_closed closed) ?_ (pending_mark_of_idle still closed)
    exact source_eq ▸ inv.format
  · obtain rfl := Option.some.inj ran
    refine ⟨inv.shows.of_mark ?_ source_eq rfl rfl rfl, .of_closed closed, source_eq ▸ inv.format⟩
    exact pending_mark_idle_eq still closed still closed

omit [BEq F] in
/-- **A colour chosen** is shown where the text being typed looks the same in it.
SRC: editor.rs:815-827 -/
theorem choose_colour_inv {index : ColourIndex} (inv : EditorInv D G s) (still : s.drag = none)
    (same : ∀ entry, s.typing = some entry →
      TextEntry.mark G { entry with color := PALETTE.get index } = entry.mark G) :
    EditorInv D G (s.choose_colour index) := by
  have pending : ((s.typing.map fun entry => { entry with color := PALETTE.get index }).bind
      (TextEntry.mark G)) = s.typing.bind (TextEntry.mark G) := by
    cases typing_eq : s.typing with
    | none => rfl
    | some entry => exact same entry typing_eq
  unfold EditorState.choose_colour
  simp only
  split
  · rename_i draws
    have closed : s.typing = none := by
      refine inv.apart.closed_of_tool fun tool_eq => ?_
      rw [tool_eq] at draws
      exact absurd draws (by decide)
    have closed' : ∀ tool, (s.choose_tool tool).typing = none := by
      intro tool
      unfold EditorState.choose_tool
      split
      · exact closed
      · exact closed
    have chosen : ∀ tool, PreviewKept D G (s.choose_tool tool) ∧ (s.choose_tool tool).drag = none ∧
        (s.choose_tool tool).edit = s.edit := by
      intro tool
      unfold EditorState.choose_tool
      split
      · exact ⟨inv.shows.of_mark rfl rfl rfl rfl rfl, still, rfl⟩
      · exact ⟨inv.shows.of_mark rfl rfl rfl rfl rfl, still, rfl⟩
    obtain ⟨shows, still', edit_eq⟩ := chosen s.last_drawing_tool
    refine ⟨shows.of_mark ?_ rfl rfl rfl rfl, .of_closed ?_, edit_eq ▸ inv.format⟩
    · rw [pending_mark_of_idle still' (closed' _)]
      refine pending_mark_of_idle still' ?_
      show (s.choose_tool s.last_drawing_tool).typing.map _ = none
      rw [closed']
      rfl
    · show (s.choose_tool s.last_drawing_tool).typing.map _ = none
      rw [closed']
      rfl
  · refine ⟨inv.shows.of_mark ?_ rfl rfl rfl rfl, ?_, inv.format⟩
    · refine Eq.trans (pending_mark_of_still ?_) ?_
      · exact still
      · exact pending.trans (pending_mark_of_still still).symm
    · exact fun opened => inv.apart fun closed => opened (by rw [closed]; rfl)

omit [BEq F] in
/-- SRC: editor.rs:808-813 -/
theorem choose_tool_inv {tool : EditorTool} (inv : EditorInv D G s) (closed : s.typing = none) :
    EditorInv D G (s.choose_tool tool) := by
  unfold EditorState.choose_tool
  split
  · exact ⟨inv.shows.of_mark rfl rfl rfl rfl rfl, .of_closed closed, inv.format⟩
  · exact ⟨inv.shows.of_mark rfl rfl rfl rfl rfl, .of_closed closed, inv.format⟩

omit [BEq F] in
/-- An editor that is not closed by a request to cancel stays as it is. -/
theorem request_cancel_eq {discards : Bool} (ran : s.request_cancel discards = some s') :
    s' = s := by
  unfold EditorState.request_cancel at ran
  split at ran
  · exact (Option.some.inj ran).symm
  · cases ran

/-- **A button**, pressed with no drag: only a swatch is pressed while text is open.
SRC: editor.rs:1384-1412 -/
theorem press_button_inv {discards : Bool} {button : EditorButton} (inv : EditorInv D G s)
    (still : s.drag = none) (closed : (∀ index, button ≠ .Swatch index) → s.typing = none)
    (same : ∀ index entry, button = .Swatch index → s.typing = some entry →
      TextEntry.mark G { entry with color := PALETTE.get index } = entry.mark G)
    (ran : s.press_button D G layout_text discards button = some (some s')) : EditorInv D G s' := by
  unfold EditorState.press_button at ran
  cases button with
  | Tool tool =>
    cases ran
    exact choose_tool_inv inv (closed fun _ => by simp)
  | Swatch index =>
    cases ran
    exact choose_colour_inv inv still fun entry => same index entry rfl
  | Smaller =>
    simp only [Option.map_eq_some_iff, Option.some.injEq, exists_eq_right] at ran
    exact resize_inv inv still ran
  | Larger =>
    simp only [Option.map_eq_some_iff, Option.some.injEq, exists_eq_right] at ran
    exact resize_inv inv still ran
  | Undo =>
    simp only [Option.bind_eq_bind, Option.bind_eq_some_iff, Option.map_eq_some_iff,
      Option.some.injEq, exists_eq_right] at ran
    obtain ⟨result, undone, ran⟩ := ran
    exact stepped_back_inv inv still (closed fun _ => by simp) (undo_source undone) ran
  | Redo =>
    simp only [Option.bind_eq_bind, Option.bind_eq_some_iff, Option.map_eq_some_iff,
      Option.some.injEq, exists_eq_right] at ran
    obtain ⟨result, redone, ran⟩ := ran
    exact stepped_back_inv inv still (closed fun _ => by simp) (redo_source redone) ran
  | Cancel =>
    obtain rfl := request_cancel_eq (Option.some.inj ran)
    exact inv
  | Done =>
    simp only [Option.map_eq_some_iff, reduceCtorEq, and_false, exists_false] at ran

end Buttons

/-! ## The pointer and the keys -/

section Pointer

variable {layout_text : String → I32 → Option TextLayout}

/-- A drag that has not changed is as it was. -/
theorem drag_moved_same {point : Point} {drag : EditorDrag F}
    (unchanged : (EditorState.drag_moved G point drag).2 = false) :
    (EditorState.drag_moved G point drag).1 = drag := by
  unfold EditorState.drag_moved at unchanged ⊢
  cases drag with
  | Draw tool anchor current moved => cases unchanged
  | Crop grip start anchor current => cases unchanged
  | ArrowEnd index tip current => cases unchanged
  | Stroke tool points =>
    dsimp only at unchanged ⊢
    split
    · rename_i far
      rw [if_pos far] at unchanged
      cases unchanged
    · rfl

/-- SRC: editor.rs:1230-1280 -/
theorem pointer_moved_inv {point : Point} (inv : EditorInv D G s)
    (ran : s.pointer_moved D G point = some s') : EditorInv D G s' := by
  unfold EditorState.pointer_moved at ran
  simp only at ran
  split at ran
  · obtain rfl := Option.some.inj ran
    exact ⟨inv.shows.of_mark rfl rfl rfl rfl rfl, inv.apart, inv.format⟩
  · rename_i drag drag_eq
    have closed : s.typing = none := inv.apart.closed_of_drag (by
      rw [drag_eq]
      exact Option.some_ne_none _)
    split at ran
    · exact EditorInv.of_shown ran inv.shows.kept (.of_closed closed) inv.format
    · rename_i unchanged
      obtain rfl := Option.some.inj ran
      refine ⟨inv.shows.of_mark ?_ rfl rfl rfl rfl, .of_closed closed, inv.format⟩
      have same : (EditorState.drag_moved G point drag).1 = drag := by
        refine drag_moved_same ?_
        simpa using (Bool.or_eq_false_iff.mp (Bool.eq_false_of_not_eq_true unchanged)).2
      rw [same, ← drag_eq]
      rfl

/-- **A drag dropped**: nothing is dragged, and the buffers are kept.
SRC: editor.rs:1712-1723 -/
theorem abandon_drag_kept {dropped : Bool} (inv : EditorInv D G s)
    (ran : s.abandon_drag D = some (s', dropped)) :
    EditorKept s' ∧ Repainted { s with drag := none } s' ∧ (dropped = false → s' = s) := by
  unfold EditorState.abandon_drag at ran
  split at ran
  · rw [Option.map_eq_some_iff] at ran
    obtain ⟨refreshed, refreshed_eq, same⟩ := ran
    cases same
    obtain ⟨repainted, kept, -⟩ := refresh_repaints (G := G) refreshed_eq
    exact ⟨kept, repainted, fun none_dropped => by cases none_dropped⟩
  · cases ran
    exact ⟨inv.shows.kept, .refl _, fun none_dropped => by cases none_dropped⟩
  · rename_i drag_eq
    cases ran
    refine ⟨inv.shows.kept, ?_, fun _ => rfl⟩
    rw [← drag_eq]
    exact .refl s

/-- A drag dropped, and what is pending shown. -/
theorem abandoned_inv {between : EditorState F I} (inv : EditorInv D G s)
    (dropped : s.abandon_drag D = some (between, true))
    (ran : between.show_pending D G = some s') : EditorInv D G s' := by
  obtain ⟨kept, repainted, -⟩ := abandon_drag_kept inv dropped
  obtain ⟨edit, committed, preview, dirty, source_eq, rfl⟩ := repainted
  refine EditorInv.of_shown ran kept ?_ (source_eq ▸ inv.format)
  intro opened
  obtain ⟨-, tool_eq, pressed⟩ := inv.apart opened
  exact ⟨rfl, tool_eq, pressed⟩

/-- SRC: editor.rs:1104-1113 -/
theorem capture_changed_inv (inv : EditorInv D G s) (ran : s.capture_changed D G = some s') :
    EditorInv D G s' := by
  unfold EditorState.capture_changed at ran
  rw [Option.bind_eq_bind, Option.bind_eq_some_iff] at ran
  obtain ⟨⟨between, dropped⟩, abandoned, ran⟩ := ran
  cases dropped with
  | true => exact abandoned_inv inv abandoned ran
  | false =>
    obtain ⟨-, -, same⟩ := abandon_drag_kept inv abandoned
    obtain rfl := same rfl
    simp only [Bool.false_eq_true, if_false] at ran
    split at ran
    · refine EditorInv.of_shown ran inv.shows.kept ?_ inv.format
      intro opened
      obtain ⟨still, tool_eq, -⟩ := inv.apart opened
      exact ⟨still, tool_eq, fun button pressed => by cases pressed⟩
    · obtain rfl := Option.some.inj ran
      exact inv

variable [BEq F]

/-- **A press**, with nothing held: on a button, on the canvas, or on neither.
SRC: editor.rs:1282-1354 -/
theorem pointer_pressed_inv {point : Point} (inv : EditorInv D G s) (still : s.drag = none)
    (unpressed : s.pressed = none)
    (blank : s.tool = .Text → ∀ layout,
      layout_text "" (G.text_pixels s.text_size) = some layout → layout.mask = none)
    (ran : s.pointer_pressed D G layout_text point = some s') : EditorInv D G s' := by
  unfold EditorState.pointer_pressed at ran
  split at ran
  · rename_i button _
    have pressing : ∃ between, EditorInv D G between ∧
        ((∀ index, button ≠ .Swatch index) → between.typing = none) ∧
        some (if between.button_enabled button = true then
          { between with pressed := some button } else between) = some s' := by
      cases button with
      | Swatch index => exact ⟨s, inv, fun other => absurd rfl (other index), ran⟩
      | Tool | Smaller | Larger | Undo | Redo | Cancel | Done =>
        simp only [Option.bind_eq_bind, Option.bind_eq_some_iff] at ran
        obtain ⟨between, finished, ran⟩ := ran
        obtain ⟨inv, closed, -⟩ := commit_typing_inv inv finished
        exact ⟨between, inv, fun _ => closed, ran⟩
    obtain ⟨between, inv, closed, ran⟩ := pressing
    obtain rfl := Option.some.inj ran
    split
    · refine ⟨inv.shows.of_mark rfl rfl rfl rfl rfl, ?_, inv.format⟩
      intro opened
      obtain ⟨still, tool_eq, -⟩ := inv.apart opened
      refine ⟨still, tool_eq, ?_⟩
      rintro _ ⟨⟩
      by_contra other
      exact opened (closed fun index same => other ⟨index, same⟩)
    · exact inv
  · split at ran
    · obtain rfl := Option.some.inj ran
      exact inv
    · split at ran
      · rename_i index tip found
        have arrow : s.tool = .Arrow := by
          by_contra other
          rw [if_neg other] at found
          cases found
        have closed : s.typing = none := inv.apart.closed_of_tool (by rw [arrow]; decide)
        rw [Option.bind_eq_bind, Option.bind_eq_some_iff] at ran
        obtain ⟨left_out, left_out_eq, ran⟩ := ran
        obtain ⟨repainted, kept⟩ := leave_out_repaints left_out_eq
        obtain ⟨edit, committed, preview, dirty, source_eq, rfl⟩ := repainted
        exact EditorInv.of_shown ran kept (.of_closed closed) (source_eq ▸ inv.format)
      · split at ran
        · rename_i text
          exact start_typing_inv inv still text unpressed (blank text) ran
        · rename_i other
          refine EditorInv.of_shown ran inv.shows.kept (.of_closed ?_) inv.format
          exact inv.apart.closed_of_tool other

/-- **A press that ends**: nothing is held, and a drag has become its mark.
SRC: editor.rs:1356-1382 -/
theorem pointer_released_inv {point : Point} {button : Option EditorButton}
    (inv : EditorInv D G s) (ran : s.pointer_released D G point = some (s', button)) :
    EditorInv D G s' ∧ s'.drag = none ∧ s'.typing = s.typing ∧
      button = s.pressed.filter fun button => decide (G.button_at point = some button) := by
  unfold EditorState.pointer_released at ran
  rw [Option.bind_eq_bind, Option.bind_eq_some_iff] at ran
  obtain ⟨crop, -, ran⟩ := ran
  have released_apart : Apart { s with drag := none, pressed := none } := by
    intro opened
    obtain ⟨-, tool_eq, -⟩ := inv.apart opened
    exact ⟨rfl, tool_eq, fun button pressed => by cases pressed⟩
  simp only at ran
  split at ran
  · rename_i index tip current drag_eq
    have closed : s.typing = none := inv.apart.closed_of_drag (by
      rw [drag_eq]
      exact Option.some_ne_none _)
    have replaced : ∃ edit : Edit F, edit.source = s.edit.source ∧
        ∃ refreshed, EditorState.refresh_preview D
          { s with edit := edit, drag := none, pressed := none } = some refreshed ∧
        some (refreshed, s.pressed.filter fun button =>
          decide (G.button_at point = some button)) = some (s', button) := by
      cases mark_eq : s.pending_mark G with
      | none =>
        rw [mark_eq] at ran
        simp only [Option.bind_eq_bind, Option.bind_some] at ran
        exact ⟨s.edit, rfl, Option.bind_eq_some_iff.mp ran⟩
      | some mark =>
        rw [mark_eq] at ran
        simp only [Option.bind_eq_bind, Option.bind_eq_some_iff, Option.map_eq_some_iff] at ran
        obtain ⟨edit, ⟨⟨edit', changed⟩, replaced_eq, rfl⟩, ran⟩ := ran
        exact ⟨edit', replace_source replaced_eq, ran⟩
    obtain ⟨edit, source_eq, refreshed, refreshed_eq, same⟩ := replaced
    cases same
    obtain ⟨repainted, -⟩ := refresh_repaints (G := G) refreshed_eq
    have inv' : EditorInv D G s' := by
      refine EditorInv.of_refreshed refreshed_eq (.of_closed closed) ?_
        (pending_mark_of_idle rfl closed)
      exact source_eq ▸ inv.format
    obtain ⟨edit', committed, preview, dirty, -, rfl⟩ := repainted
    exact ⟨inv', rfl, rfl, rfl⟩
  · rename_i drag drag_eq
    have closed : s.typing = none := inv.apart.closed_of_drag (by
      rw [drag_eq]
      exact Option.some_ne_none _)
    have committed : ∃ between, Repainted { s with drag := none, pressed := none } between ∧
        EditorKept between ∧ ∃ shown, between.show_pending D G = some shown ∧
        some (shown, s.pressed.filter fun button =>
          decide (G.button_at point = some button)) = some (s', button) := by
      have cropped : ∃ edit : Edit F, edit.source = s.edit.source ∧
          (((s.pending_mark G).elim (some { s with edit := edit, drag := none, pressed := none })
            (EditorState.commit_mark D
              { s with edit := edit, drag := none, pressed := none })).bind fun made =>
              (made.show_pending D G).bind fun shown =>
                some (shown, s.pressed.filter fun button =>
                  decide (G.button_at point = some button))) = some (s', button) := by
        cases crop with
        | none =>
          refine ⟨s.edit, rfl, ?_⟩
          rw [← ran]
          cases s.pending_mark G with
          | none => rfl
          | some mark => rfl
        | some rect =>
          simp only [Option.bind_eq_bind, Option.bind_eq_some_iff, Option.map_eq_some_iff] at ran
          obtain ⟨edit, ⟨⟨edit', changed⟩, cropped_eq, rfl⟩, ran⟩ := ran
          refine ⟨edit', set_crop_source cropped_eq, ?_⟩
          rw [← ran]
          cases s.pending_mark G with
          | none => rfl
          | some mark => rfl
      obtain ⟨edit, source_eq, made⟩ := cropped
      rw [Option.bind_eq_some_iff] at made
      obtain ⟨between, made, shown⟩ := made
      rw [Option.bind_eq_some_iff] at shown
      have kept : EditorKept { s with edit := edit, drag := none, pressed := none } :=
        EditorKept.of_edit (s := { s with drag := none, pressed := none }) inv.shows.kept source_eq
      have start : Repainted { s with drag := none, pressed := none }
          { s with edit := edit, drag := none, pressed := none } :=
        Repainted.of_edit source_eq
      cases mark_eq : s.pending_mark G with
      | none =>
        rw [mark_eq] at made
        obtain rfl := Option.some.inj made
        exact ⟨_, start, kept, shown⟩
      | some mark =>
        rw [mark_eq] at made
        obtain ⟨repainted, between_kept⟩ := commit_mark_repaints kept made
        exact ⟨between, start.trans repainted, between_kept, shown⟩
    obtain ⟨between, repainted, kept, shown, shown_eq, same⟩ := committed
    cases same
    obtain ⟨repainted', shows⟩ := show_pending_repaints kept shown_eq
    obtain ⟨edit, committed, preview, dirty, source_eq, rfl⟩ := repainted.trans repainted'
    exact ⟨⟨shows, released_apart, source_eq ▸ inv.format⟩, rfl, rfl, rfl⟩
  · rename_i drag_eq
    cases ran
    refine ⟨⟨inv.shows.of_mark ?_ rfl rfl rfl rfl, released_apart, inv.format⟩, rfl, rfl, rfl⟩
    rw [pending_mark_of_still drag_eq]
    exact pending_mark_of_still rfl

end Pointer

section Keys

variable {layout_text : String → I32 → Option TextLayout}

/-- A waiting half of a character is not part of the mark. -/
theorem with_surrogate_inv {high : Option Nat} (inv : EditorInv D G s) :
    EditorInv D G (s.with_surrogate high) := by
  refine ⟨inv.shows.of_mark (pending_mark_of_typing ?_) rfl rfl rfl rfl, ?_, inv.format⟩
  · cases s.typing with
    | none => rfl
    | some entry => rfl
  · exact fun opened => inv.apart fun closed => opened (by
      show s.typing.map _ = none
      rw [closed]
      rfl)

/-- SRC: editor.rs:1776-1793 -/
theorem character_typed_inv {character : Option Char} (inv : EditorInv D G s)
    (ran : s.character_typed D G layout_text character = some s') : EditorInv D G s' := by
  have inv' : EditorInv D G (s.with_surrogate none) := with_surrogate_inv inv
  unfold EditorState.character_typed at ran
  cases character with
  | none =>
    obtain rfl := Option.some.inj ran
    exact inv'
  | some character => exact type_text_inv ran inv'.shows.kept inv'.apart inv'.format

/-- SRC: editor.rs:1765-1796 -/
theorem char_typed_inv {unit : Nat} (inv : EditorInv D G s)
    (ran : s.char_typed D G layout_text unit = some s') : EditorInv D G s' := by
  unfold EditorState.char_typed at ran
  split at ran
  · obtain rfl := Option.some.inj ran
    exact inv
  · rename_i entry typing_eq
    split at ran
    · refine retype_inv ran inv.shows.kept ?_ inv.format
      exact fun _ => inv.apart (by rw [typing_eq]; exact Option.some_ne_none _)
    · split at ran
      · obtain rfl := Option.some.inj ran
        exact with_surrogate_inv inv
      · split at ran
        · split at ran
          · obtain rfl := Option.some.inj ran
            exact inv
          · exact character_typed_inv inv ran
        · split at ran
          · obtain rfl := Option.some.inj ran
            exact inv
          · exact character_typed_inv inv ran

variable [BEq F]

/-- SRC: editor.rs:1463-1473 -/
theorem typing_key_inv {key : Nat} {shift : Bool} (inv : EditorInv D G s)
    (ran : s.typing_key D G layout_text key shift = some s') : EditorInv D G s' := by
  unfold EditorState.typing_key at ran
  split at ran
  · exact discard_typing_inv inv ran
  · split at ran
    · exact type_text_inv ran inv.shows.kept inv.apart inv.format
    · split at ran
      · exact (commit_typing_inv inv ran).1
      · obtain rfl := Option.some.inj ran
        exact inv

omit [BEq F] in
/-- SRC: editor.rs:1476-1489 -/
theorem escape_pressed_inv {discards : Bool} (inv : EditorInv D G s)
    (ran : s.escape_pressed D G discards = some (some s')) : EditorInv D G s' := by
  unfold EditorState.escape_pressed at ran
  rw [Option.bind_eq_bind, Option.bind_eq_some_iff] at ran
  obtain ⟨⟨between, dropped⟩, abandoned, ran⟩ := ran
  cases dropped with
  | true =>
    simp only [if_true, Option.bind_eq_bind, Option.bind_eq_some_iff, Option.some.injEq] at ran
    obtain ⟨shown, shown_eq, changed, changed_eq, rfl⟩ := ran
    exact capture_changed_inv (abandoned_inv inv abandoned shown_eq) changed_eq
  | false =>
    obtain ⟨-, -, same⟩ := abandon_drag_kept inv abandoned
    obtain rfl := same rfl
    obtain rfl := request_cancel_eq (Option.some.inj ran)
    exact inv

/-- **A key**: the size, the open text, Escape, or a button.
SRC: editor.rs:1450-1497 -/
theorem key_pressed_inv {key : Nat} {ctrl shift discards : Bool} (inv : EditorInv D G s)
    (ran : s.key_pressed D G layout_text key ctrl shift discards = some (some s')) :
    EditorInv D G s' := by
  have unchanged : some (some s) = some (some s') → EditorInv D G s' := by
    intro same
    obtain rfl := Option.some.inj (Option.some.inj same)
    exact inv
  unfold EditorState.key_pressed at ran
  split at ran
  · split at ran
    · rename_i still
      simp only [Option.map_eq_some_iff, Option.some.injEq, exists_eq_right] at ran
      exact resize_inv inv (Option.isNone_iff_eq_none.mp still) ran
    · exact unchanged ran
  · split at ran
    · simp only [Option.map_eq_some_iff, Option.some.injEq, exists_eq_right] at ran
      exact typing_key_inv inv ran
    · rename_i closed
      have closed : s.typing = none := Option.not_isSome_iff_eq_none.mp closed
      split at ran
      · exact escape_pressed_inv inv ran
      · split at ran
        · split at ran
          · rename_i still
            refine press_button_inv inv (Option.isNone_iff_eq_none.mp still) ?_ ?_ ran
            · exact fun _ => closed
            · intro index entry _ opened
              rw [closed] at opened
              cases opened
          · exact unchanged ran
        · exact unchanged ran

end Keys

/-! ## Runs -/

section Events

variable (D G) (layout_text : String → I32 → Option TextLayout) [BEq F]

/-- The editor's answer to an event that does not end it. -/
def editor_step (s : EditorState F I) (event : EditorEvent) (s' : EditorState F I) : Prop :=
  handle_event D G layout_text s event = some (some s')

omit [BEq F] in
/-- No swatch is let go that recolours the text which shows.  The rest is what Windows and
`layout_text` promise: a press comes after the end of the last one, and no text has no mask. -/
def KeepsColour (s : EditorState F I) : EditorEvent → Prop
  | .Pressed _ => s.drag = none ∧ s.pressed = none ∧
      (s.tool = .Text → ∀ layout, layout_text "" (G.text_pixels s.text_size) = some layout →
        layout.mask = none)
  | .Released point _ => ∀ index entry, s.pressed = some (.Swatch index) →
      G.button_at point = some (.Swatch index) → s.typing = some entry →
        TextEntry.mark G { entry with color := PALETTE.get index } = entry.mark G
  | _ => True

variable {D G layout_text}

/-- **One event** keeps the preview and the pending mark together.
SRC: editor.rs:1062-1126 -/
theorem editor_step_inv {event : EditorEvent} (inv : EditorInv D G s)
    (keeps : KeepsColour G layout_text s event) (step : editor_step D G layout_text s event s') :
    EditorInv D G s' := by
  unfold editor_step handle_event at step
  cases event with
  | Moved point =>
    simp only [Option.map_eq_some_iff, Option.some.injEq, exists_eq_right] at step
    exact pointer_moved_inv inv step
  | Left =>
    cases step
    exact ⟨inv.shows.of_mark rfl rfl rfl rfl rfl, inv.apart, inv.format⟩
  | Pressed point =>
    obtain ⟨still, unpressed, blank⟩ := keeps
    simp only [Option.map_eq_some_iff, Option.some.injEq, exists_eq_right] at step
    exact pointer_pressed_inv inv still unpressed blank step
  | Released point discards =>
    simp only [Option.bind_eq_bind, Option.bind_eq_some_iff] at step
    obtain ⟨⟨released, button⟩, released_eq, step⟩ := step
    obtain ⟨inv', still, typing_eq, button_eq⟩ := pointer_released_inv inv released_eq
    cases button with
    | none =>
      cases step
      exact inv'
    | some button =>
      have held := Option.filter_eq_some_iff.mp button_eq.symm
      obtain ⟨pressed, under⟩ := held
      have under := of_decide_eq_true under
      refine press_button_inv inv' still ?_ ?_ step
      · intro other
        rw [typing_eq]
        exact inv.apart.closed_of_pressed pressed other
      · rintro index entry rfl opened
        rw [typing_eq] at opened
        exact keeps index entry pressed under opened
  | CaptureChanged =>
    simp only [Option.map_eq_some_iff, Option.some.injEq, exists_eq_right] at step
    exact capture_changed_inv inv step
  | Key key ctrl shift discards => exact key_pressed_inv inv step
  | Char unit =>
    simp only [Option.map_eq_some_iff, Option.some.injEq, exists_eq_right] at step
    exact char_typed_inv inv step
  | Close discards =>
    obtain rfl := request_cancel_eq (Option.some.inj step)
    exact inv

omit [BEq F] in
/-- SRC: editor.rs:895-973 -/
theorem open_editor_inv {frame : CpuFrame} {colour : ColourIndex} {text_size : Fin TEXT_SIZES}
    {arrow_size : Fin ARROW_SIZES}
    (opened : open_editor D frame colour text_size arrow_size = some s) : EditorInv D G s := by
  unfold open_editor at opened
  split at opened
  · cases opened
  · rename_i format
    rw [Option.bind_eq_bind, Option.bind_eq_some_iff] at opened
    obtain ⟨pixels, composed, made⟩ := opened
    obtain rfl := Option.some.inj made
    refine ⟨?_, .of_closed rfl, not_not.mp format⟩
    exact .of_refreshed rfl rfl rfl (packed_compose_preview composed) rfl

end Events

/-! ## Text that is finished -/

/-- A blank text leaves every pixel as it is. -/
theorem shade_of_blank {left top : I32} {text : String} {size : U32} {color : Model.Color}
    {mask : GlyphMask} {area : Rect} (blank : mask.is_blank = true) (q : Int × Int)
    (pixel : List Byte) :
    shade D (.Text left top text size color mask) area .Bgra8Unorm .Opaque q pixel = pixel := by
  unfold GlyphMask.is_blank at blank
  rw [List.all_eq_true] at blank
  unfold shade
  split
  · rfl
  · split
    · show inked D (.Text left top text size color mask) _ .Bgra8Unorm .Opaque q pixel = pixel
      unfold inked PixelFormat.encoding
      dsimp only
      split
      · rfl
      · rename_i value found
        have zero : value = 0 := by simpa using blank value (List.mem_of_getElem? found)
        rw [if_neg (by rw [zero]; decide)]
    · rfl

/-- **Text that is refused shows nothing.**
SRC: edit.rs:311-339 -/
theorem paint_into_of_refused {e : Edit F} {left top : I32} {text : String} {size : U32}
    {color : Model.Color} {mask : GlyphMask} {pixels : List Byte}
    (refused : e.accept D (.Text left top text size color mask) = none)
    (format : e.source.format = .Bgra8Unorm) (packed : Packed (full_bounds e.source) 4 pixels) :
    paint_into D e.source (.Text left top text size color mask) pixels = some pixels := by
  cases reach_eq : mark_reach D e.source (.Text left top text size color mask) with
  | none => exact paint_into_of_unreached reach_eq
  | some reach =>
    have blank : mask.is_blank = true := by
      unfold mark_reach at reach_eq
      unfold Edit.accept Edit.bounds at refused
      rw [format] at refused
      simp only [reach_eq, PixelFormat.encoding, Option.isSome_some, Bool.not_true, Bool.false_or,
        Edit.drawable, Bool.not_not] at refused
      by_contra shown
      rw [if_neg shown] at refused
      cases refused
    obtain ⟨painted, ran, painted_packed, shades⟩ :=
      paint_into_spec D (.Text left top text size color mask) packed
    rw [ran]
    congr 1
    apply packed_ext painted_packed packed
    intro q inside
    rw [shades q inside, shade_of_blank blank]

section Finished

variable [BEq F]

/-- **New text is finished as it is shown**: the preview is what is committed, and the pending
mark, where it is one to keep, is what is added.
SRC: editor.rs:1680-1699 -/
theorem commit_typing_as_shown {entry : TextEntry I} (inv : EditorInv D G s)
    (opened : s.typing = some entry) (fresh : entry.replacing = none) :
    ∃ s', s.commit_typing D G = some s' ∧ s'.committed = s.preview ∧ s'.preview = s.preview ∧
      s'.edit.marks = s.edit.marks ++ ((s.pending_mark G).bind (s.edit.accept D)).toList := by
  obtain ⟨still, -, -⟩ := inv.apart (by rw [opened]; exact Option.some_ne_none _)
  have pending : s.pending_mark G = entry.mark G := by
    rw [pending_mark_of_still still, opened]
    rfl
  have shown := inv.shows.shows
  unfold PreviewShows shown_preview at shown
  have kept : BuffersKept s.edit.source s.committed s.preview s.pending_dirty := inv.shows.kept
  -- What is shown last, from any state with nothing pending.
  have finish : ∀ between : EditorState F I, EditorKept between → between.drag = none →
      between.typing = none → between.show_pending D G =
        some { between with preview := between.committed, pending_dirty := none } := by
    intro between between_kept still closed
    rw [show_pending_eq between_kept, pending_mark_of_idle still closed]
  unfold EditorState.commit_typing
  rw [opened]
  simp only [fresh]
  rw [pending] at shown ⊢
  cases mark_eq : entry.mark G with
  | none =>
    rw [mark_eq] at shown
    refine ⟨_, finish _ kept still rfl, ?_, ?_, ?_⟩
    · exact Option.some.inj shown
    · exact Option.some.inj shown
    · exact (List.append_nil _).symm
  | some mark =>
    rw [mark_eq] at shown
    simp only [Option.bind_some] at shown ⊢
    unfold EditorState.commit_mark
    cases kept_mark : s.edit.accept D mark with
    | none =>
      obtain ⟨left, top, text, size, color, mask, rfl⟩ : ∃ left top text size color mask,
          mark = Mark.Text left top text size color mask := by
        unfold TextEntry.mark at mark_eq
        rw [Option.map_eq_some_iff] at mark_eq
        obtain ⟨mask, -, rfl⟩ := mark_eq
        exact ⟨_, _, _, _, _, _, rfl⟩
      rw [paint_into_of_refused kept_mark inv.format kept.committed_packed] at shown
      have refused : s.edit.add D (.Text left top text size color mask) = some (s.edit, false) := by
        unfold Edit.add
        rw [kept_mark]
      simp only [refused, Option.bind_eq_bind, Option.bind_some, Bool.not_false, if_true]
      refine ⟨_, finish _ kept still rfl, ?_, ?_, ?_⟩
      · exact Option.some.inj shown
      · exact Option.some.inj shown
      · exact (List.append_nil _).symm
    | some accepted =>
      have added : s.edit.add D mark = some ({ s.edit with
          marks := s.edit.marks ++ [accepted]
          undo_steps := s.edit.undo_steps ++ [.Mark accepted]
          redo_steps := [] }, true) := by
        unfold Edit.add
        rw [kept_mark]
        rfl
      simp only [added, Option.bind_eq_bind, Option.bind_some, Bool.not_true, Bool.false_eq_true,
        if_false, shown]
      refine ⟨_, finish _ (kept.of_committed shown) still rfl, rfl, rfl, ?_⟩
      rfl

/-- **The preview follows the pending mark.**  Whatever capture is opened and whatever is done to
it, in every state that is reached without letting go a swatch that recolours the text which
shows, the preview is the committed buffer with the pending mark painted over it; so new text is
finished as it is shown.
SRC: editor.rs:686-757, 1504-1578 -/
theorem preview_follows {layout_text : String → I32 → Option TextLayout} {frame : CpuFrame}
    {colour : ColourIndex} {text_size : Fin TEXT_SIZES} {arrow_size : Fin ARROW_SIZES}
    {start : EditorState F I} {steps : List (Taken (EditorState F I) EditorEvent)}
    (opened : open_editor D frame colour text_size arrow_size = some start)
    (run : Run (editor_step D G layout_text) start steps s)
    (keeps : ∀ t ∈ steps, KeepsColour G layout_text t.before t.event) :
    PreviewShows D G s ∧
      ∀ entry, s.typing = some entry → entry.replacing = none →
        ∃ s', s.commit_typing D G = some s' ∧ s'.committed = s.preview ∧ s'.preview = s.preview ∧
          s'.edit.marks = s.edit.marks ++ ((s.pending_mark G).bind (s.edit.accept D)).toList := by
  have inv : EditorInv D G s :=
    run.inv_of_meets (fun _ _ _ inv keeps step => editor_step_inv inv keeps step)
      (open_editor_inv opened) keeps
  exact ⟨inv.shows.shows, fun entry opened fresh => commit_typing_as_shown inv opened fresh⟩

end Finished

end Handlers

/-! ## A swatch that is not shown -/

/-- A drawing whose ink covers what is under it. -/
def inking : Drawing Unit := { blank_drawing with blend_over := fun _ ink _ _ => ink }

/-- There is a second swatch. -/
theorem second_swatch : 1 < PALETTE.length := by decide

/-- One is a `u32`. -/
theorem in_u32_one : InU32 1 := by decide

/-- Fourteen is an `i32`. -/
theorem in_i32_fourteen : InI32 14 := by decide

/-- A window whose left edge is the second swatch and whose rest is the canvas. -/
def swatch_and_canvas : EditorGeometry Unit Unit where
  button_at point := if point.x = 0 then some (.Swatch ⟨1, second_swatch⟩) else none
  canvas_contains _ := true
  client_rect _ := ⟨0, 0, 0, 0⟩
  image_point _ := ()
  as_f32 _ := ((), ())
  floor _ := (0, 0)
  rect_between _ _ := none
  image_distance _ := 0
  near _ _ := false
  far_enough _ _ := false
  width _ _ := ()
  rounded _ := ⟨1, in_u32_one⟩
  box_radius := ()
  text_pixels _ := ⟨14, in_i32_fourteen⟩
  mask_at _ _ := (⟨0, in_i32_zero⟩, ⟨0, in_i32_zero⟩)
  anchor_of _ _ := ()
  grip_tolerance := 8
  drag_threshold := 3

/-- Letters that fill one pixel, and no mask for no text. -/
def one_letter (text : String) (_ : I32) : Option TextLayout :=
  some {
    mask := if text.isEmpty then none else GlyphMask.new ⟨1, in_u32_one⟩ ⟨1, in_u32_one⟩ [255]
    mask_offset := (0, 0)
    line_height := 1 }

/-- An editor opened on one pixel. -/
def opened_on_pixel : Option (EditorState Unit Unit) :=
  open_editor inking (one_pixel ⟨1, 2, 3, 255⟩) ⟨0, by decide⟩ ⟨0, by decide⟩ ⟨0, by decide⟩

/-- The text tool taken, the canvas pressed, a letter typed, and the second swatch pressed. -/
def recolouring : List EditorEvent :=
  [.Key 0x54 false false false, .Pressed ⟨1, 0⟩, .Released ⟨1, 0⟩ false, .Char 0x61,
    .Pressed ⟨0, 0⟩, .Released ⟨0, 0⟩ false]

/-- **The preview keeps the old colour**: the letter is red in the preview, and the mark that it
would be is yellow.
SRC: editor.rs:818-827, 1384-1412 -/
theorem preview_keeps_old_colour :
    ∃ start steps s, opened_on_pixel = some start ∧
      Run (editor_step inking swatch_and_canvas one_letter) start steps s ∧
      steps.map Taken.event = recolouring ∧ ¬ PreviewShows inking swatch_and_canvas s := by
  have computed : (match opened_on_pixel.bind fun start =>
      recolouring.foldlM (fun s event =>
        (handle_event inking swatch_and_canvas one_letter s event).bind id) start with
    | some s => decide (shown_preview inking swatch_and_canvas s ≠ some s.preview)
    | none => false) = true := by
    decide +kernel
  split at computed
  · rename_i s ran
    rw [Option.bind_eq_some_iff] at ran
    obtain ⟨start, opened, ran⟩ := ran
    obtain ⟨steps, events, run⟩ := @Run.of_foldlM _ _
      (editor_step inking swatch_and_canvas one_letter) _ _ _ (by
        intro s event s' taken
        rw [Option.bind_eq_some_iff] at taken
        obtain ⟨answer, answered, rfl⟩ := taken
        exact answered) _ ran
    exact ⟨start, steps, s, opened, run, events, fun shows => of_decide_eq_true computed shows⟩
  · cases computed

/-- A step of the editor whose presses come with nothing held. -/
def unhurried_step (s : EditorState Unit Unit) (event : EditorEvent) :
    Option (EditorState Unit Unit) :=
  match event with
  | .Pressed _ =>
    if s.drag.isNone && s.pressed.isNone then
      (handle_event inking swatch_and_canvas one_letter s event).bind id
    else none
  | _ => (handle_event inking swatch_and_canvas one_letter s event).bind id

/-- Such a step is a step of the editor. -/
theorem unhurried_step_sound {s s' : EditorState Unit Unit} {event : EditorEvent}
    (ran : unhurried_step s event = some s') :
    editor_step inking swatch_and_canvas one_letter s event s' ∧
      ∀ point, event = .Pressed point → s.drag = none ∧ s.pressed = none := by
  have answered : ∀ event, (handle_event inking swatch_and_canvas one_letter s event).bind id =
      some s' → editor_step inking swatch_and_canvas one_letter s event s' := by
    intro event ran
    rw [Option.bind_eq_some_iff] at ran
    obtain ⟨answer, answered, rfl⟩ := ran
    exact answered
  unfold unhurried_step at ran
  split at ran
  · split at ran
    · rename_i held
      rw [Bool.and_eq_true, Option.isNone_iff_eq_none, Option.isNone_iff_eq_none] at held
      exact ⟨answered _ ran, fun _ _ => held⟩
    · cases ran
  · rename_i other
    exact ⟨answered _ ran, fun point pressed => absurd pressed (other point)⟩

/-- The letter typed and no swatch pressed: the preview shows it, and finishing it keeps what is
shown. -/
theorem preview_follows_letter :
    ∃ start steps s, opened_on_pixel = some start ∧
      Run (editor_step inking swatch_and_canvas one_letter) start steps s ∧
      steps.map Taken.event = recolouring.take 4 ∧ (s.typing.any fun entry => entry.text == "a") ∧
      PreviewShows inking swatch_and_canvas s := by
  have computed : (opened_on_pixel.bind fun start =>
      (recolouring.take 4).foldlM unhurried_step start).any (fun s =>
        s.typing.any fun entry => entry.text == "a") = true := by
    decide +kernel
  obtain ⟨s, ran, typed⟩ := (Option.any_eq_true _ _).mp computed
  rw [Option.bind_eq_some_iff] at ran
  obtain ⟨start, opened, ran⟩ := ran
  obtain ⟨steps, events, run⟩ :=
    Run.of_foldlM (f := unhurried_step) (fun _ _ _ taken => unhurried_step_sound taken) ran
  have run' := run.mono fun _ _ _ step => step.1
  refine ⟨start, steps, s, opened, run', events, typed, (preview_follows opened run' ?_).1⟩
  intro t member
  have unhurried := (run.of_mem member).1.2
  have event_of : t.event ∈ recolouring.take 4 := by
    rw [← events]
    exact List.mem_map_of_mem member
  simp only [recolouring, List.take_succ_cons, List.take_zero, List.mem_cons, List.not_mem_nil,
    or_false] at event_of
  rcases event_of with event_eq | event_eq | event_eq | event_eq
  · rw [event_eq]
    trivial
  · obtain ⟨still, unpressed⟩ := unhurried _ event_eq
    rw [event_eq]
    refine ⟨still, unpressed, ?_⟩
    rintro _ layout ⟨⟩
    rfl
  · rw [event_eq]
    intro index entry _ under
    cases under
  · rw [event_eq]
    trivial

end Captastic.Analysis
