import Mathlib.Data.List.Chain
import Captastic.Analysis.TrayAgreement

/-!
# The tray's notifications and shutdown blocks

A notification that the queue takes is handed to the shell once, in the order it was queued, and
none is left behind: wherever the icon is there and a notification waits, a message that will have
it handed over is on its way or the thread is at it.  Each that was handed over was shown, was
refused, or is in its call (`tray_notifies`).

A reason to block the session's end is created and taken back in turn, whatever messages arrive
while an effect is performed, and none is left once the window is gone (`tray_blocks_alternate`).
A new input's effects come before those of the inputs it interrupts, so this rests on what may be
interrupted: no input that creates or takes back a reason calls the shell, hence none of them is
ever under another.
-/

set_option autoImplicit false

namespace Captastic.Analysis

open Captastic.Library Captastic.Model

variable {taskbar_created : Nat} {s s' : TraySystem}

/-! ## Notifications -/

/-- Some frame is to hand over what is queued. -/
def Drains (frames : List TrayFrame) : Prop :=
  ∃ frame ∈ frames, .DrainNotifications ∈ frame.effects

/-- The notifications whose calls have not returned. -/
def notifying (frames : List TrayFrame) : List TrayNotification :=
  frames.filterMap fun frame => frame.call.bind notification_of

/-- What was handed over was shown, was refused, or is in a call, after which its frame looks for
more. -/
structure NoticesHanded (s : TraySystem) : Prop where
  handed : s.drained.Perm (s.shown ++ s.refused ++ notifying s.frames)
  calling : ∀ frame ∈ s.frames, (frame.call.bind notification_of).isSome = true →
    .DrainNotifications ∈ frame.effects

/-- What was queued has been handed over or waits, and what waits will be handed over while the
icon is there. -/
structure NoticesKept (s : TraySystem) : Prop where
  order : s.drained ++ s.notifications = s.accepted
  due : s.destroyed = false → s.model.icon = .Present → s.notifications ≠ [] →
    (∃ m ∈ s.posted, m.message = TRAY_SHOW_ERROR) ∨ s.daemon.owes_post = true ∨ Drains s.frames

/-- What a frame adds to the calls that have not returned. -/
theorem notifying_cons (frame : TrayFrame) (frames : List TrayFrame) :
    notifying (frame :: frames) =
      (frame.call.bind notification_of).toList ++ notifying frames := by
  unfold notifying
  rw [List.filterMap_cons]
  cases frame.call.bind notification_of with
  | none => rfl
  | some notification => rfl

namespace NoticesHanded

/-- What leaves the frames and the records of the notifications. -/
theorem same (kept : NoticesHanded s) (drained : s'.drained = s.drained)
    (shown : s'.shown = s.shown) (refused : s'.refused = s.refused)
    (frames : s'.frames = s.frames) : NoticesHanded s' where
  handed := by rw [drained, shown, refused, frames]; exact kept.handed
  calling := by rw [frames]; exact kept.calling

/-- A new frame makes no call yet. -/
theorem run (kept : NoticesHanded s) (input : TrayInput) :
    NoticesHanded (s.run_tray_input input) where
  handed := by
    have frames : notifying (s.run_tray_input input).frames = notifying s.frames :=
      notifying_cons _ _
    rw [frames]
    exact kept.handed
  calling := List.forall_mem_cons.mpr ⟨nofun, kept.calling⟩

variable {effects effects' : List TrayEffect} {frames : List TrayFrame}
  {call call' : Option ShellCall}

/-- The innermost frame changes, in no call that shows a notification before or after. -/
theorem retop (kept : NoticesHanded s) (top : s.frames = ⟨effects, call⟩ :: frames)
    (silent : call.bind notification_of = none) (silent' : call'.bind notification_of = none) :
    NoticesHanded { s with frames := ⟨effects', call'⟩ :: frames } where
  handed := by
    have handed := kept.handed
    rw [top, notifying_cons, silent] at handed
    rw [notifying_cons, silent']
    exact handed
  calling := by
    have calling := kept.calling
    rw [top] at calling
    refine List.forall_mem_cons.mpr ⟨fun called => ?_, (List.forall_mem_cons.mp calling).2⟩
    rw [silent'] at called
    cases called

/-- A notification is handed over, and its frame keeps the effect that took it. -/
theorem hand_over {notification : TrayNotification} (kept : NoticesHanded s)
    (top : s.frames = ⟨.DrainNotifications :: effects, none⟩ :: frames) :
    NoticesHanded { s with
      frames := ⟨.DrainNotifications :: effects, some (.notifies notification)⟩ :: frames
      drained := s.drained ++ [notification] } where
  handed := by
    have handed := kept.handed
    rw [top, notifying_cons] at handed
    rw [notifying_cons]
    calc (s.drained ++ [notification]).Perm ([notification] ++ s.drained) := List.perm_append_comm
      List.Perm _ ([notification] ++ (s.shown ++ s.refused ++ notifying frames)) :=
        handed.append_left _
      List.Perm _ (s.shown ++ s.refused ++ ([notification] ++ notifying frames)) := by
        rw [← List.append_assoc, ← List.append_assoc _ _ (notifying frames)]
        exact List.perm_append_comm.append_right _
  calling := by
    have calling := kept.calling
    rw [top] at calling
    exact List.forall_mem_cons.mpr
      ⟨fun _ => List.mem_cons_self, (List.forall_mem_cons.mp calling).2⟩

/-- A call that shows a notification returns, and is recorded as shown or refused. -/
theorem hear_back {notification : TrayNotification} (kept : NoticesHanded s)
    (top : s.frames = ⟨effects, some (.notifies notification)⟩ :: frames)
    (frames_eq : s'.frames = ⟨effects, none⟩ :: frames) (drained : s'.drained = s.drained)
    (ended : (s'.shown ++ s'.refused).Perm (notification :: (s.shown ++ s.refused))) :
    NoticesHanded s' where
  handed := by
    have handed := kept.handed
    rw [top, notifying_cons] at handed
    rw [frames_eq, notifying_cons, drained]
    calc s.drained.Perm (s.shown ++ s.refused ++ ([notification] ++ notifying frames)) := handed
      List.Perm _ ([notification] ++ (s.shown ++ s.refused) ++ notifying frames) := by
        rw [← List.append_assoc]
        exact List.perm_append_comm.append_right _
      List.Perm _ (s'.shown ++ s'.refused ++ notifying frames) := ended.symm.append_right _
  calling := by
    have calling := kept.calling
    rw [top] at calling
    rw [frames_eq]
    exact List.forall_mem_cons.mpr ⟨nofun, (List.forall_mem_cons.mp calling).2⟩

/-- Every step keeps what becomes of what was handed over. -/
theorem step (s : TraySystem) (step : TrayStep) (s' : TraySystem) (kept : NoticesHanded s)
    (taken : TrayStepTaken taskbar_created s step s') : NoticesHanded s' := by
  have aside {s' : TraySystem} (drained : s'.drained = s.drained) (shown : s'.shown = s.shown)
      (refused : s'.refused = s.refused) (frames : s'.frames = s.frames) : NoticesHanded s' :=
    kept.same drained shown refused frames
  cases tray_moves taken with
  | sent => exact kept.run _
  | ignored => exact kept
  | @dispatched m posted _ first =>
    exact run (s := { s with posted := posted }) (aside rfl rfl rfl rfl) _
  | discarded => exact aside rfl rfl rfl rfl
  | left top =>
    constructor
    · have handed := kept.handed
      rw [top, notifying_cons] at handed
      exact handed
    · have calling := kept.calling
      rw [top] at calling
      exact (List.forall_mem_cons.mp calling).2
  | calls _ top _ silent => exact kept.retop top rfl silent
  | drains top => exact (kept.hand_over top).same rfl rfl rfl rfl
  | sends top =>
    unfold TraySystem.send_tray_event
    split <;> exact (kept.retop top rfl rfl).same rfl rfl rfl rfl
  | blocks top | waits top => exact (kept.retop top rfl rfl).same rfl rfl rfl rfl
  | passes top => exact kept.retop top rfl rfl
  | again top silent silent' => exact kept.retop top silent silent'
  | added _ top silent => exact run (kept.retop top silent rfl) _
  | returned top silent => exact kept.retop top silent rfl
  | showed top =>
    refine kept.hear_back top rfl rfl ?_
    rw [List.append_assoc]
    exact List.perm_middle
  | refused top =>
    refine kept.hear_back top rfl rfl ?_
    rw [← List.append_assoc]
    exact List.perm_append_singleton _ _
  | heard =>
    rename_i event events start startup first
    cases event with
    | ToggleFileOutput =>
      simp only [TraySystem.daemon_event, TraySystem.set_file_output_enabled]
      split_ifs <;> cases start <;> exact aside rfl rfl rfl rfl
    | ToggleStartup => cases startup <;> exact aside rfl rfl rfl rfl
    | _ => exact aside rfl rfl rfl rfl
  | @switched requested start =>
    simp only [TraySystem.set_file_output_enabled]
    split_ifs <;> cases start <;> exact aside rfl rfl rfl rfl
  | notified =>
    unfold TraySystem.send_notification
    split <;> exact aside rfl rfl rfl rfl
  | posted | told => exact aside rfl rfl rfl rfl
  | shut =>
    unfold TraySystem.begin_shutdown
    split <;> exact aside rfl rfl rfl rfl

/-- Where no frame is to hand over more, no call that shows a notification is open. -/
theorem none_open (kept : NoticesHanded s)
    (none_drains : ∀ frame ∈ s.frames, .DrainNotifications ∉ frame.effects) :
    notifying s.frames = [] := by
  refine List.filterMap_eq_nil_iff.mpr fun frame member => ?_
  rw [← Option.not_isSome_iff_eq_none]
  intro called
  exact none_drains frame member (kept.calling frame member called)

end NoticesHanded

/-- What a frame is to hand over it is under another too. -/
theorem Drains.under {frame : TrayFrame} {frames : List TrayFrame} (drains : Drains frames) :
    Drains (frame :: frames) := by
  obtain ⟨lower, member, among⟩ := drains
  exact ⟨lower, List.mem_cons_of_mem frame member, among⟩

/-- A frame that loses an effect other than to show what is queued. -/
theorem Drains.performed {effect : TrayEffect} {effects : List TrayEffect}
    {frames : List TrayFrame} {call call' : Option ShellCall}
    (other : effect ≠ .DrainNotifications)
    (drains : Drains (⟨effect :: effects, call⟩ :: frames)) :
    Drains (⟨effects, call'⟩ :: frames) := by
  obtain ⟨frame, member, among⟩ := drains
  rcases List.mem_cons.mp member with rfl | member
  · rcases List.mem_cons.mp among with same | among
    · exact absurd same.symm other
    · exact ⟨_, List.mem_cons_self, among⟩
  · exact ⟨frame, List.mem_cons_of_mem _ member, among⟩

/-- A frame whose call changes. -/
theorem Drains.recalled {effects : List TrayEffect} {frames : List TrayFrame}
    {call call' : Option ShellCall} (drains : Drains (⟨effects, call⟩ :: frames)) :
    Drains (⟨effects, call'⟩ :: frames) := by
  obtain ⟨frame, member, among⟩ := drains
  rcases List.mem_cons.mp member with rfl | member
  · exact ⟨_, List.mem_cons_self, among⟩
  · exact ⟨frame, List.mem_cons_of_mem _ member, among⟩

/-- The icon is there again only as it was added, and then what is queued is shown. -/
theorem transition_icon (model : TrayModel) (input : TrayInput)
    (present : (model.transition input).1.icon = .Present) :
    model.icon = .Present ∨ .DrainNotifications ∈ (model.transition input).2 := by
  cases input with
  | Menu command => cases command <;> exact .inl present
  | IconAddCompleted restored =>
    cases restored with
    | false => cases present
    | true => exact .inr List.mem_cons_self
  | QueryEndSession | Destroyed =>
    simp only [TrayModel.transition] at present
    split at present <;> exact .inl present
  | _ => exact .inl present

namespace NoticesKept

/-- What leaves the notifications, and what is to show them. -/
theorem same (kept : NoticesKept s) (drained : s'.drained = s.drained)
    (notifications : s'.notifications = s.notifications) (accepted : s'.accepted = s.accepted)
    (destroyed : s'.destroyed = s.destroyed) (icon : s'.model.icon = s.model.icon)
    (posted : ∀ m ∈ s.posted, m ∈ s'.posted)
    (owes : s.daemon.owes_post = true → s'.daemon.owes_post = true)
    (frames : Drains s.frames → Drains s'.frames) : NoticesKept s' where
  order := by rw [drained, notifications, accepted]; exact kept.order
  due alive present queued := by
    rw [destroyed] at alive
    rw [icon] at present
    rw [notifications] at queued
    rcases kept.due alive present queued with ⟨m, member, shows⟩ | owed | drains
    · exact .inl ⟨m, posted m member, shows⟩
    · exact .inr (.inl (owes owed))
    · exact .inr (.inr (frames drains))

/-- An input leaves the notifications where they are. -/
theorem run (kept : NoticesKept s) (input : TrayInput) :
    NoticesKept (s.run_tray_input input) where
  order := kept.order
  due alive present queued := by
    have was_alive : s.destroyed = false := (Bool.or_eq_false_iff.mp alive).1
    rcases transition_icon s.model input present with was_present | drains
    · rcases kept.due was_alive was_present queued with on_way | owed | drains
      · exact .inl on_way
      · exact .inr (.inl owed)
      · exact .inr (.inr drains.under)
    · exact .inr (.inr ⟨_, List.mem_cons_self, drains⟩)

/-- The message that has what is queued shown. -/
theorem means_show (registered : Registered taskbar_created) {m : TrayMessage}
    (shows : m.message = TRAY_SHOW_ERROR) :
    translate_tray_message taskbar_created m = some .NotificationsPosted := by
  rw [report_input registered (by rw [daemon_posts, shows]; rfl), shows]
  rfl

/-- A message that is taken makes the tray drain them, if it says so. -/
theorem dispatch (kept : NoticesKept s) (registered : Registered taskbar_created)
    {m : TrayMessage} {posted : List TrayMessage} {input : TrayInput}
    (first : s.posted = m :: posted)
    (means : translate_tray_message taskbar_created m = some input) :
    NoticesKept ({ s with posted := posted }.run_tray_input input) := by
  by_cases shows : m.message = TRAY_SHOW_ERROR
  · -- it is shown now if the icon is there, and need not be if it is not
    rw [means_show registered shows] at means
    cases means
    refine ⟨kept.order, fun alive present queued => .inr (.inr ?_)⟩
    have was_present : s.model.icon = .Present := present
    refine ⟨_, List.mem_cons_self, ?_⟩
    simp only [was_present, if_true, List.mem_singleton]
  · refine run (s := { s with posted := posted }) ⟨kept.order, fun alive present queued => ?_⟩ input
    rcases kept.due alive present queued with ⟨other, member, shown⟩ | later
    · rcases List.mem_cons.mp (first ▸ member) with rfl | member
      · exact absurd shown shows
      · exact .inl ⟨other, member, shown⟩
    · exact .inr later

/-- A message that is posted, as the daemon's settings change. -/
theorem post (kept : NoticesKept s) (daemon : TrayDaemon)
    (owes : daemon.owes_post = s.daemon.owes_post) (message : Nat) (value : Bool) :
    NoticesKept ({ s with daemon := daemon }.post message value) :=
  kept.same rfl rfl rfl rfl rfl (fun _ member => List.mem_append_left _ member)
    (owes.trans ·) id

/-- Switching whether captures are saved adds a notification at most, and says so. -/
theorem switch (kept : NoticesKept s) (requested : Bool) (start : FileStart) :
    NoticesKept (s.set_file_output_enabled requested start) := by
  unfold TraySystem.set_file_output_enabled
  split
  · exact kept
  · split
    · exact kept.post _ (by rfl) _ _
    · split
      · exact kept
      · cases start with
        | refused => exact kept
        | started => exact kept.post _ (by rfl) _ _

/-- Whatever the daemon hears, it says so where it notifies. -/
theorem hear (kept : NoticesKept s) (start : FileStart) (startup : Option Bool)
    (event : TrayEvent) : NoticesKept (s.daemon_event start startup event) := by
  cases event with
  | ToggleFileOutput => exact kept.switch _ start
  | ToggleReview => exact kept.post _ (by rfl) _ _
  | ToggleStartup =>
    cases startup with
    | none => exact kept
    | some enabled => exact kept.post s.daemon rfl _ _
  | PausedChanged | Exit => exact kept.same rfl rfl rfl rfl rfl (fun _ => id) id id
  | _ => exact kept

/-- A notification that is queued is one that the daemon is to post of. -/
theorem notify (kept : NoticesKept s) (notification : TrayNotification) :
    NoticesKept (s.send_notification notification) := by
  unfold TraySystem.send_notification
  split
  · refine ⟨?_, fun _ _ _ => .inr (.inl rfl)⟩
    rw [← List.append_assoc, kept.order]
  · exact kept

/-- **One step** leaves every notification drained, or the tray to be told of it. -/
theorem step (registered : Registered taskbar_created) (s : TraySystem) (step : TrayStep)
    (s' : TraySystem) (kept : NoticesKept s) (taken : TrayStepTaken taskbar_created s step s') :
    NoticesKept s' := by
  have performed {frames : List TrayFrame} (drains : Drains s.frames → Drains frames) :
      NoticesKept { s with frames := frames } :=
    kept.same rfl rfl rfl rfl rfl (fun _ => id) id drains
  cases tray_moves taken with
  | sent => exact kept.run _
  | ignored => exact kept
  | dispatched first _ means => exact kept.dispatch registered first means
  | @discarded m posted first means =>
    refine ⟨kept.order, fun alive present queued => ?_⟩
    rcases kept.due alive present queued with ⟨other, member, shows⟩ | later
    · rcases List.mem_cons.mp (first ▸ member) with rfl | member
      · rw [means_show registered shows] at means
        cases means
      · exact .inl ⟨other, member, shows⟩
    · exact .inr later
  | left top =>
    refine performed ?_
    rw [top]
    rintro ⟨frame, member, among⟩
    rcases List.mem_cons.mp member with rfl | member
    · cases among
    · exact ⟨frame, member, among⟩
  | @calls effect _ _ call top calling =>
    refine performed (top ▸ Drains.performed ?_)
    rintro rfl
    cases calling
  | drains top queued =>
    constructor
    · rw [← kept.order, queued, List.append_assoc]
      rfl
    · exact fun _ _ _ => .inr (.inr ⟨_, List.mem_cons_self, List.mem_cons_self⟩)
  | sends top =>
    unfold TraySystem.send_tray_event
    split <;>
      exact kept.same rfl rfl rfl rfl rfl (fun _ => id) id (top ▸ Drains.performed nofun)
  | @blocks effect _ _ _ top is_block =>
    refine kept.same rfl rfl rfl rfl rfl (fun _ => id) id (top ▸ Drains.performed ?_)
    rintro rfl
    cases is_block
  | waits top =>
    exact kept.same rfl rfl rfl rfl rfl (fun _ => id) id (top ▸ Drains.performed nofun)
  | @passes effect effects frames top drained =>
    by_cases drains : effect = .DrainNotifications
    · exact ⟨kept.order, fun _ _ queued => absurd (drained drains) queued⟩
    · exact performed (top ▸ Drains.performed drains)
  | again top | returned top => exact performed (top ▸ Drains.recalled)
  | added restored top => exact run (performed (top ▸ Drains.recalled)) _
  | showed top | refused top =>
    exact kept.same rfl rfl rfl rfl rfl (fun _ => id) id (top ▸ Drains.recalled)
  | heard =>
    refine hear (s := { s with events := _ }) ?_ _ _ _
    exact ⟨kept.order, kept.due⟩
  | switched => exact kept.switch _ _
  | notified => exact kept.notify _
  | posted =>
    refine ⟨kept.order, fun _ _ _ => .inl ⟨⟨TRAY_SHOW_ERROR, 0, 0⟩, ?_, rfl⟩⟩
    exact List.mem_append_right _ List.mem_cons_self
  | told => exact kept.post s.daemon rfl _ _
  | shut =>
    unfold TraySystem.begin_shutdown
    split
    · exact kept
    · exact kept.same rfl rfl rfl rfl rfl (fun _ => id) id id

end NoticesKept

variable {startup_enabled file_output review restored : Bool}
  {steps : List (Taken TraySystem TrayStep)}

/-- In every run the notifications are kept. -/
theorem notices_kept (registered : Registered taskbar_created)
    (run : TrayRun taskbar_created startup_enabled file_output review restored steps s) :
    NoticesKept s :=
  run.inv (NoticesKept.step registered) ⟨rfl, fun _ _ queued => absurd rfl queued⟩

/-- **No notification is lost, handed over twice or out of order**: in every state of every run,
what was handed to the shell and what waits is what the queue took, and each that was handed over
was shown, was refused, or is in its call.  While the icon is there and something waits, a message
to hand it over is on its way, the daemon is about to post one, or a frame is to hand it over; so
where the threads rest and the icon is there, all of it was shown or refused. -/
theorem tray_notifies (registered : Registered taskbar_created)
    (run : TrayRun taskbar_created startup_enabled file_output review restored steps s) :
    s.drained ++ s.notifications = s.accepted ∧
      s.drained.Perm (s.shown ++ s.refused ++ notifying s.frames) ∧
      (s.destroyed = false → s.model.icon = .Present →
        (∀ m ∈ s.posted, m.message ≠ TRAY_SHOW_ERROR) → s.daemon.owes_post = false →
        (∀ frame ∈ s.frames, .DrainNotifications ∉ frame.effects) →
        s.drained = s.accepted ∧ s.accepted.Perm (s.shown ++ s.refused)) := by
  have none_handed : NoticesHanded
      (TraySystem.started startup_enabled file_output review restored) :=
    ⟨.nil, List.forall_mem_singleton.mpr nofun⟩
  have kept := notices_kept registered run
  have handed := run.inv NoticesHanded.step none_handed
  refine ⟨kept.order, handed.handed, fun alive present none_posted owes_none none_drains => ?_⟩
  have empty : s.notifications = [] := by
    by_contra queued
    rcases kept.due alive present queued with ⟨m, member, shows⟩ | owed | ⟨frame, member, among⟩
    · exact none_posted m member shows
    · exact Bool.false_ne_true (owes_none.symm.trans owed)
    · exact none_drains frame member among
  have order : s.drained = s.accepted := by rw [← kept.order, empty, List.append_nil]
  refine ⟨order, ?_⟩
  rw [← order]
  simpa [handed.none_open none_drains] using handed.handed

/-- A notification comes while the icon is missing and is shown as it is added again; the shell
refuses a second one. -/
def notified_steps : List TrayStep :=
  [.applies, .applies, .receives ⟨0xC000, 0, 0⟩, .applies, .returns .failed, .applies, .applies,
    .notifies ⟨"Captastic", "Saved", true, none⟩, .posts, .dispatches, .applies, .dispatches,
    .applies, .receives ⟨0xC000, 0, 0⟩, .applies, .returns .busy, .returns .done, .applies,
    .returns .done, .notifies ⟨"Captastic", "Copied", true, none⟩, .applies, .returns .failed,
    .applies, .applies, .applies, .posts, .dispatches, .applies, .applies]

/-- Two notifications: one is shown, the shell refuses the other. -/
theorem tray_notifies_saved :
    ∃ s, tray_session (fun _ _ => true) notified_steps = some s ∧
      (s.shown.length = 1 ∧ s.refused.length = 1) ∧
      s.drained = s.accepted ∧ s.accepted.Perm (s.shown ++ s.refused) := by
  have computed : (tray_session (fun _ _ => true) notified_steps).any (fun s =>
      decide (s.shown.length = 1 ∧ s.refused.length = 1) &&
        decide (s.destroyed = false ∧ s.model.icon = .Present ∧ s.posted = [] ∧
          s.daemon.owes_post = false ∧ s.frames = [])) = true := by decide
  obtain ⟨s, computed, held⟩ := Option.any_eq_true _ _ |>.mp computed
  rw [Bool.and_eq_true, decide_eq_true_eq, decide_eq_true_eq] at held
  obtain ⟨both, alive, present, none_posted, owes_none, at_rest⟩ := held
  obtain ⟨steps, run, -⟩ := tray_session_runs computed
  refine ⟨s, computed, both, (tray_notifies (by unfold Registered; decide) run).2.2 alive present
    ?_ owes_none ?_⟩
  · rw [none_posted]
    nofun
  · rw [at_rest]
    nofun

/-! ## Shutdown blocks -/

/-- The reasons to block the session's end that an input's effects create or take back. -/
def blocks_of (effects : List TrayEffect) : List Bool := effects.filterMap block_of

/-- The ones still to come, in order. -/
def blocks_to_come (frames : List TrayFrame) : List Bool :=
  frames.flatMap fun frame => blocks_of frame.effects

/-- A frame that makes no call, so that it is left before another input is taken. -/
def Uncalling (frame : TrayFrame) : Prop :=
  frame.call = none ∧
    ∀ effect ∈ frame.effects, calls_shell effect = false ∧ effect ≠ .DrainNotifications

/-- Only the innermost frame has reasons to create or take back, and only if it makes no call. -/
def Nested : List TrayFrame → Prop
  | [] => True
  | frame :: frames =>
    (blocks_of frame.effects = [] ∨ Uncalling frame) ∧
      ∀ under ∈ frames, blocks_of under.effects = []

/-- Reasons are created and taken back in turn. -/
def InTurn (blocks : List Bool) : Prop := (false :: blocks).IsChain (· ≠ ·)

/-- The other of the two is in turn. -/
theorem InTurn.concat {blocks : List Bool} {block : Bool} (turns : InTurn blocks)
    (other : last_said false blocks ≠ block) : InTurn (blocks ++ [block]) := by
  refine List.isChain_append.mpr ⟨turns, List.isChain_singleton block, ?_⟩
  intro before last next first
  rw [List.head?_cons, Option.mem_some_iff] at first
  rw [List.getLast?_cons, Option.mem_some_iff] at last
  rw [← first, ← last]
  exact other

/-- The first of some blocks in turn are. -/
theorem InTurn.left {blocks later : List Bool} (turns : InTurn (blocks ++ later)) :
    InTurn blocks := by
  rw [InTurn, ← List.cons_append] at turns
  exact turns.left_of_append

/-- What has been created or taken back, with what is to come, is in turn, and ends with a reason
created exactly while a query waits for its end. -/
structure BlocksKept (s : TraySystem) : Prop where
  turns : InTurn (s.blocks ++ blocks_to_come s.frames)
  last : last_said false (s.blocks ++ blocks_to_come s.frames) =
    decide (s.model.session = .QueryReceived)
  nested : Nested s.frames
  done : s.destroyed = true → s.model.session = .Idle

/-- The innermost frame's blocks come first. -/
theorem blocks_to_come_cons (frame : TrayFrame) (frames : List TrayFrame) :
    blocks_to_come (frame :: frames) = blocks_of frame.effects ++ blocks_to_come frames := rfl

/-- Frames without blocks have none to come. -/
theorem no_blocks {frames : List TrayFrame}
    (none_has : ∀ frame ∈ frames, blocks_of frame.effects = []) : blocks_to_come frames = [] :=
  List.flatMap_eq_nil_iff.mpr none_has

/-- While a message is taken nothing is left to create or take back. -/
theorem taking_no_blocks (nested : Nested s.frames) (takes : s.takes_messages = true) :
    ∀ frame ∈ s.frames, blocks_of frame.effects = [] := by
  simp only [TraySystem.takes_messages, Bool.and_eq_true] at takes
  cases top : s.frames with
  | nil => nofun
  | cons frame frames =>
    rw [top] at nested takes
    refine List.forall_mem_cons.mpr ⟨nested.1.resolve_right ?_, nested.2⟩
    rintro ⟨no_call, -⟩
    simp [no_call] at takes

/-- What an input does about the reasons: nothing, or one that comes in turn. -/
inductive Blocks (model : TrayModel) : TrayModel → List TrayEffect → Prop
  | nothing {model' : TrayModel} {effects : List TrayEffect} (none_has : blocks_of effects = [])
      (session : model'.session = model.session) : Blocks model model' effects
  | one {model' : TrayModel} {effects : List TrayEffect} {block : Bool}
      (only : blocks_of effects = [block])
      (uncalling : Uncalling ⟨effects, none⟩)
      (before : decide (model.session = .QueryReceived) ≠ block)
      (after : decide (model'.session = .QueryReceived) = block) : Blocks model model' effects

/-- A command of the menu neither blocks nor unblocks, and the session goes on. -/
theorem menu_blocks (model : TrayModel) (command : TrayMenuCommand) :
    blocks_of (model.menu command).2 = [] ∧ (model.menu command).1.session = model.session := by
  cases command with
  | Capture | Pause => exact ⟨by simp only [TrayModel.menu]; split <;> rfl, rfl⟩
  | _ => exact ⟨rfl, rfl⟩

/-- An input blocks as the session is queried, and unblocks as it is not to end. -/
theorem transition_blocks (model : TrayModel) (input : TrayInput) :
    Blocks model (model.transition input).1 (model.transition input).2 := by
  cases input with
  | Menu command => exact .nothing (menu_blocks model command).1 (menu_blocks model command).2
  | IconDoubleClick =>
    exact .nothing (menu_blocks model .Capture).1 (menu_blocks model .Capture).2
  | IconAddCompleted restored => cases restored <;> exact .nothing rfl rfl
  | NotificationsPosted =>
    exact .nothing (by simp only [TrayModel.transition]; split <;> rfl) rfl
  | QueryEndSession =>
    cases session : model.session with
    | Idle =>
      simp only [TrayModel.transition, session, if_true]
      refine .one rfl ⟨rfl, ?_⟩ ?_ rfl
      · exact List.forall_mem_singleton.mpr ⟨rfl, by simp⟩
      · simp [session]
    | QueryReceived =>
      simp only [TrayModel.transition, session]
      exact .nothing rfl rfl
  | EndSession committed =>
    cases session : model.session with
    | Idle =>
      refine .nothing ?_ session.symm
      cases committed <;> simp [TrayModel.transition, session, blocks_of, block_of]
    | QueryReceived =>
      have before : decide (model.session = .QueryReceived) ≠ false := by simp [session]
      cases committed with
      | false =>
        simp only [TrayModel.transition, session, if_true]
        exact .one rfl ⟨rfl, List.forall_mem_singleton.mpr ⟨rfl, by simp⟩⟩ before rfl
      | true =>
        simp only [TrayModel.transition, session, if_true]
        refine .one rfl ⟨rfl, ?_⟩ before rfl
        exact List.forall_mem_cons.mpr
          ⟨⟨rfl, by simp⟩, List.forall_mem_singleton.mpr ⟨rfl, by simp⟩⟩
  | Destroyed =>
    cases session : model.session with
    | Idle =>
      simp only [TrayModel.transition, session]
      exact .nothing rfl rfl
    | QueryReceived =>
      simp only [TrayModel.transition, session, if_true]
      refine .one rfl ⟨rfl, ?_⟩ ?_ rfl
      · exact List.forall_mem_cons.mpr
          ⟨⟨rfl, by simp⟩, List.forall_mem_singleton.mpr ⟨rfl, by simp⟩⟩
      · simp [session]
  | _ => exact .nothing rfl rfl

namespace Nested

variable {effect : TrayEffect} {effects : List TrayEffect} {frames : List TrayFrame}
  {call : ShellCall}

/-- The outer frames are nested where all of them are. -/
theorem left {frame : TrayFrame} (nested : Nested (frame :: frames)) : Nested frames := by
  cases frames with
  | nil => trivial
  | cons under frames =>
    obtain ⟨first, rest⟩ := List.forall_mem_cons.mp nested.2
    exact ⟨.inl first, rest⟩

/-- The innermost frame, where it is in a call or begins one, has nothing to create or take
back. -/
theorem in_call (nested : Nested (⟨effects, some call⟩ :: frames)) : blocks_of effects = [] :=
  nested.1.resolve_right nofun

/-- A frame that calls the shell has no block to come. -/
theorem begins_call (nested : Nested (⟨effect :: effects, none⟩ :: frames))
    (calls : calls_shell effect = true ∨ effect = .DrainNotifications) :
    blocks_of (effect :: effects) = [] := by
  refine nested.1.resolve_right ?_
  rintro ⟨-, none_calls⟩
  obtain ⟨silent, no_drain⟩ := none_calls effect List.mem_cons_self
  exact calls.elim (fun calls => Bool.false_ne_true (silent.symm.trans calls)) no_drain

/-- A call of the shell is nested where none is to come behind it. -/
theorem calling (nested : Nested (⟨effect :: effects, none⟩ :: frames)) {effects' : List TrayEffect}
    {call' : Option ShellCall} (none_has : blocks_of effects' = []) :
    Nested (⟨effects', call'⟩ :: frames) :=
  ⟨.inl none_has, nested.2⟩

/-- An effect that is done leaves the frames nested. -/
theorem performed (nested : Nested (⟨effect :: effects, none⟩ :: frames)) :
    Nested (⟨effects, none⟩ :: frames) := by
  refine ⟨?_, nested.2⟩
  rcases nested.1 with none_has | uncalling
  · refine .inl (List.filterMap_eq_nil_iff.mpr ?_)
    exact (List.forall_mem_cons.mp (List.filterMap_eq_nil_iff.mp none_has)).2
  · exact .inr ⟨rfl, (List.forall_mem_cons.mp uncalling.2).2⟩

end Nested

/-- An effect that creates or takes back nothing leaves what is to come. -/
theorem blocks_performed {effect : TrayEffect} {effects : List TrayEffect}
    {frames : List TrayFrame} {call call' : Option ShellCall} (no_block : block_of effect = none) :
    blocks_to_come (⟨effects, call'⟩ :: frames) =
      blocks_to_come (⟨effect :: effects, call⟩ :: frames) := by
  rw [blocks_to_come_cons, blocks_to_come_cons, blocks_of, blocks_of, List.filterMap_cons,
    no_block]

/-- The window is destroyed without a reason outstanding. -/
theorem destroyed_session (model : TrayModel) :
    (model.transition .Destroyed).1.session = .Idle := by
  cases session : model.session <;> simp [TrayModel.transition, session]

namespace BlocksKept

/-- What touches neither the reasons nor the session. -/
theorem same (kept : BlocksKept s) (blocks : s'.blocks = s.blocks)
    (to_come : blocks_to_come s'.frames = blocks_to_come s.frames)
    (session : s'.model.session = s.model.session) (destroyed : s'.destroyed = s.destroyed)
    (nested : Nested s'.frames) : BlocksKept s' where
  turns := by rw [blocks, to_come]; exact kept.turns
  last := by rw [blocks, to_come, session]; exact kept.last
  nested := nested
  done := by rw [destroyed, session]; exact kept.done

/-- An input taken while nothing is left to create or take back. -/
theorem run (kept : BlocksKept s) (input : TrayInput)
    (idle : ∀ frame ∈ s.frames, blocks_of frame.effects = [])
    (done : s.destroyed = true ∨ input = .Destroyed →
      (s.model.transition input).1.session = .Idle) : BlocksKept (s.run_tray_input input) := by
  have to_come : blocks_to_come (s.run_tray_input input).frames =
      blocks_of (s.model.transition input).2 ++ blocks_to_come s.frames := rfl
  have no_more : blocks_to_come s.frames = [] := no_blocks idle
  have turns := kept.turns
  have last := kept.last
  have gone (destroyed : (s.destroyed || input == .Destroyed) = true) :
      (s.model.transition input).1.session = .Idle := by
    rw [Bool.or_eq_true, beq_iff_eq] at destroyed
    exact done destroyed
  rw [no_more, List.append_nil] at turns last
  cases transition_blocks s.model input with
  | nothing none_has session =>
    refine ⟨?_, ?_, ⟨.inl none_has, idle⟩, gone⟩
    · rw [to_come, none_has, no_more, List.append_nil, List.append_nil]
      exact turns
    · rw [to_come, none_has, no_more, List.append_nil, List.append_nil]
      exact last.trans (congrArg (fun phase => decide (phase = .QueryReceived)) session.symm)
  | one only uncalling before after =>
    rw [← last] at before
    refine ⟨?_, ?_, ⟨.inr uncalling, idle⟩, gone⟩
    · rw [to_come, only, no_more, List.append_nil]
      exact turns.concat before
    · rw [to_come, only, no_more, List.append_nil]
      exact (last_said_concat _ _ _).trans after.symm

/-- A message that is taken. -/
theorem take (kept : BlocksKept s) (takes : s.takes_messages = true) (input : TrayInput) :
    BlocksKept (s.run_tray_input input) := by
  refine kept.run input (taking_no_blocks kept.nested takes) ?_
  rintro (destroyed | rfl)
  · rw [TraySystem.takes_messages, destroyed] at takes
    cases takes
  · exact destroyed_session s.model

/-- **One step** keeps the blocks in turn. -/
theorem step (s : TraySystem) (step : TrayStep) (s' : TraySystem) (kept : BlocksKept s)
    (taken : TrayStepTaken taskbar_created s step s') : BlocksKept s' := by
  have nested := kept.nested
  have passed {s' : TraySystem} (model : s'.model = s.model) (frames : s'.frames = s.frames)
      (blocks : s'.blocks = s.blocks) (destroyed : s'.destroyed = s.destroyed) : BlocksKept s' :=
    kept.same blocks (by rw [frames]) (by rw [model]) destroyed (frames ▸ nested)
  cases tray_moves taken with
  | sent takes => exact kept.take takes _
  | ignored => exact kept
  | @dispatched m posted input first takes =>
    exact take (s := { s with posted := posted }) ⟨kept.turns, kept.last, nested, kept.done⟩
      takes _
  | discarded => exact passed rfl rfl rfl rfl
  | left top =>
    rw [top] at nested
    exact kept.same rfl (by rw [top]; rfl) rfl rfl nested.left
  | @calls effect effects frames call top calling =>
    rw [top] at nested
    have none_has := nested.begins_call (.inl calling)
    have no_block : block_of effect = none :=
      List.filterMap_eq_nil_iff.mp none_has effect List.mem_cons_self
    refine kept.same rfl (by rw [top, blocks_performed no_block]) rfl rfl (nested.calling ?_)
    rwa [blocks_of, List.filterMap_cons, no_block] at none_has
  | drains top =>
    rw [top] at nested
    exact kept.same rfl (by rw [top]; rfl) rfl rfl (nested.calling (nested.begins_call (.inr rfl)))
  | sends top =>
    rw [top] at nested
    unfold TraySystem.send_tray_event
    split <;> exact kept.same rfl (by rw [top, blocks_performed]; rfl) rfl rfl nested.performed
  | @blocks effect block effects frames top is_block =>
    rw [top] at nested
    -- what was to come first has come
    have moved : s.blocks ++ blocks_to_come s.frames =
        s.blocks ++ [block] ++ blocks_to_come (⟨effects, none⟩ :: frames) := by
      rw [top, blocks_to_come_cons, blocks_to_come_cons, blocks_of, List.filterMap_cons, is_block,
        List.append_assoc]
      rfl
    exact ⟨moved ▸ kept.turns, moved ▸ kept.last, nested.performed, kept.done⟩
  | waits top =>
    rw [top] at nested
    exact kept.same rfl (by rw [top, blocks_performed]; rfl) rfl rfl nested.performed
  | passes top _ _ no_block =>
    rw [top] at nested
    exact kept.same rfl (by rw [top, blocks_performed no_block]) rfl rfl nested.performed
  | again top | returned top | showed top | refused top =>
    rw [top] at nested
    exact kept.same rfl (by rw [top]; rfl) rfl rfl ⟨.inl nested.in_call, nested.2⟩
  | @added _ effects frames call restored top =>
    rw [top] at nested
    have left : BlocksKept { s with frames := ⟨effects, none⟩ :: frames } :=
      kept.same rfl (by rw [top]; rfl) rfl rfl ⟨.inl nested.in_call, nested.2⟩
    refine left.run _ (List.forall_mem_cons.mpr ⟨nested.in_call, nested.2⟩) ?_
    rintro (destroyed | none_such)
    · have idle := kept.done destroyed
      cases restored <;> exact idle
    · cases none_such
  | heard =>
    rename_i event events start startup first
    cases event with
    | ToggleFileOutput =>
      simp only [TraySystem.daemon_event, TraySystem.set_file_output_enabled]
      split_ifs <;> cases start <;> exact passed rfl rfl rfl rfl
    | ToggleStartup => cases startup <;> exact passed rfl rfl rfl rfl
    | _ => exact passed rfl rfl rfl rfl
  | @switched requested start =>
    simp only [TraySystem.set_file_output_enabled]
    split_ifs <;> cases start <;> exact passed rfl rfl rfl rfl
  | notified =>
    unfold TraySystem.send_notification
    split <;> exact passed rfl rfl rfl rfl
  | posted | told => exact passed rfl rfl rfl rfl
  | shut =>
    unfold TraySystem.begin_shutdown
    split <;> exact passed rfl rfl rfl rfl

/-- Where no effect is left, a reason is outstanding exactly while a query waits for its end. -/
theorem at_rest (kept : BlocksKept s) (empty : s.frames = []) :
    last_said false s.blocks = decide (s.model.session = .QueryReceived) := by
  have said := kept.last
  rwa [empty, blocks_to_come, List.flatMap_nil, List.append_nil] at said

/-- So none is once the window is destroyed. -/
theorem destroyed (kept : BlocksKept s) (empty : s.frames = []) (destroyed : s.destroyed = true) :
    last_said false s.blocks = false := by
  rw [kept.at_rest empty, kept.done destroyed]
  rfl

end BlocksKept

/-- In every run the reasons are kept. -/
theorem blocks_kept
    (run : TrayRun taskbar_created startup_enabled file_output review restored steps s) :
    BlocksKept s := by
  apply run.inv BlocksKept.step
  cases restored <;> exact ⟨List.isChain_singleton false, rfl, ⟨.inl rfl, nofun⟩, nofun⟩

/-- **Reasons to block the session's end come and go in turn**: in every state of every run the
reasons created and taken back alternate, beginning with one created; where no effect is left to
perform, one is outstanding exactly while a query waits for its end; and once the window is
destroyed and its effects are performed, none is. -/
theorem tray_blocks_alternate
    (run : TrayRun taskbar_created startup_enabled file_output review restored steps s) :
    InTurn s.blocks ∧
      (s.frames = [] → last_said false s.blocks = decide (s.model.session = .QueryReceived)) ∧
      (s.frames = [] → s.destroyed = true → last_said false s.blocks = false) := by
  have kept := blocks_kept run
  exact ⟨kept.turns.left, kept.at_rest, kept.destroyed⟩

/-- The session asks to end while the tooltip changes, is called off, asks again, and the window is
destroyed. -/
def ended_steps : List TrayStep :=
  [.applies, .applies, .receives ⟨WM_COMMAND, 1002, 0⟩, .applies,
    .receives ⟨WM_QUERYENDSESSION, 0, 0⟩, .applies, .applies,
    .receives ⟨WM_ENDSESSION, 0, 0⟩, .applies, .applies, .returns .done, .applies, .applies,
    .receives ⟨WM_QUERYENDSESSION, 0, 0⟩, .applies, .applies,
    .receives ⟨WM_DESTROY, 0, 0⟩, .applies, .applies, .applies]

/-- A session that is asked to end twice, and ends. -/
theorem tray_blocks_alternate_ended :
    ∃ s, tray_session (fun _ _ => true) ended_steps = some s ∧
      s.blocks = [true, false, true, false] ∧
      InTurn s.blocks ∧
      (s.frames = [] → last_said false s.blocks = decide (s.model.session = .QueryReceived)) ∧
      (s.frames = [] → s.destroyed = true → last_said false s.blocks = false) := by
  have computed : (tray_session (fun _ _ => true) ended_steps).any (fun s =>
      decide (s.blocks = [true, false, true, false])) = true := by decide
  obtain ⟨s, computed, four⟩ := Option.any_eq_true _ _ |>.mp computed
  obtain ⟨steps, run, -⟩ := tray_session_runs computed
  exact ⟨s, computed, of_decide_eq_true four, tray_blocks_alternate run⟩

end Captastic.Analysis
