import Captastic.Analysis.DraftsReached

/-!
# No draft is lost as Captastic exits

Exit waits for the recording's thread, for the savers' threads and for the desktop UI thread, in
this order, and does so twice; a saver that is late has its draft taken and saved as recorded.  In a
run in which each of these waits ends in time, or the late saver has not begun to write, every draft
has ended once the process is gone (`exit_loses_none`).  The other conditions of `in_time` are that
no encoding panics, that a recording starts only while no other thread of a recording is still
handing its draft on, since only the last one's handle is kept, and that neither a recording nor the
desktop UI thread starts once exit has begun.
-/

set_option autoImplicit false

namespace Captastic.Analysis

open Captastic.Library Captastic.Model

/-! ## Where exit is -/

/-- Exit waits for recordings no more. -/
def past_join : ExitStage → Bool
  | .running => false
  | .told => false
  | .joins _ => false
  | _ => true

/-- Exit has not told the desktop UI thread to stop. -/
def before_ui : ExitStage → Bool
  | .joins_ui => false
  | .leaves => false
  | .gone => false
  | _ => true

/-- Exit waits for the desktop UI thread no more. -/
def past_ui : ExitStage → Bool
  | .leaves => true
  | .gone => true
  | _ => false

/-- Exit has taken the list of savers. -/
def past_savers : ExitStage → Bool
  | .running => false
  | .told => false
  | .joins _ => false
  | .takes_savers => false
  | _ => true

/-- The savers exit has not come to. -/
def exit_savers : ExitStage → List Nat
  | .joins_savers savers => savers
  | .saves _ savers => savers
  | _ => []

/-- A saver's thread has taken its draft and writes it. -/
def saver_writes (s : DraftShared) (saver : Nat) : Bool :=
  match s.savers[saver]? with
  | some ⟨_, _, .writes _ _⟩ => true
  | _ => false

/-- The step is one in which exit gives up on nothing that has a draft, and nothing starts that exit
does not know of. -/
def in_time (s : DraftHost) : DraftEvent → Bool
  | .exit _ _ =>
    match s.exit with
    | .running => s.starting.isNone
    | .joins recorder => s.recorder_ended recorder
    | .joins_savers (saver :: _) => !saver_writes s.shared saver
    | .joins_ui => decide (s.ui = .ended)
    | _ => true
  | .starts_recording =>
    s.active || decide (s.exit = .running) && s.recorders.all fun hand => decide (hand = .idle)
  | .starts_ui => decide (s.exit = .running)
  | .saver_panics _ => false
  | _ => true

/-- What exit relies on: it knows the one recording whose thread has something to do, the desktop
UI thread is gone once it has been waited for, and a saver's thread that has a draft is on its list
or is being put there. -/
structure ExitOk (s : DraftHost) : Prop where
  passes : s.passes ≤ 1
  first : s.exit = .running → s.passes = 1
  last : s.exit = .gone → s.passes = 0
  started : s.exit ≠ .running → s.starting = none
  tracked : ∀ recorder hand, s.recorders[recorder]? = some hand → hand ≠ .idle →
    (s.exit = .running ∨ s.exit = .told ∧ s.passes = 1) ∧
      s.starting.or s.join = some recorder ∨ s.exit = .joins recorder ∧ s.passes = 1
  absent : s.passes = 1 → before_ui s.exit = true → s.shared.ui_started = false → s.ui = .absent
  stopped : s.passes = 0 ∨ past_ui s.exit = true → window_lives s.ui = false
  savers : ∀ saver held, s.shared.savers[saver]? = some held → saver_drafts held = [] ∨
    saver ∈ s.shared.kept_savers ∨ (∃ shutting_down, .keeps saver shutting_down ∈ hands s) ∨
    saver ∈ exit_savers s.exit
  kept : s.passes = 0 → past_savers s.exit = true → s.shared.kept_savers = []

variable {s s' : DraftHost} {event : DraftEvent}

/-- Once exit waits for recordings no more, their threads have nothing to do. -/
theorem ExitOk.recorders_idle (ok : ExitOk s) (past : s.passes = 0 ∨ past_join s.exit = true) :
    ∀ hand ∈ s.recorders, hand = .idle := by
  intro hand member
  obtain ⟨recorder, found⟩ := List.mem_iff_getElem?.mp member
  by_contra busy
  rcases ok.tracked recorder hand found busy with ⟨early, -⟩ | ⟨stage, pass⟩
  · rcases early with stage | ⟨stage, pass⟩
    · have pass := ok.first stage
      rw [stage] at past
      rcases past with past | past
      · omega
      · cases past
    · rw [stage] at past
      rcases past with past | past
      · omega
      · cases past
  · rw [stage] at past
    rcases past with past | past
    · omega
    · cases past

/-- Once the desktop UI thread is gone no thread has anything to do. -/
theorem ExitOk.hands_idle (ok : ExitOk s) (host : HostOk s)
    (past : s.passes = 0 ∨ past_ui s.exit = true) : ∀ hand ∈ hands s, hand = .idle := by
  intro hand member
  rcases List.mem_cons.mp member with rfl | member
  · exact host.ended (ok.stopped past)
  · apply ok.recorders_idle _ hand member
    refine past.imp_right ?_
    intro past
    cases stage : s.exit <;> rw [stage] at past <;> first | rfl | cases past

/-- Where exit, the recordings and the desktop UI thread are the same. -/
theorem ExitOk.of_same (ok : ExitOk s) (same_exit : s'.exit = s.exit)
    (same_passes : s'.passes = s.passes) (same_starting : s'.starting = s.starting)
    (same_join : s'.join = s.join) (same_recorders : s'.recorders = s.recorders)
    (same_started : s'.shared.ui_started = s.shared.ui_started)
    (same_kept : s'.shared.kept_savers = s.shared.kept_savers)
    (host : (s'.ui = s.ui) ∨ window_lives s.ui = true)
    (savers : ∀ saver held, s'.shared.savers[saver]? = some held → saver_drafts held = [] ∨
      saver ∈ s.shared.kept_savers ∨ (∃ shutting_down, .keeps saver shutting_down ∈ hands s') ∨
      saver ∈ exit_savers s.exit) : ExitOk s' where
  passes := by
    rw [same_passes]
    exact ok.passes
  first := by
    rw [same_exit, same_passes]
    exact ok.first
  last := by
    rw [same_exit, same_passes]
    exact ok.last
  started := by
    rw [same_exit, same_starting]
    exact ok.started
  tracked := by
    rw [same_exit, same_passes, same_starting, same_join, same_recorders]
    exact ok.tracked
  absent := by
    rw [same_exit, same_passes, same_started]
    intro pass before not_started
    have absent := ok.absent pass before not_started
    rcases host with same | lives
    · exact same.trans absent
    · rw [absent] at lives
      cases lives
  stopped := by
    rw [same_exit, same_passes]
    intro past
    have gone := ok.stopped past
    rcases host with same | lives
    · rw [same]
      exact gone
    · cases gone.symm.trans lives
  savers := by
    rw [same_kept, same_exit]
    exact savers
  kept := by
    rw [same_exit, same_passes, same_kept]
    exact ok.kept

/-- What is in time of exit's own steps. -/
theorem in_time_exit {late answer : Bool} (timely : in_time s (.exit late answer) = true) :
    (s.exit = .running → s.starting = none) ∧
      (∀ recorder, s.exit = .joins recorder → s.recorder_ended recorder = true) ∧
      (∀ saver savers held, s.exit = .joins_savers (saver :: savers) →
        s.shared.savers[saver]? = some held → ∀ draft edited, held.stage ≠ .writes draft edited) ∧
      (s.exit = .joins_ui → s.ui = .ended) := by
  unfold in_time at timely
  refine ⟨?_, ?_, ?_, ?_⟩
  · intro stage
    simpa [stage] using timely
  · intro recorder stage
    simpa [stage] using timely
  · rintro saver savers ⟨unsaved, edit, saver_stage⟩ stage found draft edited rfl
    simp [stage, saver_writes, found] at timely
  · intro stage
    simpa [stage] using timely

/-! ## Threads without a draft -/

/-- A saver's thread that has ended has no draft. -/
theorem SaversOk.ended_empty (savers_ok : SaversOk s) {saver : Nat} {held : Saver}
    (found : s.shared.savers[saver]? = some held) (ended : s.shared.saver_ended saver = true) :
    saver_drafts held = [] := by
  unfold DraftShared.saver_ended at ended
  rw [found] at ended
  have at_end : held.stage = .ended := by simpa using ended
  have taken := savers_ok held (List.mem_of_getElem? found) (by rw [at_end]; rfl)
  unfold saver_drafts
  rw [at_end, taken]
  rfl

/-- A saver's thread whose draft has been taken, and which writes none, has no draft. -/
theorem untaken_empty {held : Saver} (untaken : held.unsaved = none)
    (not_writing : ∀ draft edited, held.stage ≠ .writes draft edited) :
    saver_drafts held = [] := by
  unfold saver_drafts
  rw [untaken]
  cases at_stage : held.stage with
  | writes draft edited => exact absurd at_stage (not_writing draft edited)
  | _ => rfl

/-! ## One step of a thread -/

/-- Where a thread goes on: its saver is on the list, or is being put there. -/
theorem hand_savers (ok : ExitOk s) (savers_ok : SaversOk s) {thread : Nat} {hand hand' : Hand}
    {shared : DraftShared} (found : (hands s)[thread]? = some hand)
    (moves : HandMoves s.shared hand shared hand') (saver : Nat) (held : Saver)
    (there : shared.savers[saver]? = some held) : saver_drafts held = [] ∨
      saver ∈ shared.kept_savers ∨
      (∃ shutting_down, .keeps saver shutting_down ∈ (hands s).set thread hand') ∨
      saver ∈ exit_savers s.exit := by
  have new : hand' ∈ (hands s).set thread hand' :=
    List.mem_set (List.getElem?_eq_some_iff.mp found).1 hand'
  have keeps (not_own : ∀ shutting_down, .keeps saver shutting_down ≠ hand)
      (before : s.shared.savers[saver]? = some held) : saver_drafts held = [] ∨
      saver ∈ s.shared.kept_savers ∨
      (∃ shutting_down, .keeps saver shutting_down ∈ (hands s).set thread hand') ∨
      saver ∈ exit_savers s.exit := by
    refine (ok.savers saver held before).imp_right (Or.imp_right (Or.imp_left ?_))
    rintro ⟨shutting_down, keeps⟩
    exact ⟨shutting_down, mem_set_of_ne found keeps (not_own shutting_down) hand'⟩
  cases moves with
  | spawns draft outcome edit shutting_down =>
    rcases Nat.lt_or_ge saver s.shared.savers.length with earlier | here
    · rw [List.getElem?_append_left earlier] at there
      exact keeps nofun there
    · have last := (List.getElem?_eq_some_iff.mp there).1
      rw [List.length_append, List.length_singleton] at last
      obtain rfl : saver = s.shared.savers.length := by omega
      exact .inr (.inr (.inl ⟨shutting_down, new⟩))
  | keeps own shutting_down =>
    by_cases same : saver = own
    · rw [same]
      exact .inr (.inl (List.mem_append_right _ List.mem_cons_self))
    · have kept := keeps (by rintro _ ⟨rfl⟩; exact same rfl) there
      rcases kept with empty | listed | others
      · exact .inl empty
      · cases ended : s.shared.saver_ended saver with
        | false =>
          refine .inr (.inl (List.mem_append_left _ (List.mem_filter.mpr ⟨listed, ?_⟩)))
          rw [ended]
          rfl
        | true =>
          exact .inl (savers_ok.ended_empty there ended)
      · exact .inr (.inr others)
  | _ => exact keeps nofun there

/-- A saver's thread without a draft stays without one. -/
theorem saver_stays_empty {s shared : DraftShared} {saver : Nat} {held : Saver}
    (moves : SaverMoves s saver held shared) (empty : saver_drafts held = []) :
    ∃ changed, shared.savers = s.savers.set saver changed ∧ saver_drafts changed = [] := by
  unfold saver_drafts at empty
  rw [List.append_eq_nil_iff] at empty
  obtain ⟨untaken, unwritten⟩ := empty
  have none_left : held.unsaved = none := by
    cases at_held : held.unsaved with
    | none => rfl
    | some draft =>
      rw [at_held] at untaken
      cases untaken
  cases moves with
  | reads draft found before => cases none_left.symm.trans found
  | encodes encoded before =>
    refine ⟨_, rfl, ?_⟩
    unfold saver_drafts
    rw [none_left]
    rfl
  | leaves found before =>
    refine ⟨_, rfl, ?_⟩
    unfold saver_drafts
    rw [none_left]
    rfl
  | takes draft encoded found before => cases none_left.symm.trans found
  | fails draft before =>
    rw [before] at unwritten
    cases unwritten
  | ends draft edited what before =>
    rw [before] at unwritten
    cases unwritten

/-- One thing changes in the list of savers. -/
theorem savers_of_set {P : Saver → Prop} {Q : Nat → Prop} {savers : List Saver} {own : Nat}
    {changed : Saver} (before : ∀ saver held, savers[saver]? = some held → P held ∨ Q saver)
    (kept : P changed ∨ Q own) (saver : Nat) (held : Saver)
    (there : (savers.set own changed)[saver]? = some held) : P held ∨ Q saver := by
  by_cases same : saver = own
  · subst same
    rw [List.getElem?_set_self'] at there
    cases at_saver : savers[saver]? with
    | none =>
      rw [at_saver] at there
      cases there
    | some earlier =>
      rw [at_saver] at there
      cases there
      exact kept
  · rw [List.getElem?_set_ne (Ne.symm same)] at there
    exact before saver held there

/-- Where exit goes through no list, each saver's thread with a draft is stored or being stored. -/
theorem ExitOk.unlisted (ok : ExitOk s) (none_listed : exit_savers s.exit = [])
    (listed : List Nat) (saver : Nat) (held : Saver) (found : s.shared.savers[saver]? = some held) :
    saver_drafts held = [] ∨ saver ∈ s.shared.kept_savers ∨
      (∃ shutting_down, .keeps saver shutting_down ∈ hands s) ∨ saver ∈ listed := by
  rcases ok.savers saver held found with empty | stored | keeps | there
  · exact .inl empty
  · exact .inr (.inl stored)
  · exact .inr (.inr (.inl keeps))
  · rw [none_listed] at there
    cases there

/-- Exit goes on from the first saver of its list, whose thread has no draft. -/
theorem ExitOk.next_saver (ok : ExitOk s) {own : Nat} {savers : List Nat}
    (stage : s.exit = .joins_savers (own :: savers)) {saver : Nat} {held : Saver}
    (found : s.shared.savers[saver]? = some held) (empty : saver = own → saver_drafts held = []) :
    saver_drafts held = [] ∨ saver ∈ s.shared.kept_savers ∨
      (∃ shutting_down, .keeps saver shutting_down ∈ hands s) ∨ saver ∈ savers := by
  rcases ok.savers saver held found with nothing | stored | keeps | there
  · exact .inl nothing
  · exact .inr (.inl stored)
  · exact .inr (.inr (.inl keeps))
  · rw [stage] at there
    rcases List.mem_cons.mp there with rfl | there
    · exact .inl (empty rfl)
    · exact .inr (.inr (.inr there))

/-- Once exit waits for recordings no more there is nothing to show of their threads. -/
theorem ExitOk.none_busy (ok : ExitOk s) (past : s.passes = 0 ∨ past_join s.exit = true)
    {P : Nat → Prop} (recorder : Nat) (hand : Hand) (found : s.recorders[recorder]? = some hand)
    (busy : hand ≠ .idle) : P recorder :=
  absurd (ok.recorders_idle past hand (List.mem_of_getElem? found)) busy

/-- Exit goes on to a stage in which it has still not waited for the desktop UI thread. -/
theorem ExitOk.goes_to (ok : ExitOk s) {stage : ExitStage} {join : Option Nat}
    {shared : DraftShared} (before : before_ui s.exit = true) (begun : stage ≠ .running)
    (waits : past_ui stage = false) (unstarted : s.starting = none)
    (same_started : before_ui stage = true → shared.ui_started = s.shared.ui_started)
    (tracked : ∀ recorder hand, s.recorders[recorder]? = some hand → hand ≠ .idle →
      (stage = .running ∨ stage = .told ∧ s.passes = 1) ∧ s.starting.or join = some recorder ∨
        stage = .joins recorder ∧ s.passes = 1)
    (savers : ∀ saver held, shared.savers[saver]? = some held → saver_drafts held = [] ∨
      saver ∈ shared.kept_savers ∨ (∃ shutting_down, .keeps saver shutting_down ∈ hands s) ∨
      saver ∈ exit_savers stage)
    (kept : s.passes = 0 → past_savers stage = true → shared.kept_savers = []) :
    ExitOk { s with exit := stage, join := join, shared := shared } where
  passes := ok.passes
  first := fun running => absurd running begun
  last := by
    rintro rfl
    cases waits
  started := fun _ => unstarted
  tracked := tracked
  absent := fun pass still not_started =>
    ok.absent pass before ((same_started still).symm.trans not_started)
  stopped := by
    rintro (none_left | past)
    · exact ok.stopped (.inl none_left)
    · cases waits.symm.trans past
  savers := savers
  kept := kept

/-- Exit goes on to a stage in which the desktop UI thread is gone. -/
theorem ExitOk.leaves_ui (ok : ExitOk s) {stage : ExitStage} {shared : DraftShared}
    (past : past_join s.exit = true) (none_listed : exit_savers s.exit = [])
    (taken : past_savers s.exit = true) (left : stage = .leaves ∨ stage = .gone ∧ s.passes = 0)
    (unstarted : s.starting = none) (gone : window_lives s.ui = false)
    (same_savers : shared.savers = s.shared.savers)
    (same_kept : shared.kept_savers = s.shared.kept_savers) :
    ExitOk { s with exit := stage, shared := shared } where
  passes := ok.passes
  first := by
    rcases left with rfl | ⟨rfl, -⟩ <;> exact nofun
  last := by
    rcases left with rfl | ⟨rfl, none_left⟩
    · exact nofun
    · exact fun _ => none_left
  started := fun _ => unstarted
  tracked := ok.none_busy (.inr past)
  absent := by
    rcases left with rfl | ⟨rfl, -⟩ <;> exact nofun
  stopped := fun _ => gone
  savers := by
    intro saver held found
    rw [same_kept]
    exact ok.unlisted none_listed _ saver held (same_savers ▸ found)
  kept := fun pass _ => same_kept.trans (ok.kept pass taken)

/-- Once the recording's thread that exit waits for has ended, none has anything to do. -/
theorem ExitOk.tracked_join (ok : ExitOk s) {own : Nat} (stage : s.exit = .joins own)
    (ended : s.recorder_ended own = true) {P : Nat → Prop} (recorder : Nat) (hand : Hand)
    (found : s.recorders[recorder]? = some hand) (busy : hand ≠ .idle) : P recorder := by
  rcases ok.tracked recorder hand found busy with ⟨early, -⟩ | ⟨joins, -⟩
  · rcases early with running | ⟨told, -⟩
    · cases stage.symm.trans running
    · cases stage.symm.trans told
  · cases stage.symm.trans joins
    unfold DraftHost.recorder_ended at ended
    rw [found] at ended
    exact absurd (by simpa using ended) busy

/-- Once exit has told the threads, the recording it knows of is the only one. -/
theorem ExitOk.tracked_told (ok : ExitOk s) (stage : s.exit = .told) (recorder : Nat) (hand : Hand)
    (found : s.recorders[recorder]? = some hand) (busy : hand ≠ .idle) :
    s.join = some recorder ∧ s.passes = 1 := by
  rcases ok.tracked recorder hand found busy with ⟨early, same⟩ | ⟨joins, -⟩
  · rw [ok.started (by rw [stage]; exact nofun)] at same
    rcases early with running | ⟨-, pass⟩
    · cases stage.symm.trans running
    · exact ⟨same, pass⟩
  · cases stage.symm.trans joins

/-- What exit does in time.
SRC: recording.rs:1431-1459; selection.rs:818-890 -/
theorem ExitOk.exits (ok : ExitOk s) (savers_ok : SaversOk s) {late answer : Bool}
    (timely : in_time s (.exit late answer) = true) (moves : ExitMoves s late s') :
    ExitOk s' := by
  obtain ⟨stored, joined, unwritten, ui_ended⟩ := in_time_exit timely
  -- Of the savers, where exit goes through no list before the step.
  have unlisted (none_listed : exit_savers s.exit = []) (listed : List Nat) :=
    ok.unlisted none_listed listed
  have kept (taken : past_savers s.exit = true) (pass : s.passes = 0) := ok.kept pass taken
  cases moves with
  | told stage =>
    have pass := ok.first stage
    refine ok.goes_to (by rw [stage]; rfl) nofun rfl (stored stage) (fun _ => rfl) ?_
      (unlisted (by rw [stage]; rfl) []) nofun
    intro recorder hand found busy
    rcases ok.tracked recorder hand found busy with ⟨-, same⟩ | ⟨joins, -⟩
    · exact .inl ⟨.inr ⟨rfl, pass⟩, same⟩
    · cases stage.symm.trans joins
  | joins own stage stored =>
    refine ok.goes_to (by rw [stage]; rfl) nofun rfl
      (ok.started (by rw [stage]; exact nofun)) (fun _ => rfl) ?_
      (unlisted (by rw [stage]; rfl) []) nofun
    intro recorder hand found busy
    obtain ⟨same, pass⟩ := ok.tracked_told stage recorder hand found busy
    cases stored.symm.trans same
    exact .inr ⟨rfl, pass⟩
  | joins_none stage missing =>
    refine ok.goes_to (by rw [stage]; rfl) nofun rfl
      (ok.started (by rw [stage]; exact nofun)) (fun _ => rfl) ?_
      (unlisted (by rw [stage]; rfl) []) nofun
    intro recorder hand found busy
    cases missing.symm.trans (ok.tracked_told stage recorder hand found busy).1
  | joined own stage ended =>
    exact ok.goes_to (by rw [stage]; rfl) nofun rfl
      (ok.started (by rw [stage]; exact nofun)) (fun _ => rfl)
      (ok.tracked_join stage ended) (unlisted (by rw [stage]; rfl) []) nofun
  | overrun own stage passed runs => cases runs.symm.trans (joined own stage)
  | takes_savers stage =>
    refine ok.goes_to (by rw [stage]; rfl) nofun rfl
      (ok.started (by rw [stage]; exact nofun)) (fun _ => rfl)
      (ok.none_busy (.inr (by rw [stage]; rfl))) ?_ fun _ _ => rfl
    -- The list that was stored is the one exit goes through.
    intro saver held found
    rcases unlisted (by rw [stage]; rfl) [] saver held found with empty | listed | keeps | there
    · exact .inl empty
    · exact .inr (.inr (.inr listed))
    · exact .inr (.inr (.inl keeps))
    · cases there
  | savers_joined stage =>
    exact ok.goes_to (by rw [stage]; rfl) nofun rfl
      (ok.started (by rw [stage]; exact nofun)) (fun _ => rfl)
      (ok.none_busy (.inr (by rw [stage]; rfl))) (unlisted (by rw [stage]; rfl) [])
      fun pass _ => kept (by rw [stage]; rfl) pass
  | saver_joined own savers stage ended =>
    refine ok.goes_to (by rw [stage]; rfl) nofun rfl
      (ok.started (by rw [stage]; exact nofun)) (fun _ => rfl)
      (ok.none_busy (.inr (by rw [stage]; rfl))) ?_ fun pass _ => kept (by rw [stage]; rfl) pass
    intro saver held found
    apply ok.next_saver stage found
    rintro rfl
    exact savers_ok.ended_empty found ended
  | saver_overrun own savers held draft stage passed runs found untaken =>
    refine ok.goes_to (by rw [stage]; rfl) nofun rfl
      (ok.started (by rw [stage]; exact nofun)) (fun _ => rfl)
      (ok.none_busy (.inr (by rw [stage]; rfl))) ?_ fun pass _ => kept (by rw [stage]; rfl) pass
    intro saver held' there
    have there : (s.shared.savers.set own { held with unsaved := none })[saver]? = some held' :=
      there
    by_cases same : saver = own
    · subst same
      rw [List.getElem?_set_self (List.getElem?_eq_some_iff.mp found).1] at there
      cases there
      exact .inl (untaken_empty rfl (unwritten saver savers held stage found))
    · rw [List.getElem?_set_ne (Ne.symm same)] at there
      exact ok.next_saver stage there fun own_saver => absurd own_saver same
  | saver_left own savers stage passed runs taken =>
    refine ok.goes_to (by rw [stage]; rfl) nofun rfl
      (ok.started (by rw [stage]; exact nofun)) (fun _ => rfl)
      (ok.none_busy (.inr (by rw [stage]; rfl))) ?_ fun pass _ => kept (by rw [stage]; rfl) pass
    intro saver held found
    apply ok.next_saver stage found
    rintro rfl
    exact untaken_empty (taken held found) (unwritten saver savers held stage found)
  | saves draft savers what stage =>
    refine ok.goes_to (by rw [stage]; rfl) nofun rfl
      (ok.started (by rw [stage]; exact nofun)) (fun _ => rfl)
      (ok.none_busy (.inr (by rw [stage]; rfl))) ?_ fun pass _ => kept (by rw [stage]; rfl) pass
    intro saver held found
    have before := ok.savers saver held found
    rw [stage] at before
    exact before
  | takes_ui stage free started =>
    exact ok.goes_to (by rw [stage]; rfl) nofun rfl (ok.started (by rw [stage]; exact nofun)) nofun
      (ok.none_busy (.inr (by rw [stage]; rfl))) (unlisted (by rw [stage]; rfl) [])
      fun pass _ => kept (by rw [stage]; rfl) pass
  | takes_no_ui stage absent =>
    refine ok.leaves_ui (by rw [stage]; rfl) (by rw [stage]; rfl) (by rw [stage]; rfl) (.inl rfl)
      (ok.started (by rw [stage]; exact nofun)) ?_ rfl rfl
    rcases Nat.lt_or_ge 0 s.passes with more | none_left
    · have pass : s.passes = 1 := Nat.le_antisymm ok.passes more
      rw [ok.absent pass (by rw [stage]; rfl) absent]
      rfl
    · exact ok.stopped (.inl (Nat.le_zero.mp none_left))
  | ui_joined stage ended =>
    refine ok.leaves_ui (by rw [stage]; rfl) (by rw [stage]; rfl) (by rw [stage]; rfl) (.inl rfl)
      (ok.started (by rw [stage]; exact nofun)) ?_ rfl rfl
    rw [ended]
    rfl
  | ui_overrun stage passed runs => exact absurd (ui_ended stage) runs
  | again passes stage more =>
    have at_most := ok.passes
    have last : passes = 0 := by omega
    refine ⟨by rw [last]; exact Nat.zero_le 1, nofun, nofun,
      fun _ => ok.started (by rw [stage]; exact nofun), ok.none_busy (.inr (by rw [stage]; rfl)),
      ?_, fun _ => ok.stopped (.inr (by rw [stage]; rfl)), unlisted (by rw [stage]; rfl) [], nofun⟩
    intro pass
    rw [last] at pass
    cases pass
  | goes stage last =>
    exact ok.leaves_ui (by rw [stage]; rfl) (by rw [stage]; rfl) (by rw [stage]; rfl)
      (.inr ⟨rfl, last⟩) (ok.started (by rw [stage]; exact nofun))
      (ok.stopped (.inr (by rw [stage]; rfl))) rfl rfl

/-- **One step** that is in time.
SRC: recording.rs:912-985, 1229-1285, 1431-1459; selection.rs:818-890 -/
theorem ExitOk.step (ok : ExitOk s) (host : HostOk s) (savers_ok : SaversOk s)
    (timely : in_time s event = true) (moves : DraftMoves s event s') : ExitOk s' := by
  cases moves with
  | hand event thread hand hand' shared found moves threads =>
    obtain ⟨not_idle, not_records, -⟩ := hand_works moves
    have member : hand ∈ hands s := List.mem_of_getElem? found
    have savers := hand_savers ok savers_ok found moves
    have same_shared : shared.ui_started = s.shared.ui_started := by
      have own : locks hand ≤ tally locks (hands s) := le_tally member
      have lock := host.lock
      exact (hand_locks moves (by omega)).2.2.1
    -- Exit has not come as far as the threads having nothing to do.
    have not_past : ¬ (s.passes = 0 ∨ past_ui s.exit = true) := fun past =>
      not_idle (ok.hands_idle host past hand member)
    cases thread with
    | zero =>
      refine ⟨ok.passes, ok.first, ok.last, ok.started, ok.tracked, ?_, ok.stopped, savers, ?_⟩
      · intro pass before not_started
        exact ok.absent pass before (same_shared.symm.trans not_started)
      · intro pass
        exact absurd (.inl pass) not_past
    | succ recorder =>
      refine ⟨ok.passes, ok.first, ok.last, ok.started, ?_, ?_, ok.stopped, savers, ?_⟩
      · intro other now found_now busy
        have before : ∃ before, s.recorders[other]? = some before ∧ before ≠ .idle := by
          by_cases same : other = recorder
          · rw [same]
            exact ⟨hand, found, not_idle⟩
          · refine ⟨now, ?_, busy⟩
            exact (List.getElem?_set_ne (Ne.symm same)).symm.trans found_now
        obtain ⟨before, found_before, busy_before⟩ := before
        exact ok.tracked other before found_before busy_before
      · intro pass before not_started
        exact ok.absent pass before (same_shared.symm.trans not_started)
      · intro pass
        exact absurd (.inl pass) not_past
  | refused active => exact ok
  | starts quiet stored =>
    obtain ⟨running, all_idle⟩ : s.exit = .running ∧ ∀ hand ∈ s.recorders, hand = .idle := by
      simpa [in_time, quiet] using timely
    refine ⟨ok.passes, ok.first, ok.last, fun began => absurd running began, ?_, ok.absent,
      ok.stopped, ?_, ok.kept⟩
    · intro recorder hand found busy
      have found : (s.recorders ++ [.records])[recorder]? = some hand := found
      rcases Nat.lt_or_ge recorder s.recorders.length with earlier | here
      · rw [List.getElem?_append_left earlier] at found
        exact absurd (all_idle hand (List.mem_of_getElem? found)) busy
      · have last := (List.getElem?_eq_some_iff.mp found).1
        rw [List.length_append, List.length_singleton] at last
        obtain rfl : recorder = s.recorders.length := by omega
        exact .inl ⟨.inl running, rfl⟩
    · intro saver held found
      refine (ok.savers saver held found).imp_right (Or.imp_right (Or.imp_left ?_))
      rintro ⟨shutting_down, keeps⟩
      refine ⟨shutting_down, ?_⟩
      show .keeps saver shutting_down ∈ hands s ++ [.records]
      exact List.mem_append_left _ keeps
  | stores recorder started =>
    have running : s.exit = .running := by
      by_contra began
      cases started.symm.trans (ok.started began)
    refine ⟨ok.passes, ok.first, ok.last, fun _ => rfl, ?_, ok.absent, ok.stopped, ok.savers,
      ok.kept⟩
    intro other hand found busy
    rcases ok.tracked other hand found busy with ⟨early, same⟩ | late
    · rw [started] at same
      exact .inl ⟨early, same⟩
    · exact .inr late
  | ends recorder draft found =>
    refine ⟨ok.passes, ok.first, ok.last, ok.started, ?_, ok.absent, ok.stopped, ?_, ok.kept⟩
    · intro other hand now busy
      have now : (s.recorders.set recorder (draft.elim .idle .finished))[other]? = some hand := now
      by_cases same : other = recorder
      · rw [same]
        exact ok.tracked recorder .records found nofun
      · rw [List.getElem?_set_ne (Ne.symm same)] at now
        exact ok.tracked other hand now busy
    · intro saver held there
      refine (ok.savers saver held there).imp_right (Or.imp_right (Or.imp_left ?_))
      rintro ⟨shutting_down, keeps⟩
      exact ⟨shutting_down,
        mem_set_of_ne (l := hands s) (i := recorder + 1) found keeps nofun _⟩
  | starts_ui absent =>
    have running : s.exit = .running := of_decide_eq_true timely
    have pass := ok.first running
    refine ⟨ok.passes, ok.first, ok.last, ok.started, ok.tracked, ?_, ?_, ok.savers, ok.kept⟩
    · exact nofun
    · rintro (none_left | past)
      · have none_left : s.passes = 0 := none_left
        omega
      · have past : past_ui s.exit = true := past
        rw [running] at past
        cases past
  | asks_ui started => exact ok.of_same rfl rfl rfl rfl rfl rfl rfl (.inl rfl) ok.savers
  | drains messages stage idle posted =>
    exact ok.of_same rfl rfl rfl rfl rfl rfl rfl (.inr (by rw [stage]; rfl)) ok.savers
  | stops messages stage idle posted =>
    exact ok.of_same rfl rfl rfl rfl rfl rfl rfl (.inr (by rw [stage]; rfl)) ok.savers
  | shows request channel held stage idle queued found =>
    exact ok.of_same rfl rfl rfl rfl rfl rfl rfl (.inl rfl) ok.savers
  | drained opened stage idle empty =>
    exact ok.of_same rfl rfl rfl rfl rfl rfl rfl (.inr (by rw [stage]; rfl)) ok.savers
  | calls event request outcome channel ui shown idle calls threads =>
    have apart : (DraftShared.answers { s.shared with channel } request outcome).1.savers =
          s.shared.savers ∧
        (DraftShared.answers { s.shared with channel } request outcome).1.kept_savers =
          s.shared.kept_savers := by
      unfold DraftShared.answers
      split <;> exact ⟨rfl, rfl⟩
    have lives : window_lives s.ui = true := by
      cases calls with
      | drains _ stage queued => rw [stage]; rfl
      | pumps stage there => rw [stage]; rfl
      | closes reviews stage => rw [stage]; rfl
    refine ok.of_same rfl rfl rfl rfl rfl (answers_apart { s.shared with channel } request
      outcome).2.2.1 apart.2 (.inr lives) ?_
    intro saver held there
    have there := (congrArg (·[saver]?) apart.1).symm.trans there
    refine (ok.savers saver held there).imp_right (Or.imp_right (Or.imp_left ?_))
    rintro ⟨shutting_down, keeps⟩
    rcases List.mem_cons.mp keeps with same | keeps
    · cases same.trans idle
    · exact ⟨shutting_down, List.mem_cons_of_mem _ keeps⟩
  | destroyed stage idle =>
    exact ok.of_same rfl rfl rfl rfl rfl rfl rfl (.inr (by rw [stage]; rfl)) ok.savers
  | saver saver ok' held shared found moves =>
    have apart : shared.kept_savers = s.shared.kept_savers := by cases moves <;> rfl
    have changed : ∃ changed, shared.savers = s.shared.savers.set saver changed ∧
        (saver_drafts held = [] → saver_drafts changed = []) := by
      by_cases empty : saver_drafts held = []
      · obtain ⟨changed, set, still⟩ := saver_stays_empty moves empty
        exact ⟨changed, set, fun _ => still⟩
      · cases moves <;> exact ⟨_, rfl, fun now_empty => absurd now_empty empty⟩
    obtain ⟨changed, set, still⟩ := changed
    refine ok.of_same rfl rfl rfl rfl rfl (saver_apart moves).2.1 apart (.inl rfl) ?_
    intro other held' there
    have there : shared.savers[other]? = some held' := there
    rw [set] at there
    exact savers_of_set ok.savers ((ok.savers saver held found).imp_left still) other held' there
  | panics saver held found before => cases timely
  | exit late ok' s' moves => exact ok.exits savers_ok timely moves

/-! ## Every run -/

/-- Nothing is left behind at the start. -/
theorem start_exit_ok : ExitOk DraftHost.start where
  passes := Nat.le_refl 1
  first := fun _ => rfl
  last := nofun
  started := fun began => absurd rfl began
  tracked := nofun
  absent := fun _ _ _ => rfl
  stopped := by
    rintro (none_left | past)
    · cases none_left
    · cases past
  savers := nofun
  kept := nofun

/-- Once the process is gone in time, every draft has ended. -/
theorem all_ended (kept : DraftsKept s) (host : HostOk s) (reached : Reached s) (ok : ExitOk s)
    (gone : s.exit = .gone) : s.recorded.Perm (s.shared.ended.map Prod.fst) := by
  have past : s.passes = 0 ∨ past_ui s.exit = true := .inl (ok.last gone)
  have idle := ok.hands_idle host past
  have stopped := ok.stopped past
  have no_hand {hand : Hand} (member : hand ∈ hands s) (busy : hand ≠ .idle) : False :=
    busy (idle hand member)
  have no_request : ∀ held ∈ s.shared.requests, held.draft = none := by
    intro held member
    cases has : held.draft with
    | none => rfl
    | some draft =>
      exfalso
      obtain ⟨request, found⟩ := List.mem_iff_getElem?.mp member
      rcases reached.reach request held draft found has with there | there |
        ⟨-, there | stage | ⟨stage, -⟩⟩ | there | there
      · exact no_hand there nofun
      · exact no_hand there nofun
      · exact no_hand there nofun
      · rw [stage] at stopped
        cases stopped
      · rw [stage] at stopped
        cases stopped
      · cases stopped.symm.trans (lives_of_serves (host.shown (List.ne_nil_of_mem there)))
      · cases stage : s.ui with
        | closes reviews =>
          rw [stage] at stopped
          cases stopped
        | _ =>
          rw [stage] at there
          cases there
  have no_saver : s.shared.savers.flatMap saver_drafts = [] := by
    rw [List.flatMap_eq_nil_iff]
    intro held member
    obtain ⟨saver, found⟩ := List.mem_iff_getElem?.mp member
    rcases ok.savers saver held found with empty | listed | ⟨shutting_down, keeps⟩ | there
    · exact empty
    · rw [ok.kept (ok.last gone) (by rw [gone]; rfl)] at listed
      cases listed
    · exact (no_hand keeps nofun).elim
    · rw [gone] at there
      cases there
  have closed : s.shared.is_open = false := by
    have one_review := kept.one_review
    have no_turn : tally turn (hands s) = 0 := by
      rw [tally_eq_zero_iff]
      intro hand member
      rw [idle hand member]
      rfl
    have no_live : tally live s.shared.requests = 0 := by
      rw [tally_eq_zero_iff]
      intro held member
      unfold live
      rw [no_request held member]
      rfl
    rw [no_turn, no_live] at one_review
    cases is_open : s.shared.is_open with
    | false => rfl
    | true =>
      rw [is_open] at one_review
      cases one_review
  have no_shared : s.shared.requests.flatMap shared_draft = [] := by
    rw [List.flatMap_eq_nil_iff]
    intro held member
    unfold shared_draft
    rw [no_request held member]
    rfl
  have in_hands : (hands s).flatMap hand_drafts = [] := by
    rw [List.flatMap_eq_nil_iff]
    intro hand member
    rw [idle hand member]
    rfl
  have places := kept.kept
  unfold drafts shared_drafts at places
  rw [kept.none_waits closed, no_shared, no_saver, in_hands, gone] at places
  simpa [exit_drafts] using places

/-- **Exiting loses no draft.**  In every run in which each wait of exit ends in time, or the late
saver has not begun to write, a recording starts only after the threads of earlier ones have ended
and before exit, and no encoding panics: once the process is gone, every draft that a recording
ended with has been saved, discarded by an answer, or reported as failed, each once.
SRC: recording.rs:1229-1459; selection.rs:818-890; desktop_ui.rs:207-238, 436-455 -/
theorem exit_loses_none {s : DraftHost} {steps : List (Taken DraftHost DraftEvent)}
    (run : Run DraftStep DraftHost.start steps s)
    (timely : ∀ t ∈ steps, in_time t.before t.event = true) (gone : s.exit = .gone) :
    s.recorded.Perm (s.shared.ended.map Prod.fst) := by
  have invariant : (DraftsKept s ∧ HostOk s ∧ Reached s) ∧ SaversOk s ∧ ExitOk s := by
    refine run.inv_of_meets
      (P := fun s => (DraftsKept s ∧ HostOk s ∧ Reached s) ∧ SaversOk s ∧ ExitOk s)
      (C := fun s event => in_time s event = true) ?_ ?_ timely
    · rintro s event s' ⟨⟨kept, host, reached⟩, savers, ok⟩ timely taken
      have moves := (draft_moves taken).2
      have calm : ∀ saver, event ≠ .saver_panics saver := by
        rintro saver rfl
        cases timely
      exact ⟨⟨kept.step moves, host.step moves, reached.step host moves⟩, savers.step calm moves,
        ok.step host savers timely moves⟩
    · exact ⟨⟨start_drafts_kept, start_host_ok, start_reached⟩, nofun, start_exit_ok⟩
  obtain ⟨⟨kept, host, reached⟩, -, ok⟩ := invariant
  exact all_ended kept host reached ok gone

/-- Exit while the edit of the first draft is being encoded and the second is in review: the edit is
late, and both are saved as recorded. -/
def exit_in_review : List DraftEvent :=
  two_drafts ++
    [.ui true, .ui true, .exit false true, .exit false true, .exit false true, .saver 0 true,
      .exit false true, .exit true true, .exit true true, .exit true true, .exit true true,
      .ui_receives, .ui_takes true, .ui_takes true, .ui_receives, .ui_closes, .ui true, .ui true,
      .ui true, .ui_closes, .exit false true, .exit false true, .exit false true, .exit false true,
      .exit false true, .exit false true, .exit false true]

/-- Neither draft is lost, the one whose edit was late too. -/
theorem exit_loses_none_in_review :
    ∃ steps s, Run DraftStep DraftHost.start steps s ∧ steps.map Taken.event = exit_in_review ∧
      s.recorded.Perm (s.shared.ended.map Prod.fst) := by
  have computed : (exit_in_review.foldlM
      (fun s event => if in_time s event then s.step event else none) DraftHost.start).map
        DraftHost.exit = some .gone := by decide
  obtain ⟨s, computed, gone⟩ := Option.map_eq_some_iff.mp computed
  obtain ⟨steps, same, run, timely⟩ := @Run.of_foldlM_checked _ _ DraftStep _ _ DraftHost.step
    in_time (fun _ _ _ taken => taken) _ computed
  exact ⟨steps, s, run, same, exit_loses_none run timely gone⟩

end Captastic.Analysis
