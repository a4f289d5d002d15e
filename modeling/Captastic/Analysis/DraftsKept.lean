import Captastic.Analysis.DraftMoves
import Captastic.Library.Tally

/-!
# What becomes of the drafts

Every draft that a recording has ended with is, in every state of every interleaving, in exactly
one place: it has ended, it waits, a thread has it in hand, a request shares it, a saver's thread
has not taken or not written it, or exit is saving it (`DraftsKept.kept`).  The queue is open
exactly while one thread or one request is the review's, and a draft waits only then
(`DraftsKept.one_review`, `DraftsKept.none_waits`): reviews come one at a time, and a draft that
waits has one to wait for.
-/

set_option autoImplicit false

namespace Captastic.Analysis

open Captastic.Library Captastic.Model

/-! ## Where a draft is -/

/-- The draft a thread has in hand. -/
def hand_drafts : Hand → List Draft
  | .finished draft => [draft]
  | .queues draft => [draft]
  | .opens draft => [draft]
  | .concludes draft _ => [draft]
  | .saves draft _ => [draft]
  | .edit_fails draft _ => [draft]
  | _ => []

/-- The draft a request shares with its answer. -/
def shared_draft (request : ReviewRequest) : List Draft := request.draft.toList

/-- The draft a saver's thread has not taken, and the one it writes. -/
def saver_drafts (saver : Saver) : List Draft :=
  saver.unsaved.toList ++
    match saver.stage with
    | .writes draft _ => [draft]
    | _ => []

/-- The draft that exit saves. -/
def exit_drafts : ExitStage → List Draft
  | .saves draft _ => [draft]
  | _ => []

/-- The drafts in what the threads share. -/
def shared_drafts (s : DraftShared) : List Draft :=
  s.ended.map Prod.fst ++ s.waiting ++ s.requests.flatMap shared_draft ++
    s.savers.flatMap saver_drafts

/-- All drafts, wherever they are. -/
def drafts (s : DraftHost) : List Draft :=
  shared_drafts s.shared ++ (hands s).flatMap hand_drafts ++ exit_drafts s.exit

/-! ## The review's turn -/

/-- Whether a thread is the review's: it opens one, acts on its answer, or looks for the next. -/
def turn : Hand → Nat
  | .opens _ => 1
  | .concludes _ _ => 1
  | .keeps _ _ => 1
  | .saves _ shutting_down => shutting_down.isSome.toNat
  | .edit_fails _ _ => 1
  | .passes_on _ => 1
  | _ => 0

/-- Whether a request still has its draft. -/
def live (request : ReviewRequest) : Nat := request.draft.toList.length

/-- Each draft is in one place, and reviews come one at a time. -/
structure DraftsKept (s : DraftHost) : Prop where
  kept : s.recorded.Perm (drafts s)
  one_review : tally turn (hands s) + tally live s.shared.requests = s.shared.is_open.toNat
  none_waits : s.shared.is_open = false → s.shared.waiting = []

/-! ## One step of a thread -/

section Hands

variable {s shared : DraftShared} {hand hand' : Hand} (f : Draft → Nat)

/-- A single draft counts for itself. -/
@[simp] theorem tally_single_draft (draft : Draft) : tally f [draft] = f draft :=
  tally_singleton f draft

/-- What the shared drafts count for. -/
theorem tally_shared (s : DraftShared) : tally f (shared_drafts s) =
    tally (fun entry => f entry.1) s.ended + tally f s.waiting +
      tally (fun request => tally f (shared_draft request)) s.requests +
      tally (fun saver => tally f (saver_drafts saver)) s.savers := by
  unfold shared_drafts
  rw [tally_append, tally_append, tally_append, tally_map, tally_flatMap, tally_flatMap]

/-- A draft that ends is counted once more. -/
theorem tally_ends (s : DraftShared) (draft : Draft) (what : DraftEnd) :
    tally f (shared_drafts (s.ends draft what)) = tally f (shared_drafts s) + f draft := by
  rw [tally_shared, tally_shared]
  simp only [DraftShared.ends, tally_append, tally_singleton]
  omega

/-- Changing a request changes the count by what it held and what it holds. -/
theorem tally_with_request {request : Nat} {held : ReviewRequest}
    (found : s.requests[request]? = some held) (changed : ReviewRequest) :
    tally f (shared_drafts (s.with_request request changed)) + tally f (shared_draft held) =
      tally f (shared_drafts s) + tally f (shared_draft changed) := by
  rw [tally_shared, tally_shared]
  have requests := tally_set found (fun request => tally f (shared_draft request)) changed
  simp only [DraftShared.with_request]
  omega

/-- Changing a saver changes the count by what it held and what it holds. -/
theorem tally_with_saver {saver : Nat} {held : Saver} (found : s.savers[saver]? = some held)
    (changed : Saver) :
    tally f (shared_drafts (s.with_saver saver changed)) + tally f (saver_drafts held) =
      tally f (shared_drafts s) + tally f (saver_drafts changed) := by
  rw [tally_shared, tally_shared]
  have savers := tally_set found (fun saver => tally f (saver_drafts saver)) changed
  simp only [DraftShared.with_saver]
  omega

/-- A thread loses no draft and makes none. -/
theorem hand_keeps (moves : HandMoves s hand shared hand') :
    tally f (shared_drafts shared) + tally f (hand_drafts hand') =
      tally f (shared_drafts s) + tally f (hand_drafts hand) := by
  cases moves with
  | exiting draft exiting => rfl
  | reviewed draft => rfl
  | waits draft is_open =>
    rw [tally_shared, tally_shared]
    simp only [hand_drafts, tally_append, tally_nil, tally_singleton]
    omega
  | first draft closed => rfl
  | asks draft free started =>
    rw [tally_shared, tally_shared]
    simp only [hand_drafts, shared_draft, tally_append, tally_nil, tally_singleton,
      Option.toList_some]
    omega
  | alone draft free absent => rfl
  | sends request held found receiving =>
    have kept := tally_with_request f found { held with place := .sent }
    exact Nat.add_right_cancel kept
  | unsent request held found dropped =>
    have kept := tally_with_request f found { held with place := .dropped }
    exact Nat.add_right_cancel kept
  | posts request receiving => rfl
  | unposted request => rfl
  | withdraws request draft place found =>
    have kept := tally_with_request f found ⟨none, place⟩
    simp only [shared_draft, Option.toList_some, Option.toList_none, tally_nil,
      tally_singleton] at kept
    simp only [hand_drafts, tally_nil, tally_singleton]
    omega
  | answered request place found => rfl
  | spawns draft outcome edit shutting_down =>
    rw [tally_shared, tally_shared]
    simp only [hand_drafts, saver_drafts, tally_append, tally_nil, tally_singleton,
      Option.toList_some]
    omega
  | unspawned draft outcome shutting_down => rfl
  | unchanged draft outcome shutting_down => rfl
  | discards draft outcome shutting_down =>
    rw [tally_ends]
    rfl
  | keeps saver shutting_down => rfl
  | saves_last draft what =>
    rw [tally_ends]
    rfl
  | saves draft shutting_down what =>
    rw [tally_ends]
    rfl
  | edit_fails draft shutting_down what =>
    rw [tally_ends]
    rfl
  | concludes_next draft waiting queued =>
    rw [tally_shared, tally_shared, queued]
    simp only [hand_drafts, tally_cons, tally_nil]
    omega
  | opens_next draft waiting queued =>
    rw [tally_shared, tally_shared, queued]
    simp only [hand_drafts, tally_cons, tally_nil]
    omega
  | last shutting_down empty => rfl

/-- A thread passes the review's turn on, takes it, or gives it up. -/
theorem hand_turns (moves : HandMoves s hand shared hand')
    (opened : turn hand ≤ s.is_open.toNat) (none_waits : s.is_open = false → s.waiting = []) :
    tally live shared.requests + turn hand' + s.is_open.toNat =
        tally live s.requests + turn hand + shared.is_open.toNat ∧
      (shared.is_open = false → shared.waiting = []) := by
  cases moves with
  | exiting draft exiting => exact ⟨rfl, none_waits⟩
  | reviewed draft => exact ⟨rfl, none_waits⟩
  | waits draft is_open =>
    refine ⟨rfl, ?_⟩
    intro closed
    cases is_open.symm.trans closed
  | first draft closed =>
    refine ⟨?_, nofun⟩
    rw [closed]
    rfl
  | asks draft free started =>
    refine ⟨?_, none_waits⟩
    simp only [turn, tally_append, tally_singleton, live, Option.toList_some, List.length_singleton]
  | alone draft free absent => exact ⟨rfl, none_waits⟩
  | sends request held found receiving =>
    refine ⟨?_, none_waits⟩
    have set := tally_set found live { held with place := .sent }
    have same : tally live (s.requests.set request { held with place := .sent }) =
        tally live s.requests := Nat.add_right_cancel set
    simp only [DraftShared.with_request, turn, same]
  | unsent request held found dropped =>
    refine ⟨?_, none_waits⟩
    have set := tally_set found live { held with place := .dropped }
    have same : tally live (s.requests.set request { held with place := .dropped }) =
        tally live s.requests := Nat.add_right_cancel set
    simp only [DraftShared.with_request, turn, same]
  | posts request receiving => exact ⟨rfl, none_waits⟩
  | unposted request => exact ⟨rfl, none_waits⟩
  | withdraws request draft place found =>
    refine ⟨?_, none_waits⟩
    have set : tally live (s.requests.set request ⟨none, place⟩) + 1 = tally live s.requests + 0 :=
      tally_set found live ⟨none, place⟩
    show tally live (s.requests.set request ⟨none, place⟩) + 1 + s.is_open.toNat =
      tally live s.requests + 0 + s.is_open.toNat
    rw [set]
  | answered request place found => exact ⟨rfl, none_waits⟩
  | spawns draft outcome edit shutting_down => exact ⟨rfl, none_waits⟩
  | unspawned draft outcome shutting_down => exact ⟨rfl, none_waits⟩
  | unchanged draft outcome shutting_down => exact ⟨rfl, none_waits⟩
  | discards draft outcome shutting_down => exact ⟨rfl, none_waits⟩
  | keeps saver shutting_down => exact ⟨rfl, none_waits⟩
  | saves_last draft what => exact ⟨rfl, none_waits⟩
  | saves draft shutting_down what => exact ⟨rfl, none_waits⟩
  | edit_fails draft shutting_down what => exact ⟨rfl, none_waits⟩
  | concludes_next draft waiting queued =>
    refine ⟨?_, nofun⟩
    cases is_open : s.is_open with
    | true => rfl
    | false =>
      rw [is_open] at opened
      cases opened
  | opens_next draft waiting queued =>
    refine ⟨?_, nofun⟩
    cases is_open : s.is_open with
    | true => rfl
    | false =>
      rw [is_open] at opened
      cases opened
  | last shutting_down empty =>
    refine ⟨?_, fun _ => empty⟩
    cases is_open : s.is_open with
    | true => rfl
    | false =>
      rw [is_open] at opened
      cases opened

end Hands

/-! ## One step -/

variable {s s' : DraftHost} {event : DraftEvent}

/-- Only the thread that moved has another hand. -/
theorem hands_with_hand (s : DraftHost) (thread : Nat) (shared : DraftShared) (hand : Hand) :
    hands (with_hand s thread shared hand) = (hands s).set thread hand := by
  cases thread <;> rfl

/-- Beside the hand and the shared state nothing changes. -/
theorem with_hand_shared (s : DraftHost) (thread : Nat) (shared : DraftShared) (hand : Hand) :
    (with_hand s thread shared hand).shared = shared ∧
      (with_hand s thread shared hand).exit = s.exit ∧
      (with_hand s thread shared hand).recorded = s.recorded := by
  cases thread <;> exact ⟨rfl, rfl, rfl⟩

/-- What all drafts count for. -/
theorem tally_drafts (f : Draft → Nat) (s : DraftHost) : tally f (drafts s) =
    tally f (shared_drafts s.shared) + tally (fun hand => tally f (hand_drafts hand)) (hands s) +
      tally f (exit_drafts s.exit) := by
  unfold drafts
  rw [tally_append, tally_append, tally_flatMap]

/-- An answer that is called: the draft goes into the hand of the thread, unless it was taken. -/
theorem answers_keep (s : DraftShared) (request : Nat) (outcome : ReviewOutcome) (f : Draft → Nat) :
    tally f (shared_drafts (s.answers request outcome).1) +
        tally f (hand_drafts (s.answers request outcome).2) = tally f (shared_drafts s) ∧
      tally live (s.answers request outcome).1.requests + turn (s.answers request outcome).2 =
        tally live s.requests ∧
      (s.answers request outcome).1.is_open = s.is_open ∧
      (s.answers request outcome).1.waiting = s.waiting := by
  unfold DraftShared.answers
  split
  · rename_i draft place found
    have kept := tally_with_request f found ⟨none, .answered⟩
    have set : tally live (s.requests.set request ⟨none, .answered⟩) + 1 =
        tally live s.requests + 0 := tally_set found live ⟨none, .answered⟩
    refine ⟨?_, set, rfl, rfl⟩
    simpa [shared_draft, hand_drafts, tally_nil] using kept
  · rename_i place found
    have kept := tally_with_request f found ⟨none, .answered⟩
    have set : tally live (s.requests.set request ⟨none, .answered⟩) + 0 =
        tally live s.requests + 0 := tally_set found live ⟨none, .answered⟩
    refine ⟨?_, set, rfl, rfl⟩
    simpa [shared_draft, hand_drafts, tally_nil] using kept
  · exact ⟨rfl, rfl, rfl, rfl⟩

/-- A step in which one thread goes on. -/
theorem DraftsKept.of_hand (kept : DraftsKept s) (thread : Nat) {hand : Hand} (hand' : Hand)
    (recorded : List Draft) (found : (hands s)[thread]? = some hand)
    (same_hands : hands s' = (hands s).set thread hand') (same_exit : s'.exit = s.exit)
    (ended : s'.recorded = s.recorded ++ recorded)
    (keeps : ∀ f : Draft → Nat, tally f (shared_drafts s'.shared) + tally f (hand_drafts hand') =
      tally f (shared_drafts s.shared) + tally f (hand_drafts hand) + tally f recorded)
    (turns : tally live s'.shared.requests + turn hand' + s.shared.is_open.toNat =
      tally live s.shared.requests + turn hand + s'.shared.is_open.toNat)
    (none_waits : s'.shared.is_open = false → s'.shared.waiting = []) : DraftsKept s' where
  kept := by
    rw [perm_iff_tally]
    intro f
    have before := perm_iff_tally.mp kept.kept f
    have held := tally_set found (fun hand => tally f (hand_drafts hand)) hand'
    have after := keeps f
    rw [tally_drafts] at before ⊢
    rw [same_hands, same_exit, ended, tally_append]
    omega
  one_review := by
    have before := kept.one_review
    have held := tally_set found turn hand'
    rw [same_hands]
    omega
  none_waits := none_waits

/-- A step in which no thread goes on that has to do with the review's turn. -/
theorem DraftsKept.of_shared (kept : DraftsKept s)
    (same_hands : tally turn (hands s') = tally turn (hands s) ∧
      ∀ f : Draft → Nat, tally (fun hand => tally f (hand_drafts hand)) (hands s') =
        tally (fun hand => tally f (hand_drafts hand)) (hands s))
    (same_recorded : s'.recorded = s.recorded)
    (keeps : ∀ f : Draft → Nat,
      tally f (shared_drafts s'.shared) + tally f (exit_drafts s'.exit) =
        tally f (shared_drafts s.shared) + tally f (exit_drafts s.exit))
    (same_live : tally live s'.shared.requests = tally live s.shared.requests)
    (same_open : s'.shared.is_open = s.shared.is_open)
    (same_waiting : s'.shared.waiting = s.shared.waiting) : DraftsKept s' where
  kept := by
    rw [perm_iff_tally]
    intro f
    have before := perm_iff_tally.mp kept.kept f
    have after := keeps f
    rw [tally_drafts] at before ⊢
    rw [same_hands.2, same_recorded]
    omega
  one_review := by
    rw [same_hands.1, same_live, same_open]
    exact kept.one_review
  none_waits := by
    rw [same_open, same_waiting]
    exact kept.none_waits

/-- A saver's thread keeps its draft until it has ended it. -/
theorem saver_keeps {s shared : DraftShared} {saver : Nat} {held : Saver}
    (found : s.savers[saver]? = some held) (moves : SaverMoves s saver held shared)
    (f : Draft → Nat) : tally f (shared_drafts shared) = tally f (shared_drafts s) := by
  cases moves with
  | reads draft untaken before =>
    have kept := tally_with_saver f found { held with stage := .encodes }
    simp only [saver_drafts, before] at kept
    exact Nat.add_right_cancel kept
  | encodes encoded before =>
    have kept := tally_with_saver f found { held with stage := .takes encoded }
    simp only [saver_drafts, before] at kept
    exact Nat.add_right_cancel kept
  | leaves untaken before =>
    have kept := tally_with_saver f found { held with stage := .ended }
    rcases before with before | ⟨encoded, before⟩
    · simp only [saver_drafts, before] at kept
      exact Nat.add_right_cancel kept
    · simp only [saver_drafts, before] at kept
      exact Nat.add_right_cancel kept
  | takes draft encoded untaken before =>
    have kept :=
      tally_with_saver f found { held with unsaved := none, stage := .writes draft encoded }
    simp only [saver_drafts, before, untaken, Option.toList_some, Option.toList_none,
      List.append_nil, List.nil_append] at kept
    exact Nat.add_right_cancel kept
  | fails draft before =>
    have kept := tally_with_saver f found { held with stage := .writes draft false }
    simp only [saver_drafts, before] at kept
    exact Nat.add_right_cancel kept
  | ends draft edited what before =>
    have kept := tally_with_saver f found { held with stage := .ended }
    simp only [saver_drafts, before, tally_append, tally_singleton, tally_nil] at kept
    rw [tally_ends]
    omega

/-- Exit loses no draft and makes none. -/
theorem exit_keeps {late : Bool} (moves : ExitMoves s late s') (f : Draft → Nat) :
    tally f (shared_drafts s'.shared) + tally f (exit_drafts s'.exit) =
      tally f (shared_drafts s.shared) + tally f (exit_drafts s.exit) := by
  cases moves with
  | told stage => rw [stage]; rfl
  | joins recorder stage stored => rw [stage]; rfl
  | joins_none stage missing => rw [stage]; rfl
  | joined recorder stage ended => rw [stage]; rfl
  | overrun recorder stage passed runs => rw [stage]; rfl
  | takes_savers stage => rw [stage]; rfl
  | savers_joined stage => rw [stage]; rfl
  | saver_joined saver savers stage ended => rw [stage]; rfl
  | saver_overrun saver savers held draft stage passed runs found untaken =>
    have kept := tally_with_saver f found { held with unsaved := none }
    simp only [saver_drafts, untaken, tally_append, Option.toList_some, Option.toList_none,
      tally_singleton, tally_nil] at kept
    rw [stage]
    simp only [exit_drafts, tally_singleton, tally_nil]
    omega
  | saver_left saver savers stage passed runs taken => rw [stage]; rfl
  | saves draft savers what stage =>
    rw [stage, tally_ends]
    simp only [exit_drafts, tally_singleton, tally_nil, Nat.add_zero]
  | takes_ui stage free started => rw [stage]; rfl
  | takes_no_ui stage absent => rw [stage]; rfl
  | ui_joined stage ended => rw [stage]; rfl
  | ui_overrun stage passed runs => rw [stage]; rfl
  | again passes stage more => rw [stage]; rfl
  | goes stage last => rw [stage]; rfl

/-- Where exit takes nothing from the queue or the requests. -/
theorem exit_apart {late : Bool} (moves : ExitMoves s late s') :
    hands s' = hands s ∧ s'.recorded = s.recorded ∧ s'.shared.requests = s.shared.requests ∧
      s'.shared.is_open = s.shared.is_open ∧ s'.shared.waiting = s.shared.waiting := by
  cases moves <;> exact ⟨rfl, rfl, rfl, rfl, rfl⟩

/-- A request whose place alone changes keeps its draft. -/
theorem tally_requests_set {requests : List ReviewRequest} {request : Nat} {held : ReviewRequest}
    (found : requests[request]? = some held) (place : RequestPlace) (f : ReviewRequest → Nat)
    (same : f { held with place } = f held) :
    tally f (requests.set request { held with place }) = tally f requests := by
  have set := tally_set found f { held with place }
  rw [same] at set
  exact Nat.add_right_cancel set

/-- What the host window drops is not the drafts of its requests. -/
theorem tally_destroyed (s : DraftHost) (f : ReviewRequest → Nat)
    (same : ∀ draft place, f ⟨draft, .sent⟩ = f ⟨draft, place⟩) :
    tally f s.host_destroyed.shared.requests = tally f s.shared.requests := by
  show tally f (s.shared.requests.map _) = _
  rw [tally_map]
  apply tally_congr
  intro request member
  obtain ⟨draft, place⟩ := request
  split
  · rename_i sent
    obtain rfl : place = .sent := sent
    exact (same draft .dropped).symm
  · rfl

/-- **One step** keeps each draft in one place and the review's turn with one.
SRC: recording.rs:1089-1101, 1161-1459 -/
theorem DraftsKept.step (kept : DraftsKept s) (moves : DraftMoves s event s') : DraftsKept s' := by
  have unmoved {s' : DraftHost} (same_hands : hands s' = hands s) :
      tally turn (hands s') = tally turn (hands s) ∧
        ∀ f : Draft → Nat, tally (fun hand => tally f (hand_drafts hand)) (hands s') =
          tally (fun hand => tally f (hand_drafts hand)) (hands s) := by
    rw [same_hands]
    exact ⟨rfl, fun _ => rfl⟩
  cases moves with
  | hand event thread hand hand' shared found moves threads =>
    obtain ⟨same_shared, same_exit, same_recorded⟩ := with_hand_shared s thread shared hand'
    have own : turn hand ≤ tally turn (hands s) := le_tally (List.mem_of_getElem? found)
    have one_review := kept.one_review
    obtain ⟨turns, none_waits⟩ := hand_turns moves (by omega) kept.none_waits
    apply kept.of_hand thread hand' [] found (hands_with_hand s thread shared hand') same_exit
      (by rw [same_recorded, List.append_nil])
    · intro f
      rw [same_shared]
      exact hand_keeps f moves
    · rw [same_shared]
      exact turns
    · rw [same_shared]
      exact none_waits
  | refused active => exact kept
  | starts quiet stored =>
    refine kept.of_shared ⟨?_, ?_⟩ rfl (fun _ => rfl) rfl rfl rfl
    · show tally turn (hands s ++ [.records]) = _
      rw [tally_append]
      rfl
    · intro f
      show tally _ (hands s ++ [.records]) = _
      rw [tally_append]
      rfl
  | stores recorder started => exact kept.of_shared (unmoved rfl) rfl (fun _ => rfl) rfl rfl rfl
  | ends recorder draft found =>
    refine kept.of_hand (recorder + 1) (draft.elim .idle .finished) draft.toList found rfl rfl rfl
      ?_ ?_ kept.none_waits
    · intro f
      cases draft <;> rfl
    · cases draft <;> rfl
  | starts_ui absent => exact kept.of_shared (unmoved rfl) rfl (fun _ => rfl) rfl rfl rfl
  | asks_ui started => exact kept.of_shared (unmoved rfl) rfl (fun _ => rfl) rfl rfl rfl
  | drains messages stage idle posted =>
    exact kept.of_shared (unmoved rfl) rfl (fun _ => rfl) rfl rfl rfl
  | stops messages stage idle posted =>
    exact kept.of_shared (unmoved rfl) rfl (fun _ => rfl) rfl rfl rfl
  | shows request channel held stage idle queued found =>
    refine kept.of_shared (unmoved rfl) rfl ?_ ?_ rfl rfl
    · intro f
      have same := tally_with_request (s := { s.shared with channel }) f found
        { held with place := .shown }
      exact congrArg (· + _) (Nat.add_right_cancel same)
    · exact tally_requests_set found .shown live rfl
  | drained opened stage idle empty =>
    exact kept.of_shared (unmoved rfl) rfl (fun _ => rfl) rfl rfl rfl
  | calls event request outcome channel ui shown idle calls threads =>
    obtain ⟨-, turns, same_open, same_waiting⟩ :=
      answers_keep { s.shared with channel } request outcome fun _ => 0
    refine kept.of_hand 0 _ [] (congrArg some idle) rfl rfl (List.append_nil _).symm ?_ ?_ ?_
    · intro f
      exact (answers_keep { s.shared with channel } request outcome f).1
    · refine (congrArg (· + s.shared.is_open.toNat) turns).trans ?_
      exact congrArg (tally live s.shared.requests + Bool.toNat ·) same_open.symm
    · show (DraftShared.answers _ request outcome).1.is_open = false → _
      rw [same_open]
      intro closed
      exact same_waiting.trans (kept.none_waits closed)
  | destroyed stage idle =>
    refine kept.of_shared (unmoved rfl) rfl ?_ ?_ rfl rfl
    · intro f
      rw [tally_shared, tally_shared]
      rw [tally_destroyed s (fun request => tally f (shared_draft request)) fun _ _ => rfl]
      rfl
    · exact tally_destroyed s live fun _ _ => rfl
  | saver saver ok held shared found moves =>
    have unchanged : shared.requests = s.shared.requests ∧ shared.is_open = s.shared.is_open ∧
        shared.waiting = s.shared.waiting := by
      cases moves <;> exact ⟨rfl, rfl, rfl⟩
    refine kept.of_shared (unmoved rfl) rfl ?_ (congrArg _ unchanged.1) unchanged.2.1 unchanged.2.2
    intro f
    exact congrArg (· + _) (saver_keeps found moves f)
  | panics saver held found before =>
    refine kept.of_shared (unmoved rfl) rfl ?_ rfl rfl rfl
    intro f
    have same := tally_with_saver f found { held with stage := .ended }
    simp only [saver_drafts, before] at same
    exact congrArg (· + _) (Nat.add_right_cancel same)
  | exit late ok s' moves =>
    obtain ⟨same_hands, same_recorded, same_requests, same_open, same_waiting⟩ := exit_apart moves
    exact kept.of_shared (unmoved same_hands) same_recorded (exit_keeps moves)
      (congrArg _ same_requests) same_open same_waiting

/-! ## Every run -/

/-- At the start there is no draft to keep. -/
theorem start_drafts_kept : DraftsKept DraftHost.start where
  kept := .nil
  one_review := rfl
  none_waits := fun _ => rfl

/-- **Each draft is in one place.**  In every state of every interleaving of recordings, their
threads, the desktop UI thread, the savers' threads and exit, the drafts are those that have ended,
those waiting, in hand, shared by a request, not yet written by a saver or being saved by exit, each
as often as it was recorded; a draft ends at most once; at most one review is going on; and a draft
waits only behind one.
SRC: recording.rs:1089-1101, 1161-1459; desktop_ui.rs:162-205, 426-543 -/
theorem drafts_kept {s : DraftHost} {steps : List (Taken DraftHost DraftEvent)}
    (run : Run DraftStep DraftHost.start steps s) :
    DraftsKept s ∧ (s.recorded.Nodup → (s.shared.ended.map Prod.fst).Nodup) ∧
      tally turn (hands s) + tally live s.shared.requests ≤ 1 ∧
      (s.shared.waiting ≠ [] → tally turn (hands s) + tally live s.shared.requests = 1) := by
  have kept : DraftsKept s := by
    apply run.inv _ start_drafts_kept
    intro s event s' kept taken
    exact kept.step (draft_moves taken).2
  refine ⟨kept, ?_, ?_, ?_⟩
  · intro distinct
    have all : (drafts s).Nodup := kept.kept.nodup_iff.mp distinct
    unfold drafts shared_drafts at all
    simp only [List.append_assoc] at all
    exact (List.nodup_append.mp all).1
  · rw [kept.one_review]
    exact Bool.toNat_le _
  · intro waiting
    rw [kept.one_review]
    cases is_open : s.shared.is_open with
    | true => rfl
    | false => exact absurd (kept.none_waits is_open) waiting

/-- A recording of a second. -/
def short_report : RecordingReport where
  format := .Mp4
  width := 2
  height := 2
  duration := from_millis 1000
  frames_captured := 1
  frames_written := 1
  frames_dropped := 0
  ended := .Stopped

/-- Two recordings: the second waits for the review of the first, which is saved as an edit, and
its own review is then opened. -/
def two_drafts : List DraftEvent :=
  [.starts_recording, .stores_join, .starts_ui, .ends_recording 0 (some ⟨1, short_report⟩),
    .recorder 0 true, .recorder 0 true, .recorder 0 true, .recorder 0 true, .recorder 0 true,
    .starts_recording, .stores_join, .ends_recording 1 (some ⟨2, short_report⟩),
    .recorder 1 true, .recorder 1 true, .ui_receives, .ui_takes true, .ui_takes true,
    .ui_answers 0 (some ⟨0, from_millis 500, none⟩), .ui true, .ui true, .ui true, .ui true]

/-- Both drafts are kept, the one that waited too. -/
theorem drafts_kept_two_drafts :
    ∃ steps s, Run DraftStep DraftHost.start steps s ∧ steps.map Taken.event = two_drafts ∧
      DraftsKept s ∧ (s.recorded.Nodup → (s.shared.ended.map Prod.fst).Nodup) ∧
      tally turn (hands s) + tally live s.shared.requests ≤ 1 ∧
      (s.shared.waiting ≠ [] → tally turn (hands s) + tally live s.shared.requests = 1) := by
  have computed : (two_drafts.foldlM DraftHost.step DraftHost.start).isSome = true := by decide
  obtain ⟨s, computed⟩ := Option.isSome_iff_exists.mp computed
  obtain ⟨steps, same, run⟩ := @Run.of_foldlM _ _ DraftStep _ _ DraftHost.step
    (fun _ _ _ taken => taken) _ computed
  exact ⟨steps, s, run, same, drafts_kept run⟩

end Captastic.Analysis
