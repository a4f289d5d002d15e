import Captastic.Model.Duplication

/-!
# What an acquisition leaves behind

An image that the desktop delivers is kept, unless it was presented before the trigger of the
fresh capture that acquired it, or a call made with it fails (`Delivery.kept`).  The books of a
backend (`Accounted`) say which image it retains: the last one kept, with its presentation time
and its number.  Every acquisition keeps the books, whether it succeeds or fails.
-/

set_option autoImplicit false

namespace Captastic.Analysis

open Captastic.Library Captastic.Model

/-! ## The books -/

/-- Whether an image is taken on: a fresh capture rejects one that was presented before its
trigger, and a latest capture reads the pointer's shape once more. -/
def taken_on (trigger : Option Anchor) (frequency time : Int) (shape_read : Bool) : Bool :=
  match trigger with
  | some anchor => decide (0 ≤ presentation_offset_ns anchor frequency time)
  | none => shape_read

/-- Whether a delivered image reaches the retained texture. -/
def Delivery.kept (d : Delivery) : Bool :=
  (match d.round.acquire with
    | .answered => true
    | _ => false) &&
  (d.shape.isNone || d.round.read_shape.isNone) &&
  taken_on d.trigger d.backend.qpc_frequency d.presentation.time
    (d.shape.isNone || d.round.read_shape_again.isNone) &&
  d.round.cast.isNone &&
  decide (d.presentation.image.width ≠ 0 ∧ d.presentation.image.height ≠ 0) &&
  (!d.backend.retained.differs d.presentation.image || d.round.create_retained.isNone) &&
  !d.lock_poisoned

/-- The deliveries that were kept, the last one first. -/
def all_kept (deliveries : List Delivery) : List Delivery := deliveries.filter Delivery.kept

/-- The presentation time and the number of the last delivery that was kept. -/
def last_kept (deliveries : List Delivery) : Option (Int × Nat) :=
  (all_kept deliveries).head?.map fun d =>
    (d.presentation.time, min (all_kept deliveries).length 18446744073709551615)

/-- A delivery that is lost adds no image to those kept. -/
theorem all_kept_cons_of_lost {d : Delivery} {rest : List Delivery}
    (lost : Delivery.kept d = false) : all_kept (d :: rest) = all_kept rest := by
  unfold all_kept
  simp [lost]

/-- One that is kept does. -/
theorem all_kept_cons {d : Delivery} {rest : List Delivery} (kept : Delivery.kept d = true) :
    all_kept (d :: rest) = d :: all_kept rest := by
  unfold all_kept
  simp [kept]

/-- What the notes of the deliveries say about the desktop and the retained image. -/
structure Accounted (w : World) : Prop where
  has_newest : w.desktop.pending = true → w.desktop.newest.isSome = true
  newest : w.desktop.pending = false →
    w.desktop.newest = w.deliveries.head?.map Delivery.presentation
  latest : w.backend.latest.map (fun l => (l.presentation_qpc, l.generation)) =
    last_kept w.deliveries
  image : ∀ d, (all_kept w.deliveries).head? = some d →
    w.desktop.lock_poisoned = false ∨ w.deliveries.head? = some d →
    w.backend.retained = d.presentation.image
  first : ∀ d rest, w.deliveries = d :: rest → d.backend.latest = none → all_kept rest = []

/-- The image that a call has acquired, and not retained yet. -/
structure Acquiring (round : Round) (trigger : Option Anchor) (acquired : AcquiredFrame)
    (d : Delivery) (rest : List Delivery) (w : World) : Prop where
  noted : w.deliveries = d :: rest
  answered : d.round.acquire = .answered
  round_eq : d.round = round
  trigger_eq : d.trigger = trigger
  resource : acquired.resource = d.presentation.image
  time : acquired.last_present_time = d.presentation.time
  shape : acquired.shape = d.shape
  pending : w.desktop.pending = false
  newest : w.desktop.newest = some d.presentation
  lock : d.lock_poisoned = w.desktop.lock_poisoned
  same_latest : d.backend.latest = w.backend.latest
  same_retained : d.backend.retained = w.backend.retained
  same_frequency : d.backend.qpc_frequency = w.backend.qpc_frequency
  latest : w.backend.latest.map (fun l => (l.presentation_qpc, l.generation)) = last_kept rest
  image : w.desktop.lock_poisoned = false → ∀ d', (all_kept rest).head? = some d' →
    w.backend.retained = d'.presentation.image

/-- While no image has been retained none was kept. -/
theorem all_kept_nil_of_latest {w : World} {rest : List Delivery}
    (latest : w.backend.latest.map (fun l => (l.presentation_qpc, l.generation)) = last_kept rest)
    (none_yet : w.backend.latest = none) : all_kept rest = [] := by
  rw [none_yet] at latest
  unfold last_kept at latest
  cases kept : all_kept rest with
  | nil => rfl
  | cons d tail =>
    rw [kept] at latest
    cases latest

/-- **An image that is lost** leaves the books as they were.  A poisoned lock is the one case
where the retained texture may have been replaced. -/
theorem accounted_of_lost {w : World} {d : Delivery} {rest : List Delivery}
    (noted : w.deliveries = d :: rest) (lost : Delivery.kept d = false)
    (pending : w.desktop.pending = false) (newest : w.desktop.newest = some d.presentation)
    (same_latest : d.backend.latest = w.backend.latest)
    (latest : w.backend.latest.map (fun l => (l.presentation_qpc, l.generation)) = last_kept rest)
    (image : w.desktop.lock_poisoned = false → ∀ d', (all_kept rest).head? = some d' →
      w.backend.retained = d'.presentation.image) : Accounted w where
  has_newest := by
    intro held
    rw [pending] at held
    cases held
  newest := by
    intro _
    rw [newest, noted]
    rfl
  latest := by
    rw [latest, noted]
    unfold last_kept
    rw [all_kept_cons_of_lost lost]
  image := by
    intro d' head which
    rw [noted, all_kept_cons_of_lost lost] at head
    rcases which with unlocked | first
    · exact image unlocked d' head
    · rw [noted] at first
      obtain rfl := Option.some.inj first
      have kept : Delivery.kept d = true := by
        have member := List.mem_of_mem_head? (Option.mem_def.mpr head)
        exact (List.mem_filter.mp member).2
      rw [lost] at kept
      cases kept
  first := by
    intro d' rest' same none_yet
    rw [noted] at same
    obtain ⟨rfl, rfl⟩ := List.cons.inj same
    rw [same_latest] at none_yet
    exact all_kept_nil_of_latest latest none_yet

/-- An image that is given up leaves the retained one accounted for. -/
theorem Acquiring.lost {round : Round} {trigger : Option Anchor} {acquired : AcquiredFrame}
    {d : Delivery} {rest : List Delivery} {w : World}
    (acquiring : Acquiring round trigger acquired d rest w) (lost : Delivery.kept d = false) :
    Accounted w :=
  accounted_of_lost acquiring.noted lost acquiring.pending acquiring.newest acquiring.same_latest
    acquiring.latest acquiring.image

/-! ## Events -/

/-- What happens on the desktop changes nothing that is retained. -/
theorem accounted_after {w : World} (accounted : Accounted w) (event : DesktopEvent) :
    Accounted { w with desktop := w.desktop.after event } := by
  obtain ⟨has_newest, newest, latest, image, first⟩ := accounted
  cases event with
  | presented presentation => exact ⟨fun _ => rfl, nofun, latest, image, first⟩
  | pointer_moved position => exact ⟨has_newest, newest, latest, image, first⟩
  | pointer_shaped shape => exact ⟨has_newest, newest, latest, image, first⟩
  | lock_poisoned =>
    refine ⟨has_newest, newest, latest, ?_, first⟩
    intro d head which
    rcases which with unlocked | head_first
    · cases unlocked
    · exact image d head (Or.inr head_first)

/-- Nor does all that happens in a round. -/
theorem accounted_after_all {w : World} (accounted : Accounted w) (events : List DesktopEvent) :
    Accounted { w with desktop := events.foldl Desktop.after w.desktop } := by
  induction events generalizing w with
  | nil => exact accounted
  | cons event events ih => exact ih (accounted_after accounted event)

/-- The next round begins with the retained image accounted for. -/
theorem next_round_spec : Triple Accounted next_round fun _ => Accounted := by
  intro w result w' accounted ran
  unfold next_round at ran
  split at ran
  · cases ran
  · rename_i round rounds _
    obtain ⟨rfl, rfl⟩ := Prod.mk.inj (Option.some.inj ran)
    have books := accounted_after_all accounted round.events
    exact ⟨books.has_newest, books.newest, books.latest, books.image, books.first⟩

/-! ## Acquiring -/

/-- What the desktop delivers is its newest image exactly when one is pending. -/
theorem deliver_eq_some {desktop after : Desktop} {acquired : AcquiredFrame}
    (has_newest : desktop.pending = true → desktop.newest.isSome = true)
    (delivered : desktop.deliver = some (acquired, after)) :
    after = { desktop with pending := false, position := none, shape := none } ∧
      ((∃ presentation, desktop.pending = true ∧ desktop.newest = some presentation ∧
          acquired.resource = presentation.image ∧
          acquired.last_present_time = presentation.time) ∨
        (desktop.pending = false ∧ acquired.last_present_time = 0)) := by
  unfold Desktop.deliver at delivered
  simp only at delivered
  split at delivered
  · rename_i presentation pending newest
    obtain ⟨rfl, rfl⟩ := Prod.mk.inj (Option.some.inj delivered)
    refine ⟨rfl, Or.inl ⟨presentation, pending, newest, ?_, rfl⟩⟩
    rw [newest]
    rfl
  · rename_i not_image
    have idle : desktop.pending = false := by
      cases pending : desktop.pending with
      | false => rfl
      | true =>
        obtain ⟨presentation, newest⟩ := Option.isSome_iff_exists.mp (has_newest pending)
        exact absurd newest (not_image presentation pending)
    split at delivered
    · obtain ⟨rfl, rfl⟩ := Prod.mk.inj (Option.some.inj delivered)
      exact ⟨rfl, Or.inr ⟨idle, rfl⟩⟩
    · cases delivered

/-- Where the desktop delivers nothing no image is pending. -/
theorem deliver_eq_none {desktop : Desktop}
    (has_newest : desktop.pending = true → desktop.newest.isSome = true)
    (nothing : desktop.deliver = none) : desktop.pending = false := by
  cases pending : desktop.pending with
  | false => rfl
  | true =>
    obtain ⟨presentation, newest⟩ := Option.isSome_iff_exists.mp (has_newest pending)
    unfold Desktop.deliver at nothing
    simp [pending, newest] at nothing

/-- **An acquisition** brings an image or a report of the pointer.  Its errors leave the books
in order; a timeout shows that nothing is pending.
SRC: dxgi.rs:2838-2867 -/
theorem acquire_spec (round : Round) (trigger : Option Anchor) :
    Triple Accounted (acquire round trigger) (Post
      (fun acquired w => (acquired.last_present_time = 0 ∧ w.desktop.pending = false ∧
          Accounted w) ∨
        ∃ d rest, Acquiring round trigger acquired d rest w)
      (fun fault w => Accounted w ∧
        ∀ error, fault = .error error → error.kind = .Timeout → w.desktop.pending = false)) := by
  intro w result w' accounted ran
  unfold acquire at ran
  split at ran
  · rename_i error not_timeout _
    obtain ⟨rfl, rfl⟩ := Prod.mk.inj (Option.some.inj ran)
    refine ⟨accounted, ?_⟩
    intro error' same timeout
    cases same
    exact absurd timeout not_timeout
  · rename_i not_failed
    split at ran
    · rename_i nothing
      obtain ⟨rfl, rfl⟩ := Prod.mk.inj (Option.some.inj ran)
      exact ⟨accounted, fun _ _ _ => deliver_eq_none accounted.has_newest nothing⟩
    · rename_i acquired after delivered
      obtain ⟨after_eq, what⟩ := deliver_eq_some accounted.has_newest delivered
      subst after_eq
      rcases what with ⟨presentation, pending, newest, resource, time⟩ | ⟨idle, no_time⟩
      · simp only [pending, newest] at ran
        split at ran
        · rename_i without
          obtain ⟨rfl, rfl⟩ := Prod.mk.inj (Option.some.inj ran)
          refine ⟨accounted_of_lost rfl ?_ rfl rfl rfl accounted.latest ?_, fun _ _ _ => rfl⟩
          · unfold Delivery.kept
            rw [without]
            rfl
          · intro unlocked d' head
            exact accounted.image d' head (Or.inl unlocked)
        · rename_i not_without
          obtain ⟨rfl, rfl⟩ := Prod.mk.inj (Option.some.inj ran)
          refine Or.inr ⟨_, w.deliveries, rfl, ?_, rfl, rfl, resource, time, rfl, rfl, rfl, rfl,
            rfl, rfl, rfl, accounted.latest, ?_⟩
          · cases answer : round.acquire with
            | answered => rfl
            | without_resource => exact absurd answer not_without
            | failed error not_timeout => exact absurd answer (not_failed error not_timeout)
          · intro unlocked d' head
            exact accounted.image d' head (Or.inl unlocked)
      · simp only [idle] at ran
        have books : Accounted
            { w with desktop := { w.desktop with pending := false, position := none, shape := none } } :=
          ⟨nofun, fun _ => accounted.newest idle, accounted.latest, accounted.image,
            accounted.first⟩
        split at ran
        · obtain ⟨rfl, rfl⟩ := Prod.mk.inj (Option.some.inj ran)
          exact ⟨books, fun _ _ _ => rfl⟩
        · obtain ⟨rfl, rfl⟩ := Prod.mk.inj (Option.some.inj ran)
          exact Or.inl ⟨no_time, rfl, books⟩

/-! ## The pointer -/

/-- A statement that does not mention the pointer. -/
def PointerFree (P : World → Prop) : Prop :=
  ∀ (w : World) (pointer : PointerCache), P w →
    P { w with backend := { w.backend with pointer := pointer } }

/-- The pointer has nothing to do with what is accounted for. -/
theorem pointer_free_accounted : PointerFree Accounted :=
  fun _ _ books => ⟨books.has_newest, books.newest, books.latest, books.image, books.first⟩

/-- Nor with the image in hand. -/
theorem pointer_free_acquiring (round : Round) (trigger : Option Anchor) (acquired : AcquiredFrame)
    (d : Delivery) (rest : List Delivery) : PointerFree (Acquiring round trigger acquired d rest) :=
  fun _ _ h => ⟨h.noted, h.answered, h.round_eq, h.trigger_eq, h.resource, h.time, h.shape,
    h.pending, h.newest, h.lock, h.same_latest, h.same_retained, h.same_frequency, h.latest,
    h.image⟩

/-- Storing the report of an acquisition once more changes nothing. -/
structure Absorbed (acquired : AcquiredFrame) (cache : PointerCache) : Prop where
  position : ∀ position, acquired.position = some position → cache.position = some position
  shape : ∀ report, acquired.shape = some report → cache.store_report report = cache

/-- Storing a report again changes nothing. -/
theorem store_report_twice (cache : PointerCache) (report : PointerShapeReport) :
    (cache.store_report report).store_report report = cache.store_report report := by
  unfold PointerCache.store_report
  cases pointer_shape_kind report.shape_type with
  | none => rfl
  | some kind => rfl

/-- A shape's report leaves the position. -/
theorem position_store_report (cache : PointerCache) (report : PointerShapeReport) :
    (cache.store_report report).position = cache.position := by
  unfold PointerCache.store_report
  cases pointer_shape_kind report.shape_type with
  | none => rfl
  | some kind => rfl

variable {P : World → Prop}

/-- A check fails exactly where there is an error. -/
theorem check_spec (error : Option CaptureError) :
    Triple P (check error) (Post (fun _ w => P w ∧ error = none)
      (fun _ w => P w ∧ error.isSome = true)) := by
  unfold check
  refine Triple.lift ?_
  intro w holds
  cases error with
  | none => exact ⟨holds, rfl⟩
  | some error => exact ⟨holds, rfl⟩

/-- Taking the context's lock fails exactly where it is poisoned. -/
theorem lock_context_spec :
    Triple P lock_context (Post (fun _ w => P w ∧ w.desktop.lock_poisoned = false)
      (fun _ w => P w ∧ w.desktop.lock_poisoned = true)) := by
  intro w result w' holds ran
  cases poisoned : w.desktop.lock_poisoned with
  | false =>
    have ran' : some (.ok (), w) = some (result, w') := by
      rw [← ran]
      simp [lock_context, bind, Session.and_then, Session.read, check, Session.lift, poisoned]
    obtain ⟨rfl, rfl⟩ := Prod.mk.inj (Option.some.inj ran')
    exact ⟨holds, poisoned⟩
  | true =>
    have ran' : some (fail poisoned_error, w) = some (result, w') := by
      rw [← ran]
      simp [lock_context, bind, Session.and_then, Session.read, check, Session.lift, poisoned]
    obtain ⟨rfl, rfl⟩ := Prod.mk.inj (Option.some.inj ran')
    exact ⟨holds, poisoned⟩

/-- SRC: dxgi.rs:1149-1200 -/
theorem refresh_pointer_shape_spec (acquired : AcquiredFrame) (error : Option CaptureError)
    (keeps : ∀ (w : World) report, acquired.shape = some report → P w →
      P { w with backend := { w.backend with
        pointer := w.backend.pointer.store_report report } }) :
    Triple P (refresh_pointer_shape acquired error) (Post
      (fun _ w => (P w ∧ ∀ report, acquired.shape = some report →
          w.backend.pointer.store_report report = w.backend.pointer) ∧
        (acquired.shape.isNone || error.isNone) = true)
      (fun _ w => P w ∧ (acquired.shape.isNone || error.isNone) = false)) := by
  unfold refresh_pointer_shape
  cases shape : acquired.shape with
  | none => exact Triple.pure fun w holds => ⟨⟨holds, nofun⟩, rfl⟩
  | some report =>
    refine Triple.bind (check_spec error) ?_ ?_
    · intro _
      unfold update_backend
      refine Triple.update ?_
      rintro w ⟨holds, rfl⟩
      refine ⟨⟨keeps w report shape holds, ?_⟩, rfl⟩
      intro report' same
      obtain rfl := Option.some.inj same
      exact store_report_twice w.backend.pointer report
    · rintro fault w ⟨holds, failed⟩
      refine ⟨holds, ?_⟩
      cases error with
      | none => cases failed
      | some error => rfl

/-- Storing the position that was reported changes only the pointer. -/
theorem store_reported_position_spec (acquired : AcquiredFrame)
    (keeps : ∀ (w : World) position, acquired.position = some position → P w →
      P { w with backend := { w.backend with
        pointer := w.backend.pointer.store_position position } }) :
    Triple P (store_reported_position acquired) (Post (fun _ w => P w ∧
      ∀ position, acquired.position = some position → w.backend.pointer.position = some position)
      (fun _ _ => False)) := by
  unfold store_reported_position
  cases reported : acquired.position with
  | none => exact Triple.pure fun w holds => ⟨holds, nofun⟩
  | some position =>
    unfold update_backend
    refine Triple.update ?_
    intro w holds
    refine ⟨keeps w position reported holds, ?_⟩
    intro position' same
    exact same

/-- SRC: dxgi.rs:1061-1070 -/
theorem record_pointer_report_spec (free : PointerFree P) (acquired : AcquiredFrame)
    (error : Option CaptureError) :
    Triple P (record_pointer_report acquired error) (Post
      (fun _ w => (P w ∧ Absorbed acquired w.backend.pointer) ∧ (acquired.shape.isNone || error.isNone) = true)
      (fun _ w => P w ∧ (acquired.shape.isNone || error.isNone) = false)) := by
  unfold record_pointer_report
  refine Triple.bind (store_reported_position_spec acquired fun w position _ => free w _) ?_ ?_
  · intro _
    refine (refresh_pointer_shape_spec acquired error ?_).post ?_
    · rintro w report - ⟨holds, stored⟩
      refine ⟨free w _ holds, ?_⟩
      intro position same
      rw [← stored position same]
      exact position_store_report w.backend.pointer report
    · intro result w post
      cases result with
      | ok value =>
        obtain ⟨⟨⟨holds, stored⟩, shaped⟩, answered⟩ := post
        exact ⟨⟨holds, stored, shaped⟩, answered⟩
      | error fault =>
        obtain ⟨⟨holds, -⟩, failed⟩ := post
        exact ⟨holds, failed⟩
  · intro fault w impossible
    exact impossible.elim

/-! ## Retaining -/

/-- The books are in order, and nothing is pending. -/
def Idle (w : World) : Prop := Accounted w ∧ w.desktop.pending = false

/-- The newest image is retained, with its presentation time and the pointer's place. -/
structure Retains (image : Texture) (time : Int) (pointer_at : Option (Int × Int)) (w : World) :
    Prop where
  books : Accounted w
  pending : w.desktop.pending = false
  unlocked : w.desktop.lock_poisoned = false
  image_eq : w.backend.retained = image
  latest_eq : ∃ generation, w.backend.latest = some ⟨time, generation, pointer_at⟩

/-- What retaining an image leaves alone. -/
def Untouched (backend : DxgiBackend) (w : World) : Prop :=
  w.backend.pointer = backend.pointer ∧ w.backend.qpc_frequency = backend.qpc_frequency

/-- An acquired image, and a retained texture of its size and format. -/
structure Fitted (d : Delivery) (rest : List Delivery) (w : World) : Prop where
  noted : w.deliveries = d :: rest
  pending : w.desktop.pending = false
  newest : w.desktop.newest = some d.presentation
  lock : d.lock_poisoned = w.desktop.lock_poisoned
  same_latest : d.backend.latest = w.backend.latest
  latest : w.backend.latest.map (fun l => (l.presentation_qpc, l.generation)) = last_kept rest

/-- SRC: dxgi.rs:1009-1030 -/
theorem fit_retained_spec {round : Round} {trigger : Option Anchor} {acquired : AcquiredFrame}
    {d : Delivery} {rest : List Delivery} (backend : DxgiBackend)
    (create_retained : Option CaptureError) :
    Triple (fun w => Acquiring round trigger acquired d rest w ∧ Untouched backend w)
      (fit_retained acquired.resource create_retained)
      (Post (fun _ w => (Fitted d rest w ∧ Untouched backend w) ∧
          (!d.backend.retained.differs d.presentation.image || create_retained.isNone) = true)
        (fun _ w => Acquiring round trigger acquired d rest w ∧
          (!d.backend.retained.differs d.presentation.image || create_retained.isNone) = false))
    := by
  rintro w result w' ⟨acquiring, untouched⟩ ran
  have fitted : Fitted d rest w := ⟨acquiring.noted, acquiring.pending, acquiring.newest, acquiring.lock,
    acquiring.same_latest, acquiring.latest⟩
  rw [acquiring.same_retained, ← acquiring.resource]
  unfold fit_retained at ran
  cases differs : w.backend.retained.differs acquired.resource with
  | false =>
    have ran' : some (.ok (), w) = some (result, w') := by
      rw [← ran]
      simp [bind, Session.and_then, Session.read, differs, pure, Session.ret]
    obtain ⟨rfl, rfl⟩ := Prod.mk.inj (Option.some.inj ran')
    exact ⟨⟨fitted, untouched⟩, rfl⟩
  | true =>
    cases create_retained with
    | some error =>
      have ran' : some (fail error, w) = some (result, w') := by
        rw [← ran]
        simp [bind, Session.and_then, Session.read, differs, check, Session.lift]
        rfl
      obtain ⟨rfl, rfl⟩ := Prod.mk.inj (Option.some.inj ran')
      exact ⟨acquiring, rfl⟩
    | none =>
      have ran' : some (.ok (), { w with backend := w.backend.resized acquired.resource }) =
          some (result, w') := by
        rw [← ran]
        simp [bind, Session.and_then, Session.read, differs, check, Session.lift, update_backend,
          Session.update]
      obtain ⟨rfl, rfl⟩ := Prod.mk.inj (Option.some.inj ran')
      exact ⟨⟨⟨fitted.noted, fitted.pending, fitted.newest, fitted.lock, fitted.same_latest,
        fitted.latest⟩, untouched⟩, rfl⟩

/-- The books after an image was copied to the retained texture. -/
theorem accounted_with_retained {w : World} {d : Delivery} {rest : List Delivery}
    (pointer_at : Option (Int × Int)) (noted : w.deliveries = d :: rest)
    (kept : Delivery.kept d = true) (pending : w.desktop.pending = false)
    (newest : w.desktop.newest = some d.presentation)
    (same_latest : d.backend.latest = w.backend.latest)
    (latest : w.backend.latest.map (fun l => (l.presentation_qpc, l.generation)) = last_kept rest) :
    Accounted { w with backend :=
      w.backend.with_retained d.presentation.image d.presentation.time pointer_at } where
  has_newest := by
    intro held
    rw [pending] at held
    cases held
  newest := by
    intro _
    rw [newest, noted]
    rfl
  latest := by
    rw [noted]
    unfold last_kept at latest ⊢
    rw [all_kept_cons kept]
    unfold DxgiBackend.with_retained
    cases before : w.backend.latest with
    | none =>
      rw [all_kept_nil_of_latest latest before]
      rfl
    | some frame =>
      rw [before] at latest
      cases tail : all_kept rest with
      | nil =>
        rw [tail] at latest
        cases latest
      | cons d' tail' =>
        rw [tail] at latest
        simp only [Option.map_some, List.head?_cons, Option.some.injEq, Prod.mk.injEq,
          List.length_cons, true_and] at latest ⊢
        rw [latest.2]
        omega
  image := by
    intro d' head _
    rw [noted, all_kept_cons kept] at head
    obtain rfl := Option.some.inj head
    rfl
  first := by
    intro d' rest' same none_yet
    rw [noted] at same
    obtain ⟨rfl, rfl⟩ := List.cons.inj same
    rw [same_latest] at none_yet
    exact all_kept_nil_of_latest latest none_yet

/-- **An acquired image is retained**, unless the texture cannot be created or locked: then it
is lost.
SRC: dxgi.rs:999-1044 -/
theorem retain_frame_spec {round : Round} (trigger : Option Anchor) {acquired : AcquiredFrame}
    {d : Delivery} (rest : List Delivery) (backend : DxgiBackend)
    (pointer_at : Option (Int × Int))
    (others : Delivery.kept d =
      ((!d.backend.retained.differs d.presentation.image || round.create_retained.isNone) &&
        !d.lock_poisoned)) :
    Triple (fun w => Acquiring round trigger acquired d rest w ∧ Untouched backend w)
      (retain_frame acquired.resource acquired.last_present_time pointer_at round.create_retained)
      (Post (fun generation w => (Retains acquired.resource acquired.last_present_time pointer_at w ∧
          Untouched backend w) ∧
          generation = w.backend.latest.map RetainedFrame.generation)
        (fun _ w => Idle w)) := by
  rintro w result w' ⟨acquiring, untouched⟩ ran
  have time_ne : acquired.last_present_time ≠ 0 := by
    rw [acquiring.time]
    exact d.presentation.time_ne_zero
  have resource := acquiring.resource
  have time := acquiring.time
  unfold retain_frame at ran
  rw [if_neg time_ne] at ran
  refine Triple.bind (fit_retained_spec backend round.create_retained) ?_ ?_ w result w'
    ⟨acquiring, untouched⟩ ran
  · intro _
    refine Triple.of_fact ?_
    intro created
    rw [created, Bool.true_and] at others
    refine Triple.bind lock_context_spec ?_ ?_
    · intro _
      unfold update_backend
      refine Triple.bind_update (S := fun w => Retains acquired.resource
        acquired.last_present_time pointer_at w ∧ Untouched backend w) ?_
        (Triple.bind_read fun read => Triple.pure ?_)
      · rintro w ⟨⟨fitted, untouched⟩, unlocked⟩
        rw [fitted.lock, unlocked] at others
        refine ⟨⟨?_, fitted.pending, unlocked, rfl, _, rfl⟩, untouched⟩
        rw [resource, time]
        exact accounted_with_retained pointer_at fitted.noted others fitted.pending fitted.newest
          fitted.same_latest fitted.latest
      · rintro w ⟨retains, rfl⟩
        exact ⟨retains, rfl⟩
    · rintro fault w ⟨⟨fitted, -⟩, poisoned⟩
      rw [fitted.lock, poisoned] at others
      refine ⟨accounted_of_lost fitted.noted others fitted.pending fitted.newest
        fitted.same_latest fitted.latest ?_, fitted.pending⟩
      intro unlocked
      rw [poisoned] at unlocked
      cases unlocked
  · rintro fault w ⟨acquiring, failed⟩
    rw [failed, Bool.false_and] at others
    exact ⟨acquiring.lost others, acquiring.pending⟩

/-! ## Probing -/

/-- Whether an acquired image is kept, said with what its acquisition reported. -/
theorem Acquiring.kept_eq {round : Round} {trigger : Option Anchor} {acquired : AcquiredFrame}
    {d : Delivery} {rest : List Delivery} {w : World}
    (acquiring : Acquiring round trigger acquired d rest w) :
    Delivery.kept d =
      ((acquired.shape.isNone || round.read_shape.isNone) &&
        taken_on trigger w.backend.qpc_frequency acquired.last_present_time
          (acquired.shape.isNone || round.read_shape_again.isNone) &&
        round.cast.isNone && decide (acquired.resource.width ≠ 0 ∧ acquired.resource.height ≠ 0) &&
        ((!d.backend.retained.differs d.presentation.image || round.create_retained.isNone) &&
          !d.lock_poisoned)) := by
  unfold Delivery.kept
  rw [acquiring.answered, acquiring.round_eq, acquiring.trigger_eq, ← acquiring.resource, ← acquiring.time,
    ← acquiring.shape, acquiring.same_frequency]
  simp only [Bool.true_and, Bool.and_assoc]

/-- A retained image leaves the duplication with no frame in hand. -/
theorem Retains.idle {image : Texture} {time : Int} {pointer_at : Option (Int × Int)} {w : World}
    (retains : Retains image time pointer_at w) : Idle w :=
  ⟨retains.books, retains.pending⟩

/-- The calls that a latest capture makes with an image it acquired. -/
theorem keep_acquired_spec {round : Round} {acquired : AcquiredFrame} {d : Delivery}
    {rest : List Delivery}
    (kept_eq : Delivery.kept d =
      ((acquired.shape.isNone || round.read_shape_again.isNone) && round.cast.isNone &&
        decide (acquired.resource.width ≠ 0 ∧ acquired.resource.height ≠ 0) &&
        ((!d.backend.retained.differs d.presentation.image || round.create_retained.isNone) &&
          !d.lock_poisoned))) :
    Triple (Acquiring round none acquired d rest) (do
        check round.cast
        if acquired.resource.width = 0 ∨ acquired.resource.height = 0 then
          Session.lift (fail (invalid_frame "refresh_latest"
            "DXGI returned an empty desktop texture"))
        else
          refresh_pointer_shape acquired round.read_shape_again
          let world ← Session.read
          let _ ← retain_frame acquired.resource acquired.last_present_time
            world.backend.pointer.visible_at round.create_retained
          check round.release
          pure true : Call Bool)
      (fun _ w => Idle w) := by
  refine Triple.bind (check_spec round.cast) ?_ ?_
  · intro _
    refine Triple.of_fact ?_
    intro cast_ok
    by_cases empty : acquired.resource.width = 0 ∨ acquired.resource.height = 0
    · rw [if_pos empty]
      refine Triple.lift ?_
      intro w acquiring
      have no_sides : decide (acquired.resource.width ≠ 0 ∧ acquired.resource.height ≠ 0) =
          false := by
        rw [decide_eq_false_iff_not]
        omega
      have lost : Delivery.kept d = false := by
        rw [kept_eq, no_sides, Bool.and_false, Bool.false_and]
      exact ⟨acquiring.lost lost, acquiring.pending⟩
    · rw [if_neg empty]
      have sides : decide (acquired.resource.width ≠ 0 ∧ acquired.resource.height ≠ 0) = true := by
        rw [decide_eq_true_iff]
        omega
      rw [sides, cast_ok, Bool.and_true, Option.isNone_none, Bool.and_true] at kept_eq
      refine Triple.bind (refresh_pointer_shape_spec acquired round.read_shape_again
        fun w report _ => pointer_free_acquiring round none acquired d rest w _) ?_ ?_
      · intro _
        refine Triple.of_fact ?_
        intro shape_read
        rw [shape_read, Bool.true_and] at kept_eq
        refine Triple.bind_read ?_
        intro read
        refine Triple.bind ((retain_frame_spec none rest read.backend _ kept_eq).pre ?_) ?_ ?_
        · rintro w ⟨⟨acquiring, -⟩, rfl⟩
          exact ⟨acquiring, rfl, rfl⟩
        · intro generation
          refine Triple.bind (check_spec round.release) ?_ ?_
          · intro _
            exact Triple.pure fun w holds => holds.1.1.1.idle
          · rintro fault w ⟨⟨⟨retains, -⟩, -⟩, -⟩
            exact retains.idle
        · intro fault w idle
          exact idle
      · rintro fault w ⟨acquiring, failed⟩
        have lost : Delivery.kept d = false := by
          rw [kept_eq, failed, Bool.false_and]
        exact ⟨acquiring.lost lost, acquiring.pending⟩
  · rintro fault w ⟨acquiring, failed⟩
    have cast_failed : round.cast.isNone = false := by
      rw [← Option.not_isSome, failed]
      rfl
    have lost : Delivery.kept d = false := by
      rw [kept_eq, cast_failed, Bool.and_false, Bool.false_and, Bool.false_and]
    exact ⟨acquiring.lost lost, acquiring.pending⟩

/-- **One acquisition of a latest capture.**  It leaves nothing pending, unless it fails
otherwise than by a timeout.
SRC: dxgi.rs:954-997 -/
theorem refresh_latest_spec (round : Round) :
    Triple Accounted (refresh_latest round) (Post (fun _ w => Idle w)
      (fun fault w => Accounted w ∧
        ∀ error, fault = .error error → error.kind = .Timeout → w.desktop.pending = false)) := by
  unfold refresh_latest
  refine Triple.bind (acquire_spec round none) ?_ (fun fault w post => post)
  intro acquired
  refine Triple.post (Q := fun _ w => Idle w) ?_ ?_
  · refine Triple.of_or ?_ (Triple.of_exists fun d => Triple.of_exists fun rest => ?_)
    · refine Triple.bind (record_pointer_report_spec ?_ acquired round.read_shape) ?_ ?_
      · rintro w pointer ⟨no_time, idle, books⟩
        exact ⟨no_time, idle, pointer_free_accounted w pointer books⟩
      · rintro _ w result w' ⟨⟨⟨no_time, idle, books⟩, -⟩, -⟩ ran
        rw [if_pos no_time] at ran
        refine Triple.bind (P := Idle) (R := fun _ w => Idle w) (check_spec round.release) ?_ ?_
          w result w' ⟨books, idle⟩ ran
        · intro _
          exact Triple.pure fun w holds => holds.1
        · rintro fault w ⟨holds, -⟩
          exact holds
      · rintro fault w ⟨⟨no_time, idle, books⟩, -⟩
        exact ⟨books, idle⟩
    · refine Triple.bind (record_pointer_report_spec
        (pointer_free_acquiring round none acquired d rest) acquired round.read_shape) ?_ ?_
      · rintro _ w result w' ⟨⟨acquiring, -⟩, shape_read⟩ ran
        have time_ne : acquired.last_present_time ≠ 0 := by
          rw [acquiring.time]
          exact d.presentation.time_ne_zero
        have kept_eq := acquiring.kept_eq
        rw [shape_read, Bool.true_and] at kept_eq
        rw [if_neg time_ne] at ran
        exact keep_acquired_spec kept_eq w result w' acquiring ran
      · rintro fault w ⟨acquiring, failed⟩
        have lost : Delivery.kept d = false := by
          rw [acquiring.kept_eq, failed]
          rfl
        exact ⟨acquiring.lost lost, acquiring.pending⟩
  · intro result w idle
    cases result with
    | ok got => exact idle
    | error fault => exact ⟨idle.1, fun _ _ _ => idle.2⟩

/-- SRC: dxgi.rs:929-951 -/
theorem first_image_round_spec : Triple Accounted first_image_round (Post
    (fun got w => Accounted w ∧ got ≠ some true) (fun _ w => Accounted w)) := by
  unfold first_image_round
  refine Triple.bind next_round_spec ?_ ?_
  · intro round
    by_cases late : round.remaining_ns = 0
    · rw [if_pos late]
      exact Triple.lift fun w books => books
    · rw [if_neg late]
      refine Triple.bind (refresh_latest_spec round) ?_ (fun fault w post => post.1)
      intro retained
      refine Triple.pure ?_
      rintro w ⟨books, -⟩
      refine ⟨books, ?_⟩
      cases retained with
      | false => exact nofun
      | true => exact fun same => (nomatch same)
  · exact fun fault w books => books

/-- **The probe.**  When it says that the retained image is the newest, nothing is pending and
an image is retained.
SRC: dxgi.rs:912-952 -/
theorem refresh_latest_on_demand_spec : Triple Accounted refresh_latest_on_demand (Post
    (fun current w => Accounted w ∧
      (current = true → w.desktop.pending = false ∧ w.backend.latest.isSome = true))
    (fun _ w => Accounted w)) := by
  have wait : ∀ n, Triple Accounted (Session.loop first_image_round n) (Post
      (fun current w => Accounted w ∧
        (current = true → w.desktop.pending = false ∧ w.backend.latest.isSome = true))
      (fun _ w => Accounted w)) := by
    intro n
    refine Triple.loop n (first_image_round_spec.post ?_)
    intro result w post
    cases result with
    | error fault => exact post
    | ok got =>
      cases got with
      | none => exact post.1
      | some current =>
        refine ⟨post.1, ?_⟩
        rintro rfl
        exact absurd rfl post.2
  unfold refresh_latest_on_demand
  refine Triple.bind next_round_spec ?_ (fun fault w books => books)
  intro round
  refine Triple.bind (Triple.attempt (refresh_latest_spec round) (R := Post
    (fun probe w => Accounted w ∧ ∀ error, probe = .error (.error error) →
      error.kind = .Timeout → w.desktop.pending = false) fun _ _ => False) ?_) ?_ ?_
  · intro result w post
    cases result with
    | ok got => exact ⟨post.1, nofun⟩
    | error fault =>
      refine ⟨post.1, ?_⟩
      intro error same
      cases same
      exact post.2 error rfl
  · intro probe
    refine Triple.bind_read ?_
    intro read
    split
    · refine Triple.pure ?_
      rintro w ⟨⟨books, -⟩, -⟩
      exact ⟨books, fun same => (nomatch same)⟩
    · exact Triple.lift fun w holds => holds.1.1
    · rename_i error
      by_cases other : error.kind ≠ .Timeout
      · rw [if_pos other]
        exact Triple.lift fun w holds => holds.1.1
      · rw [if_neg other]
        split
        · rename_i retained
          refine Triple.pure ?_
          rintro w ⟨⟨books, timeout⟩, rfl⟩
          exact ⟨books, fun _ => ⟨timeout error rfl (Decidable.not_not.mp other), retained⟩⟩
        · exact (wait _).pre fun w holds => holds.1.1
    · split
      · refine Triple.pure ?_
        rintro w ⟨⟨books, -⟩, -⟩
        exact ⟨books, fun same => (nomatch same)⟩
      · exact (wait _).pre fun w holds => holds.1.1
  · intro fault w impossible
    exact impossible.elim

end Captastic.Analysis
