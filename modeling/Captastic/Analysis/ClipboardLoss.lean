import Captastic.Model.Clipboard

/-!
# A clipboard that was emptied

What a publish costs is known of the attempt that empties the clipboard; what is reported is the
last attempt's.  They agree unless the last attempt fails before it empties the clipboard and an
earlier one did not (`loss_admitted_iff`).
-/

set_option autoImplicit false

namespace Captastic.Analysis

open Captastic.Library Captastic.Model

/-! ## One attempt -/

variable {retention : ClipboardRetention} {windows : WindowsAnswers}
  {payload : ClipboardPayload} {contents : ClipboardContents}

/-- The attempt gets as far as emptying the clipboard, which Windows lets it. -/
structure Empties (payload : ClipboardPayload) (retention : ClipboardRetention)
    (windows : WindowsAnswers) : Prop where
  allocated : ∃ memory, payload.allocate retention windows = .ok memory
  session : ∃ retries, ClipboardSession.open_session windows = .ok retries
  emptied : windows.empty_clipboard = none

/-- The marker that declines a path. -/
def marker_of (format : ClipboardFormat) : ClipboardFormat × List Byte := (format, [0, 0, 0, 0])

def shows_pixels : ClipboardFormat → Bool
  | .CF_DIBV5 | .Png => true
  | .CanIncludeInClipboardHistory | .CanUploadToCloudClipboard => false

/-- Where the capture's pixels are on the clipboard, so is the marker of each path declined. -/
def Marked (retention : ClipboardRetention) : ClipboardContents → Prop
  | .previous => True
  | .replaced entries => (∃ entry ∈ entries, shows_pixels entry.1 = true) →
      (retention.history = false → marker_of .CanIncludeInClipboardHistory ∈ entries) ∧
        (retention.cloud_sync = false → marker_of .CanUploadToCloudClipboard ∈ entries)

/-- The markers of the paths declined. -/
def denials (retention : ClipboardRetention) : List (ClipboardFormat × List Byte) :=
  (retention.markers.filter fun marker => !marker.2.1).map fun marker => marker_of marker.1

/-- Memory that was taken holds the bytes given. -/
theorem from_bytes_eq {bytes memory : List Byte} {operation : String} {answer : MemoryAnswer}
    (taken : from_bytes bytes operation answer = .ok memory) : memory = bytes := by
  unfold from_bytes at taken
  split at taken
  · cases taken
  · split at taken
    · cases taken
    · cases taken
    · exact (Except.ok.inj taken).symm

/-- The exclusions that were taken are the denials of the policy. -/
theorem retention_exclusions_eq {exclusions : List (ClipboardFormat × List Byte)}
    (taken : retention.retention_exclusions windows = .ok exclusions) :
    exclusions = denials retention := by
  unfold ClipboardRetention.retention_exclusions at taken
  unfold denials
  generalize retention.markers.filter (fun marker => !marker.2.1) = declined at taken
  induction declined generalizing exclusions with
  | nil =>
    cases taken
    rfl
  | cons marker declined ih =>
    rw [List.mapM_cons] at taken
    obtain ⟨first, allocated, taken⟩ := bind_eq_ok.mp taken
    obtain ⟨memory, held, made⟩ := bind_eq_ok.mp allocated
    obtain ⟨others, rest, taken⟩ := bind_eq_ok.mp taken
    cases made
    cases taken
    rw [from_bytes_eq held, ih rest]
    rfl

/-- What is allocated to be put on the clipboard: the markers, then the pixels. -/
theorem allocate_eq {memory : List (ClipboardFormat × List Byte)} {png : Option (List Byte)}
    (taken : payload.allocate retention windows = .ok (memory, png)) :
    ∃ dib, memory = denials retention ++ [(.CF_DIBV5, dib)] := by
  unfold ClipboardPayload.allocate at taken
  obtain ⟨dib, -, taken⟩ := bind_eq_ok.mp taken
  obtain ⟨exclusions, excluded, taken⟩ := bind_eq_ok.mp taken
  rw [retention_exclusions_eq excluded] at taken
  split at taken
  · cases taken
    exact ⟨dib, rfl⟩
  · obtain ⟨png_memory, -, taken⟩ := bind_eq_ok.mp taken
    cases taken
    exact ⟨dib, rfl⟩

/-- What is on the clipboard after the formats were put there in turn. -/
theorem transfer_to_clipboard_spec (windows : WindowsAnswers)
    (memory entries : List (ClipboardFormat × List Byte)) :
    ∃ taken, taken <+: memory ∧
      (transfer_to_clipboard windows memory entries).2 = entries ++ taken ∧
      ((transfer_to_clipboard windows memory entries).1 = none → taken = memory) ∧
      ∀ error, (transfer_to_clipboard windows memory entries).1 = some error →
        error.retryable = true := by
  induction memory generalizing entries with
  | nil => exact ⟨[], List.prefix_refl _, (List.append_nil _).symm, fun _ => rfl, nofun⟩
  | cons first rest ih =>
    unfold transfer_to_clipboard
    split
    · refine ⟨[], List.nil_prefix, (List.append_nil _).symm, nofun, ?_⟩
      intro error refused
      cases refused
      rfl
    · obtain ⟨taken, before, left, whole, retryable⟩ := ih (entries ++ [first])
      refine ⟨first :: taken, ?_, ?_, ?_, retryable⟩
      · exact List.cons_prefix_cons.mpr ⟨rfl, before⟩
      · rw [left, List.append_assoc]
        rfl
      · intro all
        rw [whole all]

/-- A PNG goes behind what is there already. -/
theorem transfer_png_behind (windows : WindowsAnswers) (png_memory : Option (List Byte))
    (entries : List (ClipboardFormat × List Byte)) :
    ∃ extra, (ClipboardPayload.transfer_png windows png_memory entries).2 = entries ++ extra := by
  unfold ClipboardPayload.transfer_png
  split
  · exact ⟨[], (List.append_nil _).symm⟩
  · rename_i png
    split
    · obtain ⟨taken, -, left, -⟩ := transfer_to_clipboard_spec windows [(.Png, png)] entries
      exact ⟨taken, left⟩
    · exact ⟨[], (List.append_nil _).symm⟩

/-- No denial carries pixels. -/
theorem denials_shows_nothing {entry : ClipboardFormat × List Byte}
    (member : entry ∈ denials retention) : shows_pixels entry.1 = false := by
  unfold denials ClipboardRetention.markers at member
  obtain ⟨marker, declined, rfl⟩ := List.mem_map.mp member
  have listed := (List.mem_filter.mp declined).1
  simp only [List.mem_cons, List.not_mem_nil, or_false] at listed
  rcases listed with rfl | rfl
  · rfl
  · rfl

/-- With all of the markers, whatever else is there is marked. -/
theorem marked_of_denials {others : List (ClipboardFormat × List Byte)} :
    Marked retention (.replaced (denials retention ++ others)) := by
  intro _
  constructor
  · intro declined
    apply List.mem_append_left
    unfold denials ClipboardRetention.markers
    rw [declined]
    exact List.mem_cons_self
  · intro declined
    apply List.mem_append_left
    unfold denials ClipboardRetention.markers
    rw [declined]
    cases retention.history <;> simp

/-- Up to the pixels, there is nothing to mark. -/
theorem marked_of_partly {dib : List Byte} {taken : List (ClipboardFormat × List Byte)}
    (before : taken <+: denials retention ++ [(.CF_DIBV5, dib)]) :
    Marked retention (.replaced taken) := by
  rcases List.prefix_concat_iff.mp before with rfl | before
  · exact marked_of_denials
  · rintro ⟨entry, member, shown⟩
    have hidden := denials_shows_nothing (before.subset member)
    cases hidden.symm.trans shown

/-- What an attempt ends with, and leaves on the clipboard. -/
inductive PublishEnds (payload : ClipboardPayload) (retention : ClipboardRetention)
    (windows : WindowsAnswers) (contents : ClipboardContents) :
    Outcome ClipboardPublishError ClipboardPublishReport × ClipboardContents → Prop
  | stopped (kept : ¬ Empties payload retention windows) :
      PublishEnds payload retention windows contents (.error .stopped, contents)
  | failed (error : CaptureError) (kept : ¬ Empties payload retention windows) :
      PublishEnds payload retention windows contents (fail (intact error), contents)
  | lost (error : CaptureError) (entries : List (ClipboardFormat × List Byte))
      (empties : Empties payload retention windows)
      (marked : Marked retention (.replaced entries)) :
      PublishEnds payload retention windows contents
        (fail (cleared_contents error), .replaced entries)
  | published (report : ClipboardPublishReport)
      (entries : List (ClipboardFormat × List Byte))
      (empties : Empties payload retention windows)
      (marked : Marked retention (.replaced entries)) :
      PublishEnds payload retention windows contents (.ok report, .replaced entries)

/-- SRC: clipboard.rs:139-203 -/
theorem publish_ends (payload : ClipboardPayload) (retention : ClipboardRetention)
    (windows : WindowsAnswers) (contents : ClipboardContents) :
    PublishEnds payload retention windows contents
      (payload.publish retention windows contents) := by
  have faulted (fault : Fault CaptureError) (kept : ¬ Empties payload retention windows) :
      PublishEnds payload retention windows contents (.error (intact_fault fault), contents) := by
    cases fault with
    | stopped => exact .stopped kept
    | error error => exact .failed error kept
  unfold ClipboardPayload.publish
  split
  · rename_i fault refused
    apply faulted
    intro empties
    obtain ⟨memory, allocated⟩ := empties.allocated
    cases allocated.symm.trans refused
  · rename_i memory png_memory allocated
    split
    · rename_i fault refused
      apply faulted
      intro empties
      obtain ⟨retries, session⟩ := empties.session
      cases session.symm.trans refused
    · rename_i open_retries session
      split
      · rename_i error refused
        apply PublishEnds.failed
        intro empties
        cases empties.emptied.symm.trans refused
      · rename_i emptied
        have empties : Empties payload retention windows :=
          ⟨⟨_, allocated⟩, ⟨_, session⟩, emptied⟩
        obtain ⟨dib, rfl⟩ := allocate_eq allocated
        obtain ⟨taken, before, left, whole, -⟩ :=
          transfer_to_clipboard_spec windows
            (denials retention ++ [(.CF_DIBV5, dib)]) []
        split
        · rename_i error entries transferred
          rw [transferred, List.nil_append] at left
          cases left
          exact .lost error _ empties (marked_of_partly before)
        · rename_i entries transferred
          rw [transferred, List.nil_append, whole (by rw [transferred])] at left
          subst left
          obtain ⟨extra, behind⟩ := transfer_png_behind windows png_memory
            (denials retention ++ [(.CF_DIBV5, dib)])
          have marked : Marked retention (.replaced (ClipboardPayload.transfer_png windows
              png_memory (denials retention ++ [(.CF_DIBV5, dib)])).2) := by
            rw [behind, List.append_assoc]
            exact marked_of_denials
          exact .published _ _ empties marked

/-! ## Retrying -/

section Retrying

variable {E T : Type} {retryable : E → Bool} {publish : Nat → Outcome E T}
  {stop_requested : Nat → Bool}

/-- The attempt fails, and another may follow it. -/
def MayRetry (retryable : E → Bool) (publish : Nat → Outcome E T) (stop_requested : Nat → Bool)
    (attempt : Nat) : Prop :=
  ∃ error, publish attempt = fail error ∧ retryable error = true ∧ stop_requested attempt = false

/-- **Retrying** makes one attempt after the other while each goes on and the limit allows, and
ends as the last of them does.  SRC: clipboard.rs:311-328 -/
theorem publish_with_retry_spec (retryable : E → Bool) (publish : Nat → Outcome E T)
    (stop_requested : Nat → Bool) (left retries : Nat) :
    ∃ last, publish_with_retry retryable publish stop_requested left retries =
        (publish last, last) ∧ retries ≤ last ∧ last ≤ retries + left ∧
      (∀ attempt, retries ≤ attempt → attempt < last →
        MayRetry retryable publish stop_requested attempt) ∧
      (MayRetry retryable publish stop_requested last → last = retries + left) := by
  induction left generalizing retries with
  | zero => exact ⟨retries, rfl, Nat.le_refl _, Nat.le_refl _, fun _ _ _ => by omega, fun _ => rfl⟩
  | succ left ih =>
    unfold publish_with_retry
    split
    · rename_i error failed
      split
      · rename_i again
        obtain ⟨goes, stop⟩ := (Bool.and_eq_true _ _).mp again
        have on : MayRetry retryable publish stop_requested retries :=
          ⟨error, failed, goes, by simpa using stop⟩
        obtain ⟨last, ends, from_here, upto, went, limit⟩ := ih (retries + 1)
        refine ⟨last, ends, by omega, by omega, ?_, fun goes => by rw [limit goes]; omega⟩
        intro attempt after before
        by_cases here : attempt = retries
        · rw [here]
          exact on
        · exact went attempt (by omega) before
      · rename_i ended
        refine ⟨retries, by rw [failed]; rfl, Nat.le_refl _, by omega, fun _ _ _ => by omega, ?_⟩
        rintro ⟨other, same, goes, stop⟩
        obtain rfl := Fault.error.inj (Except.error.inj (failed.symm.trans same))
        rw [goes, stop] at ended
        exact absurd rfl ended
    · rename_i other
      refine ⟨retries, rfl, Nat.le_refl _, by omega, fun _ _ _ => by omega, ?_⟩
      rintro ⟨error, same, -⟩
      exact absurd same (other error)

end Retrying

/-! ## One capture -/

variable {job : ClipboardJob}

/-- What an attempt leaves is marked, if what it found is. -/
theorem PublishEnds.marked
    {left : Outcome ClipboardPublishError ClipboardPublishReport × ClipboardContents}
    (ends : PublishEnds payload retention windows contents left)
    (found : Marked retention contents) : Marked retention left.2 := by
  cases ends with
  | stopped => exact found
  | failed => exact found
  | lost _ _ _ marked => exact marked
  | published _ _ _ marked => exact marked

/-- No attempt leaves the pixels without their markers. -/
theorem attempt_marked (job : ClipboardJob) (payload : ClipboardPayload) (k : Nat) :
    Marked job.retention (job.attempt payload k).2 := by
  induction k with
  | zero => exact (publish_ends payload job.retention (job.windows 0) .previous).marked trivial
  | succ k ih => exact (publish_ends payload job.retention (job.windows (k + 1)) _).marked ih

/-- A failure says whether its own attempt emptied the clipboard. -/
theorem attempt_failed {k : Nat} {failure : ClipboardPublishError}
    (failed : (job.attempt payload k).1 = fail failure) :
    failure.cleared_previous_contents = true ↔ Empties payload job.retention (job.windows k) := by
  have ends : ∃ contents, PublishEnds payload job.retention (job.windows k) contents
      (job.attempt payload k) := by
    cases k with
    | zero => exact ⟨.previous, publish_ends _ _ _ _⟩
    | succ k => exact ⟨_, publish_ends _ _ _ _⟩
  obtain ⟨contents, ends⟩ := ends
  generalize job.attempt payload k = left at ends failed
  cases ends with
  | stopped => cases failed
  | failed error kept =>
    cases failed
    exact ⟨nofun, fun empties => absurd empties kept⟩
  | lost error entries empties =>
    cases failed
    exact ⟨fun _ => empties, fun _ => rfl⟩
  | published => cases failed

/-- The attempt fails, and another may follow it. -/
def goes_on (job : ClipboardJob) (payload : ClipboardPayload) (k : Nat) : Prop :=
  MayRetry (fun failure => failure.error.retryable) (fun k => (job.attempt payload k).1)
    job.stop_requested k

/-- The attempts of a capture that is prepared. -/
theorem publish_result_spec (prepared : job.prepared = .ok payload) :
    job.publish_result.1 = (job.attempt payload job.publish_result.2).1 ∧
      job.publish_result.2 ≤ PUBLISH_RETRY_LIMIT ∧
      (∀ k < job.publish_result.2, goes_on job payload k) ∧
      (goes_on job payload job.publish_result.2 →
        job.publish_result.2 = PUBLISH_RETRY_LIMIT) := by
  obtain ⟨last, ends, -, upto, went, limit⟩ := publish_with_retry_spec
    (fun failure : ClipboardPublishError => failure.error.retryable)
    (fun k => (job.attempt payload k).1) job.stop_requested PUBLISH_RETRY_LIMIT 0
  have result : job.publish_result = ((job.attempt payload last).1, last) := by
    unfold ClipboardJob.publish_result
    rw [prepared]
    exact ends
  rw [Nat.zero_add] at upto limit
  rw [result]
  exact ⟨rfl, upto, fun k before => went k (Nat.zero_le k) before, limit⟩

/-- What is promised of the attempts made for a capture. -/
structure LossAdmitted (job : ClipboardJob) : Prop where
  admitted : ∀ failure, job.publish_result.1 = fail failure →
    (failure.cleared_previous_contents = true ↔ ∃ payload, job.prepared = .ok payload ∧
      (∃ k ≤ job.publish_result.2, Empties payload job.retention (job.windows k)) ∧
      ∀ k ≤ job.publish_result.2, ∀ report, (job.attempt payload k).1 ≠ .ok report)
  limited : job.publish_result.2 ≤ PUBLISH_RETRY_LIMIT
  retried : ∀ k < job.publish_result.2, ∃ payload, job.prepared = .ok payload ∧
    goes_on job payload k
  marked : ∀ payload, job.prepared = .ok payload → ∀ k ≤ job.publish_result.2,
    Marked job.retention (job.attempt payload k).2

/-- The attempt that ends a sequence of attempts: each before it may be followed by another, and it
may not. -/
structure EndsAttempts (job : ClipboardJob) (payload : ClipboardPayload) (last : Nat) : Prop where
  before : ∀ k < last, goes_on job payload k
  upto : last ≤ PUBLISH_RETRY_LIMIT
  ends : goes_on job payload last → last = PUBLISH_RETRY_LIMIT

/-- The attempts end at one number. -/
theorem EndsAttempts.unique {first last : Nat} (one : EndsAttempts job payload first)
    (other : EndsAttempts job payload last) : first = last := by
  rcases Nat.lt_trichotomy first last with before | same | after
  · have limit := one.ends (other.before first before)
    have upto := other.upto
    omega
  · exact same
  · have limit := other.ends (one.before last after)
    have upto := one.upto
    omega

/-- The number of attempts reported is where they end. -/
theorem ends_attempts (prepared : job.prepared = .ok payload) :
    EndsAttempts job payload job.publish_result.2 := by
  obtain ⟨-, upto, went, limit⟩ := publish_result_spec prepared
  exact ⟨went, upto, limit⟩

/-- Where the last attempt fails before it empties the clipboard, no attempt before it emptied
it. -/
def last_failure_tells (job : ClipboardJob) : Prop :=
  ∀ payload last, job.prepared = .ok payload → EndsAttempts job payload last →
    (∃ failure, (job.attempt payload last).1 = fail failure) →
    ¬ Empties payload job.retention (job.windows last) →
    ∀ k < last, ¬ Empties payload job.retention (job.windows k)

/-- **A lost clipboard is admitted**, the retries keep to their limits and the markers are set, if
and only if a last attempt that fails with the clipboard intact follows none that emptied it. -/
theorem loss_admitted_iff (job : ClipboardJob) : LossAdmitted job ↔ last_failure_tells job := by
  have none_published {payload : ClipboardPayload} (prepared : job.prepared = .ok payload)
      {failure : ClipboardPublishError} (failed : job.publish_result.1 = fail failure) :
      ∀ k ≤ job.publish_result.2, ∀ report, (job.attempt payload k).1 ≠ .ok report := by
    obtain ⟨result, -, went, -⟩ := publish_result_spec prepared
    intro k upto report published
    rcases Nat.lt_or_eq_of_le upto with before | rfl
    · obtain ⟨error, fails, -⟩ := went k before
      cases fails.symm.trans published
    · cases (result.symm.trans failed).symm.trans published
  constructor
  · intro promised payload last prepared ends fails kept k before empties
    obtain rfl := (ends_attempts prepared).unique ends
    obtain ⟨failure, failed⟩ := fails
    have result := (publish_result_spec prepared).1.trans failed
    apply kept
    apply (attempt_failed failed).mp
    apply (promised.admitted failure result).mpr
    exact ⟨payload, prepared, ⟨k, Nat.le_of_lt before, empties⟩, none_published prepared result⟩
  · intro tells
    constructor
    · intro failure failed
      constructor
      · intro cleared
        cases prepared : job.prepared with
        | error fault =>
          unfold ClipboardJob.publish_result at failed
          rw [prepared] at failed
          cases fault with
          | stopped => cases failed
          | error error =>
            cases failed
            cases cleared
        | ok payload =>
          have last := (publish_result_spec prepared).1.symm.trans failed
          exact ⟨payload, rfl, ⟨_, Nat.le_refl _, (attempt_failed last).mp cleared⟩,
            none_published prepared failed⟩
      · rintro ⟨payload, prepared, ⟨k, upto, empties⟩, -⟩
        have last := (publish_result_spec prepared).1.symm.trans failed
        rw [attempt_failed last]
        by_contra kept
        rcases Nat.lt_or_eq_of_le upto with before | rfl
        · exact tells payload _ prepared (ends_attempts prepared) ⟨failure, last⟩ kept k before
            empties
        · exact kept empties
    · cases prepared : job.prepared with
      | error fault =>
        unfold ClipboardJob.publish_result
        rw [prepared]
        exact Nat.zero_le _
      | ok payload => exact (publish_result_spec prepared).2.1
    · intro k before
      cases prepared : job.prepared with
      | error fault =>
        unfold ClipboardJob.publish_result at before
        rw [prepared] at before
        exact absurd before (Nat.not_lt_zero k)
      | ok payload => exact ⟨payload, rfl, (publish_result_spec prepared).2.2.1 k before⟩
    · intro payload _ k _
      exact attempt_marked job payload k

/-! ## A loss that is not admitted -/

/-- One pixel of four bytes is laid out on one row. -/
theorem single_pixel_layout : validate_layout [(1 : Byte), 2, 3, 255].length 1 1 4 .Bgra8Unorm =
    .ok (4 * 1) := rfl

/-- One pixel of a display. -/
def single_pixel : CpuFrame where
  pixels := [1, 2, 3, 255]
  width := 1
  height := 1
  stride_bytes := 4
  format := .Bgra8Unorm
  origin := .TopLeft
  color_space := .Srgb
  alpha := .Opaque
  metadata :=
    { capture_id := 1
      backend := "gdi"
      display_id := "primary"
      source_rect := .origin_pixel
      rotation_degrees := 0
      capture_mode := .Latest none
      presentation_offset_ns := none
      timing_provenance := .ArrivalTime
      native_ready_offset_ns := 3
      cpu_ready_offset_ns := some 4
      frame_age_ns := none
      verified_current_offset_ns := none
      frame_generation := none
      copy_count := 2
      pool_slot := none
      cursor := none }
  layout := single_pixel_layout

/-- An attempt that Windows grants everything but, perhaps, the clipboard and the pixels. -/
def granting (open_clipboard : OpenAnswer) (pixels : Option WindowsError) : WindowsAnswers where
  memory := fun _ => .allocated (List.replicate 128 0)
  open_retries := 0
  open_clipboard
  empty_clipboard := none
  set_clipboard_data := fun format => if format = .CF_DIBV5 then pixels else none

/-- The pixels are refused once the clipboard is empty; then it cannot be opened again. -/
def lossy_job : ClipboardJob where
  retention := ⟨false, false⟩
  prepared := ClipboardPayload.prepare (fun _ => .error "no encoder") single_pixel
  windows := fun k =>
    if k = 0 then granting .opened (some ⟨"The handle is invalid.", 6⟩)
    else granting (.failed ⟨"Invalid window handle.", 1400⟩) none
  stop_requested := fun _ => false

set_option maxRecDepth 8000 in
/-- The clipboard was emptied, and the failure reported says that it was not. -/
theorem loss_denied :
    (∃ payload error, lossy_job.prepared = .ok payload ∧
      (lossy_job.attempt payload 0).1 = fail (cleared_contents error)) ∧
    lossy_job.publish_result =
      (fail (intact (clipboard_error "open_clipboard" ⟨"Invalid window handle.", 1400⟩ false)),
        1) ∧
    ¬ LossAdmitted lossy_job := by
  have first : ∃ payload error, lossy_job.prepared = .ok payload ∧
      (lossy_job.attempt payload 0).1 = fail (cleared_contents error) := ⟨_, _, rfl, rfl⟩
  have result : lossy_job.publish_result =
      (fail (intact (clipboard_error "open_clipboard" ⟨"Invalid window handle.", 1400⟩ false)),
        1) := rfl
  refine ⟨first, result, fun promised => ?_⟩
  obtain ⟨payload, error, prepared, failed⟩ := first
  have last := (publish_result_spec prepared).1
  rw [result] at last
  have told := (promised.admitted _ (congrArg Prod.fst result)).mpr
  refine absurd (told ⟨payload, prepared, ⟨0, Nat.zero_le _, (attempt_failed failed).mp rfl⟩, ?_⟩)
    nofun
  intro k upto report published
  rw [result] at upto
  obtain rfl | rfl := Nat.le_one_iff_eq_zero_or_eq_one.mp upto
  · cases failed.symm.trans published
  · cases last.trans published

end Captastic.Analysis
