import Basement.Library.Transition
import Basement.Webhooks.Subscription
import Mathlib.Data.List.TakeWhile

namespace Basement
namespace Webhooks

open Library Library.Transition

/-!
# When a webhook is switched off

The store counts the failures since the last success.  The count passes through edits and
through a disabled and enabled webhook, while a delivery that is recorded on a disabled webhook
is compared with a copy that was enabled.
-/

/-! ## Runs of failures -/

/-- The number of failures at the end. -/
def trailing (recorded : List Bool) :
    Nat := (recorded.reverse.takeWhile fun success => !success).length

theorem trailing_append (recorded : List Bool) (success : Bool) :
    trailing (recorded ++ [success]) = if success then 0 else trailing recorded + 1 := by
  cases success <;> simp [trailing]

/-- Without a success all are failures. -/
theorem trailing_of_all_failed {recorded : List Bool} (failed : true ∉ recorded) :
    trailing recorded = recorded.length := by
  have all : recorded.reverse.takeWhile (fun success => !success) = recorded.reverse := by
    rw [List.takeWhile_eq_self_iff]
    intro success listed
    cases success with
    | true => exact absurd (List.mem_reverse.mp listed) failed
    | false => rfl
  rw [trailing, all, List.length_reverse]

/-- The last deliveries all failed. -/
theorem replicate_suffix_iff (count : Nat) (recorded : List Bool) :
    List.replicate count false <:+ recorded ↔ count ≤ trailing recorded := by
  rw [← List.reverse_prefix, List.reverse_replicate, trailing]
  induction recorded.reverse generalizing count with
  | nil => cases count <;> simp [List.replicate_succ]
  | cons success rest ih =>
      cases count with
      | zero => simp
      | succ count =>
          rw [List.replicate_succ, List.cons_prefix_cons, ih]
          cases success <;> simp

/-! ## The count of failures -/

/-- The count of the row against what was recorded since it was last enabled. -/
structure Counted (ledger : Ledger) (cur : Webhook) : Prop where
  count : cur.failureCount =
    if true ∈ ledger.recorded then trailing ledger.recorded
    else ledger.carried + ledger.recorded.length
  below : cur.enabled = true -> true ∉ ledger.recorded ->
    ledger.recorded = [] ∨ cur.failureCount < autoDisableThreshold

theorem delivered_failureCount (cur : Webhook) (result : DeliveryResult) (now : Int) :
    (cur.delivered result now).failureCount =
      if result.success then 0 else cur.failureCount + 1 := rfl

theorem delivered_enabled (cur : Webhook) (result : DeliveryResult) (now : Int) :
    (cur.delivered result now).enabled = (cur.enabled && !reachesThreshold cur result) := by
  have opposite : decide (cur.failureCount + 1 < autoDisableThreshold) =
      !decide (autoDisableThreshold ≤ cur.failureCount + 1) := by
    rw [← decide_not, decide_eq_decide, Nat.not_le]
  cases success : result.success <;>
    simp [Webhook.delivered, reachesThreshold, success, opposite]

theorem Counted.record {ledger : Ledger} {cur : Webhook} (counted : Counted ledger cur)
    (result : DeliveryResult) (now : Int) :
    Counted (ledger.record cur result) (cur.delivered result now) := by
  have recorded : (ledger.record cur result).recorded = ledger.recorded ++ [result.success] := rfl
  have carried : (ledger.record cur result).carried = ledger.carried := rfl
  constructor
  · rw [recorded, carried, delivered_failureCount, trailing_append, counted.count]
    cases success : result.success with
    | true => simp
    | false =>
        by_cases passed : true ∈ ledger.recorded
        · simp [passed]
        · simp [passed]
          omega
  · rw [recorded, delivered_enabled]
    intro enabled failed
    refine Or.inr ?_
    have below : reachesThreshold cur result = false := by
      simpa using (Bool.and_eq_true_iff.mp enabled).2
    rw [delivered_failureCount]
    cases success : result.success with
    | true => rw [success] at failed; simp at failed
    | false =>
        simp only [reachesThreshold, success, Bool.not_false, Bool.true_and,
          decide_eq_false_iff_not] at below
        simpa using below

theorem Counted.commit {ledger : Ledger} {cur : Webhook} (counted : Counted ledger cur)
    (edit : PendingEdit) (now : Int) :
    Counted (ledger.commit cur edit) (cur.patched edit.patch now) := by
  have recorded : (ledger.commit cur edit).recorded =
      (ledger.enabledAt cur edit.patch.enabled).recorded := rfl
  have carried : (ledger.commit cur edit).carried =
      (ledger.enabledAt cur edit.patch.enabled).carried := rfl
  have count : (cur.patched edit.patch now).failureCount = cur.failureCount := rfl
  have flag : (cur.patched edit.patch now).enabled = edit.patch.enabled := rfl
  by_cases enabling : cur.enabled = false ∧ edit.patch.enabled = true
  · have fresh : ledger.enabledAt cur edit.patch.enabled =
        { ledger with recorded := [], carried := cur.failureCount } := if_pos enabling
    rw [fresh] at recorded carried
    constructor
    · rw [recorded, carried, count]
      simp
    · rw [recorded]
      exact fun _ _ => Or.inl rfl
  · have kept : ledger.enabledAt cur edit.patch.enabled = ledger := if_neg enabling
    rw [kept] at recorded carried
    constructor
    · rw [recorded, carried, count]
      exact counted.count
    · rw [recorded, count, flag]
      intro enabled failed
      refine counted.below ?_ failed
      cases was : cur.enabled with
      | true => rfl
      | false => exact absurd ⟨was, enabled⟩ enabling

/-- An edit is no switch by a delivery. -/
theorem Ledger.commit_flips (ledger : Ledger) (cur : Webhook) (edit : PendingEdit) :
    (ledger.commit cur edit).flips = ledger.flips := by
  simp only [Ledger.commit, Ledger.enabledAt]
  split <;> rfl

/-- The invariant of the runs. -/
def InRun (id : String) (s : Subscription) : Prop :=
  Exists fun cur => OfHook id s cur ∧ Counted s.ledger cur

variable {library : TargetLibrary} {id : String}

theorem inRun_step {s next : Subscription} {action : HookAction} (inRun : InRun id s)
    (taken : s.step library id action = some next) : InRun id next := by
  rcases inRun with ⟨cur, ofHook, counted⟩
  rcases hookMoved_of_step ofHook taken with ⟨after, moved, afterOf⟩
  refine ⟨after, afterOf, ?_⟩
  cases moved with
  | quiet action next leaves ledger reports => exact ledger ▸ counted
  | committed edit io next accepted ledger reports => exact ledger ▸ counted.commit edit io.now
  | recorded w result io next enabled ledger reports => exact ledger ▸ counted.record result io.now

theorem newlyCreated_inRun (hooks : Hooks) (ownerUserID : String) (fields : WebhookPatch)
    (io : CallIO) : InRun io.uuid (newlyCreated hooks ownerUserID fields io) :=
  ⟨_, newlyCreated_ofHook hooks ownerUserID fields io, ⟨rfl, fun _ _ => Or.inl rfl⟩⟩

/-! ## Only a full run of failures -/

/-- Whenever the webhook was switched off, the last deliveries recorded since it was enabled, as
many as the threshold, had all failed. -/
def FullRuns (s : Subscription) : Prop :=
  forall recorded, recorded ∈ s.ledger.flips ->
    List.replicate autoDisableThreshold false <:+ recorded

/-- A delivery that switches the webhook off finds a count that started with the enabling, or
with a success since. -/
def CountsAnew (id : String) (s : Subscription) : HookAction -> Prop
  | .record _ result _ => forall cur, s.hooks.get? id = some cur -> cur.enabled = true ->
      reachesThreshold cur result = true -> s.ledger.carried = 0 ∨ true ∈ s.ledger.recorded
  | _ => True

/-- The run behind a switch is full exactly if it counts anew. -/
theorem full_run_iff {ledger : Ledger} {cur : Webhook} (counted : Counted ledger cur)
    {result : DeliveryResult} (enabled : cur.enabled = true)
    (reaches : reachesThreshold cur result = true) :
    List.replicate autoDisableThreshold false <:+ ledger.recorded ++ [result.success] ↔
      ledger.carried = 0 ∨ true ∈ ledger.recorded := by
  rcases Bool.and_eq_true_iff.mp reaches with ⟨failed, atThreshold⟩
  have success : result.success = false := by simpa using failed
  have full : autoDisableThreshold ≤ cur.failureCount + 1 := of_decide_eq_true atThreshold
  have count := counted.count
  rw [replicate_suffix_iff, trailing_append, success, if_neg Bool.false_ne_true]
  by_cases passed : true ∈ ledger.recorded
  · rw [if_pos passed] at count
    exact iff_of_true (count ▸ full) (Or.inr passed)
  · rw [if_neg passed] at count
    rw [trailing_of_all_failed passed]
    have below := counted.below enabled passed
    unfold autoDisableThreshold at below full ⊢
    constructor
    · intro long
      refine Or.inl ?_
      rcases below with none | fewer
      · rw [none] at long
        exact absurd long (by decide)
      · omega
    · rintro (fresh | found)
      · omega
      · exact absurd found passed

theorem fullRuns_step {s next : Subscription} {action : HookAction} (inRun : InRun id s)
    (full : FullRuns s) (taken : s.step library id action = some next) :
    FullRuns next ↔ CountsAnew id s action := by
  rcases inRun with ⟨cur, ofHook, counted⟩
  rcases hookMoved_of_step ofHook taken with ⟨after, moved, afterOf⟩
  unfold FullRuns
  cases moved with
  | quiet action next leaves ledger reports =>
      rw [ledger]
      refine iff_of_true full ?_
      cases action with
      | record w result io => exact leaves.elim
      | _ => trivial
  | committed edit io next accepted ledger reports =>
      have flips : next.ledger.flips = s.ledger.flips := by
        rw [ledger, Ledger.commit_flips]
      rw [flips]
      exact iff_of_true full trivial
  | recorded w result io next _ ledger reports =>
      have flips : next.ledger.flips =
          if cur.enabled && reachesThreshold cur result then
            s.ledger.flips ++ [s.ledger.recorded ++ [result.success]]
          else s.ledger.flips := by
        rw [ledger]
        rfl
      rw [flips]
      by_cases switched : cur.enabled = true ∧ reachesThreshold cur result = true
      · rw [if_pos (Bool.and_eq_true_iff.mpr switched)]
        have run := full_run_iff counted switched.1 switched.2
        constructor
        · intro all row found _ _
          exact run.mp (all _ (List.mem_append_right _ (List.mem_singleton_self _)))
        · intro anew recorded listed
          rcases List.mem_append.mp listed with earlier | last
          · exact full recorded earlier
          · rw [List.mem_singleton.mp last]
            exact run.mpr (anew cur ofHook.found switched.1 switched.2)
      · rw [if_neg (mt Bool.and_eq_true_iff.mp switched)]
        refine iff_of_true full ?_
        intro row found enabled reaches
        rw [← Option.some.inj (ofHook.found.symm.trans found)] at enabled reaches
        exact absurd ⟨enabled, reaches⟩ switched

/-- A webhook is only switched off after a full run of failures since it was enabled, exactly if
all counts that reach the threshold start anew. -/
theorem auto_disable_full_run_iff (hooks : Hooks) (ownerUserID : String) (fields : WebhookPatch)
    (io : CallIO) {actions : List HookAction} {final : Subscription}
    (run : exec (Subscription.step library io.uuid) (newlyCreated hooks ownerUserID fields io)
      actions = some final) :
    Throughout (Subscription.step library io.uuid) FullRuns
        (newlyCreated hooks ownerUserID fields io) actions ↔
      Meets (Subscription.step library io.uuid) (CountsAnew io.uuid)
        (newlyCreated hooks ownerUserID fields io) actions := by
  refine throughout_iff_meets (fun _ _ _ inRun taken => inRun_step inRun taken) ?_
    (newlyCreated_inRun hooks ownerUserID fields io) ?_ run
  · intro s action next inRun full taken
    exact fullRuns_step inRun full taken
  · exact fun recorded listed => absurd listed List.not_mem_nil

/-! ## Reports -/

/-- There is one report for every time that a recorded delivery switched the webhook off. -/
def ReportsMatch (s : Subscription) : Prop := s.autoDisabled = s.ledger.flips.length

/-- A delivery that can be written finds the webhook enabled, and one that cannot be written does
not switch it off. -/
def FindsEnabled (id : String) (s : Subscription) : HookAction -> Prop
  | .record _ result io => forall cur, s.hooks.get? id = some cur ->
      if io.writeError = none then cur.enabled = true
      else cur.enabled = true -> reachesThreshold cur result = false
  | _ => True

/-- A recorded delivery is reported exactly if it switches the webhook off, given that condition. -/
theorem report_iff_flip (cur : Webhook) (result : DeliveryResult) (io : CallIO) :
    ((io.writeError = none ∧ (cur.delivered result io.now).enabled = false) ↔
        (cur.enabled = true ∧ reachesThreshold cur result = true)) ↔
      if io.writeError = none then cur.enabled = true
      else cur.enabled = true -> reachesThreshold cur result = false := by
  rw [delivered_enabled]
  cases io.writeError with
  | none => cases cur.enabled <;> cases reachesThreshold cur result <;> simp
  | some error => cases cur.enabled <;> cases reachesThreshold cur result <;> simp

theorem reportsMatch_step {s next : Subscription} {action : HookAction} (inRun : InRun id s)
    (matching : ReportsMatch s) (taken : s.step library id action = some next) :
    ReportsMatch next ↔ FindsEnabled id s action := by
  rcases inRun with ⟨cur, ofHook, _⟩
  rcases hookMoved_of_step ofHook taken with ⟨after, moved, _⟩
  unfold ReportsMatch at matching ⊢
  cases moved with
  | quiet action next leaves ledger reports =>
      rw [ledger, reports]
      refine iff_of_true matching ?_
      cases action with
      | record w result io => exact leaves.elim
      | _ => trivial
  | committed edit io next accepted ledger reports =>
      have flips : next.ledger.flips = s.ledger.flips := by
        rw [ledger, Ledger.commit_flips]
      rw [flips, reports]
      exact iff_of_true matching trivial
  | recorded w result io next _ ledger reports =>
      have flips : next.ledger.flips.length =
          if cur.enabled = true ∧ reachesThreshold cur result = true then s.ledger.flips.length + 1
          else s.ledger.flips.length := by
        rw [ledger]
        simp only [Ledger.record, Bool.and_eq_true]
        split <;> simp
      have here : FindsEnabled id s (.record w result io) ↔
          if io.writeError = none then cur.enabled = true
          else cur.enabled = true -> reachesThreshold cur result = false :=
        ofHook.forall_row_iff fun row => if io.writeError = none then row.enabled = true
          else row.enabled = true -> reachesThreshold row result = false
      rw [here, ← report_iff_flip, flips, reports, matching]
      split <;> split <;> rename_i reported flipped
      · exact iff_of_true rfl (iff_of_true reported flipped)
      · exact iff_of_false (by omega) fun same => flipped (same.mp reported)
      · exact iff_of_false (by omega) fun same => reported (same.mpr flipped)
      · exact iff_of_true rfl (iff_of_false reported flipped)

/-- The audit log has one report for every time a delivery switched the webhook off, exactly if
each delivery that is recorded finds the webhook enabled. -/
theorem auto_disable_reports_iff (hooks : Hooks) (ownerUserID : String) (fields : WebhookPatch)
    (io : CallIO) {actions : List HookAction} {final : Subscription}
    (run : exec (Subscription.step library io.uuid) (newlyCreated hooks ownerUserID fields io)
      actions = some final) :
    Throughout (Subscription.step library io.uuid) ReportsMatch
        (newlyCreated hooks ownerUserID fields io) actions ↔
      Meets (Subscription.step library io.uuid) (FindsEnabled io.uuid)
        (newlyCreated hooks ownerUserID fields io) actions := by
  refine throughout_iff_meets (fun _ _ _ inRun taken => inRun_step inRun taken) ?_
    (newlyCreated_inRun hooks ownerUserID fields io) rfl run
  intro s action next inRun matching taken
  exact reportsMatch_step inRun matching taken

/-! ## Ada's webhook -/

def failedDelivery : DeliveryResult where
  deliveredAt := 7
  httpStatus := 503
  durationMs := 20
  success := false

/-- A delivery that is under way when Ada disables the webhook. -/
def disabledMeanwhile : List HookAction :=
  [.dispatch adasEvent, .readToggle "ada" false, .commit (.toggle adasHook false) {},
    .record adasHook failedDelivery {}]

/-- It is reported as an automatic disabling. -/
theorem user_disable_reported : ¬ forall (library : TargetLibrary) (hooks : Hooks)
    (ownerUserID : String) (fields : WebhookPatch) (io : CallIO) (actions : List HookAction)
    (final : Subscription), exec (Subscription.step library io.uuid)
        (newlyCreated hooks ownerUserID fields io) actions = some final -> ReportsMatch final := by
  intro matching
  have run : exec (Subscription.step sampleTargets "hook-1") adasStart disabledMeanwhile = some _ :=
    (Option.some_get (by decide +kernel)).symm
  have same := matching sampleTargets SortedStore.empty "ada" adasFields
    { uuid := "hook-1" } _ _ run
  exact absurd same (by unfold ReportsMatch; decide +kernel)

/-- One delivery that fails. -/
def failedOnce : List HookAction := [.dispatch adasEvent, .record adasHook failedDelivery {}]

theorem auto_disable_reports_iff_once :
    Throughout (Subscription.step sampleTargets "hook-1") ReportsMatch adasStart failedOnce := by
  have run : exec (Subscription.step sampleTargets "hook-1") adasStart failedOnce = some _ :=
    (Option.some_get (by decide +kernel)).symm
  refine (auto_disable_reports_iff SortedStore.empty "ada" adasFields { uuid := "hook-1" } run).mpr
    ?_
  refine ⟨trivial, fun next dispatched => ⟨?_, fun _ _ => trivial⟩⟩
  cases Option.some.inj dispatched
  rintro cur ⟨⟩
  rfl

theorem auto_disable_full_run_iff_once :
    Throughout (Subscription.step sampleTargets "hook-1") FullRuns adasStart failedOnce := by
  have run : exec (Subscription.step sampleTargets "hook-1") adasStart failedOnce = some _ :=
    (Option.some_get (by decide +kernel)).symm
  refine (auto_disable_full_run_iff SortedStore.empty "ada" adasFields { uuid := "hook-1" } run).mpr
    ?_
  refine ⟨trivial, fun next dispatched => ⟨?_, fun _ _ => trivial⟩⟩
  cases Option.some.inj dispatched
  exact fun cur _ _ _ => Or.inl rfl

/-- The row after so many failures in a row. -/
def adasHookAfter : Nat -> Webhook
  | 0 => adasHook
  | failures + 1 => (adasHookAfter failures).delivered failedDelivery 0

/-- Ten deliveries fail, Ada enables the webhook again, and the next delivery fails. -/
def failedAgain : List HookAction :=
  List.replicate autoDisableThreshold (.dispatch adasEvent) ++
    List.replicate autoDisableThreshold (.record adasHook failedDelivery {}) ++
    [.readToggle "ada" true, .commit (.toggle (adasHookAfter autoDisableThreshold) true) {},
      .dispatch adasEvent,
      .record ((adasHookAfter autoDisableThreshold).patched
        ((adasHookAfter autoDisableThreshold).toggled true) 0) failedDelivery {}]

/-- That one failure switches it off. -/
theorem reenabled_disabled_at_once : ¬ forall (library : TargetLibrary) (hooks : Hooks)
    (ownerUserID : String) (fields : WebhookPatch) (io : CallIO) (actions : List HookAction)
    (final : Subscription), exec (Subscription.step library io.uuid)
        (newlyCreated hooks ownerUserID fields io) actions = some final -> FullRuns final := by
  intro full
  have run : exec (Subscription.step sampleTargets "hook-1") adasStart failedAgain = some _ :=
    (Option.some_get (by decide +kernel)).symm
  have runs := full sampleTargets SortedStore.empty "ada" adasFields { uuid := "hook-1" } _ _ run
  exact absurd runs (by unfold FullRuns; decide +kernel)

end Webhooks
end Basement
