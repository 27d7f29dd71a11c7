import Basement.Library.Transition
import Basement.Webhooks.Subscription

namespace Basement
namespace Webhooks

open Library Library.Transition
open Library.Edit (lastWritten lastWritten_append apply_andThen)

/-!
# Concurrent edits of a webhook

The enable and disable handlers write back the address, the events and the filters that they
read, and an update whose body does not mention the flag writes back the flag that it read.
Edits that took place in between are lost exactly where the copy differs from the row.

A delivery is recorded on the row itself, so it loses nothing.
-/

/-- Every setting has the value of the last committed request that mentions it, and no update
without the flag has enabled the webhook. -/
def EditsKept (id : String) (first : Webhook) (s : Subscription) : Prop :=
  s.ledger.reenabled = 0 ∧ forall cur, s.hooks.get? id = some cur ->
    cur.setting = (lastWritten s.ledger.committed).apply first.setting

/-- What the handler writes back beside the settings it is to set is still in the row: the
address, the events and the filters for a toggle, an enabled flag for an update without one. -/
def PendingEdit.Current (cur : Webhook) : PendingEdit -> Prop
  | .toggle existing _ => forall field, field ≠ .secret ->
      existing.setting field = cur.setting field
  | .update existing req _ => req.enabled = none -> existing.enabled = true -> cur.enabled = true

/-- A commit that is not refused finds the copy of its handler current. -/
def Undisturbed (id : String) (s : Subscription) : HookAction -> Prop
  | .commit edit _ => forall cur, s.hooks.get? id = some cur ->
      Accepted s.hooks cur id edit.patch -> edit.Current cur
  | _ => True

/-- The settings of a row after a patch. -/
theorem patched_setting_toggle (existing cur : Webhook) (enable : Bool) (now : Int) :
    (cur.patched (existing.toggled enable) now).setting = cur.setting ↔
      forall field, field ≠ .secret -> existing.setting field = cur.setting field := by
  constructor
  · intro same field settable
    have here := congrFun same field
    cases field with
    | secret => exact absurd rfl settable
    | _ => exact here
  · intro current
    funext field
    cases field with
    | secret => rfl
    | targetURL => exact current .targetURL nofun
    | events => exact current .events nofun
    | bucketFilter => exact current .bucketFilter nofun
    | prefixFilter => exact current .prefixFilter nofun

theorem patched_setting_update (existing cur : Webhook) (req : WebhookCreateRequest)
    (secret : String) (now : Int) :
    (cur.patched (PendingEdit.update existing req secret).patch now).setting =
      (PendingEdit.update existing req secret).mentions.apply cur.setting := by
  funext field
  cases field with
  | secret =>
      change (if secret = "" then cur.secret else secret) =
        (if secret = "" then (none : Option String) else some secret).getD cur.secret
      by_cases empty : secret = "" <;> simp [empty]
  | _ => rfl

/-- A delivery changes no setting. -/
theorem delivered_setting (cur : Webhook) (result : DeliveryResult) (now : Int) :
    (cur.delivered result now).setting = cur.setting := by
  funext field
  cases field <;> rfl

variable {library : TargetLibrary} {id : String}

/-- An update without the flag enables a row exactly if the copy was enabled and the row is not. -/
theorem reenabled_commit {ledger : Ledger} (unset : ledger.reenabled = 0) (cur : Webhook)
    (edit : PendingEdit) : (ledger.commit cur edit).reenabled = 0 ↔
      (edit.omitsEnabled = true -> edit.patch.enabled = true -> cur.enabled = true) := by
  simp only [Ledger.commit, unset]
  cases edit.omitsEnabled <;> cases edit.patch.enabled <;> cases cur.enabled <;> simp

/-- A step keeps the edits exactly if it is undisturbed. -/
theorem editsKept_step {first cur : Webhook} {s next : Subscription} {action : HookAction}
    (ofHook : OfHook id s cur) (kept : EditsKept id first s)
    (taken : s.step library id action = some next) :
    EditsKept id first next ↔ Undisturbed id s action := by
  rcases kept with ⟨unset, settled⟩
  have current := settled cur ofHook.found
  rcases hookMoved_of_step ofHook taken with ⟨after, moved, afterOf⟩
  have only : EditsKept id first next ↔ next.ledger.reenabled = 0 ∧
      after.setting = (lastWritten next.ledger.committed).apply first.setting := by
    exact and_congr_right fun _ => afterOf.forall_row_iff fun row =>
      row.setting = (lastWritten next.ledger.committed).apply first.setting
  rw [only]
  cases moved with
  | quiet action next leaves ledger reports =>
      rw [ledger]
      refine iff_of_true ⟨unset, current⟩ ?_
      cases action with
      | commit edit io =>
          intro row found accepted
          rw [Option.some.inj (ofHook.found.symm.trans found)] at leaves
          exact absurd accepted leaves
      | record w result io => exact leaves.elim
      | _ => trivial
  | recorded w result io next enabled ledger reports =>
      rw [ledger, delivered_setting]
      exact iff_of_true ⟨unset, current⟩ trivial
  | committed edit io next accepted ledger reports =>
      have committed : next.ledger.committed = s.ledger.committed ++ [edit.mentions] := by
        rw [ledger]
        rfl
      rw [committed, lastWritten_append, apply_andThen, ← current, ledger, reenabled_commit unset]
      have here : Undisturbed id s (.commit edit io) ↔ edit.Current cur := by
        refine (ofHook.forall_row_iff fun row =>
          Accepted s.hooks row id edit.patch -> edit.Current row).trans ?_
        exact forall_prop_of_true accepted
      rw [here]
      cases edit with
      | toggle existing enable =>
          have silent : (PendingEdit.toggle existing enable).mentions.apply cur.setting =
              cur.setting := rfl
          rw [silent]
          exact ⟨fun both => (patched_setting_toggle _ _ _ _).mp both.2,
            fun same => ⟨nofun, (patched_setting_toggle _ _ _ _).mpr same⟩⟩
      | update existing req secret =>
          rw [patched_setting_update]
          have flag : req.enabled = none ->
              (PendingEdit.update existing req secret).patch.enabled = existing.enabled := by
            intro omitted
            simp [PendingEdit.patch, WebhookCreateRequest.patch, omitted]
          refine ⟨fun both omitted enabled => both.1 ?_ ((flag omitted).trans enabled),
            fun undisturbed => ⟨fun omits enabled => ?_, rfl⟩⟩
          · simp [PendingEdit.omitsEnabled, omitted]
          · have omitted : req.enabled = none := by simpa [PendingEdit.omitsEnabled] using omits
            exact undisturbed omitted ((flag omitted).symm.trans enabled)

/-- No edit is lost in a run exactly if all its commits are undisturbed. -/
theorem webhook_edits_kept_iff (hooks : Hooks) (ownerUserID : String) (fields : WebhookPatch)
    (io : CallIO) {actions : List HookAction} {final : Subscription}
    (run : exec (Subscription.step library io.uuid) (newlyCreated hooks ownerUserID fields io)
      actions = some final) :
    Throughout (Subscription.step library io.uuid)
      (EditsKept io.uuid (fields.created ownerUserID io))
        (newlyCreated hooks ownerUserID fields io) actions ↔
      Meets (Subscription.step library io.uuid) (Undisturbed io.uuid)
        (newlyCreated hooks ownerUserID fields io) actions := by
  have started := newlyCreated_ofHook hooks ownerUserID fields io
  have invariant : forall s action next, (Exists fun cur => OfHook io.uuid s cur) ->
      Subscription.step library io.uuid s action = some next ->
        Exists fun cur => OfHook io.uuid next cur := by
    rintro s action next ⟨cur, ofHook⟩ taken
    rcases hookMoved_of_step ofHook taken with ⟨after, _, afterOf⟩
    exact ⟨after, afterOf⟩
  refine throughout_iff_meets invariant ?_ ⟨_, started⟩ ?_ run
  · rintro s action next ⟨cur, ofHook⟩ kept taken
    exact editsKept_step ofHook kept taken
  · refine ⟨rfl, ?_⟩
    intro cur found
    rw [← Option.some.inj (started.found.symm.trans found)]
    rfl

/-- One request after the other. -/
def disabledInTurn : List HookAction :=
  [.readToggle "ada" false, .commit (.toggle adasHook false) {}]

theorem webhook_edits_kept_iff_inTurn :
    Throughout (Subscription.step sampleTargets "hook-1") (EditsKept "hook-1" adasHook) adasStart
      disabledInTurn := by
  have run : exec (Subscription.step sampleTargets "hook-1") adasStart disabledInTurn = some _ :=
    (Option.some_get (by decide +kernel)).symm
  refine (webhook_edits_kept_iff SortedStore.empty "ada" adasFields { uuid := "hook-1" } run).mpr ?_
  refine ⟨trivial, fun next read => ⟨?_, fun _ _ => trivial⟩⟩
  cases Option.some.inj read
  rintro cur ⟨⟩ _ field _
  rfl

/-- While Ada's disable request is under way, another request of hers changes the address. -/
def changedURL : WebhookCreateRequest where
  name := "audit"
  targetURL := "https://other.example/in"
  events := [.objectDeleted]

def disabledOverEdit : List HookAction :=
  [.readToggle "ada" false, .readUpdate "ada" sampleRegions changedURL (.ok ""),
    .commit (.update adasHook changedURL "") {}, .commit (.toggle adasHook false) {}]

/-- The new address is gone. -/
theorem disable_reverts_edit : ¬ forall (library : TargetLibrary) (hooks : Hooks)
    (ownerUserID : String) (fields : WebhookPatch) (io : CallIO) (actions : List HookAction)
    (final : Subscription), exec (Subscription.step library io.uuid)
        (newlyCreated hooks ownerUserID fields io) actions = some final ->
      EditsKept io.uuid (fields.created ownerUserID io) final := by
  intro kept
  have run : exec (Subscription.step sampleTargets "hook-1") adasStart disabledOverEdit = some _ :=
    (Option.some_get (by decide +kernel)).symm
  have settled := (kept sampleTargets SortedStore.empty "ada" adasFields { uuid := "hook-1" } _ _
    run).2 _ (Option.some_get (by decide +kernel)).symm
  exact absurd (congrFun settled .targetURL) (by decide +kernel)

end Webhooks
end Basement
