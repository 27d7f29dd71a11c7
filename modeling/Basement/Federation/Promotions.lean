import Basement.Federation.Failover

namespace Basement
namespace Federation
namespace Failover

open Library Transition

variable {id : String} {control next : Control} {action : Action}

/-!
# What the promotion fence guarantees, and what it does not

`PromoteWithEpoch` compares epochs.  Over any interleaving the epoch therefore
counts the accepted promotions, and no epoch is spent twice: the store is an
instance of the compare-and-swap register of the library.

The patch, however, carries the whole mutable record, and an update does not move
the epoch.  An update that commits between a failover's read and its write is
overwritten.  A promotion is faithful to the record it replaces when every such
update agrees with what the failover has read.
-/

/-! ## The steps -/

/-- What one step can do: nothing, start a failover from the stored record,
finish one, or apply one store operation that is not a promotion. -/
theorem step_cases (taken : step id control action = some next) :
    (next = control) ∨
    (Exists fun failover => Exists fun promotion =>
      control.rows.get? id = some promotion.read ∧ next = control.begin failover promotion) ∨
    (Exists fun failover => Exists fun promotion => Exists fun now => Exists fun persisted =>
      action = .promote failover now persisted ∧
      control.inflight.get? failover = some promotion ∧
      next = control.finish id failover promotion now persisted) ∨
    (Exists fun patch => Exists fun now => Exists fun persisted =>
      action = .update patch now persisted ∧
      next = { control with rows := (control.rows.update id patch now persisted).2 }) ∨
    (Exists fun endpoint => Exists fun health => Exists fun now => Exists fun persisted =>
      action = .updateReplicaHealth endpoint health now persisted ∧
      next = { control with
        rows := (control.rows.updateReplicaHealth id endpoint health now persisted).2 }) ∨
    (Exists fun persisted => action = .delete persisted ∧
      next = { control with rows := (control.rows.delete id persisted).2 }) := by
  cases action with
  | watchdogRead failover now =>
      simp only [step] at taken
      split at taken
      · cases taken
      · cases read : control.rows.get id with
        | error _ =>
            rw [read] at taken
            exact Or.inl (Option.some.inj taken).symm
        | ok fb =>
            rw [read] at taken
            simp only at taken
            split at taken
            · split at taken
              · exact Or.inl (Option.some.inj taken).symm
              · rename_i promotion triggered
                have same := triggerAutoFailover_read triggered
                exact Or.inr (Or.inl ⟨failover, promotion, same ▸ Rows.get_eq_ok.mp read,
                  (Option.some.inj taken).symm⟩)
            · exact Or.inl (Option.some.inj taken).symm
  | operatorRead failover newPrimary now =>
      simp only [step] at taken
      split at taken
      · cases taken
      · cases read : control.rows.get id with
        | error _ =>
            rw [read] at taken
            exact Or.inl (Option.some.inj taken).symm
        | ok existing =>
            rw [read] at taken
            simp only at taken
            split at taken
            · exact Or.inl (Option.some.inj taken).symm
            · rename_i promotion granted
              have same := userFailoverFederation_read granted
              exact Or.inr (Or.inl ⟨failover, promotion, same ▸ Rows.get_eq_ok.mp read,
                (Option.some.inj taken).symm⟩)
  | promote failover now persisted =>
      simp only [step] at taken
      cases reading : control.inflight.get? failover with
      | none => simp [reading] at taken
      | some promotion =>
          rw [reading] at taken
          exact Or.inr (Or.inr (Or.inl
            ⟨failover, promotion, now, persisted, rfl, reading, (Option.some.inj taken).symm⟩))
  | update patch now persisted =>
      exact Or.inr (Or.inr (Or.inr (Or.inl
        ⟨patch, now, persisted, rfl, (Option.some.inj taken).symm⟩)))
  | updateReplicaHealth endpoint health now persisted =>
      exact Or.inr (Or.inr (Or.inr (Or.inr (Or.inl
        ⟨endpoint, health, now, persisted, rfl, (Option.some.inj taken).symm⟩))))
  | delete persisted =>
      exact Or.inr (Or.inr (Or.inr (Or.inr (Or.inr
        ⟨persisted, rfl, (Option.some.inj taken).symm⟩))))

/-! ## Fencing -/

/-- The version attempt a finished promotion is. -/
def Outcome.attempt (outcome : Outcome) : Attempt :=
  ⟨outcome.promotion.read.failoverEpoch, outcome.result.isOk⟩

/-- A promotion that reports failure left the record as it was, and reports the
lost race or the failed write. -/
def Outcome.FailedCleanly (outcome : Outcome) : Prop :=
  outcome.result.isOk = false ->
    (outcome.result = .error .epochChanged ∨ outcome.result = .error .write) ∧
      outcome.after = outcome.before

/-- The steps the fence is about: no deletion, and no promotion once the stored
epoch is the largest `int`. -/
def Fenceable (id : String) (control : Control) : Action -> Prop
  | .promote _ _ _ => forall cur, control.rows.get? id = some cur -> cur.failoverEpoch ≠ maxInt
  | .delete _ => False
  | _ => True

theorem nextEpoch_of_ne {epoch : Int} (room : epoch ≠ maxInt) : nextEpoch epoch = epoch + 1 :=
  if_neg room

/-- What a promotion does to the epoch and to the log, with the record present. -/
theorem finish_cases {failover : Nat} {promotion : Promotion} {now : Int} {persisted : Bool}
    {cur : FederatedBucket} (stored : control.rows.get? id = some cur) :
    (Exists fun error => (error = .epochChanged ∨ error = .write) ∧
      control.finish id failover promotion now persisted =
        { rows := control.rows
          inflight := control.inflight.erase failover
          log := control.log ++ [⟨promotion, .error error, some cur, some cur⟩] }) ∨
    (cur.failoverEpoch = promotion.read.failoverEpoch ∧
      Exists fun promoted => promoted =
          { cur.patched promotion.patch now with failoverEpoch := promotion.patch.failoverEpoch } ∧
        control.finish id failover promotion now persisted =
          { rows := control.rows.put id promoted
            inflight := control.inflight.erase failover
            log := control.log ++ [⟨promotion, .ok promoted, some cur, some promoted⟩] }) := by
  unfold Control.finish
  rcases Rows.promoteWithEpoch_cases control.rows id promotion.read.failoverEpoch
    promotion.patch now persisted with
    ⟨error, answer, reason⟩ | ⟨found, held, current, answer⟩
  · refine Or.inl ⟨error, ?_, by simp only [answer, stored]⟩
    rcases reason with lost | failed | ⟨_, absent⟩
    · exact Or.inl lost
    · exact Or.inr failed
    · cases stored.symm.trans absent
  · cases Option.some.inj (stored.symm.trans held)
    exact Or.inr ⟨current, _, rfl, by simp only [answer, stored, SortedStore.get?_put_self]⟩

/-- A promotion that goes through moves the epoch on by one. -/
theorem promoted_epoch {promotion : Promotion} {cur promoted : FederatedBucket} {now : Int}
    (current : cur.failoverEpoch = promotion.read.failoverEpoch)
    (shape : promoted =
      { cur.patched promotion.patch now with failoverEpoch := promotion.patch.failoverEpoch })
    (room : cur.failoverEpoch ≠ maxInt) : promoted.failoverEpoch = cur.failoverEpoch + 1 := by
  rw [shape]
  change nextEpoch promotion.read.failoverEpoch = _
  rw [← current, nextEpoch_of_ne room]

/-- The record is present, and the finished promotions are a history of its epoch. -/
structure FenceInv (id : String) (start : Int) (control : Control) : Prop where
  history : Exists fun cur => control.rows.get? id = some cur ∧
    History start (control.log.map Outcome.attempt) cur.failoverEpoch
  failures : forall outcome, outcome ∈ control.log -> outcome.FailedCleanly

/-- A step that keeps the record's epoch and the log keeps the fence. -/
theorem FenceInv.of_same_epoch {start : Int} (invariant : FenceInv id start control)
    (log : next.log = control.log)
    (same : forall cur, control.rows.get? id = some cur ->
      Exists fun kept => next.rows.get? id = some kept ∧ kept.failoverEpoch = cur.failoverEpoch) :
    FenceInv id start next := by
  rcases invariant.history with ⟨cur, stored, history⟩
  rcases same cur stored with ⟨kept, found, epoch⟩
  exact ⟨⟨kept, found, by rw [log, epoch]; exact history⟩, by rw [log]; exact invariant.failures⟩

theorem FenceInv.finish {start : Int} {failover : Nat} {promotion : Promotion} {now : Int}
    {persisted : Bool} (invariant : FenceInv id start control)
    (room : forall cur, control.rows.get? id = some cur -> cur.failoverEpoch ≠ maxInt) :
    FenceInv id start (control.finish id failover promotion now persisted) := by
  rcases invariant.history with ⟨cur, stored, history⟩
  rcases finish_cases stored with ⟨error, reason, after⟩ | ⟨current, promoted, shape, after⟩
  · rw [after]
    refine ⟨⟨cur, stored, ?_⟩, ?_⟩
    · simpa [Outcome.attempt, Except.isOk, Except.toBool] using
        history.refuse promotion.read.failoverEpoch
    · intro outcome listed
      rcases List.mem_append.mp listed with earlier | last
      · exact invariant.failures outcome earlier
      · rw [List.mem_singleton.mp last]
        exact fun _ => ⟨reason.imp (congrArg _) (congrArg _), rfl⟩
  · have epoch := promoted_epoch current shape (room cur stored)
    rw [after]
    refine ⟨⟨promoted, SortedStore.get?_put_self _ _ _, ?_⟩, ?_⟩
    · rw [epoch]
      simpa [Outcome.attempt, Except.isOk, Except.toBool, ← current] using history.accept
    · intro outcome listed
      rcases List.mem_append.mp listed with earlier | last
      · exact invariant.failures outcome earlier
      · rw [List.mem_singleton.mp last]
        intro failed
        cases failed

theorem FenceInv.step {start : Int} (invariant : FenceInv id start control)
    (allowed : Fenceable id control action) (taken : step id control action = some next) :
    FenceInv id start next := by
  rcases step_cases taken with rfl | ⟨failover, promotion, _, rfl⟩ |
    ⟨failover, promotion, now, persisted, rfl, _, rfl⟩ | ⟨patch, now, persisted, rfl, rfl⟩ |
    ⟨endpoint, health, now, persisted, rfl, rfl⟩ | ⟨persisted, rfl, rfl⟩
  · exact invariant
  · exact invariant.of_same_epoch rfl fun cur stored => ⟨cur, stored, rfl⟩
  · exact invariant.finish allowed
  · refine invariant.of_same_epoch rfl fun cur stored => ?_
    rcases Rows.update_cases control.rows id patch now persisted with kept | ⟨found, _, held, written⟩
    · exact ⟨cur, by simp only [kept, stored], rfl⟩
    · cases Option.some.inj (stored.symm.trans held)
      exact ⟨cur.patched patch now, by simp only [written, SortedStore.get?_put_self], rfl⟩
  · refine invariant.of_same_epoch rfl fun cur stored => ?_
    rcases Rows.updateReplicaHealth_cases control.rows id endpoint health now persisted with
      kept | ⟨found, replicas, held, _, written⟩
    · exact ⟨cur, by simp only [kept, stored], rfl⟩
    · cases Option.some.inj (stored.symm.trans held)
      exact ⟨{ cur with replicas := replicas, updatedAt := now },
        by simp only [written, SortedStore.get?_put_self], rfl⟩
  · exact allowed.elim

/-- The fence holds after every run from a stored record. -/
theorem fenceInv_exec {start final : Control} {stored : FederatedBucket} {actions : List Action}
    (fresh : start.log = []) (held : start.rows.get? id = some stored)
    (meets : Meets (step id) (Fenceable id) start actions)
    (run : exec (step id) start actions = some final) :
    FenceInv id stored.failoverEpoch final := by
  have initially : FenceInv id stored.failoverEpoch start := by
    refine ⟨⟨stored, held, ?_⟩, ?_⟩
    · rw [fresh]
      exact History.fresh
    · rw [fresh]
      intro _ listed
      cases listed
  exact exec_invariant_of_meets
    (fun _ _ _ invariant allowed taken => FenceInv.step invariant allowed taken)
    initially meets run

/-- The log only grows. -/
theorem log_isPrefix {start final : Control} {actions : List Action}
    (run : exec (step id) start actions = some final) : start.log <+: final.log := by
  have preserved : forall before action after, start.log <+: before.log ->
      step id before action = some after -> start.log <+: after.log := by
    intro before action after earlier taken
    rcases step_cases taken with rfl | ⟨_, _, _, rfl⟩ | ⟨_, _, _, _, _, _, rfl⟩ |
      ⟨_, _, _, _, rfl⟩ | ⟨_, _, _, _, _, rfl⟩ | ⟨_, _, rfl⟩
    · exact earlier
    · exact earlier
    · exact earlier.trans (List.prefix_append _ _)
    · exact earlier
    · exact earlier
    · exact earlier
  exact exec_invariant preserved (List.prefix_refl _) run

/-- The stored epoch is the starting epoch and one for each success logged. -/
theorem FenceInv.epoch_eq {start : Int} {cur : FederatedBucket}
    (invariant : FenceInv id start control) (stored : control.rows.get? id = some cur) :
    cur.failoverEpoch = start + control.log.countP (fun outcome => outcome.result.isOk) := by
  rcases invariant.history with ⟨found, held, history⟩
  cases Option.some.inj (stored.symm.trans held)
  rw [history.version_eq, List.countP_map]
  rfl

/-- Promotion fencing.  In every run from a stored record, without a deletion and
below the largest `int`, the epoch never decreases, it counts the promotions that
succeeded, each epoch read is spent at most once, and a promotion that does not
succeed reports the lost race or the failed write and changes nothing. -/
theorem promotions_fenced (id : String) {start final : Control} {stored : FederatedBucket}
    {actions : List Action} (fresh : start.Fresh) (held : start.rows.get? id = some stored)
    (meets : Meets (step id) (Fenceable id) start actions)
    (run : exec (step id) start actions = some final) :
    (Exists fun cur => final.rows.get? id = some cur ∧
      cur.failoverEpoch =
        stored.failoverEpoch + final.log.countP (fun outcome => outcome.result.isOk) ∧
      forall first second middle earlier, actions = first ++ second ->
        exec (step id) start first = some middle -> middle.rows.get? id = some earlier ->
          earlier.failoverEpoch ≤ cur.failoverEpoch) ∧
    (forall epoch, final.log.countP (fun outcome =>
      outcome.result.isOk && outcome.promotion.read.failoverEpoch == epoch) ≤ 1) ∧
    (forall outcome, outcome ∈ final.log -> outcome.FailedCleanly) := by
  have invariant := fenceInv_exec fresh.2 held meets run
  rcases invariant.history with ⟨cur, present, history⟩
  refine ⟨⟨cur, present, invariant.epoch_eq present, ?_⟩, ?_, invariant.failures⟩
  · intro first second middle earlier split before found
    subst split
    rcases (exec_append first second).mp run with ⟨same, beforeRun, afterRun⟩
    cases Option.some.inj (before.symm.trans beforeRun)
    have earlierInv := fenceInv_exec fresh.2 held (meets_append first second meets before).1 before
    rw [earlierInv.epoch_eq found, invariant.epoch_eq present]
    have grown := (log_isPrefix afterRun).sublist.countP_le
      (p := fun outcome => outcome.result.isOk)
    omega
  · intro epoch
    have once := history.accepted_once epoch
    rwa [List.countP_map] at once

/-- A federation with automatic failover and one replica that has synced. -/
def sampleFederation (epoch : Int) : FederatedBucket where
  id := "fed"
  ownerUserID := "ada"
  name := "photos"
  primary := { regionID := "eu", bucket := "a" }
  replicas := [{ regionID := "us", bucket := "b", lastSync := 1, health := .inSync }]
  policy := { defaultPolicy with autoFailover := true }
  failoverEpoch := epoch

def sampleControl (epoch : Int) : Control :=
  ⟨SortedStore.empty.put "fed" (sampleFederation epoch), SortedStore.empty, []⟩

/-- Two failovers read the same epoch and both write. -/
def failoverRace : List Action :=
  [.watchdogRead 0 2, .operatorRead 1 ⟨"us", "b"⟩ 2, .promote 1 3 true, .promote 0 4 true]

theorem promotions_fenced_race : Exists fun final =>
    exec (step "fed") (sampleControl 0) failoverRace = some final ∧
    forall epoch, final.log.countP (fun outcome =>
      outcome.result.isOk && outcome.promotion.read.failoverEpoch == epoch) ≤ 1 := by
  have meets : Meets (step "fed") (Fenceable "fed") (sampleControl 0) failoverRace := by
    refine meets_of_step trivial rfl (meets_of_step trivial rfl (meets_of_step ?_ rfl
      (meets_of_step ?_ rfl trivial)))
    · intro cur stored
      cases Option.some.inj stored
      decide
    · intro cur stored
      cases Option.some.inj stored
      decide
  exact ⟨_, rfl, (promotions_fenced "fed" ⟨rfl, rfl⟩ rfl meets rfl).2.1⟩

/-- A promotion whose write fails does not report a changed epoch, and at the
largest `int` a promotion that succeeds takes the epoch down. -/
theorem promotion_write_failure_and_wrap :
    (¬ forall (start final : Control) (actions : List Action), start.Fresh ->
      exec (step "fed") start actions = some final -> forall outcome, outcome ∈ final.log ->
        outcome.result.isOk = false -> outcome.result = .error .epochChanged) ∧
    (¬ forall (start final : Control) (actions : List Action) (stored cur : FederatedBucket),
      start.Fresh -> start.rows.get? "fed" = some stored ->
      exec (step "fed") start actions = some final -> final.rows.get? "fed" = some cur ->
        stored.failoverEpoch ≤ cur.failoverEpoch) := by
  constructor
  · intro stated
    have refused := stated (sampleControl 0) _ [.watchdogRead 0 2, .promote 0 3 false] ⟨rfl, rfl⟩ rfl
      _ List.mem_cons_self rfl
    cases refused
  · intro stated
    have grown := stated (sampleControl maxInt) _ [.watchdogRead 0 2, .promote 0 3 true]
      (sampleFederation maxInt) _ ⟨rfl, rfl⟩ rfl rfl rfl
    exact absurd grown (by decide)

/-! ## Updates between a failover's read and its write -/

/-- The settings an operator can edit.  Health and lag belong to the engine, so
targets are compared by their endpoints. -/
structure SameSettings (first other : FederatedBucket) : Prop where
  name : first.name = other.name
  policy : first.policy = other.policy
  primary : first.primary.endpoint = other.primary.endpoint
  replicas : first.replicas.map ReplicaTarget.endpoint = other.replicas.map ReplicaTarget.endpoint

/-- The replica endpoints after the failover has swapped the primary in. -/
def Promotion.swapped (promotion : Promotion) (fb : FederatedBucket) : List Endpoint :=
  let endpoints := fb.replicas.map ReplicaTarget.endpoint
  match promotion.initiator with
  | .watchdog => endpoints.map fun endpoint =>
      if endpoint = promotion.target.endpoint then fb.primary.endpoint else endpoint
  | .operator => endpoints.replace promotion.target.endpoint fb.primary.endpoint

/-- The written record is the swap of the record it replaces: the promoted
endpoint is one of its replicas and no other setting of it is lost. -/
structure Promotion.Faithful (promotion : Promotion) (cur promoted : FederatedBucket) : Prop where
  target : promotion.target.endpoint ∈ cur.replicas.map ReplicaTarget.endpoint
  name : promoted.name = cur.name
  policy : promoted.policy = cur.policy
  primary : promoted.primary.endpoint = promotion.target.endpoint
  replicas : promoted.replicas.map ReplicaTarget.endpoint = promotion.swapped cur

/-- A promotion that succeeded lost no update. -/
def Outcome.LosesNoUpdate (outcome : Outcome) : Prop :=
  forall promoted, outcome.result = .ok promoted ->
    Exists fun cur => outcome.before = some cur ∧ outcome.after = some promoted ∧
      outcome.promotion.Faithful cur promoted

theorem demoteFirst_endpoints (promoted : Endpoint) (demoted : ReplicaTarget)
    (replicas : List ReplicaTarget) :
    (demoteFirst promoted demoted replicas).map ReplicaTarget.endpoint =
      (replicas.map ReplicaTarget.endpoint).replace promoted demoted.endpoint := by
  induction replicas with
  | nil => rfl
  | cons rep rest ih =>
      by_cases same : rep.endpoint = promoted
      · simp [demoteFirst, same]
      · have other : (promoted == rep.endpoint) = false := beq_false_of_ne (Ne.symm same)
        simp [demoteFirst, List.replace_cons, same, other, ih]

theorem demoteAll_endpoints (promoted : Endpoint) (demoted : ReplicaTarget)
    (replicas : List ReplicaTarget) :
    (demoteAll promoted demoted replicas).map ReplicaTarget.endpoint =
      (replicas.map ReplicaTarget.endpoint).map fun endpoint =>
        if endpoint = promoted then demoted.endpoint else endpoint := by
  simp only [demoteAll, List.map_map]
  apply List.map_congr_left
  intro rep _
  by_cases same : rep.endpoint = promoted <;> simp [same]

/-- The patch swaps the endpoints of the record that was read. -/
theorem Promotion.newReplicas_endpoints (promotion : Promotion) :
    promotion.newReplicas.map ReplicaTarget.endpoint = promotion.swapped promotion.read := by
  unfold Promotion.newReplicas Promotion.swapped
  cases promotion.initiator with
  | watchdog => exact demoteAll_endpoints _ _ _
  | operator => exact demoteFirst_endpoints _ _ _

/-- A patch built from a record with the stored settings is faithful to the
stored record. -/
theorem Promotion.faithful_of_sameSettings {promotion : Promotion} {cur : FederatedBucket}
    (same : SameSettings cur promotion.read) (now epoch : Int) :
    promotion.Faithful cur
      { cur.patched promotion.patch now with failoverEpoch := epoch } where
  target := by
    rw [same.replicas]
    exact List.mem_map_of_mem promotion.listed
  name := same.name.symm
  policy := same.policy.symm
  primary := rfl
  replicas := by
    change promotion.newReplicas.map ReplicaTarget.endpoint = _
    rw [promotion.newReplicas_endpoints]
    unfold Promotion.swapped
    rw [same.replicas, same.primary]

/-- The steps that lose nothing: an update that commits while a failover which
can still succeed is between its read and its write repeats the settings that
failover has read, and no promotion is written at the largest `int`. -/
def UpdatesAgree (id : String) (control : Control) : Action -> Prop
  | .update patch _ persisted => persisted = true ->
      forall failover promotion cur, control.inflight.get? failover = some promotion ->
        control.rows.get? id = some cur -> cur.failoverEpoch = promotion.read.failoverEpoch ->
          SameSettings patch promotion.read
  | .promote _ _ _ => forall cur, control.rows.get? id = some cur -> cur.failoverEpoch ≠ maxInt
  | _ => True

/-- A failover whose epoch is still the stored one has read the stored settings. -/
structure UpdateInv (id : String) (control : Control) : Prop where
  reads : forall failover promotion cur, control.inflight.get? failover = some promotion ->
    control.rows.get? id = some cur ->
      promotion.read.failoverEpoch ≤ cur.failoverEpoch ∧
        (cur.failoverEpoch = promotion.read.failoverEpoch -> SameSettings cur promotion.read)
  log : forall outcome, outcome ∈ control.log -> outcome.LosesNoUpdate

/-- A promotion that fails loses nothing. -/
theorem UpdateInv.log_fail (invariant : UpdateInv id control) {promotion : Promotion}
    {error : StoreError} {before after : Option FederatedBucket} :
    forall outcome, outcome ∈ control.log ++ [⟨promotion, .error error, before, after⟩] ->
      outcome.LosesNoUpdate := by
  intro outcome listed
  rcases List.mem_append.mp listed with earlier | last
  · exact invariant.log outcome earlier
  · rw [List.mem_singleton.mp last]
    intro _ succeeded
    cases succeeded

theorem UpdateInv.begin {failover : Nat} {promotion : Promotion}
    (invariant : UpdateInv id control) (read : control.rows.get? id = some promotion.read) :
    UpdateInv id (control.begin failover promotion) := by
  refine ⟨?_, invariant.log⟩
  intro other started cur reading stored
  change (control.inflight.put failover promotion).get? other = _ at reading
  rw [SortedStore.get?_put] at reading
  split at reading
  · cases Option.some.inj reading
    cases Option.some.inj (read.symm.trans stored)
    exact ⟨le_refl _, fun _ => ⟨rfl, rfl, rfl, rfl⟩⟩
  · exact invariant.reads other started cur reading stored

theorem UpdateInv.finish {failover : Nat} {promotion : Promotion} {now : Int} {persisted : Bool}
    (invariant : UpdateInv id control) (reading : control.inflight.get? failover = some promotion)
    (room : forall cur, control.rows.get? id = some cur -> cur.failoverEpoch ≠ maxInt) :
    UpdateInv id (control.finish id failover promotion now persisted) := by
  have kept : forall other started, (control.inflight.erase failover).get? other = some started ->
      control.inflight.get? other = some started :=
    fun _ _ found => (SortedStore.get?_erase_eq_some.mp found).2
  cases stored : control.rows.get? id with
  | none =>
      have refused : (control.rows.promoteWithEpoch id promotion.read.failoverEpoch promotion.patch
          now persisted) = (.error .notFound, control.rows) := by
        simp only [Rows.promoteWithEpoch, stored]
      refine ⟨?_, ?_⟩
      · intro other started cur _ present
        simp only [Control.finish, refused, stored] at present
        cases present
      · simp only [Control.finish, refused]
        exact invariant.log_fail
  | some cur =>
      rcases finish_cases stored with ⟨error, _, after⟩ | ⟨current, promoted, shape, after⟩
      · rw [after]
        exact ⟨fun other started found reads =>
          invariant.reads other started found (kept _ _ reads), invariant.log_fail⟩
      · have epoch := promoted_epoch current shape (room cur stored)
        rw [after]
        refine ⟨?_, ?_⟩
        · intro other started found reads present
          -- the epoch has moved on, so no other failover can still succeed
          have behind := (invariant.reads other started cur (kept _ _ reads) stored).1
          cases SortedStore.eq_of_get?_put present
          exact ⟨by omega, fun same => absurd same (by omega)⟩
        · intro outcome listed
          rcases List.mem_append.mp listed with earlier | last
          · exact invariant.log outcome earlier
          · rw [List.mem_singleton.mp last]
            intro written succeeded
            cases Except.ok.inj succeeded
            have settings := (invariant.reads failover promotion cur reading stored).2 current
            exact ⟨cur, rfl, rfl, shape ▸ Promotion.faithful_of_sameSettings settings now _⟩

theorem UpdateInv.step (invariant : UpdateInv id control)
    (allowed : UpdatesAgree id control action) (taken : step id control action = some next) :
    UpdateInv id next := by
  rcases step_cases taken with rfl | ⟨failover, promotion, read, rfl⟩ |
    ⟨failover, promotion, now, persisted, rfl, reading, rfl⟩ | ⟨patch, now, persisted, rfl, rfl⟩ |
    ⟨endpoint, health, now, persisted, rfl, rfl⟩ | ⟨persisted, rfl, rfl⟩
  · exact invariant
  · exact invariant.begin read
  · exact invariant.finish reading allowed
  · rcases Rows.update_cases control.rows id patch now persisted with
      kept | ⟨cur, committed, stored, written⟩
    · rw [kept]
      exact invariant
    · rw [written]
      refine ⟨?_, invariant.log⟩
      intro failover promotion found reading present
      cases SortedStore.eq_of_get?_put present
      have before := invariant.reads failover promotion cur reading stored
      refine ⟨before.1, fun same => ?_⟩
      have agrees := allowed committed failover promotion cur reading stored same
      exact ⟨agrees.name, agrees.policy, agrees.primary, agrees.replicas⟩
  · rcases Rows.updateReplicaHealth_cases control.rows id endpoint health now persisted with
      kept | ⟨cur, replicas, stored, same, written⟩
    · rw [kept]
      exact invariant
    · rw [written]
      refine ⟨?_, invariant.log⟩
      intro failover promotion found reading present
      cases SortedStore.eq_of_get?_put present
      have before := invariant.reads failover promotion cur reading stored
      refine ⟨before.1, fun current => ?_⟩
      have settings := before.2 current
      exact ⟨settings.name, settings.policy, settings.primary, same.trans settings.replicas⟩
  · rcases Rows.delete_cases control.rows id persisted with kept | removed
    · rw [kept]
      exact invariant
    · rw [removed]
      refine ⟨?_, invariant.log⟩
      intro failover promotion found reading present
      rw [SortedStore.get?_erase, if_pos rfl] at present
      cases present

/-- No lost update across failover.  In every run whose updates agree with the
failovers they run into, every promotion that succeeds is faithful to the record
stored immediately before it. -/
theorem promotions_lose_no_update (id : String) {start final : Control} {actions : List Action}
    (fresh : start.Fresh) (meets : Meets (step id) (UpdatesAgree id) start actions)
    (run : exec (step id) start actions = some final) :
    forall outcome, outcome ∈ final.log -> outcome.LosesNoUpdate := by
  have initially : UpdateInv id start := by
    refine ⟨?_, ?_⟩
    · intro failover promotion cur reading _
      rw [fresh.1] at reading
      cases reading
    · intro outcome listed
      rw [fresh.2] at listed
      cases listed
  exact (exec_invariant_of_meets
    (fun _ _ _ invariant allowed taken => UpdateInv.step invariant allowed taken)
    initially meets run).log

/-- The operator saves the unchanged settings while the watchdog is about to write. -/
def saveDuringFailover (patch : FederatedBucket) : List Action :=
  [.watchdogRead 0 2, .update patch 3 true, .promote 0 4 true]

theorem promotions_lose_no_update_unchanged : Exists fun final =>
    exec (step "fed") (sampleControl 0) (saveDuringFailover (sampleFederation 0)) = some final ∧
    final.log.length = 1 ∧ forall outcome, outcome ∈ final.log -> outcome.LosesNoUpdate := by
  have meets : Meets (step "fed") (UpdatesAgree "fed") (sampleControl 0)
      (saveDuringFailover (sampleFederation 0)) := by
    refine meets_of_step trivial rfl (meets_of_step ?_ rfl (meets_of_step ?_ rfl trivial))
    · intro _ failover promotion cur reading stored _
      change ((SortedStore.empty : SortedStore Nat Promotion).put 0 _).get? failover = _ at reading
      rw [SortedStore.get?_put] at reading
      split at reading
      · cases Option.some.inj reading
        exact ⟨rfl, rfl, rfl, rfl⟩
      · cases reading
    · intro cur stored
      cases Option.some.inj stored
      decide
  exact ⟨_, rfl, rfl, promotions_lose_no_update "fed" ⟨rfl, rfl⟩ meets rfl⟩

/-- The operator renames the federation while the watchdog is about to write. -/
theorem rename_during_failover_is_lost :
    ¬ forall (start final : Control) (actions : List Action), start.Fresh ->
      exec (step "fed") start actions = some final ->
        forall outcome, outcome ∈ final.log -> outcome.LosesNoUpdate := by
  intro stated
  have kept := stated (sampleControl 0) _
    (saveDuringFailover { sampleFederation 0 with name := "pictures" }) ⟨rfl, rfl⟩ rfl _
    List.mem_cons_self _ rfl
  rcases kept with ⟨cur, before, _, faithful⟩
  cases Option.some.inj before
  exact absurd faithful.name (by decide)

end Failover
end Federation
end Basement
