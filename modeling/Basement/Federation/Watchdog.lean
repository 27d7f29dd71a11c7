import Basement.Federation.Failover
import Basement.Library.Transition
import Mathlib.Data.Int.DivMod

namespace Basement
namespace Federation
namespace Watchdog

open Library Transition
open Failover (maxInt)

/-!
# The watchdog

A federation with automatic failover has a watchdog, which probes the primary at once and then at
every tick of its own ticker.  It counts the probes that fail and fails over when their number
reaches the one that the policy's window stands for.  Probes stand at the ends of intervals: one
failed probe is no time at all, and two are one interval.

Ticks that come while a probe is still waiting are skipped.  The policy is read at every tick, and
what the store and the primary answer are answers of the environment.
-/

/-- One probe of the primary. -/
structure Probe where
  time : Int
  healthy : Bool
  deriving DecidableEq, Repr

/-- A call of `triggerAutoFailover`, with the probes up to it, the last one first. -/
structure Trigger where
  fb : FederatedBucket
  time : Int
  probes : List Probe
  deriving DecidableEq, Repr

/-- A watchdog.  Beside what it counts there are the probes it has made, what it has triggered, and
`age`, the number of intervals since the first probe of the present run of failures. -/
structure State where
  running : Bool := false
  now : Int := 0
  consecutiveFailures : Nat := 0
  age : Nat := 0
  probes : List Probe := []
  triggers : List Trigger := []
  deriving DecidableEq, Repr

/-- The probes that have failed since the last one that did not. -/
def failures (probes : List Probe) : List Probe := probes.takeWhile fun probe => !probe.healthy

/-- The window has passed since the first probe of the unbroken run of failures. -/
def Trigger.InTime (trigger : Trigger) : Prop :=
  Exists fun first => (failures trigger.probes).getLast? = some first ∧
    trigger.fb.policy.autoFailoverSec * second ≤ trigger.time - first.time

/-! ## One tick -/

/-- A sum of Go's `int`s, which wraps around. -/
def wrapped (sum : Int) : Int := sum.bmod (2 ^ 64)

/-- The interval in whole seconds. -/
def intervalSecs (interval : Int) : Int :=
  if interval.tdiv second < 1 then 1 else interval.tdiv second

/-- How many failed probes the window of a policy stands for. -/
def probesRequired (interval : Int) (policy : FederationPolicy) : Int :=
  if 0 < policy.autoFailoverSec then
    max 1 ((wrapped (policy.autoFailoverSec + intervalSecs interval - 1)).tdiv
      (intervalSecs interval))
  else 1

/-- `tickWatchdog`. -/
def State.tickWatchdog (interval : Int) (state : State)
    (loaded : Except StoreError FederatedBucket) (healthy : Bool) : State :=
  match loaded with
  | .error error => if error = .notFound then { state with running := false } else state
  | .ok fb =>
      if fb.policy.autoFailover = false then { state with running := false }
      else if healthy then
        { state with
          consecutiveFailures := 0
          age := 0
          probes := ⟨state.now, healthy⟩ :: state.probes }
      else if (state.consecutiveFailures : Int) + 1 < probesRequired interval fb.policy then
        { state with
          consecutiveFailures := state.consecutiveFailures + 1
          probes := ⟨state.now, healthy⟩ :: state.probes }
      else
        { state with
          consecutiveFailures := 0
          probes := ⟨state.now, healthy⟩ :: state.probes
          triggers := ⟨fb, state.now, ⟨state.now, healthy⟩ :: state.probes⟩ :: state.triggers }

/-! ## Runs -/

/-- `runWatchdog` starts with a tick of its own; `tick` is one of the ticker, after a number of
skipped ones. -/
inductive Action where
  | start (time : Int) (loaded : Except StoreError FederatedBucket) (healthy : Bool)
  | tick (skipped : Nat) (loaded : Except StoreError FederatedBucket) (healthy : Bool)
  | stop

/-- A watchdog that is spawned knows of no probe. -/
def State.spawned (state : State) (time : Int) : State :=
  { running := true, now := time, triggers := state.triggers }

/-- The ticker has gone on by some intervals. -/
def State.advanced (interval : Int) (state : State) (intervals : Nat) : State :=
  { state with
    now := state.now + intervals * interval
    age := if failures state.probes = [] then 0 else state.age + intervals }

/-- The watchdog as an action finds it. -/
def State.ready (interval : Int) (state : State) : Action -> State
  | .start time _ _ => state.spawned time
  | .tick skipped _ _ => state.advanced interval (skipped + 1)
  | .stop => state

def step (interval : Int) (state : State) : Action -> Option State
  | .start time loaded healthy =>
      if state.running then none
      else some ((state.spawned time).tickWatchdog interval loaded healthy)
  | .tick skipped loaded healthy =>
      if state.running then
        some ((state.advanced interval (skipped + 1)).tickWatchdog interval loaded healthy)
      else none
  | .stop => if state.running then some { state with running := false } else none

/-- The federation that a tick has read, if its probe failed. -/
def failing (loaded : Except StoreError FederatedBucket) (healthy : Bool) : Option FederatedBucket :=
  match loaded with
  | .error _ => none
  | .ok fb => if fb.policy.autoFailover && !healthy then some fb else none

def Action.failing : Action -> Option FederatedBucket
  | .start _ loaded healthy => Watchdog.failing loaded healthy
  | .tick _ loaded healthy => Watchdog.failing loaded healthy
  | .stop => none

/-- If one more failed probe is enough for the count, the intervals of the run are enough for the
window. -/
def State.OldEnough (interval : Int) (state : State) (fb : FederatedBucket) : Prop :=
  probesRequired interval fb.policy ≤ state.consecutiveFailures + 1 ->
    fb.policy.autoFailoverSec * second ≤ state.age * interval

/-- A failed probe finds its run of failures old enough. -/
def OldEnough (interval : Int) (state : State) (action : Action) : Prop :=
  forall fb, fb ∈ action.failing -> (state.ready interval action).OldEnough interval fb

instance (interval : Int) (state : State) (fb : FederatedBucket) :
    Decidable (state.OldEnough interval fb) :=
  inferInstanceAs (Decidable (_ -> _))

instance (interval : Int) (state : State) (action : Action) :
    Decidable (OldEnough interval state action) :=
  inferInstanceAs (Decidable (forall fb, fb ∈ action.failing -> _))

/-- Every failover so far was in time. -/
def TriggersInTime (state : State) : Prop :=
  forall trigger, trigger ∈ state.triggers -> trigger.InTime

/-! ## The age of a run of failures -/

/-- The present is as many intervals after the first failed probe as the age says. -/
def Aged (interval : Int) (state : State) : Prop :=
  (failures state.probes = [] -> state.age = 0) ∧
    forall first, (failures state.probes).getLast? = some first ->
      state.now = first.time + state.age * interval

theorem failures_failed (time : Int) (probes : List Probe) :
    failures (⟨time, false⟩ :: probes) = ⟨time, false⟩ :: failures probes := rfl

/-- The first failure of a run stays the first one. -/
theorem Aged.first_failed {interval : Int} {state : State} (aged : Aged interval state) :
    Exists fun first => (failures (⟨state.now, false⟩ :: state.probes)).getLast? = some first ∧
      state.now = first.time + state.age * interval := by
  rw [failures_failed]
  cases before : failures state.probes with
  | nil =>
      refine ⟨⟨state.now, false⟩, rfl, ?_⟩
      rw [aged.1 before]
      simp
  | cons last rest =>
      rw [List.getLast?_cons_cons, ← before]
      cases ending : (failures state.probes).getLast? with
      | none =>
          rw [List.getLast?_eq_none_iff.mp ending] at before
          cases before
      | some first => exact ⟨first, rfl, aged.2 first ending⟩

theorem Aged.spawned (interval : Int) (state : State) (time : Int) :
    Aged interval (state.spawned time) := by
  refine ⟨fun _ => rfl, ?_⟩
  intro first ending
  cases ending

theorem Aged.advanced {interval : Int} {state : State} (aged : Aged interval state)
    (intervals : Nat) : Aged interval (state.advanced interval intervals) := by
  constructor
  · exact fun none => if_pos none
  · intro first ending
    have broken : failures state.probes ≠ [] := by
      intro none
      rw [State.advanced, none] at ending
      cases ending
    have before := aged.2 first ending
    simp only [State.advanced, if_neg broken, before, Nat.cast_add]
    rw [add_mul, add_assoc]

/-- What a tick does: the probe fails and is counted, it fails and is enough, or there is no
failure and nothing is triggered. -/
theorem tickWatchdog_cases (interval : Int) (state : State)
    (loaded : Except StoreError FederatedBucket) (healthy : Bool) :
    (failing loaded healthy = none ∧ Exists fun running =>
      state.tickWatchdog interval loaded healthy = { state with running := running } ∨
      state.tickWatchdog interval loaded healthy =
        { state with
          consecutiveFailures := 0
          age := 0
          probes := ⟨state.now, true⟩ :: state.probes }) ∨
    (Exists fun fb => failing loaded healthy = some fb ∧
      (state.consecutiveFailures : Int) + 1 < probesRequired interval fb.policy ∧
      state.tickWatchdog interval loaded healthy =
        { state with
          consecutiveFailures := state.consecutiveFailures + 1
          probes := ⟨state.now, false⟩ :: state.probes }) ∨
    Exists fun fb => failing loaded healthy = some fb ∧
      probesRequired interval fb.policy ≤ state.consecutiveFailures + 1 ∧
      state.tickWatchdog interval loaded healthy =
        { state with
          consecutiveFailures := 0
          probes := ⟨state.now, false⟩ :: state.probes
          triggers := ⟨fb, state.now, ⟨state.now, false⟩ :: state.probes⟩ :: state.triggers } := by
  cases loaded with
  | error error =>
      refine Or.inl ⟨rfl, ?_⟩
      unfold State.tickWatchdog
      by_cases deleted : error = .notFound
      · exact ⟨false, Or.inl (by simp [deleted])⟩
      · exact ⟨state.running, Or.inl (by simp [deleted])⟩
  | ok fb =>
      by_cases enabled : fb.policy.autoFailover = true
      · cases healthy with
        | true => exact Or.inl ⟨by simp [failing], true, Or.inr (by simp [State.tickWatchdog, enabled])⟩
        | false =>
            have failed : failing (.ok fb) false = some fb := by simp [failing, enabled]
            by_cases fewer : (state.consecutiveFailures : Int) + 1 < probesRequired interval fb.policy
            · exact Or.inr (Or.inl ⟨fb, failed, fewer,
                by simp [State.tickWatchdog, enabled, fewer]⟩)
            · exact Or.inr (Or.inr ⟨fb, failed, not_lt.mp fewer,
                by simp [State.tickWatchdog, enabled, fewer]⟩)
      · exact Or.inl ⟨by simp [failing, enabled], false,
          Or.inl (by simp [State.tickWatchdog, enabled])⟩

theorem Aged.tickWatchdog {interval : Int} {state : State} (aged : Aged interval state)
    (loaded : Except StoreError FederatedBucket) (healthy : Bool) :
    Aged interval (state.tickWatchdog interval loaded healthy) := by
  have failed : forall next : State, next.now = state.now -> next.age = state.age ->
      next.probes = ⟨state.now, false⟩ :: state.probes -> Aged interval next := by
    intro next now age probes
    rcases aged.first_failed with ⟨first, ending, elapsed⟩
    constructor
    · intro none
      rw [probes, failures_failed] at none
      cases none
    · intro other otherEnding
      rw [probes, ending] at otherEnding
      rw [now, age, ← Option.some.inj otherEnding, elapsed]
  rcases tickWatchdog_cases interval state loaded healthy with
    ⟨_, running, same | healthy⟩ | ⟨fb, _, _, counted⟩ | ⟨fb, _, _, triggered⟩
  · rw [same]
    exact aged
  · rw [healthy]
    refine ⟨fun _ => rfl, ?_⟩
    intro first ending
    cases ending
  · rw [counted]
    exact failed _ rfl rfl rfl
  · rw [triggered]
    exact failed _ rfl rfl rfl

/-- What a step does: the watchdog stops, or it ticks in the state that the action finds. -/
theorem step_cases {interval : Int} {state next : State} {action : Action}
    (taken : step interval state action = some next) :
    (action.failing = none ∧ next = { state with running := false }) ∨
      Exists fun loaded => Exists fun healthy => action.failing = failing loaded healthy ∧
        next = (state.ready interval action).tickWatchdog interval loaded healthy := by
  cases action with
  | start time loaded healthy =>
      simp only [step] at taken
      split at taken
      · cases taken
      · exact Or.inr ⟨loaded, healthy, rfl, (Option.some.inj taken).symm⟩
  | tick skipped loaded healthy =>
      simp only [step] at taken
      split at taken
      · exact Or.inr ⟨loaded, healthy, rfl, (Option.some.inj taken).symm⟩
      · cases taken
  | stop =>
      simp only [step] at taken
      split at taken
      · exact Or.inl ⟨rfl, (Option.some.inj taken).symm⟩
      · cases taken

theorem Aged.ready {interval : Int} {state : State} (aged : Aged interval state)
    (action : Action) : Aged interval (state.ready interval action) := by
  cases action with
  | start time loaded healthy => exact Aged.spawned interval state time
  | tick skipped loaded healthy => exact aged.advanced (skipped + 1)
  | stop => exact aged

theorem ready_triggers (interval : Int) (state : State) (action : Action) :
    (state.ready interval action).triggers = state.triggers := by
  cases action <;> rfl

theorem Aged.step {interval : Int} {state next : State} {action : Action}
    (aged : Aged interval state) (taken : step interval state action = some next) :
    Aged interval next := by
  rcases step_cases taken with ⟨_, rfl⟩ | ⟨loaded, healthy, _, rfl⟩
  · exact aged
  · exact (aged.ready action).tickWatchdog loaded healthy

/-! ## Failovers in time -/

/-- A tick keeps the failovers in time exactly if a failed probe finds its run old enough. -/
theorem triggersInTime_tickWatchdog_iff {interval : Int} {state : State}
    (aged : Aged interval state) (inTime : TriggersInTime state)
    (loaded : Except StoreError FederatedBucket) (healthy : Bool) :
    TriggersInTime (state.tickWatchdog interval loaded healthy) ↔
      forall fb, fb ∈ failing loaded healthy -> state.OldEnough interval fb := by
  rcases tickWatchdog_cases interval state loaded healthy with
    ⟨none, running, same | healthy⟩ | ⟨fb, failed, fewer, counted⟩ | ⟨fb, failed, enough, triggered⟩
  · rw [same, none]
    exact iff_of_true inTime (by rintro fb ⟨⟩)
  · rw [healthy, none]
    exact iff_of_true inTime (by rintro fb ⟨⟩)
  · rw [counted, failed]
    refine iff_of_true inTime ?_
    rintro _ ⟨⟩ enough
    exact absurd fewer (not_lt.mpr enough)
  · rw [triggered, failed]
    rcases aged.first_failed with ⟨first, ending, elapsed⟩
    constructor
    · rintro stored _ ⟨⟩ _
      rcases stored _ List.mem_cons_self with ⟨other, otherEnding, passed⟩
      cases Option.some.inj (ending.symm.trans otherEnding)
      dsimp only at passed
      omega
    · intro old trigger listed
      rcases List.mem_cons.mp listed with rfl | earlier
      · refine ⟨first, ending, ?_⟩
        have passed := old fb rfl enough
        dsimp only
        omega
      · exact inTime trigger earlier

theorem triggersInTime_step_iff {interval : Int} {state next : State} {action : Action}
    (aged : Aged interval state) (inTime : TriggersInTime state)
    (taken : step interval state action = some next) :
    TriggersInTime next ↔ OldEnough interval state action := by
  unfold OldEnough
  rcases step_cases taken with ⟨none, rfl⟩ | ⟨loaded, healthy, failed, rfl⟩
  · rw [none]
    exact iff_of_true inTime (by rintro fb ⟨⟩)
  · rw [failed]
    refine triggersInTime_tickWatchdog_iff (aged.ready action) ?_ loaded healthy
    unfold TriggersInTime
    rw [ready_triggers]
    exact inTime

/-- How many intervals of whole seconds make up the window. -/
def intervalsRequired (seconds : Nat) (policy : FederationPolicy) : Int :=
  (policy.autoFailoverSec + seconds - 1) / seconds

theorem intervalsRequired_le_iff {seconds : Nat} (positive : 0 < seconds)
    (policy : FederationPolicy) (age : Nat) :
    intervalsRequired seconds policy ≤ age ↔
      policy.autoFailoverSec * second ≤ age * (seconds * second) := by
  have divisor : (0 : Int) < seconds := by exact_mod_cast positive
  have nanoseconds : (0 : Int) < second := by decide
  rw [← mul_assoc, mul_le_mul_iff_left₀ nanoseconds, intervalsRequired, ← Int.lt_add_one_iff,
    Int.ediv_lt_iff_lt_mul divisor, add_mul]
  omega

/-- The failed probes of the count are as many as the intervals of the run have to be. -/
def CountedIntervals (interval : Int) (seconds : Nat) (state : State) (action : Action) : Prop :=
  forall fb, fb ∈ action.failing ->
    probesRequired interval fb.policy ≤ (state.ready interval action).consecutiveFailures + 1 ->
      intervalsRequired seconds fb.policy ≤ (state.ready interval action).age

/-- A federation with a window of three quarters of a minute. -/
def sampleFederation : FederatedBucket where
  id := "fed"
  ownerUserID := "ada"
  name := "photos"
  primary := { regionID := "r1", bucket := "photos" }
  replicas := [{ regionID := "r2", bucket := "photos", lastSync := 5, health := .inSync }]
  policy := { defaultPolicy with autoFailover := true, autoFailoverSec := 45 }

/-- The second probe of an outage comes late, after a tick that was skipped. -/
def lateOutage : List Action :=
  [.start 0 (.ok sampleFederation) true, .tick 0 (.ok sampleFederation) false,
    .tick 1 (.ok sampleFederation) false]

theorem lateOutage_runs : (exec (step (30 * second)) {} lateOutage).isSome = true := by
  decide +kernel

/-- The watchdog is spawned and every probe fails. -/
def outage (fb : FederatedBucket) (time : Int) (ticks : Nat) : List Action :=
  .start time (.ok fb) false :: List.replicate ticks (.tick 0 (.ok fb) false)

theorem outage_succ (fb : FederatedBucket) (time : Int) (ticks : Nat) :
    outage fb time (ticks + 1) = outage fb time ticks ++ [.tick 0 (.ok fb) false] := by
  rw [outage, List.replicate_succ', ← List.cons_append]
  rfl

/-- What an outage leaves before the last probe: a count that has one more than the intervals. -/
structure Counting (fb : FederatedBucket) (interval : Int) (ticks : Nat) (state : State) : Prop where
  running : state.running = true
  count : state.consecutiveFailures = ticks + 1
  age : state.age = ticks
  broken : failures state.probes ≠ []
  aged : Aged interval state
  quiet : state.triggers = []

theorem failing_outage {fb : FederatedBucket} (enabled : fb.policy.autoFailover = true) :
    failing (.ok fb) false = some fb := by
  simp [failing, enabled]

/-- A failed probe that is not enough. -/
theorem tickWatchdog_counted {interval : Int} {state : State} {fb : FederatedBucket}
    (enabled : fb.policy.autoFailover = true)
    (fewer : (state.consecutiveFailures : Int) + 1 < probesRequired interval fb.policy) :
    state.tickWatchdog interval (.ok fb) false =
      { state with
        consecutiveFailures := state.consecutiveFailures + 1
        probes := ⟨state.now, false⟩ :: state.probes } := by
  simp [State.tickWatchdog, enabled, fewer]

theorem outage_counting {fb : FederatedBucket} (enabled : fb.policy.autoFailover = true)
    (interval time : Int) (ticks : Nat)
    (fewer : (ticks : Int) + 1 < probesRequired interval fb.policy) :
    Exists fun state => exec (step interval) {} (outage fb time ticks) = some state ∧
      Counting fb interval ticks state := by
  induction ticks with
  | zero =>
      have counted := @tickWatchdog_counted interval (({} : State).spawned time) fb enabled fewer
      refine ⟨_, exec_cons.mpr ⟨_, rfl, rfl⟩, ?_⟩
      rw [counted]
      exact ⟨rfl, rfl, rfl, by simp [failures_failed], counted ▸
        (Aged.spawned interval {} time).tickWatchdog (.ok fb) false, rfl⟩
  | succ ticks ih =>
      rcases ih (by omega) with ⟨state, run, counting⟩
      have ready : ((state.advanced interval 1).consecutiveFailures : Int) + 1 <
          probesRequired interval fb.policy := by
        change (state.consecutiveFailures : Int) + 1 < _
        rw [counting.count]
        exact_mod_cast fewer
      have counted := tickWatchdog_counted enabled ready
      refine ⟨(state.advanced interval 1).tickWatchdog interval (.ok fb) false, ?_, ?_⟩
      · rw [outage_succ]
        exact (exec_append _ _).mpr ⟨state, run, exec_cons.mpr
          ⟨_, by simp [step, counting.running], rfl⟩⟩
      · have age : (state.advanced interval 1).age = ticks + 1 := by
          rw [State.advanced, if_neg counting.broken, counting.age]
        exact {
          running := by rw [counted]; exact counting.running
          count := by rw [counted]; exact congrArg (· + 1) counting.count
          age := by rw [counted]; exact age
          broken := by rw [counted]; simp [failures_failed]
          aged := (counting.aged.advanced 1).tickWatchdog (.ok fb) false
          quiet := by rw [counted]; exact counting.quiet }

/-- Where the window is no longer than the intervals between the required probes, an outage that
meets a quiet watchdog ends in a failover that is not in time. -/
theorem outage_not_in_time {fb : FederatedBucket} (enabled : fb.policy.autoFailover = true)
    {interval : Int} (time : Int) {ticks : Nat}
    (required : probesRequired interval fb.policy = ticks + 1)
    (short : ticks * interval < fb.policy.autoFailoverSec * second) :
    Exists fun final => exec (step interval) {} (outage fb time ticks) = some final ∧
      ¬ TriggersInTime final := by
  have early : forall state : State, Aged interval state -> state.consecutiveFailures = ticks ->
      state.age = ticks -> TriggersInTime state ->
        ¬ TriggersInTime (state.tickWatchdog interval (.ok fb) false) := by
    intro state aged count age inTime kept
    have old := (triggersInTime_tickWatchdog_iff aged inTime (.ok fb) false).mp kept fb
      (failing_outage enabled) (by rw [count, required])
    rw [age] at old
    exact absurd short (not_lt.mpr old)
  cases ticks with
  | zero =>
      exact ⟨_, exec_cons.mpr ⟨_, rfl, rfl⟩,
        early _ (Aged.spawned interval {} time) rfl rfl (by rintro trigger ⟨⟩)⟩
  | succ ticks =>
      rcases outage_counting enabled interval time ticks (by omega) with ⟨state, run, counting⟩
      refine ⟨(state.advanced interval 1).tickWatchdog interval (.ok fb) false, ?_, ?_⟩
      · rw [outage_succ]
        exact (exec_append _ _).mpr ⟨state, run, exec_cons.mpr
          ⟨_, by simp [step, counting.running], rfl⟩⟩
      · apply early _ (counting.aged.advanced 1) counting.count
        · rw [State.advanced, if_neg counting.broken, counting.age]
        · intro trigger listed
          rw [State.advanced, counting.quiet] at listed
          cases listed

/-- With an interval of whole seconds that is every window. -/
theorem outage_cut_short {fb : FederatedBucket} (enabled : fb.policy.autoFailover = true)
    {seconds : Nat} (positive : 0 < seconds) (window : 0 < fb.policy.autoFailoverSec)
    (fits : fb.policy.autoFailoverSec + seconds - 1 ≤ maxInt) (time : Int) :
    Exists fun ticks => Exists fun final =>
      exec (step (seconds * second)) {} (outage fb time ticks) = some final ∧
        ¬ TriggersInTime final := by
  have whole : intervalSecs (seconds * second) = seconds := by
    rw [intervalSecs, Int.mul_tdiv_cancel _ (by decide), if_neg (by omega)]
  have unwrapped : wrapped (fb.policy.autoFailoverSec + seconds - 1) =
      fb.policy.autoFailoverSec + seconds - 1 := by
    unfold maxInt at fits
    exact Int.bmod_eq_of_le (by omega) (by omega)
  have divisor : (0 : Int) < seconds := by exact_mod_cast positive
  have many : 1 ≤ intervalsRequired seconds fb.policy := by
    rw [intervalsRequired, Int.le_ediv_iff_mul_le divisor]
    omega
  have required : probesRequired (seconds * second) fb.policy =
      intervalsRequired seconds fb.policy := by
    rw [probesRequired, if_pos window, whole, unwrapped,
      Int.tdiv_eq_ediv_of_nonneg (by omega), ← intervalsRequired, max_eq_right many]
  rcases Int.eq_ofNat_of_zero_le (show 0 ≤ intervalsRequired seconds fb.policy - 1 by omega) with
    ⟨ticks, count⟩
  refine ⟨ticks, outage_not_in_time enabled time (by omega) ?_⟩
  apply not_le.mp
  rw [← intervalsRequired_le_iff positive]
  omega

end Watchdog
end Federation
end Basement
