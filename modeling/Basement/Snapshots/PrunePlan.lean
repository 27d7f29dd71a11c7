import Basement.Snapshots.Windows

namespace Basement
namespace Snapshots

open Library Api Federation

/-!
# What a prune plan is

The two lists of `PlanPrune`, in terms of days, ISO weeks and months.  The plan matches its times
by their nanoseconds in an `int64`, and it is what it is meant to be for exactly those lists whose
times differ in them.  The names of snapshot folders give whole seconds of years with four digits,
which do.
-/

/-- No count of the second policy is smaller. -/
def Raised (policy more : Backups.RetentionPolicy) : Prop :=
  forall period : Period, period.count policy ≤ period.count more

/-- The period of a time is one of the last so many that end with the present one. -/
def Period.Recent (period : Period) (policy : Backups.RetentionPolicy) (now ts : Int) : Prop :=
  period.index now - period.count policy < period.index ts ∧ period.index ts ≤ period.index now

/-- No time of the list in the same period is later. -/
def Period.IsLatest (period : Period) (snapshots : List Int) (ts : Int) : Prop :=
  forall other, other ∈ snapshots -> period.index other = period.index ts -> other ≤ ts

/-- Two ordered lists without repetitions that have the times of the list between them.  What is
kept lies in the future or is the latest of a recent period; more is kept where more is asked for,
and a second plan has nothing to do. -/
structure Specified (snapshots : List Int) (policy : Backups.RetentionPolicy) (now : Int) : Prop where
  keepOrdered : (planPrune snapshots policy now).1.Pairwise (· < ·)
  pruneOrdered : (planPrune snapshots policy now).2.Pairwise (· < ·)
  disjoint : List.Disjoint (planPrune snapshots policy now).1 (planPrune snapshots policy now).2
  covers : forall ts, ts ∈ (planPrune snapshots policy now).1 ∨
    ts ∈ (planPrune snapshots policy now).2 ↔ ts ∈ snapshots
  keeps : forall ts, ts ∈ (planPrune snapshots policy now).1 ↔ ts ∈ snapshots ∧
    (now < ts ∨ Exists fun period : Period =>
      period.Recent policy now ts ∧ period.IsLatest snapshots ts)
  raised : forall more, Raised policy more ->
    (planPrune snapshots policy now).1 ⊆ (planPrune snapshots more now).1
  settled : planPrune (planPrune snapshots policy now).1 policy now =
    ((planPrune snapshots policy now).1, [])

theorem planPrune_prune_sorted (snapshots : List Int) (policy : Backups.RetentionPolicy)
    (now : Int) : (planPrune snapshots policy now).2.Pairwise (· < ·) := by
  rw [planPrune_eq]
  exact (plannedTimes_sorted snapshots).filter _

theorem planPrune_disjoint (snapshots : List Int) (policy : Backups.RetentionPolicy) (now : Int) :
    List.Disjoint (planPrune snapshots policy now).1 (planPrune snapshots policy now).2 := by
  rw [planPrune_eq]
  intro ts keep prune
  have dropped := (List.mem_filter.mp prune).2
  rw [(List.mem_filter.mp keep).2] at dropped
  cases dropped

/-- What is planned differs in its nanoseconds. -/
theorem plannedTimes_toldApart (snapshots : List Int) : ToldApart (plannedTimes snapshots) := by
  intro first member other otherMember same
  have distinct : ((plannedTimes snapshots).map unixNano).Nodup :=
    List.pairwise_map.mpr (distinctTimes_apart _ []).2
  exact List.inj_on_of_nodup_map distinct member otherMember same

theorem mem_planPrune_or (snapshots : List Int) (policy : Backups.RetentionPolicy) (now ts : Int) :
    ts ∈ (planPrune snapshots policy now).1 ∨ ts ∈ (planPrune snapshots policy now).2 ↔
      ts ∈ plannedTimes snapshots := by
  rw [planPrune_eq, List.mem_filter, List.mem_filter, ← and_or_left, and_iff_left]
  cases decide (unixNano ts ∈ (keptSnapshots snapshots policy now).map unixNano) with
  | true => exact Or.inl rfl
  | false => exact Or.inr rfl

/-- A second plan keeps everything that the first one has kept. -/
theorem ToldApart.settled {snapshots : List Int} (apart : ToldApart snapshots)
    (policy : Backups.RetentionPolicy) (now : Int) :
    planPrune (planPrune snapshots policy now).1 policy now =
      ((planPrune snapshots policy now).1, []) := by
  have kept : forall ts, ts ∈ (planPrune snapshots policy now).1 -> ts ∈ snapshots :=
    fun ts member => (apart.mem_keep.mp member).1
  have keptApart : ToldApart (planPrune snapshots policy now).1 :=
    fun first member other otherMember same =>
      apart first (kept first member) other (kept other otherMember) same
  have again : forall ts, ts ∈ (planPrune snapshots policy now).1 ->
      (windows policy).Keeps {other | other ∈ (planPrune snapshots policy now).1} now ts :=
    fun ts member => (apart.mem_keep.mp member).2.mono kept
  apply Prod.ext
  · apply (planPrune_sorted _ policy now).eq_of_mem_iff (planPrune_sorted snapshots policy now)
    intro ts
    rw [keptApart.mem_keep]
    exact ⟨fun both => both.1, fun member => ⟨member, again ts member⟩⟩
  · apply List.eq_nil_iff_forall_not_mem.mpr
    intro ts member
    rcases keptApart.mem_prune.mp member with ⟨held, dropped⟩
    exact dropped (again ts held)

theorem ToldApart.specified {snapshots : List Int} (apart : ToldApart snapshots)
    (policy : Backups.RetentionPolicy) (now : Int) : Specified snapshots policy now where
  keepOrdered := planPrune_sorted snapshots policy now
  pruneOrdered := planPrune_prune_sorted snapshots policy now
  disjoint := planPrune_disjoint snapshots policy now
  covers := fun ts => (mem_planPrune_or snapshots policy now ts).trans (apart.mem_plannedTimes ts)
  keeps := fun _ => apart.mem_keep
  raised := by
    intro more raised ts member
    rcases apart.mem_keep.mp member with ⟨listed, keeps⟩
    have wide := @SlidingWindows.Policy.Keeps.widen _ _ _ (windows policy) (windows more) _ _ _ rfl
      raised keeps
    exact apart.mem_keep.mpr ⟨listed, wide⟩
  settled := apart.settled policy now

/-- A plan is specified for exactly the times that differ in their nanoseconds, and for all times
that the names of snapshot folders give. -/
theorem planPrune_specified (snapshots : List Int) (policy : Backups.RetentionPolicy) (now : Int) :
    (ToldApart snapshots ↔ Specified snapshots policy now) ∧
      ((forall ts, ts ∈ snapshots -> Exists fun folder => parseSnapshotTimestamp folder = some ts) ->
        Specified snapshots policy now) := by
  refine ⟨⟨fun apart => apart.specified policy now, ?_⟩, ?_⟩
  · intro specified first member other otherMember
    have planned : forall ts, ts ∈ snapshots -> ts ∈ plannedTimes snapshots := fun ts listed =>
      (mem_planPrune_or snapshots policy now ts).mp ((specified.covers ts).mpr listed)
    exact plannedTimes_toldApart snapshots first (planned first member) other
      (planned other otherMember)
  · intro named
    exact (toldApart_of_folders fun ts listed => folderTime_iff.mpr (named ts listed)).specified
      policy now

/-- The two folders of a night make a plan with its specification. -/
theorem planPrune_specified_night :
    Specified nightSnapshots Backups.defaultRetention nightRun :=
  (planPrune_specified nightSnapshots Backups.defaultRetention nightRun).2 fun ts listed =>
    folderTime_iff.mp ((show forall ts, ts ∈ nightSnapshots -> FolderTime ts by decide +kernel) ts
      listed)

end Snapshots
end Basement
