import Basement.Api.Backups
import Basement.Library.SortedStore
import Basement.Snapshots.Naming
import Mathlib.Data.List.Sort

namespace Basement
namespace Snapshots

open Library Library.Layout Api Federation

/-!
# Retention

`PlanPrune` keeps the latest snapshot of each of the last days, ISO weeks and months of a
policy, and every snapshot from the future.  The periods are matched by formatted keys, the
kept snapshots by their nanoseconds in an `int64`.
-/

/-- `t.UnixNano()`. -/
def unixNano (t : Int) : Int := (t - 62135596800 * second).bmod (2 ^ 64)

/-- `Format("2006-01")`. -/
def monthKey (year month : Int) : String :=
  String.ofList (renderYear year ++ '-' :: padded 2 month.toNat)

/-- `Format("2006-01-02")`. -/
def dayKey (day : Int) : String :=
  monthKey (Calendar.date day).year (Calendar.date day).month ++
    String.ofList ('-' :: padded 2 (Calendar.date day).day.toNat)

/-- `%04d`; the sign counts for the width. -/
def renderISOYear (year : Int) : List Char :=
  if 0 ≤ year then padded 4 year.toNat else '-' :: padded 3 (-year).toNat

/-- `fmt.Sprintf("%04d-W%02d", isoYear, isoWeek)`. -/
def weekKey (day : Int) : String :=
  String.ofList (renderISOYear (Calendar.isoWeek day).1 ++
    '-' :: 'W' :: padded 2 (Calendar.isoWeek day).2.toNat)

/-- The period keys of a snapshot. -/
def snapshotDay (ts : Int) : String := dayKey (dayOf ts)

def snapshotWeek (ts : Int) : String := weekKey (dayOf ts)

def snapshotMonth (ts : Int) : String :=
  monthKey (Calendar.date (dayOf ts)).year (Calendar.date (dayOf ts)).month

abbrev PeriodIndex := SortedStore String Int

/-- Note a snapshot as the latest of its period if it is. -/
def PeriodIndex.note (index : PeriodIndex) (key : String) (ts : Int) : PeriodIndex :=
  match index.get? key with
  | some cur => if cur < ts then index.put key ts else index
  | none => index.put key ts

/-- The latest snapshot of each period. -/
def latestPer (keyOf : Int -> String) (snapshots : List Int) : PeriodIndex :=
  snapshots.foldl (fun index ts => index.note (keyOf ts) ts) SortedStore.empty

/-- The days, weeks and months of the windows, the current one first. -/
def dailyWindow (policy : Backups.RetentionPolicy) (now : Int) : List String :=
  (List.range policy.keepDaily.toNat).map fun i => dayKey (dayOf now - i)

def weeklyWindow (policy : Backups.RetentionPolicy) (now : Int) : List String :=
  (List.range policy.keepWeekly.toNat).map fun i => weekKey (dayOf now - 7 * i)

def monthlyWindow (policy : Backups.RetentionPolicy) (now : Int) : List String :=
  (List.range policy.keepMonthly.toNat).map fun i =>
    monthKey (Calendar.monthsBefore (Calendar.date (dayOf now)) i).1
      (Calendar.monthsBefore (Calendar.date (dayOf now)) i).2

/-- The snapshots that the windows and the guard against clock skew keep. -/
def keptSnapshots (snapshots : List Int) (policy : Backups.RetentionPolicy) (now : Int) : List Int :=
  (dailyWindow policy now).filterMap (latestPer snapshotDay snapshots).get? ++
    (weeklyWindow policy now).filterMap (latestPer snapshotWeek snapshots).get? ++
    (monthlyWindow policy now).filterMap (latestPer snapshotMonth snapshots).get? ++
    snapshots.filter fun ts => decide (now < ts)

/-- Split the sorted snapshots, each time once. -/
def splitKept (kept : List Int) : List Int -> List Int -> List Int × List Int
  | _, [] => ([], [])
  | seen, ts :: rest =>
      if unixNano ts ∈ seen then splitKept kept seen rest
      else if unixNano ts ∈ kept then
        (ts :: (splitKept kept (unixNano ts :: seen) rest).1,
          (splitKept kept (unixNano ts :: seen) rest).2)
      else
        ((splitKept kept (unixNano ts :: seen) rest).1,
          ts :: (splitKept kept (unixNano ts :: seen) rest).2)

/-- `PlanPrune`: what to keep and what to prune. -/
def planPrune (snapshots : List Int) (policy : Backups.RetentionPolicy) (now : Int) :
    List Int × List Int :=
  splitKept ((keptSnapshots snapshots policy now).map unixNano) []
    (snapshots.insertionSort (· ≤ ·))

/-- `ResolveRetention`. -/
def resolveRetention (retention : Backups.RetentionPolicy) : Backups.RetentionPolicy :=
  if retention = {} then Backups.defaultRetention else retention

/-! ## The split -/

/-- The times with the nanoseconds of none before them. -/
def distinctTimes : List Int -> List Int -> List Int
  | _, [] => []
  | seen, ts :: rest =>
      if unixNano ts ∈ seen then distinctTimes seen rest
      else ts :: distinctTimes (unixNano ts :: seen) rest

/-- The split takes the distinct times apart. -/
theorem splitKept_eq (kept : List Int) (sorted : List Int) : forall seen : List Int,
    splitKept kept seen sorted =
      ((distinctTimes seen sorted).filter fun ts => decide (unixNano ts ∈ kept),
        (distinctTimes seen sorted).filter fun ts => !decide (unixNano ts ∈ kept)) := by
  induction sorted with
  | nil => exact fun _ => rfl
  | cons ts rest ih =>
      intro seen
      unfold splitKept distinctTimes
      by_cases repeated : unixNano ts ∈ seen
      · rw [if_pos repeated, if_pos repeated]
        exact ih seen
      · rw [if_neg repeated, if_neg repeated, ih]
        by_cases keep : unixNano ts ∈ kept <;> simp [keep]

theorem distinctTimes_sublist (sorted : List Int) : forall seen : List Int,
    (distinctTimes seen sorted).Sublist sorted := by
  induction sorted with
  | nil => exact fun _ => List.Sublist.refl _
  | cons ts rest ih =>
      intro seen
      unfold distinctTimes
      split
      · exact (ih seen).cons ts
      · exact (ih _).cons_cons ts

/-- A distinct time has nanoseconds of its own. -/
theorem distinctTimes_apart (sorted : List Int) : forall seen : List Int,
    (forall ts, ts ∈ distinctTimes seen sorted -> unixNano ts ∉ seen) ∧
      (distinctTimes seen sorted).Pairwise fun first other => unixNano first ≠ unixNano other := by
  induction sorted with
  | nil => exact fun _ => ⟨fun _ member => absurd member List.not_mem_nil, List.Pairwise.nil⟩
  | cons ts rest ih =>
      intro seen
      unfold distinctTimes
      split
      · exact ih seen
      · rename_i fresh
        have behind := ih (unixNano ts :: seen)
        constructor
        · intro other member
          rcases List.mem_cons.mp member with rfl | later
          · exact fresh
          · exact fun repeated => behind.1 other later (List.mem_cons_of_mem _ repeated)
        · refine List.pairwise_cons.mpr ⟨?_, behind.2⟩
          intro other member same
          exact behind.1 other member (same ▸ List.mem_cons_self)

/-- A time whose nanoseconds no other has is among the distinct ones. -/
theorem mem_distinctTimes {ts : Int} (sorted : List Int) : forall {seen : List Int},
    (forall other, other ∈ sorted -> unixNano other = unixNano ts -> other = ts) ->
      unixNano ts ∉ seen -> ts ∈ sorted -> ts ∈ distinctTimes seen sorted := by
  induction sorted with
  | nil => exact fun _ _ member => member
  | cons first rest ih =>
      intro seen apart fresh member
      unfold distinctTimes
      by_cases same : first = ts
      · rw [same, if_neg fresh]
        exact List.mem_cons_self
      · have differs : unixNano ts ≠ unixNano first :=
          fun equal => same (apart first List.mem_cons_self equal.symm)
        have restApart : forall other, other ∈ rest -> unixNano other = unixNano ts -> other = ts :=
          fun other listed => apart other (List.mem_cons_of_mem _ listed)
        have later := (List.mem_cons.mp member).resolve_left (Ne.symm same)
        split
        · exact ih restApart fresh later
        · exact List.mem_cons_of_mem _
            (ih restApart (List.not_mem_cons_of_ne_of_not_mem differs fresh) later)

/-- The times of a list that a plan looks at. -/
def plannedTimes (snapshots : List Int) : List Int :=
  distinctTimes [] (snapshots.insertionSort (· ≤ ·))

theorem planPrune_eq (snapshots : List Int) (policy : Backups.RetentionPolicy) (now : Int) :
    planPrune snapshots policy now =
      ((plannedTimes snapshots).filter fun ts =>
          decide (unixNano ts ∈ (keptSnapshots snapshots policy now).map unixNano),
        (plannedTimes snapshots).filter fun ts =>
          !decide (unixNano ts ∈ (keptSnapshots snapshots policy now).map unixNano)) :=
  splitKept_eq _ _ _

theorem mem_of_mem_plannedTimes {snapshots : List Int} {ts : Int}
    (member : ts ∈ plannedTimes snapshots) : ts ∈ snapshots :=
  (List.mem_insertionSort _).mp ((distinctTimes_sublist _ _).subset member)

/-- They come in strictly increasing order. -/
theorem plannedTimes_sorted (snapshots : List Int) :
    (plannedTimes snapshots).Pairwise (· < ·) := by
  have ordered := (List.pairwise_insertionSort (· ≤ ·) snapshots).sublist
    (distinctTimes_sublist _ [])
  refine (ordered.and (distinctTimes_apart _ []).2).imp ?_
  rintro first other ⟨order, differs⟩
  exact lt_of_le_of_ne order fun same => differs (congrArg unixNano same)

end Snapshots
end Basement
