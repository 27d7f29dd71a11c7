import Basement.Library.SlidingWindows
import Basement.Library.Transition
import Basement.Snapshots.NamingLaws
import Basement.Snapshots.Retention
import Mathlib.Algebra.Order.Ring.Int
import Mathlib.Tactic.Linarith

namespace Basement
namespace Snapshots

open Library Library.Layout Api Federation

/-!
# What retention keeps

The formatted keys of days, ISO weeks and months stand for numbered periods, so that
`PlanPrune` is a policy of sliding windows.  This holds for the times that snapshot folders
name: the kept times are matched by their nanoseconds in an `int64`, which tells those times
apart.
-/

/-! ## The times of snapshot folders -/

/-- A whole second in a year of four digits. -/
def FolderTime (ts : Int) : Prop := wholeSecond ts = ts ∧ FourDigitYear ts

instance (ts : Int) : Decidable (FolderTime ts) := inferInstanceAs (Decidable (_ ∧ _))

/-- The seconds of a folder time. -/
theorem FolderTime.seconds {ts : Int} (folder : FolderTime ts) : Exists fun s =>
    ts = s * second ∧ -31622400 ≤ s ∧ s < 315537897600 := by
  rcases folder with ⟨whole, starts, ends⟩
  have lies := Calendar.yearStart_yearOf (dayOf ts)
  have low : Calendar.yearStart 0 ≤ Calendar.yearStart (Calendar.yearOf (dayOf ts)) :=
    Calendar.yearStart_le_of_le starts
  have high : Calendar.yearStart (Calendar.yearOf (dayOf ts) + 1) ≤ Calendar.yearStart 10000 :=
    Calendar.yearStart_le_of_le ends
  have zero : Calendar.yearStart 0 = -366 := by decide
  have last : Calendar.yearStart 10000 = 3652059 := by decide
  refine ⟨ts / second, whole.symm, ?_, ?_⟩
  · unfold dayOf at lies low
    omega
  · unfold dayOf at lies high
    omega

/-- The folder names that are parsed are those of the folder times. -/
theorem folderTime_iff {ts : Int} :
    FolderTime ts ↔ Exists fun folder => parseSnapshotTimestamp folder = some ts := by
  constructor
  · rintro ⟨whole, year⟩
    refine ⟨formatTimestamp ts, ?_⟩
    rw [parseSnapshotTimestamp_format, parseTimestamp_format year, whole]
  · rintro ⟨folder, read⟩
    rcases formatTimestamp_of_parseSnapshotTimestamp read with ⟨whole, year, _⟩
    exact ⟨whole, year⟩

/-- Whole seconds that are fewer than `2 ^ 55` apart differ in their nanoseconds: a billion has
only nine factors of two. -/
theorem seconds_apart {gap cycles : Int} (low : -36028797018963968 < gap)
    (high : gap < 36028797018963968) (same : 1953125 * gap = 36028797018963968 * cycles) :
    gap = 0 := by
  have multiple : gap = 36028797018963968 * (20211507185753197 * cycles - 1095668 * gap) := by
    linarith
  exact Int.eq_zero_of_abs_lt_dvd ⟨_, multiple⟩ (abs_lt.mpr ⟨low, high⟩)

theorem unixNano_cycles {s u : Int} (same : unixNano (s * second) = unixNano (u * second)) :
    Exists fun cycles => 1953125 * (s - u) = 36028797018963968 * cycles := by
  unfold unixNano second at same
  have divides : ((2 ^ 64 : Nat) : Int) ∣
      (s * 1000000000 - 62135596800 * 1000000000) -
        (u * 1000000000 - 62135596800 * 1000000000) := by
    rw [Int.dvd_iff_bmod_eq_zero, Int.sub_bmod, same, sub_self, Int.zero_bmod]
  rcases divides with ⟨cycles, apart⟩
  have power : ((2 ^ 64 : Nat) : Int) = 18446744073709551616 := by norm_num
  rw [power] at apart
  exact ⟨cycles, by linarith⟩

/-- Folder times are told apart by `UnixNano`. -/
theorem unixNano_inj {first other : Int} (firstFolder : FolderTime first)
    (otherFolder : FolderTime other) : unixNano first = unixNano other ↔ first = other := by
  rcases firstFolder.seconds with ⟨s, rfl, sStarts, sEnds⟩
  rcases otherFolder.seconds with ⟨u, rfl, uStarts, uEnds⟩
  have low : -36028797018963968 < s - u := by omega
  have high : s - u < 36028797018963968 := by omega
  refine ⟨?_, fun same => congrArg unixNano same⟩
  intro same
  rcases unixNano_cycles same with ⟨cycles, apart⟩
  rw [sub_eq_zero.mp (seconds_apart low high apart)]

/-! ## The keys of the periods -/

theorem length_padded_two {value : Int} (low : 0 ≤ value) (high : value < 100) :
    (padded 2 value.toNat).length = 2 := length_padded (by decide) (by omega)

/-- Numbers with a sign in front are told apart, whatever their widths. -/
theorem signed_inj {width negativeWidth : Nat} {first other : Int} :
    (if 0 ≤ first then padded width first.toNat else '-' :: padded negativeWidth (-first).toNat) =
        (if 0 ≤ other then padded width other.toNat
          else '-' :: padded negativeWidth (-other).toNat) ↔
      first = other := by
  have noSign : forall value : Nat, forall rest, padded width value ≠ '-' :: rest := by
    intro value rest same
    have digit := padded_isDigit (same ▸ List.mem_cons_self : '-' ∈ padded width value)
    exact absurd digit (by decide)
  constructor
  · intro same
    split at same
    · split at same
      · have equal := padded_inj.mp same
        omega
      · exact absurd same (noSign _ _)
    · split at same
      · exact absurd same.symm (noSign _ _)
      · have equal := padded_inj.mp (List.cons.inj same).2
        omega
  · rintro rfl
    rfl

theorem renderYear_inj {first other : Int} : renderYear first = renderYear other ↔ first = other :=
  signed_inj

theorem renderISOYear_inj {first other : Int} :
    renderISOYear first = renderISOYear other ↔ first = other := signed_inj

/-- A month key names one month. -/
theorem monthKey_inj {year other month otherMonth : Int} (low : 0 ≤ month) (high : month < 100)
    (otherLow : 0 ≤ otherMonth) (otherHigh : otherMonth < 100) :
    monthKey year month = monthKey other otherMonth ↔ year = other ∧ month = otherMonth := by
  have lengths : ('-' :: padded 2 month.toNat).length =
    ('-' :: padded 2 otherMonth.toNat).length := by
    rw [List.length_cons, List.length_cons, length_padded_two low high,
      length_padded_two otherLow otherHigh]
  constructor
  · intro same
    rcases List.append_inj' (String.ofList_injective same) lengths with ⟨years, months⟩
    have equal := padded_inj.mp (List.cons.inj months).2
    exact ⟨renderYear_inj.mp years, by omega⟩
  · rintro ⟨rfl, rfl⟩
    rfl

/-- A day key names one day. -/
theorem dayKey_inj {day other : Int} : dayKey day = dayKey other ↔ day = other := by
  have date := Calendar.date_valid day
  have otherDate := Calendar.date_valid other
  have days := daysIn_le (Calendar.date day).year date.1 date.2.1
  have otherDays := daysIn_le (Calendar.date other).year otherDate.1 otherDate.2.1
  rcases date with ⟨monthLow, monthHigh, dayLow, dayHigh⟩
  rcases otherDate with ⟨otherMonthLow, otherMonthHigh, otherDayLow, otherDayHigh⟩
  have lengths : ('-' :: padded 2 (Calendar.date day).day.toNat).length =
      ('-' :: padded 2 (Calendar.date other).day.toNat).length := by
    rw [List.length_cons, List.length_cons, length_padded_two (by omega) (by omega),
      length_padded_two (by omega) (by omega)]
  refine ⟨?_, congrArg dayKey⟩
  intro same
  unfold dayKey monthKey at same
  rw [← String.ofList_append, ← String.ofList_append] at same
  rcases List.append_inj' (String.ofList_injective same) lengths with ⟨months, lastDays⟩
  have monthsSame := (monthKey_inj (by omega) (by omega) (by omega) (by omega)).mp
    (congrArg String.ofList months)
  have daysSame := padded_inj.mp (List.cons.inj lastDays).2
  have sameDay : (Calendar.date day).day = (Calendar.date other).day := by omega
  rw [← Calendar.date_inj]
  cases first : Calendar.date day
  cases second : Calendar.date other
  simp_all

/-- The weeks of an ISO year have two digits. -/
theorem isoWeek_bounds (day : Int) :
    1 ≤ (Calendar.isoWeek day).2 ∧ (Calendar.isoWeek day).2 ≤ 53 := by
  have lies := Calendar.yearStart_yearOf (day - day % 7 + 3)
  have year := Calendar.yearStart_succ (Calendar.yearOf (day - day % 7 + 3))
  have length : Calendar.daysBefore (Calendar.yearOf (day - day % 7 + 3)) 13 ≤ 366 := by
    unfold Calendar.daysBefore
    cases Calendar.isLeap (Calendar.yearOf (day - day % 7 + 3)) <;> decide
  unfold Calendar.isoWeek Calendar.yearDay
  simp only
  omega

/-- A week key names one week. -/
theorem weekKey_inj {day other : Int} :
    weekKey day = weekKey other ↔ Calendar.weekIndex day = Calendar.weekIndex other := by
  have bounds := isoWeek_bounds day
  have otherBounds := isoWeek_bounds other
  have lengths : ('-' :: 'W' :: padded 2 (Calendar.isoWeek day).2.toNat).length =
      ('-' :: 'W' :: padded 2 (Calendar.isoWeek other).2.toNat).length := by
    simp only [List.length_cons, @length_padded_two (Calendar.isoWeek day).2 (by omega) (by omega),
      @length_padded_two (Calendar.isoWeek other).2 (by omega) (by omega)]
  rw [← Calendar.isoWeek_inj]
  constructor
  · intro same
    rcases List.append_inj' (String.ofList_injective same) lengths with ⟨years, weeks⟩
    have equal := padded_inj.mp (List.cons.inj (List.cons.inj weeks).2).2
    exact Prod.ext (renderISOYear_inj.mp years) (by omega)
  · intro same
    unfold weekKey
    rw [same]

/-! ## The latest snapshot of a period -/

/-- What an index holds for a key: the latest snapshot with the key, if there is one. -/
def HoldsLatest (keyOf : Int -> String) (snapshots : List Int) (key : String) : Option Int -> Prop
  | none => forall ts, ts ∈ snapshots -> keyOf ts ≠ key
  | some latest => latest ∈ snapshots ∧ keyOf latest = key ∧
      forall ts, ts ∈ snapshots -> keyOf ts = key -> ts ≤ latest

theorem get?_note_of_ne {index : PeriodIndex} {key other : String} {ts : Int}
    (differs : other ≠ key) : (index.note key ts).get? other = index.get? other := by
  unfold PeriodIndex.note
  split
  · split
    · exact SortedStore.get?_put_of_ne _ _ differs
    · rfl
  · exact SortedStore.get?_put_of_ne _ _ differs

/-- A snapshot joins those that were noted before. -/
theorem HoldsLatest.note {keyOf : Int -> String} {snapshots : List Int} {index : PeriodIndex}
    {key : String} (holds : HoldsLatest keyOf snapshots key (index.get? key)) (ts : Int) :
    HoldsLatest keyOf (snapshots ++ [ts]) key ((index.note (keyOf ts) ts).get? key) := by
  by_cases same : key = keyOf ts
  · subst same
    unfold PeriodIndex.note
    cases found : index.get? (keyOf ts) with
    | none =>
        rw [found] at holds
        simp only [SortedStore.get?_put_self]
        refine ⟨by simp, rfl, ?_⟩
        intro other member sameKey
        rcases List.mem_append.mp member with before | new
        · exact absurd sameKey (holds other before)
        · exact le_of_eq (List.mem_singleton.mp new)
    | some current =>
        rw [found] at holds
        rcases holds with ⟨listed, keyed, bound⟩
        simp only
        split
        · rename_i later
          rw [SortedStore.get?_put_self]
          refine ⟨by simp, rfl, ?_⟩
          intro other member sameKey
          rcases List.mem_append.mp member with before | new
          · exact le_of_lt (lt_of_le_of_lt (bound other before sameKey) later)
          · exact le_of_eq (List.mem_singleton.mp new)
        · rename_i notLater
          rw [found]
          refine ⟨List.mem_append.mpr (Or.inl listed), keyed, ?_⟩
          intro other member sameKey
          rcases List.mem_append.mp member with before | new
          · exact bound other before sameKey
          · exact List.mem_singleton.mp new ▸ not_lt.mp notLater
  · rw [get?_note_of_ne same]
    cases found : index.get? key with
    | none =>
        rw [found] at holds
        intro other member
        rcases List.mem_append.mp member with before | new
        · exact holds other before
        · exact List.mem_singleton.mp new ▸ fun equal => same equal.symm
    | some current =>
        rw [found] at holds
        rcases holds with ⟨listed, keyed, bound⟩
        refine ⟨List.mem_append.mpr (Or.inl listed), keyed, ?_⟩
        intro other member sameKey
        rcases List.mem_append.mp member with before | new
        · exact bound other before sameKey
        · exact absurd (List.mem_singleton.mp new ▸ sameKey).symm same

/-- The index holds the latest snapshot of each period. -/
theorem holdsLatest_latestPer (keyOf : Int -> String) (snapshots : List Int) (key : String) :
    HoldsLatest keyOf snapshots key ((latestPer keyOf snapshots).get? key) := by
  induction snapshots using List.reverseRecOn with
  | nil => exact fun _ member => absurd member List.not_mem_nil
  | append_singleton before ts ih =>
      unfold latestPer at ih ⊢
      rw [List.foldl_append]
      exact ih.note ts

/-- A snapshot is found under a key exactly if it is the latest with the key. -/
theorem get?_latestPer {keyOf : Int -> String} {snapshots : List Int} {key : String} {ts : Int} :
    (latestPer keyOf snapshots).get? key = some ts ↔ ts ∈ snapshots ∧ keyOf ts = key ∧
      forall other, other ∈ snapshots -> keyOf other = key -> other ≤ ts := by
  have holds := holdsLatest_latestPer keyOf snapshots key
  constructor
  · intro found
    rw [found] at holds
    exact holds
  · rintro ⟨member, keyed, bound⟩
    cases found : (latestPer keyOf snapshots).get? key with
    | none =>
        rw [found] at holds
        exact absurd keyed (holds ts member)
    | some latest =>
        rw [found] at holds
        rw [le_antisymm (bound latest holds.1 holds.2.1) (holds.2.2 ts member keyed)]

/-! ## The windows -/

/-- The three kinds of periods. -/
inductive Period where
  | day
  | week
  | month
  deriving DecidableEq, Repr

/-- The number of the period a snapshot is in. -/
def Period.index : Period -> Int -> Int
  | .day, ts => dayOf ts
  | .week, ts => Calendar.weekIndex (dayOf ts)
  | .month, ts => Calendar.monthIndex (dayOf ts)

/-- How many periods of the kind a policy keeps. -/
def Period.count (policy : Backups.RetentionPolicy) : Period -> Int
  | .day => policy.keepDaily
  | .week => policy.keepWeekly
  | .month => policy.keepMonthly

/-- The key under which `PlanPrune` looks for the period. -/
def Period.key : Period -> Int -> String
  | .day => snapshotDay
  | .week => snapshotWeek
  | .month => snapshotMonth

/-- The keys it walks back through. -/
def Period.window (policy : Backups.RetentionPolicy) (now : Int) : Period -> List String
  | .day => dailyWindow policy now
  | .week => weeklyWindow policy now
  | .month => monthlyWindow policy now

theorem Period.index_le_of_le (period : Period) {ts later : Int} (order : ts ≤ later) :
    period.index ts ≤ period.index later := by
  have days := dayOf_le_of_le order
  cases period with
  | day => exact days
  | week =>
      unfold Period.index Calendar.weekIndex
      simp only
      omega
  | month => exact Calendar.monthIndex_le_of_le days

/-- The policy as one of sliding windows. -/
def windows (policy : Backups.RetentionPolicy) : SlidingWindows.Policy Period Int where
  period := Period.index
  monotone := fun period _ _ order => period.index_le_of_le order
  width := Period.count policy

/-- Two snapshots have the same key exactly if they are in the same period. -/
theorem Period.key_inj (period : Period) {ts other : Int} :
    period.key ts = period.key other ↔ period.index ts = period.index other := by
  cases period with
  | day => exact dayKey_inj
  | week => exact weekKey_inj
  | month =>
      have bounds := Calendar.month_bounds (dayOf ts)
      have otherBounds := Calendar.month_bounds (dayOf other)
      exact (monthKey_inj (by omega) (by omega) (by omega) (by omega)).trans
        Calendar.monthIndex_inj.symm

/-- The walk back through the periods of a window. -/
theorem exists_steps_back {count : Int} {found : Int -> Prop} :
    (Exists fun i : Int =>
        (i ∈ do let step ← List.range count.toNat; pure (step : Int)) ∧ found i) ↔
      Exists fun i : Int => (0 ≤ i ∧ i < count) ∧ found i := by
  refine exists_congr fun i => and_congr_left fun _ => ?_
  simp only [List.bind_eq_flatMap, List.pure_def, List.mem_flatMap, List.mem_range,
    List.mem_singleton]
  constructor
  · rintro ⟨step, small, rfl⟩
    omega
  · intro inside
    exact ⟨i.toNat, by omega, by omega⟩

/-- The key of a snapshot is walked through exactly if its period is in the window. -/
theorem Period.mem_window (period : Period) {policy : Backups.RetentionPolicy} {now ts : Int} :
    period.key ts ∈ period.window policy now ↔ (windows policy).InWindow period now ts := by
  unfold SlidingWindows.Policy.InWindow
  cases period with
  | day =>
      simp only [Period.key, Period.window, dailyWindow, snapshotDay, List.mem_map,
        exists_steps_back, dayKey_inj, windows, Period.index, Period.count]
      constructor
      · rintro ⟨i, small, same⟩
        omega
      · intro inside
        exact ⟨dayOf now - dayOf ts, by omega, by omega⟩
  | week =>
      simp only [Period.key, Period.window, weeklyWindow, snapshotWeek, List.mem_map,
        exists_steps_back, weekKey_inj, windows, Period.index, Period.count, Calendar.weekIndex]
      constructor
      · rintro ⟨i, small, same⟩
        omega
      · intro inside
        exact ⟨dayOf now / 7 - dayOf ts / 7, by omega, by omega⟩
  | month =>
      have bounds := Calendar.month_bounds (dayOf ts)
      have sameMonth : forall i : Int,
          monthKey (Calendar.monthsBefore (Calendar.date (dayOf now)) i).1
              (Calendar.monthsBefore (Calendar.date (dayOf now)) i).2 = snapshotMonth ts ↔
            Calendar.monthIndex (dayOf ts) = Calendar.monthIndex (dayOf now) - i := by
        intro i
        rw [← Calendar.monthsBefore_eq_iff, Prod.mk.injEq]
        exact monthKey_inj (by unfold Calendar.monthsBefore; simp only; omega)
          (by unfold Calendar.monthsBefore; simp only; omega) (by omega) (by omega)
      simp only [Period.key, Period.window, monthlyWindow, List.mem_map,
        exists_steps_back, sameMonth, windows, Period.index, Period.count]
      constructor
      · rintro ⟨i, small, same⟩
        omega
      · intro inside
        exact ⟨Calendar.monthIndex (dayOf now) - Calendar.monthIndex (dayOf ts), by omega, by omega⟩

/-- What a window finds: the latest snapshots of its periods. -/
theorem Period.mem_found (period : Period) {policy : Backups.RetentionPolicy} {snapshots : List Int}
    {now ts : Int} :
    ts ∈ (period.window policy now).filterMap (latestPer period.key snapshots).get? ↔
      ts ∈ snapshots ∧ (windows policy).InWindow period now ts ∧
        (windows policy).Latest period {other | other ∈ snapshots} ts := by
  rw [List.mem_filterMap, ← period.mem_window]
  constructor
  · rintro ⟨key, walked, found⟩
    rcases get?_latestPer.mp found with ⟨member, rfl, bound⟩
    exact ⟨member, walked, fun other listed same => bound other listed (period.key_inj.mpr same)⟩
  · rintro ⟨member, walked, latest⟩
    exact ⟨period.key ts, walked, get?_latestPer.mpr ⟨member, rfl, fun other listed same =>
      latest other listed (period.key_inj.mp same)⟩⟩

/-! ## What is kept and what is pruned -/

/-- The snapshots that are kept. -/
theorem mem_keptSnapshots {policy : Backups.RetentionPolicy} {snapshots : List Int} {now ts : Int} :
    ts ∈ keptSnapshots snapshots policy now ↔
      ts ∈ snapshots ∧ (windows policy).Keeps {other | other ∈ snapshots} now ts := by
  have day := @Period.mem_found Period.day policy snapshots now ts
  have week := @Period.mem_found Period.week policy snapshots now ts
  have month := @Period.mem_found Period.month policy snapshots now ts
  unfold keptSnapshots
  rw [List.mem_append, List.mem_append, List.mem_append, List.mem_filter, decide_eq_true_eq]
  constructor
  · rintro (((found | found) | found) | ⟨member, future⟩)
    · have parts := day.mp found
      exact ⟨parts.1, Or.inr ⟨_, parts.2⟩⟩
    · have parts := week.mp found
      exact ⟨parts.1, Or.inr ⟨_, parts.2⟩⟩
    · have parts := month.mp found
      exact ⟨parts.1, Or.inr ⟨_, parts.2⟩⟩
    · exact ⟨member, Or.inl future⟩
  · rintro ⟨member, future | ⟨period, inside, latest⟩⟩
    · exact Or.inr ⟨member, future⟩
    · cases period with
      | day => exact Or.inl (Or.inl (Or.inl (day.mpr ⟨member, inside, latest⟩)))
      | week => exact Or.inl (Or.inl (Or.inr (week.mpr ⟨member, inside, latest⟩)))
      | month => exact Or.inl (Or.inr (month.mpr ⟨member, inside, latest⟩))

/-- Times that are told apart by their nanoseconds. -/
def ToldApart (snapshots : List Int) : Prop :=
  forall first, first ∈ snapshots -> forall other, other ∈ snapshots ->
    unixNano first = unixNano other -> first = other

theorem toldApart_of_folders {snapshots : List Int}
    (folders : forall ts, ts ∈ snapshots -> FolderTime ts) : ToldApart snapshots :=
  fun first member other otherMember same =>
    (unixNano_inj (folders first member) (folders other otherMember)).mp same

theorem ToldApart.mem_plannedTimes {snapshots : List Int} (apart : ToldApart snapshots) (ts : Int) :
    ts ∈ plannedTimes snapshots ↔ ts ∈ snapshots := by
  refine ⟨mem_of_mem_plannedTimes, ?_⟩
  intro member
  apply mem_distinctTimes _ _ List.not_mem_nil ((List.mem_insertionSort _).mpr member)
  intro other listed
  exact apart other ((List.mem_insertionSort _).mp listed) ts member

/-- A time is taken for a kept one exactly if it is one. -/
theorem ToldApart.nano_mem_kept {snapshots : List Int} (apart : ToldApart snapshots)
    {policy : Backups.RetentionPolicy} {now ts : Int} (member : ts ∈ snapshots) :
    unixNano ts ∈ (keptSnapshots snapshots policy now).map unixNano ↔
      (windows policy).Keeps {other | other ∈ snapshots} now ts := by
  rw [List.mem_map]
  constructor
  · rintro ⟨other, found, same⟩
    have parts := mem_keptSnapshots.mp found
    rw [← apart other parts.1 ts member same]
    exact parts.2
  · exact fun keeps => ⟨ts, mem_keptSnapshots.mpr ⟨member, keeps⟩, rfl⟩

theorem ToldApart.mem_keep {snapshots : List Int} (apart : ToldApart snapshots)
    {policy : Backups.RetentionPolicy} {now ts : Int} :
    ts ∈ (planPrune snapshots policy now).1 ↔
      ts ∈ snapshots ∧ (windows policy).Keeps {other | other ∈ snapshots} now ts := by
  rw [planPrune_eq, List.mem_filter, apart.mem_plannedTimes, decide_eq_true_eq]
  exact and_congr_right apart.nano_mem_kept

theorem ToldApart.mem_prune {snapshots : List Int} (apart : ToldApart snapshots)
    {policy : Backups.RetentionPolicy} {now ts : Int} :
    ts ∈ (planPrune snapshots policy now).2 ↔
      ts ∈ snapshots ∧ ¬ (windows policy).Keeps {other | other ∈ snapshots} now ts := by
  rw [planPrune_eq, List.mem_filter, apart.mem_plannedTimes, Bool.not_eq_true', decide_eq_false_iff_not]
  exact and_congr_right fun member => not_congr (apart.nano_mem_kept member)

/-- What `PlanPrune` does with a snapshot: it keeps what its windows keep and prunes the rest. -/
theorem planPrune_iff {policy : Backups.RetentionPolicy} {snapshots : List Int} {now ts : Int}
    (folders : forall other, other ∈ snapshots -> FolderTime other) (member : ts ∈ snapshots) :
    (ts ∈ (planPrune snapshots policy now).1 ↔
        (windows policy).Keeps {other | other ∈ snapshots} now ts) ∧
      (ts ∈ (planPrune snapshots policy now).2 ↔
        ¬ (windows policy).Keeps {other | other ∈ snapshots} now ts) := by
  have apart := toldApart_of_folders folders
  exact ⟨apart.mem_keep.trans (and_iff_right member), apart.mem_prune.trans (and_iff_right member)⟩

/-- The kept snapshots are those that the windows keep, in order. -/
theorem mem_planPrune_keep {policy : Backups.RetentionPolicy} {snapshots : List Int} {now ts : Int}
    (folders : forall other, other ∈ snapshots -> FolderTime other) :
    ts ∈ (planPrune snapshots policy now).1 ↔
      ts ∈ snapshots ∧ (windows policy).Keeps {other | other ∈ snapshots} now ts :=
  (toldApart_of_folders folders).mem_keep

theorem planPrune_sorted (snapshots : List Int) (policy : Backups.RetentionPolicy) (now : Int) :
    (planPrune snapshots policy now).1.Pairwise (· < ·) := by
  rw [planPrune_eq]
  exact (plannedTimes_sorted snapshots).filter _

/-! ## The run's own snapshot -/

/-- A snapshot of the list in the same period as the run, dated behind it. -/
def Period.Overtaken (period : Period) (snapshots : List Int) (now : Int) : Prop :=
  Exists fun other => other ∈ snapshots ∧ period.index other = period.index now ∧
    wholeSecond now < other

instance (period : Period) (snapshots : List Int) (now : Int) :
    Decidable (period.Overtaken snapshots now) := inferInstanceAs (Decidable (Exists fun _ => _))

theorem wholeSecond_le (t : Int) : wholeSecond t ≤ t := by
  unfold wholeSecond second
  omega

theorem dayOf_wholeSecond (t : Int) : dayOf (wholeSecond t) = dayOf t := by
  unfold dayOf wholeSecond second
  omega

theorem Period.index_wholeSecond (period : Period) (t : Int) :
    period.index (wholeSecond t) = period.index t := by
  cases period <;> simp only [Period.index, dayOf_wholeSecond]

/-- A run does not prune its own snapshot exactly if, for one of the kinds of periods that the
policy keeps, no snapshot of the run's period is dated behind the run. -/
theorem own_snapshot_kept_iff {policy : Backups.RetentionPolicy} {snapshots : List Int} {now : Int}
    (folders : forall ts, ts ∈ snapshots -> FolderTime ts) (own : wholeSecond now ∈ snapshots) :
    wholeSecond now ∉ (planPrune snapshots policy now).2 ↔
      Exists fun period : Period =>
        0 < period.count policy ∧ ¬ period.Overtaken snapshots now := by
  rw [(planPrune_iff folders own).2, not_not]
  have past := wholeSecond_le now
  constructor
  · rintro (future | ⟨period, inside, latest⟩)
    · omega
    · have current : period.index now - period.count policy < period.index (wholeSecond now) :=
        inside.1
      rw [period.index_wholeSecond] at current
      refine ⟨period, by omega, ?_⟩
      rintro ⟨other, listed, same, later⟩
      have bound := latest other listed (same.trans (period.index_wholeSecond now).symm)
      omega
  · rintro ⟨period, positive, notOvertaken⟩
    refine Or.inr ⟨period, ⟨?_, ?_⟩, ?_⟩
    · show period.index now - period.count policy < period.index (wholeSecond now)
      rw [period.index_wholeSecond]
      omega
    · exact le_of_eq (period.index_wholeSecond now)
    · intro other listed same
      by_contra later
      exact notOvertaken ⟨other, listed, same.trans (period.index_wholeSecond now), not_le.mp later⟩

/-- A run that starts at three in the morning, while another has put its folder there five
seconds later. -/
def nightRun : Int := dateTime ⟨2026, 5, 21⟩ 3 0 0

def nightSnapshots : List Int := [nightRun, nightRun + 5 * second]

theorem own_snapshot_kept_iff_night :
    nightRun ∉ (planPrune [nightRun] Backups.defaultRetention nightRun).2 ↔
      Exists fun period : Period =>
        0 < period.count Backups.defaultRetention ∧ ¬ period.Overtaken [nightRun] nightRun :=
  @own_snapshot_kept_iff Backups.defaultRetention [nightRun] nightRun (by decide +kernel)
    (by decide +kernel)

theorem own_snapshot_pruned :
    ¬ forall (policy : Backups.RetentionPolicy) (snapshots : List Int) (now : Int),
      (Exists fun period : Period => 0 < period.count policy) ->
        (forall ts, ts ∈ snapshots -> FolderTime ts) -> wholeSecond now ∈ snapshots ->
          wholeSecond now ∉ (planPrune snapshots policy now).2 := by
  intro safe
  have kept := safe Backups.defaultRetention nightSnapshots nightRun ⟨Period.day, by decide⟩
    (by decide +kernel) (by decide +kernel)
  exact kept (by decide +kernel)

/-! ## Pruning often or rarely -/

/-- The snapshots ever taken, those still there, and the last time they were pruned. -/
structure Shelf where
  taken : List Int
  held : List Int
  lastPruned : Option Int
  deriving DecidableEq, Repr

inductive ShelfEvent where
  | take (ts : Int)
  | prune (now : Int)
  deriving DecidableEq, Repr

/-- A snapshot is taken, under any date, or a prune list is removed.  The prune times do not
decrease. -/
def Shelf.step (policy : Backups.RetentionPolicy) (shelf : Shelf) : ShelfEvent -> Option Shelf
  | .take ts =>
      if FolderTime ts then
        some { shelf with taken := shelf.taken ++ [ts], held := shelf.held ++ [ts] }
      else none
  | .prune now =>
      if forall before, before ∈ shelf.lastPruned -> before ≤ now then
        some { shelf with
          held := shelf.held.filter fun ts => decide (ts ∉ (planPrune shelf.held policy now).2)
          lastPruned := some now }
      else none

def Shelf.empty : Shelf := ⟨[], [], none⟩

/-- What is there is enough for every later moment. -/
structure Shelf.Sound (policy : Backups.RetentionPolicy) (shelf : Shelf) : Prop where
  folders : forall ts, ts ∈ shelf.taken -> FolderTime ts
  covers : (windows policy).Covers {ts | ts ∈ shelf.taken} {ts | ts ∈ shelf.held} shelf.lastPruned

theorem Shelf.Sound.heldFolders {policy : Backups.RetentionPolicy} {shelf : Shelf}
    (sound : shelf.Sound policy) {ts : Int} (member : ts ∈ shelf.held) : FolderTime ts :=
  sound.folders ts (sound.covers.held_taken member)

theorem Shelf.empty_sound (policy : Backups.RetentionPolicy) : Shelf.empty.Sound policy := by
  refine ⟨fun _ member => absurd member List.not_mem_nil, ?_⟩
  exact ⟨fun _ member => member, fun _ _ _ member _ => member⟩

/-- Taking and pruning keep it so. -/
theorem Shelf.Sound.step {policy : Backups.RetentionPolicy} (shelf : Shelf) (event : ShelfEvent)
    (next : Shelf) (sound : shelf.Sound policy) (taken : shelf.step policy event = some next) :
    next.Sound policy := by
  cases event with
  | take ts =>
      simp only [Shelf.step] at taken
      split at taken
      · rename_i folder
        cases Option.some.inj taken
        refine ⟨?_, ?_⟩
        · intro other member
          rcases List.mem_append.mp member with before | new
          · exact sound.folders other before
          · exact List.mem_singleton.mp new ▸ folder
        · have append : forall times : List Int,
              {other | other ∈ times ++ [ts]} = insert ts {other | other ∈ times} := by
            intro times
            ext other
            simp [or_comm]
          simp only [append]
          exact sound.covers.take ts
      · cases taken
  | prune now =>
      simp only [Shelf.step] at taken
      split at taken
      · rename_i ordered
        cases Option.some.inj taken
        refine ⟨sound.folders, ?_⟩
        have left : {ts | ts ∈ shelf.held.filter
            fun ts => decide (ts ∉ (planPrune shelf.held policy now).2)} =
            {ts ∈ {ts | ts ∈ shelf.held} |
              (windows policy).Keeps {ts | ts ∈ shelf.held} now ts} := by
          ext ts
          simp only [Set.mem_ofPred_eq, List.mem_filter, decide_eq_true_eq]
          refine and_congr_right fun member => ?_
          rw [(planPrune_iff (fun _ held => sound.heldFolders held) member).2, not_not]
        rw [left]
        exact sound.covers.prune (List.finite_toSet _) ordered
      · cases taken

/-- However the earlier prunes lay, a prune keeps what it would keep if there had been none, and
leaves exactly that. -/
theorem prune_path_independent {policy : Backups.RetentionPolicy} {events : List ShelfEvent}
    {shelf next : Shelf} {now : Int}
    (run : Transition.exec (Shelf.step policy) Shelf.empty events = some shelf)
    (pruned : shelf.step policy (.prune now) = some next) :
    (planPrune shelf.held policy now).1 = (planPrune shelf.taken policy now).1 ∧
      forall ts, ts ∈ next.held ↔ ts ∈ (planPrune shelf.taken policy now).1 := by
  have sound := Transition.exec_invariant (@Shelf.Sound.step policy)
    (Shelf.empty_sound policy) run
  simp only [Shelf.step] at pruned
  split at pruned
  · rename_i ordered
    cases Option.some.inj pruned
    have same : forall ts, ts ∈ (planPrune shelf.held policy now).1 ↔
        ts ∈ (planPrune shelf.taken policy now).1 := by
      intro ts
      rw [mem_planPrune_keep fun _ held => sound.heldFolders held, mem_planPrune_keep sound.folders]
      exact sound.covers.kept_iff (List.finite_toSet _) ordered ts
    refine ⟨?_, ?_⟩
    · exact (planPrune_sorted shelf.held policy now).eq_of_mem_iff
        (planPrune_sorted shelf.taken policy now) same
    · intro ts
      rw [← same, mem_planPrune_keep fun _ held => sound.heldFolders held, List.mem_filter,
        decide_eq_true_eq]
      refine and_congr_right fun member => ?_
      rw [(planPrune_iff (fun _ held => sound.heldFolders held) member).2, not_not]
  · cases pruned

/-- Three nights, with a prune behind the second and the third. -/
def threeNights : List ShelfEvent :=
  [.take nightRun, .take (nightRun + 86400 * second), .prune (nightRun + 86400 * second),
    .take (nightRun + 172800 * second)]

def thirdNight : Shelf where
  taken := [nightRun, nightRun + 86400 * second, nightRun + 172800 * second]
  held := [nightRun + 86400 * second, nightRun + 172800 * second]
  lastPruned := some (nightRun + 86400 * second)

theorem prune_path_independent_nights :
    (planPrune thirdNight.held ⟨1, 0, 0⟩ (nightRun + 172800 * second)).1 =
        (planPrune thirdNight.taken ⟨1, 0, 0⟩ (nightRun + 172800 * second)).1 ∧
      forall ts, ts ∈ [nightRun + 172800 * second] ↔
        ts ∈ (planPrune thirdNight.taken ⟨1, 0, 0⟩ (nightRun + 172800 * second)).1 :=
  @prune_path_independent ⟨1, 0, 0⟩ threeNights thirdNight
    ⟨thirdNight.taken, [nightRun + 172800 * second], some (nightRun + 172800 * second)⟩
    (nightRun + 172800 * second) (by decide +kernel) (by decide +kernel)

end Snapshots
end Basement
