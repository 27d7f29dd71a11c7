import Basement.Library.RecentLog
import Basement.Snapshots.Naming

namespace Basement
namespace Metrics

open Library Library.RecentLog Federation Snapshots

/-!
# The usage metrics

Samples of the size of a bucket go to the file of their UTC day and to a ring of the last ten
thousand samples.  A query returns the oldest samples of its window first, from the ring when
that is taken to cover the window and from the files otherwise.

As with the audit log, a line of a file is read back as the sample it was written for, a file is
known by its day, and a sample whose year does not have four digits leaves no line.  Disk
operations succeed.
-/

/-- One sample of a bucket. -/
structure Snapshot where
  time : Int := 0
  connectionID : String := ""
  bucketID : String := ""
  bucketAlias : String := ""
  bytes : Int64 := 0
  objects : Int64 := 0
  deriving DecidableEq, Inhabited

/-- The fields of a filter.  Empty ones match everything. -/
structure Filter where
  connectionID : String := ""
  bucketID : String := ""
  limit : Int64 := 0

/-- A reading of the clock, which is never the zero time. -/
abbrev Moment := { time : Int // time ≠ 0 }

def defaultLimit : Int64 := 1000
def maxLimit : Int64 := 10000
def recentCacheSize : Nat := 10000

/-- The files of a day, and the times that `time.Time.MarshalJSON` accepts. -/
def fileFormat : LogFormat Snapshot where
  time := Snapshot.time
  day := dayOf
  monotone := dayOf_le_of_le
  storable time := decide (FourDigitYear time)

abbrev FileRecorder := RecentLog Snapshot recentCacheSize

/-- `NewFileRecorder` on an empty directory. -/
def newFileRecorder : FileRecorder := RecentLog.empty (by decide)

/-- The time of the sample, or of the call when it has none. -/
def Snapshot.stamped (s : Snapshot) (now : Moment) : Snapshot :=
  if s.time = 0 then { s with time := now } else s

/-- `Snapshot`. -/
def FileRecorder.snapshot (r : FileRecorder) (now : Moment) (s : Snapshot) : FileRecorder :=
  r.append fileFormat (s.stamped now)

/-- What happens to the recorder. -/
inductive Call where
  | snapshot (now : Moment) (s : Snapshot)
  | restart

def FileRecorder.next (r : FileRecorder) : Call -> FileRecorder
  | .snapshot now s => r.snapshot now s
  | .restart => r.restart

/-- The recorder after a history of calls and restarts. -/
def FileRecorder.after (calls : List Call) : FileRecorder :=
  calls.foldl FileRecorder.next newFileRecorder

/-! ## Queries -/

def matchFilter (s : Snapshot) (f : Filter) : Bool :=
  if f.connectionID ≠ "" ∧ s.connectionID ≠ f.connectionID then false
  else if f.bucketID ≠ "" ∧ s.bucketID ≠ f.bucketID then false
  else true

/-- The test both walks make. -/
def keeps (fromTime toTime : Int) (filter : Filter) (s : Snapshot) : Bool :=
  if s.time < fromTime ∨ toTime < s.time then false else matchFilter s filter

/-- `queryCache`. -/
def FileRecorder.queryCache (r : FileRecorder) (fromTime toTime : Int) (filter : Filter)
    (limit : Nat) : List Snapshot × Bool :=
  if r.recent.count = 0 then ([], false)
  else
    (gather (keeps fromTime toTime filter) limit [] r.recent.snapshot,
      r.covers fileFormat fromTime)

/-- `queryFiles`. -/
def FileRecorder.queryFiles (r : FileRecorder) (fromTime toTime : Int) (filter : Filter)
    (limit : Nat) : List Snapshot :=
  gatherFiles (keeps fromTime toTime filter) limit []
    ((r.filesBetween (dayOf fromTime) (dayOf toTime)).map r.readDay)

/-- The limit of a query. -/
def Filter.pageSize (filter : Filter) : Int64 :=
  let limit := if filter.limit ≤ 0 then defaultLimit else filter.limit
  if maxLimit < limit then maxLimit else limit

/-- A window with its ends filled in. -/
def window (now : Moment) (fromTime toTime : Int) : Int × Int :=
  let toTime : Int := if toTime = 0 then now.1 else toTime
  (if fromTime = 0 then toTime - 7 * 24 * 3600 * second else fromTime, toTime)

/-- `Query`. -/
def FileRecorder.query (r : FileRecorder) (now : Moment) (fromTime toTime : Int)
    (filter : Filter) : List Snapshot :=
  let (fromTime, toTime) := window now fromTime toTime
  let limit := filter.pageSize.toNatClampNeg
  let (cached, fullyCovered) := r.queryCache fromTime toTime filter limit
  if fullyCovered then cached else r.queryFiles fromTime toTime filter limit

/-- `Query` on the files alone. -/
def FileRecorder.scan (r : FileRecorder) (now : Moment) (fromTime toTime : Int)
    (filter : Filter) : List Snapshot :=
  let (fromTime, toTime) := window now fromTime toTime
  r.queryFiles fromTime toTime filter filter.pageSize.toNatClampNeg

/-- Every query is answered as from the files alone. -/
def FileRecorder.Agrees (r : FileRecorder) : Prop :=
  forall now fromTime toTime filter,
    r.query now fromTime toTime filter = r.scan now fromTime toTime filter

/-! ## The recorder as a log of its history -/

def Call.step : Call -> Step Snapshot
  | .snapshot now s => .write (s.stamped now)
  | .restart => .restart

/-- The samples recorded before the last restart and since. -/
def history (calls : List Call) : History Snapshot := History.of (calls.map Call.step)

/-- The samples in the ring. -/
def cached (calls : List Call) : List Snapshot := (history calls).recent recentCacheSize

theorem after_represents (calls : List Call) :
    (FileRecorder.after calls).Represents fileFormat (history calls) := by
  apply represents_calls
  intro r call
  cases call <;> rfl

theorem stamped_time (s : Snapshot) (now : Moment) : (s.stamped now).time ≠ 0 := by
  unfold Snapshot.stamped
  split
  · exact now.2
  · assumption

/-- No sample has the zero time. -/
theorem time_ne_zero {calls : List Call} {s : Snapshot} (listed : s ∈ (history calls).all) :
    s.time ≠ 0 := by
  rcases List.mem_map.mp (History.write_of_mem_all listed) with ⟨call, _, written⟩
  cases call with
  | restart => cases written
  | snapshot now sample =>
      cases written
      exact stamped_time sample now

/-! ## What the two walks return -/

theorem keeps_inside {fromTime toTime : Int} {filter : Filter} {s : Snapshot}
    (kept : keeps fromTime toTime filter s = true) : fromTime ≤ s.time ∧ s.time ≤ toTime := by
  unfold keeps at kept
  split at kept
  · exact absurd kept Bool.false_ne_true
  · omega

/-- A filter with empty fields keeps the window. -/
theorem keeps_all (fromTime toTime : Int) (limit : Int64) (s : Snapshot) :
    keeps fromTime toTime { limit := limit } s =
      (decide (fromTime ≤ s.time) && decide (s.time ≤ toTime)) := by
  by_cases before : s.time < fromTime
  · simp [keeps, before, not_le.mpr before]
  · by_cases after : toTime < s.time
    · simp [keeps, after, not_le.mpr after]
    · simp [keeps, before, after, not_lt.mp before, not_lt.mp after, matchFilter]

/-- The walk over the files. -/
theorem queryFiles_eq (r : FileRecorder) (fromTime toTime : Int) (filter : Filter)
    (limit : Nat) : r.queryFiles fromTime toTime filter limit =
      ((r.stored (dayOf fromTime) (dayOf toTime)).filter
        (keeps fromTime toTime filter)).take limit := by
  rw [FileRecorder.queryFiles, gatherFiles_eq _ _ (Nat.zero_le limit), List.nil_append,
    List.length_nil, Nat.sub_zero]
  rfl

variable {calls : List Call}

/-- The walk over the ring, where it is taken to cover the window. -/
theorem queryCache_of_serves {fromTime : Int}
    (serves : Serves fileFormat recentCacheSize (cached calls) fromTime) (toTime : Int)
    (filter : Filter) (limit : Nat) :
    (FileRecorder.after calls).queryCache fromTime toTime filter limit =
      (((cached calls).filter (keeps fromTime toTime filter)).take limit, true) := by
  have represents := after_represents calls
  have snapshot : (FileRecorder.after calls).recent.snapshot = cached calls :=
    snapshot_eq_recent represents
  have used := count_ne_zero_of_serves represents serves
  have covered := (covers_iff represents fromTime).mpr serves
  rw [FileRecorder.queryCache, if_neg used, covered, snapshot, gather_eq _ _ (Nat.zero_le limit),
    List.nil_append, List.length_nil, Nat.sub_zero]

/-- Elsewhere the files are read. -/
theorem queryCache_of_not_serves {fromTime : Int}
    (serves : ¬ Serves fileFormat recentCacheSize (cached calls) fromTime) (toTime : Int)
    (filter : Filter) (limit : Nat) :
    ((FileRecorder.after calls).queryCache fromTime toTime filter limit).2 = false := by
  have uncovered := mt (covers_iff (after_represents calls) fromTime).mp serves
  unfold FileRecorder.queryCache
  split
  · rfl
  · exact Bool.not_eq_true _ ▸ uncovered

/-! ## Agreement -/

theorem agrees_of_covered (covered : Covered fileFormat recentCacheSize (history calls)) :
    (FileRecorder.after calls).Agrees := by
  intro now fromTime toTime filter
  rw [FileRecorder.query, FileRecorder.scan]
  rcases window now fromTime toTime with ⟨first, last⟩
  by_cases serves : Serves fileFormat recentCacheSize (cached calls) first
  · have same : ((FileRecorder.after calls).stored (dayOf first) (dayOf last)).filter
        (keeps first last filter) = (cached calls).filter (keeps first last filter) :=
      stored_eq_recent (after_represents calls) covered serves fun s kept => keeps_inside kept
    simp only [queryCache_of_serves serves, if_true, queryFiles_eq, same]
  · simp [queryCache_of_not_serves serves]

/-- Where all queries agree, the ring holds what the files hold of a window that it is taken to
cover, up to the largest limit. -/
theorem window_agrees (agrees : (FileRecorder.after calls).Agrees) {fromTime toTime : Int}
    (fromSet : fromTime ≠ 0) (toSet : toTime ≠ 0)
    (serves : Serves fileFormat recentCacheSize (cached calls) fromTime) :
    (cached calls).filter (fun s => decide (fromTime ≤ s.time) && decide (s.time ≤ toTime)) =
      (((FileRecorder.after calls).stored (dayOf fromTime) (dayOf toTime)).filter fun s =>
        decide (fromTime ≤ s.time) && decide (s.time ≤ toTime)).take recentCacheSize := by
  have answered := agrees ⟨1, Int.one_ne_zero⟩ fromTime toTime { limit := maxLimit }
  have size : (Filter.pageSize { limit := maxLimit }).toNatClampNeg = recentCacheSize := by decide
  simp only [FileRecorder.query, FileRecorder.scan, window, if_neg fromSet, if_neg toSet, size,
    queryCache_of_serves serves, if_true, queryFiles_eq] at answered
  rw [funext (keeps_all fromTime toTime maxLimit)] at answered
  rw [← answered, List.take_of_length_le]
  exact (List.length_filter_le _ _).trans (History.length_recent recentCacheSize (history calls))

/-- A full ring whose samples all have one time.  The answer to a query for that time then has
as many samples as the largest limit, whatever the files hold. -/
def OneInstant (samples : List Snapshot) : Prop :=
  samples.length = recentCacheSize ∧ Exists fun time => forall s, s ∈ samples -> s.time = time

theorem covered_of_agrees (spread : ¬ OneInstant (cached calls))
    (agrees : (FileRecorder.after calls).Agrees) :
    Covered fileFormat recentCacheSize (history calls) := by
  have represents := after_represents calls
  have size : (cached calls).length ≤ recentCacheSize :=
    History.length_recent recentCacheSize (history calls)
  have complete : Complete fileFormat recentCacheSize (history calls) := by
    apply complete_of_instants represents
    intro s listed serves
    have same := window_agrees agrees (time_ne_zero listed) (time_ne_zero listed) serves
    have instant : (fun other : Snapshot =>
        decide (s.time ≤ other.time) && decide (other.time ≤ s.time)) =
        fun other => decide (other.time = s.time) := window_instant fileFormat s.time
    rw [instant] at same
    have few : ((cached calls).filter fun other => decide (other.time = s.time)).length <
        recentCacheSize := by
      refine lt_of_le_of_ne ((List.length_filter_le _ _).trans size) ?_
      intro all
      have whole := List.length_filter_le (fun other : Snapshot => decide (other.time = s.time))
        (cached calls)
      have full : (cached calls).length = recentCacheSize := by omega
      refine spread ⟨full, s.time, ?_⟩
      intro other member
      exact of_decide_eq_true
        (List.length_filter_eq_length_iff.mp (all.trans full.symm) other member)
    have lengths := congrArg List.length same
    rw [List.length_take] at lengths
    change _ = ((cached calls).filter fun other => decide (other.time = s.time)).length
    change (((FileRecorder.after calls).stored (dayOf s.time) (dayOf s.time)).filter
      fun other => decide (other.time = s.time)).length = _
    omega
  refine ⟨complete, ordered_of_windows represents ?_⟩
  intro first firstListed last lastListed serves
  have same := window_agrees agrees (time_ne_zero (History.recent_subset _ _ firstListed))
    (time_ne_zero (History.recent_subset _ _ lastListed)) serves
  have lengths : (((FileRecorder.after calls).stored (dayOf first.time) (dayOf last.time)).filter
        fun s => decide (first.time ≤ s.time) && decide (s.time ≤ last.time)).length =
      ((cached calls).filter
        fun s => decide (first.time ≤ s.time) && decide (s.time ≤ last.time)).length := by
    apply length_stored represents complete serves
    intro s kept
    have inside : first.time ≤ s.time ∧ s.time ≤ last.time := by simpa using kept
    exact inside
  have short := (List.length_filter_le (fun s : Snapshot =>
    decide (first.time ≤ s.time) && decide (s.time ≤ last.time)) _).trans size
  rw [List.take_of_length_le (by omega)] at same
  exact same.symm

/-- The ring and the files give the same answers to all queries when the ring covers the windows
that it is taken to cover, and only then unless the ring holds a single time. -/
theorem agrees_when_covered (calls : List Call) :
    (Covered fileFormat recentCacheSize (history calls) -> (FileRecorder.after calls).Agrees) ∧
      (¬ OneInstant (cached calls) -> (FileRecorder.after calls).Agrees ->
        Covered fileFormat recentCacheSize (history calls)) :=
  ⟨agrees_of_covered, covered_of_agrees⟩

/-- A single sample is covered. -/
theorem agrees_when_covered_single :
    (FileRecorder.after [.snapshot ⟨1, Int.one_ne_zero⟩ { time := 5, bucketID := "b" }]).Agrees := by
  apply (agrees_when_covered _).1
  exact covered_of_increasing (by decide) (by decide) (by decide +kernel)

/-- One sample, a restart, and another sample. -/
def restarted : List Call :=
  [.snapshot ⟨1, Int.one_ne_zero⟩ { time := 5, connectionID := "c", bucketID := "b", bytes := 10 },
    .restart,
    .snapshot ⟨1, Int.one_ne_zero⟩ { time := 7, connectionID := "c", bucketID := "b", bytes := 20 }]

/-- The sample before the restart is missing from the answer. -/
theorem restart_hides_sample : ¬ forall calls : List Call, (FileRecorder.after calls).Agrees := by
  intro agree
  exact absurd (agree restarted ⟨1, Int.one_ne_zero⟩ 1 10 {}) (by decide +kernel)

/-- Until the first restart, queries agree when the times of the samples increase. -/
theorem agrees_of_increasing {calls : List Call} (first : (history calls).earlier = [])
    (increasing : (history calls).since.Pairwise fun before after => before.time < after.time)
    (years : forall s, s ∈ (history calls).since -> FourDigitYear s.time) :
    (FileRecorder.after calls).Agrees := by
  apply agrees_of_covered
  exact covered_of_increasing first increasing fun s listed => decide_eq_true (years s listed)

end Metrics
end Basement
