import Basement.Library.RecentLog
import Basement.Snapshots.Naming
import Mathlib.Data.List.Infix

namespace Basement
namespace Audit

open Library Library.RecentLog Federation Snapshots

/-!
# The audit log

Every event is appended to the file of its UTC day and to a ring of the last thousand events.  A
query walks the ring from the newest event on, or the files from the newest day on when the ring
is not taken to cover the window.

A line of a file is read back as the event it was written for, so a file is the list of its
events.  An event whose year does not have four digits has no JSON form: its file is opened and
stays without it.  The names of the other files sort as their days, and a file is therefore known
by its day.  Strings are valid Unicode, and disk operations succeed.
-/

/-- One row of the log. -/
structure Event where
  time : Int := 0
  actor : String := ""
  actorRole : String := ""
  action : String := ""
  resource : String := ""
  result : String := ""
  detail : String := ""
  ip : String := ""
  userAgent : String := ""
  deriving DecidableEq, Inhabited

/-- The fields of a filter.  Empty ones match everything. -/
structure QueryFilter where
  actor : String := ""
  action : String := ""
  resource : String := ""
  result : String := ""
  limit : Int64 := 0
  offset : Int64 := 0

/-- A reading of the clock, which is never the zero time. -/
abbrev Moment := { time : Int // time ≠ 0 }

def defaultLimit : Int64 := 200
def maxLimit : Int64 := 1000
def recentCacheSize : Nat := 1000
def scanCap : Int64 := 10000

/-- The files of a day, and the times that `time.Time.MarshalJSON` accepts. -/
def fileFormat : LogFormat Event where
  time := Event.time
  day := dayOf
  monotone := dayOf_le_of_le
  storable time := decide (FourDigitYear time)

abbrev FileLogger := RecentLog Event recentCacheSize

/-- `NewFileLogger` on an empty directory. -/
def newFileLogger : FileLogger := RecentLog.empty (by decide)

/-- The time of the event, or of the call when it has none. -/
def Event.stamped (e : Event) (now : Moment) : Event :=
  if e.time = 0 then { e with time := now } else e

/-- `Log`. -/
def FileLogger.log (l : FileLogger) (now : Moment) (e : Event) : FileLogger :=
  l.append fileFormat (e.stamped now)

/-- What happens to the logger. -/
inductive Call where
  | log (now : Moment) (e : Event)
  | restart

def FileLogger.next (l : FileLogger) : Call -> FileLogger
  | .log now e => l.log now e
  | .restart => l.restart

/-- The logger after a history of calls and restarts. -/
def FileLogger.after (calls : List Call) : FileLogger := calls.foldl FileLogger.next newFileLogger

/-! ## Queries -/

/-- `strings.Contains`. -/
def containsText (text part : String) : Bool := decide (part.toList <:+: text.toList)

section Queries

variable (toLower : String -> String)

def matchFilter (e : Event) (f : QueryFilter) : Bool :=
  if f.actor ≠ "" ∧ e.actor ≠ f.actor then false
  else if f.action ≠ "" ∧ ¬ containsText (toLower e.action) (toLower f.action) then false
  else if f.resource ≠ "" ∧ ¬ containsText (toLower e.resource) (toLower f.resource) then false
  else if f.result ≠ "" ∧ e.result ≠ f.result then false
  else true

/-- The test both walks make. -/
def keeps (fromTime toTime : Int) (filter : QueryFilter) (e : Event) : Bool :=
  if e.time < fromTime ∨ toTime < e.time then false else matchFilter toLower e filter

/-- `queryCache`. -/
def queryCache (l : FileLogger) (fromTime toTime : Int) (filter : QueryFilter) (limit : Nat) :
    List Event × Bool :=
  if l.recent.count = 0 then ([], false)
  else
    (gather (keeps toLower fromTime toTime filter) limit [] l.recent.snapshot.reverse,
      l.covers fileFormat fromTime)

/-- `queryFiles`. -/
def queryFiles (l : FileLogger) (fromTime toTime : Int) (filter : QueryFilter) (limit : Nat) :
    List Event :=
  gatherFiles (keeps toLower fromTime toTime filter) limit []
    ((l.filesBetween (dayOf fromTime) (dayOf toTime)).reverse.map fun day =>
      (l.readDay day).reverse)

/-- The events a query collects from the ring or the files. -/
def collected (l : FileLogger) (filter : QueryFilter) (fromTime toTime : Int) (limit : Nat) :
    List Event :=
  let cache := queryCache toLower l fromTime toTime filter limit
  if cache.2 then cache.1 else queryFiles toLower l fromTime toTime filter limit

end Queries

/-- The limit of a query. -/
def QueryFilter.pageSize (filter : QueryFilter) : Int64 :=
  let limit := if filter.limit ≤ 0 then defaultLimit else filter.limit
  if maxLimit < limit then maxLimit else limit

/-- The number of events a query skips. -/
def QueryFilter.skipped (filter : QueryFilter) : Int64 :=
  if filter.offset < 0 then 0 else filter.offset

/-- How many events a query collects.  The sum wraps around. -/
def QueryFilter.collect (filter : QueryFilter) (withTotal : Bool) : Int64 :=
  let collect := filter.skipped + filter.pageSize
  if withTotal = true ∨ scanCap < collect then scanCap else collect

/-- The page of the events collected. -/
def QueryFilter.page (filter : QueryFilter) (events : List Event) : List Event :=
  if events.length ≤ filter.skipped.toNatClampNeg then []
  else (events.drop filter.skipped.toNatClampNeg).take filter.pageSize.toNatClampNeg

/-- `queryInternal`, with the collection of the events as a parameter.  A negative number of
events to collect is the capacity of a slice, and making it panics. -/
def queryInternal (collection : Int -> Int -> Nat -> List Event) (now : Moment)
    (fromTime toTime : Int) (filter : QueryFilter) (withTotal : Bool) :
    Option (List Event × Nat) :=
  let toTime : Int := if toTime = 0 then now.1 else toTime
  let fromTime := if fromTime = 0 then toTime - 24 * 3600 * second else fromTime
  let collect := filter.collect withTotal
  if collect < 0 then none
  else
    let events := collection fromTime toTime collect.toNatClampNeg
    some (filter.page events, events.length)

section Answers

variable (toLower : String -> String) (l : FileLogger) (now : Moment) (fromTime toTime : Int)
  (filter : QueryFilter)

/-- `Query`. -/
def FileLogger.query : Option (List Event) :=
  (queryInternal (collected toLower l filter) now fromTime toTime filter false).map Prod.fst

/-- `QueryWithTotal`. -/
def FileLogger.queryWithTotal : Option (List Event × Nat) :=
  queryInternal (collected toLower l filter) now fromTime toTime filter true

/-- `Query` on the files alone. -/
def FileLogger.scan : Option (List Event) :=
  (queryInternal (fun fromTime toTime => queryFiles toLower l fromTime toTime filter) now fromTime
    toTime filter false).map Prod.fst

/-- `QueryWithTotal` on the files alone. -/
def FileLogger.scanWithTotal : Option (List Event × Nat) :=
  queryInternal (fun fromTime toTime => queryFiles toLower l fromTime toTime filter) now fromTime
    toTime filter true

end Answers

/-- Every query is answered as from the files alone. -/
def FileLogger.Agrees (toLower : String -> String) (l : FileLogger) : Prop :=
  forall now fromTime toTime filter,
    l.query toLower now fromTime toTime filter = l.scan toLower now fromTime toTime filter ∧
      l.queryWithTotal toLower now fromTime toTime filter =
        l.scanWithTotal toLower now fromTime toTime filter

/-! ## The logger as a log of its history -/

def Call.step : Call -> Step Event
  | .log now e => .write (e.stamped now)
  | .restart => .restart

/-- The events logged before the last restart and since. -/
def history (calls : List Call) : History Event := History.of (calls.map Call.step)

theorem after_represents (calls : List Call) :
    (FileLogger.after calls).Represents fileFormat (history calls) := by
  apply represents_calls
  intro l call
  cases call <;> rfl

theorem stamped_time (e : Event) (now : Moment) : (e.stamped now).time ≠ 0 := by
  unfold Event.stamped
  split
  · exact now.2
  · assumption

/-- No event has the zero time. -/
theorem time_ne_zero {calls : List Call} {e : Event} (listed : e ∈ (history calls).all) :
    e.time ≠ 0 := by
  rcases List.mem_map.mp (History.write_of_mem_all listed) with ⟨call, _, written⟩
  cases call with
  | restart => cases written
  | log now event =>
      cases written
      exact stamped_time event now

/-! ## What the two walks collect -/

section Walks

variable (toLower : String -> String)

theorem keeps_inside {fromTime toTime : Int} {filter : QueryFilter} {e : Event}
    (kept : keeps toLower fromTime toTime filter e = true) :
    fromTime ≤ e.time ∧ e.time ≤ toTime := by
  unfold keeps at kept
  split at kept
  · exact absurd kept Bool.false_ne_true
  · omega

/-- A filter with empty fields keeps the window. -/
theorem keeps_all (fromTime toTime : Int) (limit : Int64) (e : Event) :
    keeps toLower fromTime toTime { limit := limit } e =
      (decide (fromTime ≤ e.time) && decide (e.time ≤ toTime)) := by
  by_cases before : e.time < fromTime
  · simp [keeps, before, not_le.mpr before]
  · by_cases after : toTime < e.time
    · simp [keeps, after, not_le.mpr after]
    · simp [keeps, before, after, not_lt.mp before, not_lt.mp after, matchFilter]

/-- The walk over the files, from the newest event of the newest day on. -/
theorem queryFiles_eq (l : FileLogger) (fromTime toTime : Int) (filter : QueryFilter)
    (limit : Nat) : queryFiles toLower l fromTime toTime filter limit =
      (((l.stored (dayOf fromTime) (dayOf toTime)).filter
        (keeps toLower fromTime toTime filter)).reverse).take limit := by
  have backwards : ((l.filesBetween (dayOf fromTime) (dayOf toTime)).reverse.map fun day =>
      (l.readDay day).reverse).flatten = (l.stored (dayOf fromTime) (dayOf toTime)).reverse := by
    rw [stored, List.reverse_flatten, List.map_map, List.map_reverse]
    rfl
  rw [queryFiles, gatherFiles_eq _ _ (Nat.zero_le limit), backwards, List.filter_reverse,
    List.nil_append, List.length_nil, Nat.sub_zero]

variable {calls : List Call}

/-- The walk over the ring, from the newest event on, where it is taken to cover the window. -/
theorem collected_of_serves {fromTime : Int}
    (serves : Serves fileFormat recentCacheSize ((history calls).recent recentCacheSize) fromTime)
    (toTime : Int) (filter : QueryFilter) (limit : Nat) :
    collected toLower (FileLogger.after calls) filter fromTime toTime limit =
      ((((history calls).recent recentCacheSize).filter
        (keeps toLower fromTime toTime filter)).reverse).take limit := by
  have represents := after_represents calls
  have snapshot : (FileLogger.after calls).recent.snapshot =
      (history calls).recent recentCacheSize := snapshot_eq_recent represents
  have used := count_ne_zero_of_serves represents serves
  have covered := (covers_iff represents fromTime).mpr serves
  simp only [collected, queryCache, used, if_false, covered, if_true, snapshot]
  rw [gather_eq _ _ (Nat.zero_le limit), List.filter_reverse, List.nil_append, List.length_nil,
    Nat.sub_zero]

/-- Elsewhere the files are read. -/
theorem collected_of_not_serves {fromTime : Int}
    (serves : ¬ Serves fileFormat recentCacheSize ((history calls).recent recentCacheSize) fromTime)
    (toTime : Int) (filter : QueryFilter) (limit : Nat) :
    collected toLower (FileLogger.after calls) filter fromTime toTime limit =
      queryFiles toLower (FileLogger.after calls) fromTime toTime filter limit := by
  have uncovered := mt (covers_iff (after_represents calls) fromTime).mp serves
  unfold collected queryCache
  split
  · rfl
  · simp [uncovered]

end Walks

/-! ## Agreement -/

/-- Where the ring covers what it is taken to cover, both walks collect the same. -/
theorem collected_eq_files (toLower : String -> String) {calls : List Call}
    (covered : Covered fileFormat recentCacheSize (history calls)) (filter : QueryFilter) :
    collected toLower (FileLogger.after calls) filter = fun fromTime toTime =>
      queryFiles toLower (FileLogger.after calls) fromTime toTime filter := by
  funext fromTime toTime limit
  by_cases serves : Serves fileFormat recentCacheSize ((history calls).recent recentCacheSize)
      fromTime
  · have same : ((FileLogger.after calls).stored (dayOf fromTime) (dayOf toTime)).filter
        (keeps toLower fromTime toTime filter) =
          ((history calls).recent recentCacheSize).filter (keeps toLower fromTime toTime filter) :=
      stored_eq_recent (after_represents calls) covered serves fun e kept =>
        keeps_inside toLower kept
    rw [collected_of_serves toLower serves, queryFiles_eq, same]
  · exact collected_of_not_serves toLower serves toTime filter limit

/-- What two agreeing answers to a request for a whole page say of the events they show. -/
theorem pages_agree {first second : List Event}
    (short : first.length ≤ 1000)
    (total : (first.take 10000).length = (second.take 10000).length)
    (page : QueryFilter.page { limit := maxLimit } (first.take 10000) =
      QueryFilter.page { limit := maxLimit } (second.take 10000)) : first = second := by
  have whole : forall events : List Event,
      QueryFilter.page { limit := maxLimit } events = events.take 1000 := by
    intro events
    have skipped : QueryFilter.skipped { limit := maxLimit } = 0 := by decide
    have pageSize : QueryFilter.pageSize { limit := maxLimit } = 1000 := by decide
    rw [QueryFilter.page, skipped, pageSize]
    cases events with
    | nil => rfl
    | cons event rest => rfl
  rw [List.length_take, List.length_take] at total
  rw [whole, whole, List.take_of_length_le (by omega : first.length ≤ 10000),
    List.take_of_length_le (by omega : second.length ≤ 10000), List.take_of_length_le short,
    List.take_of_length_le (by omega : second.length ≤ 1000)] at page
  exact page

/-- Where all queries agree, the two walks collect the same in the windows that the ring is
taken to cover. -/
theorem window_agrees {toLower : String -> String} {calls : List Call}
    (agrees : (FileLogger.after calls).Agrees toLower) {fromTime toTime : Int}
    (fromSet : fromTime ≠ 0) (toSet : toTime ≠ 0)
    (serves : Serves fileFormat recentCacheSize
      ((history calls).recent recentCacheSize) fromTime) :
    ((FileLogger.after calls).stored (dayOf fromTime) (dayOf toTime)).filter (fun e =>
        decide (fromTime ≤ e.time) && decide (e.time ≤ toTime)) =
      ((history calls).recent recentCacheSize).filter fun e =>
        decide (fromTime ≤ e.time) && decide (e.time ≤ toTime) := by
  have answered := (agrees ⟨1, Int.one_ne_zero⟩ fromTime toTime { limit := maxLimit }).2
  have collect : QueryFilter.collect { limit := maxLimit } true = 10000 := by decide
  have unwrapped : ¬ (10000 : Int64) < 0 := by decide
  have size : (10000 : Int64).toNatClampNeg = 10000 := by decide
  simp only [FileLogger.queryWithTotal, FileLogger.scanWithTotal, queryInternal, if_neg fromSet,
    if_neg toSet, collect, if_neg unwrapped, size, Option.some.injEq, Prod.mk.injEq,
    collected_of_serves toLower serves, queryFiles_eq] at answered
  have kept := funext (keeps_all toLower fromTime toTime maxLimit)
  rw [kept] at answered
  have short := (List.length_filter_le (fun e : Event =>
    decide (fromTime ≤ e.time) && decide (e.time ≤ toTime)) _).trans
      (History.length_recent recentCacheSize (history calls))
  have same := pages_agree (by rw [List.length_reverse]; exact short) answered.2 answered.1
  exact (List.reverse_injective same).symm

theorem agrees_of_covered (toLower : String -> String) {calls : List Call}
    (covered : Covered fileFormat recentCacheSize (history calls)) :
    (FileLogger.after calls).Agrees toLower := by
  intro now fromTime toTime filter
  simp only [FileLogger.query, FileLogger.scan, FileLogger.queryWithTotal,
    FileLogger.scanWithTotal, collected_eq_files toLower covered filter, and_self]

theorem covered_of_agrees {toLower : String -> String} {calls : List Call}
    (agrees : (FileLogger.after calls).Agrees toLower) :
    Covered fileFormat recentCacheSize (history calls) := by
  have represents := after_represents calls
  have complete : Complete fileFormat recentCacheSize (history calls) := by
    apply complete_of_instants represents
    intro e listed serves
    have same := window_agrees agrees (time_ne_zero listed) (time_ne_zero listed) serves
    have instant : (fun other : Event =>
        decide (e.time ≤ other.time) && decide (other.time ≤ e.time)) =
        fun other => decide (other.time = e.time) := window_instant fileFormat e.time
    rw [instant] at same
    exact congrArg List.length same
  refine ⟨complete, ordered_of_windows represents ?_⟩
  intro first firstListed last lastListed serves
  exact window_agrees agrees (time_ne_zero (History.recent_subset _ _ firstListed))
    (time_ne_zero (History.recent_subset _ _ lastListed)) serves

/-- The ring and the files give the same answers to all queries exactly when the ring covers the
windows that it is taken to cover. -/
theorem agrees_iff_covered (toLower : String -> String) (calls : List Call) :
    (FileLogger.after calls).Agrees toLower ↔
      Covered fileFormat recentCacheSize (history calls) :=
  ⟨covered_of_agrees, agrees_of_covered toLower⟩

/-- One event, a restart, and another event. -/
def restarted : List Call :=
  [.log ⟨1, Int.one_ne_zero⟩ { time := 5, action := "user.create" }, .restart,
    .log ⟨1, Int.one_ne_zero⟩ { time := 7, action := "user.delete" }]

/-- The event before the restart is missing from the answer. -/
theorem restart_hides_event :
    ¬ forall (toLower : String -> String) (calls : List Call),
      (FileLogger.after calls).Agrees toLower := by
  intro agree
  have same := (agree id restarted ⟨1, Int.one_ne_zero⟩ 1 10 {}).1
  exact absurd same (by decide +kernel)

/-- Until the first restart, queries agree when the times of the events increase. -/
theorem agrees_of_increasing (toLower : String -> String) {calls : List Call}
    (first : (history calls).earlier = [])
    (increasing : (history calls).since.Pairwise fun before after => before.time < after.time)
    (years : forall e, e ∈ (history calls).since -> FourDigitYear e.time) :
    (FileLogger.after calls).Agrees toLower := by
  apply agrees_of_covered
  exact covered_of_increasing first increasing fun e listed => decide_eq_true (years e listed)

end Audit
end Basement
