import Basement.Library.RingBuffer
import Basement.Library.SortedStore
import Mathlib.Data.List.Pairwise

namespace Basement
namespace Library

/-!
# Logs with a cache of recent entries

A log appends its entries to one file a day and keeps the latest ones in a ring as well.  A
restart empties the ring and leaves the files.  Entries arrive with any times, so the order of
writing, the order of the days and the order of the times are three different orders.

A reader prefers the ring.  The ring is taken to cover every window when it is not full, and
the windows from its oldest entry on when it is.  `Covered` says when this is right, and
`gather_eq` together with `stored_filter` says what the two ways of reading return.
-/

/-- The time of an entry, the day of a time, and the times that can be written to a file. -/
structure LogFormat (α : Type*) where
  time : α -> Int
  day : Int -> Int
  monotone : forall {before after : Int}, before ≤ after -> day before ≤ day after
  storable : Int -> Bool

/-- The recent entries and the files, by day. -/
structure RecentLog (α : Type*) (capacity : Nat) where
  recent : RingBuffer α capacity
  files : SortedStore Int (List α)

namespace RecentLog

variable {α : Type*} {capacity : Nat} (format : LogFormat α)

/-! ## Reading -/

/-- Collect the entries a test accepts behind those collected, up to the limit. -/
def gather (keep : α -> Bool) (limit : Nat) : List α -> List α -> List α
  | out, [] => out
  | out, entry :: rest =>
      if out.length < limit then gather keep limit (if keep entry then out ++ [entry] else out) rest
      else out

theorem gather_eq (keep : α -> Bool) {limit : Nat} (entries : List α) :
    forall {out : List α}, out.length ≤ limit ->
      gather keep limit out entries =
        out ++ (entries.filter keep).take (limit - out.length) := by
  induction entries with
  | nil => intro out _; simp [gather]
  | cons entry rest ih =>
      intro out within
      simp only [gather]
      split
      · rename_i room
        cases kept : keep entry with
        | true =>
            have one : limit - out.length = limit - (out ++ [entry]).length + 1 := by
              simp only [List.length_append, List.length_singleton]
              omega
            rw [if_pos rfl, ih (by simp only [List.length_append, List.length_singleton]; omega),
              List.filter_cons_of_pos kept, one, List.take_succ_cons, List.append_assoc,
              List.singleton_append]
        | false =>
            rw [if_neg Bool.false_ne_true, ih within, List.filter_cons_of_neg (by simp [kept])]
      · rename_i full
        rw [Nat.sub_eq_zero_of_le (by omega), List.take_zero, List.append_nil]

/-- Collect file after file until the limit is reached. -/
def gatherFiles (keep : α -> Bool) (limit : Nat) : List α -> List (List α) -> List α
  | out, [] => out
  | out, file :: rest =>
      if limit ≤ out.length then out else gatherFiles keep limit (gather keep limit out file) rest

theorem gatherFiles_eq (keep : α -> Bool) {limit : Nat} (files : List (List α)) :
    forall {out : List α}, out.length ≤ limit ->
      gatherFiles keep limit out files =
        out ++ (files.flatten.filter keep).take (limit - out.length) := by
  induction files with
  | nil => intro out _; simp [gatherFiles]
  | cons file rest ih =>
      intro out within
      simp only [gatherFiles]
      split
      · rename_i full
        rw [Nat.sub_eq_zero_of_le full, List.take_zero, List.append_nil]
      · have collected := gather_eq keep file within
        have taken : (gather keep limit out file).length ≤ limit := by
          rw [collected, List.length_append, List.length_take]
          omega
        rw [ih taken, collected, List.append_assoc, List.flatten_cons, List.filter_append,
          List.take_append, List.length_append, List.length_take]
        congr 3
        omega

/-- So many days from the first on. -/
def daysFrom (first : Int) : Nat -> List Int
  | 0 => []
  | count + 1 => first :: daysFrom (first + 1) count

/-- The days of a range. -/
def daysBetween (first last : Int) : List Int := daysFrom first (last + 1 - first).toNat

/-- The days of a range that have a file. -/
def filesBetween (log : RecentLog α capacity) (first last : Int) : List Int :=
  (daysBetween first last).filter fun day => (log.files.get? day).isSome

/-- The entries in the file of a day. -/
def readDay (log : RecentLog α capacity) (day : Int) : List α := (log.files.get? day).getD []

/-- The entries in the files of a range of days. -/
def stored (log : RecentLog α capacity) (first last : Int) : List α :=
  ((log.filesBetween first last).map log.readDay).flatten

/-- The ring answers for windows from the time on: it is in use, and it is not full or its
oldest entry is not later. -/
def covers (log : RecentLog α capacity) (first : Int) : Bool :=
  match log.recent.snapshot with
  | [] => false
  | oldest :: _ => log.recent.count != capacity || !decide (first < format.time oldest)

/-! ## Writing -/

/-- What happens to a log. -/
inductive Step (α : Type*) where
  | write (entry : α)
  | restart

section Writing

variable [Inhabited α]

/-- An empty directory and a ring that was not written. -/
def empty (positive : 0 < capacity) : RecentLog α capacity :=
  ⟨RingBuffer.empty positive, SortedStore.empty⟩

/-- A new process on the same files. -/
def restart (log : RecentLog α capacity) : RecentLog α capacity :=
  { log with recent := RingBuffer.empty log.recent.capacity_pos }

/-- Write an entry to the ring and to the file of its day.  The file is opened before the entry
turns out not to have a representation. -/
def append (log : RecentLog α capacity) (entry : α) : RecentLog α capacity where
  recent := log.recent.push entry
  files := log.files.put (format.day (format.time entry))
    (log.readDay (format.day (format.time entry)) ++
      if format.storable (format.time entry) then [entry] else [])

def next (log : RecentLog α capacity) : Step α -> RecentLog α capacity
  | .write entry => log.append format entry
  | .restart => log.restart

/-- The log after a history. -/
def after (positive : 0 < capacity) (steps : List (Step α)) : RecentLog α capacity :=
  steps.foldl (next format) (empty positive)

end Writing

/-! ## Histories -/

/-- The entries written before the last restart and since. -/
structure History (α : Type*) where
  earlier : List α
  since : List α

namespace History

def next (history : History α) : Step α -> History α
  | .write entry => { history with since := history.since ++ [entry] }
  | .restart => ⟨history.earlier ++ history.since, []⟩

/-- The history the steps make. -/
def of (steps : List (Step α)) : History α := steps.foldl next ⟨[], []⟩

/-- The entries ever written. -/
def all (history : History α) : List α := history.earlier ++ history.since

/-- The entries that are in a file. -/
def persisted (history : History α) : List α :=
  (history.earlier ++ history.since).filter fun entry => format.storable (format.time entry)

/-- The entries that are in the ring. -/
def recent (capacity : Nat) (history : History α) : List α := history.since.rtake capacity

/-- The entries that are in a file and not in the ring. -/
def older (capacity : Nat) (history : History α) : List α :=
  (history.earlier ++ history.since.rdrop capacity).filter fun entry =>
    format.storable (format.time entry)

/-- Only what was written is in a history. -/
theorem write_of_mem_all {steps : List (Step α)} {entry : α}
    (listed : entry ∈ (of steps).all) : .write entry ∈ steps := by
  have carried : forall start : History α, entry ∈ (steps.foldl next start).all ->
      entry ∈ start.all ∨ .write entry ∈ steps := by
    clear listed
    induction steps with
    | nil => exact fun start listed => Or.inl listed
    | cons step rest ih =>
        intro start member
        rcases ih (start.next step) member with known | later
        · cases step with
          | restart => exact Or.inl (by simpa [next, all] using known)
          | write other =>
              simp only [next, all, List.mem_append, List.mem_singleton] at known
              rcases known with earlier | since | same
              · exact Or.inl (List.mem_append_left _ earlier)
              · exact Or.inl (List.mem_append_right _ since)
              · exact Or.inr (same ▸ List.mem_cons_self)
        · exact Or.inr (List.mem_cons_of_mem _ later)
  rcases carried ⟨[], []⟩ listed with none | written
  · exact absurd none List.not_mem_nil
  · exact written

variable {format}

theorem persisted_eq (capacity : Nat) (history : History α) :
    history.persisted format = history.older format capacity ++
      (history.recent capacity).filter fun entry => format.storable (format.time entry) := by
  rw [persisted, older, recent, ← List.filter_append, List.append_assoc, List.rdrop, List.rtake,
    List.take_append_drop]

theorem older_subset (capacity : Nat) (history : History α) :
    history.older format capacity ⊆ history.all := by
  apply (List.filter_sublist.trans _).subset
  exact List.Sublist.append (List.Sublist.refl _) (List.take_sublist _ _)

theorem recent_subset (capacity : Nat) (history : History α) :
    history.recent capacity ⊆ history.all :=
  fun _ listed => List.mem_append_right _ (List.mem_of_mem_drop listed)

theorem length_recent (capacity : Nat) (history : History α) :
    (history.recent capacity).length ≤ capacity := by
  simp only [recent, List.rtake, List.length_drop]
  omega

end History

/-- The ring and the files are those of the history. -/
structure Represents (log : RecentLog α capacity) (history : History α) : Prop where
  recent : log.recent.Holds history.since
  files : forall day, log.readDay day =
    (history.persisted format).filter fun entry => decide (format.day (format.time entry) = day)

variable {format}

theorem represents_next [Inhabited α] {log : RecentLog α capacity} {history : History α}
    (represents : log.Represents format history) (step : Step α) :
    (log.next format step).Represents format (history.next step) := by
  cases step with
  | restart =>
      refine ⟨RingBuffer.holds_empty _, ?_⟩
      intro day
      have same : (history.next .restart).persisted format = history.persisted format := by
        simp [History.next, History.persisted]
      exact same ▸ represents.files day
  | write entry =>
      refine ⟨represents.recent.push entry, ?_⟩
      intro day
      have before := represents.files day
      have appended : (history.next (.write entry)).persisted format =
          history.persisted format ++
            if format.storable (format.time entry) then [entry] else [] := by
        cases storable : format.storable (format.time entry) <;>
          simp [History.next, History.persisted, List.filter_append, storable]
      have read : (log.next format (.write entry)).readDay day =
          if day = format.day (format.time entry) then
            log.readDay day ++ if format.storable (format.time entry) then [entry] else []
          else log.readDay day := by
        change ((log.files.put _ _).get? day).getD [] = _
        rw [SortedStore.get?_put]
        by_cases same : day = format.day (format.time entry)
        · rw [if_pos same, if_pos same, same]
          rfl
        · rw [if_neg same, if_neg same]
          rfl
      rw [read, before, appended, List.filter_append]
      by_cases same : day = format.day (format.time entry)
      · cases storable : format.storable (format.time entry) <;> simp [same]
      · cases storable : format.storable (format.time entry) <;> simp [same, Ne.symm same]

/-- After every history the ring and the files are those of the history. -/
theorem represents_after [Inhabited α] (positive : 0 < capacity) (steps : List (Step α)) :
    (after format positive steps).Represents format (History.of steps) := by
  have initially : (empty positive : RecentLog α capacity).Represents format ⟨[], []⟩ :=
    ⟨RingBuffer.holds_empty positive, fun _ => rfl⟩
  have carried : forall (log : RecentLog α capacity) (history : History α),
      log.Represents format history ->
        (steps.foldl (next format) log).Represents format (steps.foldl History.next history) := by
    induction steps with
    | nil => intro _ _ represents; exact represents
    | cons step rest ih =>
        intro log history represents
        exact ih _ _ (represents_next represents step)
  exact carried _ _ initially

/-- The same for calls that each take a step of the log. -/
theorem represents_calls [Inhabited α] {Call : Type*} {step : Call -> Step α}
    {act : RecentLog α capacity -> Call -> RecentLog α capacity}
    (acts : forall log call, act log call = log.next format (step call))
    (positive : 0 < capacity) (calls : List Call) :
    (calls.foldl act (empty positive)).Represents format (History.of (calls.map step)) := by
  have same : calls.foldl act (empty positive) = after format positive (calls.map step) := by
    rw [after, List.foldl_map]
    congr 1
    funext log call
    exact acts log call
  rw [same]
  exact represents_after positive _

/-- The window of a single time. -/
theorem window_instant (format : LogFormat α) (time : Int) :
    (fun entry => decide (time ≤ format.time entry) && decide (format.time entry ≤ time)) =
      fun entry => decide (format.time entry = time) := by
  funext entry
  rw [← Bool.decide_and, decide_eq_decide]
  omega

/-! ## Sorting by day -/

section ByDay

variable (key : α -> Int)

/-- Entries listed by day, from the first on, split at the first day. -/
theorem filter_append_of_sorted {entries : List α}
    (sorted : entries.Pairwise fun before after => key before ≤ key after) {first : Int}
    (bounded : forall entry, entry ∈ entries -> first ≤ key entry) :
    (entries.filter fun entry => decide (key entry = first)) ++
      (entries.filter fun entry => decide (key entry ≠ first)) = entries := by
  induction entries with
  | nil => rfl
  | cons entry rest ih =>
      rcases List.pairwise_cons.mp sorted with ⟨ahead, restSorted⟩
      have restBounded : forall other, other ∈ rest -> first ≤ key other :=
        fun other listed => bounded other (List.mem_cons_of_mem _ listed)
      by_cases same : key entry = first
      · simpa [same] using ih restSorted restBounded
      · have later : forall other, other ∈ rest -> key other ≠ first := by
          intro other listed equal
          have := ahead other listed
          have := bounded entry List.mem_cons_self
          omega
        have none : rest.filter (fun other => decide (key other = first)) = [] :=
          List.filter_eq_nil_iff.mpr fun other listed => by simpa using later other listed
        have all : rest.filter (fun other => decide (key other ≠ first)) = rest :=
          List.filter_eq_self.mpr fun other listed => by simpa using later other listed
        rw [List.filter_cons_of_neg (by simpa using same),
          List.filter_cons_of_pos (by simpa using same), none, all, List.nil_append]

theorem le_of_mem_daysFrom (count : Nat) :
    forall {first day : Int}, day ∈ daysFrom first count -> first ≤ day := by
  induction count with
  | zero => intro first day listed; simp [daysFrom] at listed
  | succ count ih =>
      intro first day listed
      rcases List.mem_cons.mp listed with same | rest
      · omega
      · have := ih rest
        omega

theorem daysFrom_ascending (count : Nat) :
    forall first : Int, (daysFrom first count).Pairwise fun before after => before < after := by
  induction count with
  | zero => intro first; simp [daysFrom]
  | succ count ih =>
      intro first
      refine List.pairwise_cons.mpr ⟨?_, ih (first + 1)⟩
      intro day listed
      have := le_of_mem_daysFrom count listed
      omega

/-- What is left of the entries of the later days. -/
theorem flatMap_rest {first : Int} (entries : List α) (count : Nat) :
    ((daysFrom (first + 1) count).flatMap fun day =>
      (entries.filter fun entry => decide (key entry ≠ first)).filter
        fun entry => decide (key entry = day)) =
    (daysFrom (first + 1) count).flatMap fun day =>
      entries.filter fun entry => decide (key entry = day) := by
  apply List.flatMap_congr
  intro day listed
  rw [List.filter_filter]
  apply List.filter_congr
  intro entry _
  have := le_of_mem_daysFrom count listed
  by_cases same : key entry = day
  · simp [same]
    omega
  · simp [same]

theorem eq_nil_of_bounded {entries : List α} {first : Int}
    (bounded : forall entry, entry ∈ entries -> first ≤ key entry ∧ key entry < first + (0 : Nat)) :
    entries = [] := by
  refine List.eq_nil_iff_forall_not_mem.mpr fun entry listed => ?_
  have := bounded entry listed
  omega

/-- The entries of the later days. -/
theorem bounded_filter {entries : List α} {first : Int} {count : Nat}
    (bounded : forall entry, entry ∈ entries ->
      first ≤ key entry ∧ key entry < first + (count + 1 : Nat)) :
    forall entry, entry ∈ entries.filter (fun entry => decide (key entry ≠ first)) ->
      first + 1 ≤ key entry ∧ key entry < first + 1 + count := by
  intro entry listed
  simp only [List.mem_filter, decide_eq_true_eq] at listed
  have := bounded entry listed.1
  have := listed.2
  omega

/-- Entries already listed by day are not reordered. -/
theorem flatMap_days_of_sorted {entries : List α} (count : Nat) :
    forall {first : Int}, entries.Pairwise (fun before after => key before ≤ key after) ->
      (forall entry, entry ∈ entries -> first ≤ key entry ∧ key entry < first + count) ->
      ((daysFrom first count).flatMap fun day =>
        entries.filter fun entry => decide (key entry = day)) = entries := by
  induction count generalizing entries with
  | zero =>
      intro first _ bounded
      rw [eq_nil_of_bounded key bounded]
      rfl
  | succ count ih =>
      intro first sorted bounded
      rw [daysFrom, List.flatMap_cons, ← flatMap_rest, ih (sorted.filter _) ?_]
      · exact filter_append_of_sorted key sorted fun entry listed => (bounded entry listed).1
      · exact bounded_filter key bounded

/-- Listing by day drops no entry. -/
theorem length_flatMap_days {entries : List α} (count : Nat) :
    forall {first : Int},
      (forall entry, entry ∈ entries -> first ≤ key entry ∧ key entry < first + count) ->
      ((daysFrom first count).flatMap fun day =>
        entries.filter fun entry => decide (key entry = day)).length = entries.length := by
  induction count generalizing entries with
  | zero =>
      intro first bounded
      rw [eq_nil_of_bounded key bounded]
      rfl
  | succ count ih =>
      intro first bounded
      rw [daysFrom, List.flatMap_cons, List.length_append, ← flatMap_rest, ih ?_]
      · have split := List.length_eq_length_filter_add (l := entries)
          fun entry => decide (key entry = first)
        simpa using split.symm
      · exact bounded_filter key bounded

/-- What is listed by day is in the order of the days. -/
theorem flatMap_days_sorted (entries : List α) (count : Nat) :
    forall first : Int, ((daysFrom first count).flatMap fun day =>
      entries.filter fun entry => decide (key entry = day)).Pairwise
        fun before after => key before ≤ key after := by
  intro first
  rw [List.pairwise_flatMap]
  refine ⟨fun day _ => ?_, (daysFrom_ascending count first).imp ?_⟩
  · refine List.Pairwise.imp_of_mem ?_
      (List.pairwise_of_forall (R := fun _ _ => True) fun _ _ => trivial)
    intro before after beforeListed afterListed _
    simp only [List.mem_filter, decide_eq_true_eq] at beforeListed afterListed
    omega
  · intro earlier later order before beforeListed after afterListed
    simp only [List.mem_filter, decide_eq_true_eq] at beforeListed afterListed
    omega

end ByDay

/-! ## Coverage -/

variable (format) in
/-- Entries in a ring of that capacity are taken to cover the windows from the time on. -/
def Serves (capacity : Nat) (recent : List α) (first : Int) : Prop :=
  Exists fun oldest => recent.head? = some oldest ∧
    (recent.length < capacity ∨ format.time oldest ≤ first)

variable (format) in
/-- No entry of a window that the ring is taken to cover is in the files alone or in the ring
alone. -/
structure Complete (capacity : Nat) (history : History α) : Prop where
  cached : forall entry, entry ∈ history.older format capacity ->
    ¬ Serves format capacity (history.recent capacity) (format.time entry)
  storable : forall entry, entry ∈ history.recent capacity ->
    Serves format capacity (history.recent capacity) (format.time entry) ->
      format.storable (format.time entry) = true

variable (format) in
/-- The windows that the ring is taken to cover hold what the ring says: their entries are
complete in both places, and the ring has them in the order of their days. -/
structure Covered (capacity : Nat) (history : History α) : Prop
    extends Complete format capacity history where
  ordered : (history.recent capacity).Pairwise fun before after =>
    Serves format capacity (history.recent capacity) (format.time before) ->
      Serves format capacity (history.recent capacity) (format.time after) ->
        format.day (format.time before) ≤ format.day (format.time after)

theorem Serves.mono {recent : List α} {first later : Int}
    (serves : Serves format capacity recent first) (order : first ≤ later) :
    Serves format capacity recent later := by
  rcases serves with ⟨oldest, found, fits⟩
  exact ⟨oldest, found, fits.imp_right fun earlier => le_trans earlier order⟩

/-- The first process on an empty directory covers what it says when the times increase. -/
theorem covered_of_increasing {history : History α} (first : history.earlier = [])
    (increasing : history.since.Pairwise fun before after =>
      format.time before < format.time after)
    (storable : forall entry, entry ∈ history.since ->
      format.storable (format.time entry) = true) : Covered format capacity history where
  cached := by
    intro entry listed serves
    rcases serves with ⟨oldest, found, fits⟩
    have dropped : entry ∈ history.since.rdrop capacity := by
      simpa [History.older, first] using (List.mem_filter.mp listed).1
    have kept : oldest ∈ history.since.rtake capacity := List.mem_of_mem_head? found
    have parts : history.since = history.since.rdrop capacity ++ history.since.rtake capacity :=
      (List.take_append_drop _ _).symm
    rw [parts] at increasing
    have before := (List.pairwise_append.mp increasing).2.2 entry dropped oldest kept
    have long := List.length_pos_of_mem dropped
    simp only [History.recent, List.rtake, List.length_drop] at fits
    simp only [List.rdrop, List.length_take] at long
    omega
  storable := fun entry listed _ => storable entry (List.mem_of_mem_drop listed)
  ordered := (increasing.sublist (List.drop_sublist _ _)).imp fun order _ _ =>
    format.monotone order.le

/-- What a window from a served time on keeps of the persisted entries. -/
theorem persisted_filter {history : History α} (complete : Complete format capacity history)
    {first : Int}
    (serves : Serves format capacity (history.recent capacity) first) {keep : α -> Bool}
    (inside : forall entry, keep entry = true -> first ≤ format.time entry) :
    (history.persisted format).filter keep = (history.recent capacity).filter keep := by
  have older : (history.older format capacity).filter keep = [] := by
    rw [List.filter_eq_nil_iff]
    intro entry listed accepted
    exact complete.cached entry listed (serves.mono (inside entry accepted))
  rw [history.persisted_eq capacity, List.filter_append, older, List.nil_append, List.filter_filter]
  apply List.filter_congr
  intro entry listed
  cases accepted : keep entry with
  | false => rfl
  | true => simp [complete.storable entry listed (serves.mono (inside entry accepted))]

/-- A time of the window lies on a day of the window. -/
theorem day_mem {first last time : Int} (inside : first ≤ time ∧ time ≤ last) :
    format.day first ≤ format.day time ∧
      format.day time < format.day first + (format.day last + 1 - format.day first).toNat := by
  have := format.monotone inside.1
  have := format.monotone inside.2
  omega

section Reading

variable {log : RecentLog α capacity} {history : History α}
  (represents : log.Represents format history)
include represents

/-- The ring holds the latest entries since the restart. -/
theorem snapshot_eq_recent : log.recent.snapshot = history.recent capacity :=
  represents.recent.snapshot_eq

/-- A ring that is taken to cover a window is in use. -/
theorem count_ne_zero_of_serves {first : Int}
    (serves : Serves format capacity (history.recent capacity) first) : log.recent.count ≠ 0 := by
  intro unused
  rcases serves with ⟨oldest, found, _⟩
  rw [← snapshot_eq_recent represents, RingBuffer.snapshot, unused] at found
  simp at found

/-- The decision of the reader. -/
theorem covers_iff (first : Int) : log.covers format first = true ↔
    Serves format capacity (history.recent capacity) first := by
  have snapshot := snapshot_eq_recent represents
  have full : log.recent.count = capacity ↔ ¬ (history.recent capacity).length < capacity := by
    have := represents.recent.count
    simp only [History.recent, List.rtake, List.length_drop]
    have := log.recent.capacity_pos
    omega
  rw [covers, Serves, snapshot]
  cases entries : history.recent capacity with
  | nil => simp
  | cons oldest rest =>
      rw [entries, List.length_cons] at full
      by_cases isFull : log.recent.count = capacity
      · simp [isFull, full.mp isFull]
      · simp [isFull, not_not.mp (mt full.mpr isFull)]

/-- The files of a range of days hold what was persisted, listed by day. -/
theorem stored_eq (first last : Int) : log.stored first last =
    (daysBetween first last).flatMap fun day =>
      (history.persisted format).filter fun entry =>
        decide (format.day (format.time entry) = day) := by
  rw [stored, filesBetween, ← List.flatMap_def]
  induction daysBetween first last with
  | nil => rfl
  | cons day rest ih =>
      rw [List.flatMap_cons, ← ih, ← represents.files day]
      cases found : log.files.get? day with
      | none => simp [found, readDay]
      | some file => simp [found]

/-- The same after a test. -/
theorem stored_filter (keep : α -> Bool) (first last : Int) : (log.stored first last).filter keep =
    (daysBetween first last).flatMap fun day =>
      ((history.persisted format).filter keep).filter fun entry =>
        decide (format.day (format.time entry) = day) := by
  rw [stored_eq represents, List.filter_flatMap]
  apply List.flatMap_congr
  intro day _
  rw [List.filter_filter, List.filter_filter]
  exact List.filter_congr fun entry _ => Bool.and_comm _ _

theorem stored_sorted (keep : α -> Bool) (first last : Int) :
    ((log.stored first last).filter keep).Pairwise fun before after =>
      format.day (format.time before) ≤ format.day (format.time after) := by
  rw [stored_filter represents]
  exact flatMap_days_sorted (fun entry => format.day (format.time entry)) _ _ _

/-- In a covered window the files hold the entries of the ring, in its order. -/
theorem stored_eq_recent (covered : Covered format capacity history) {first last : Int}
    (serves : Serves format capacity (history.recent capacity) first) {keep : α -> Bool}
    (inside : forall entry, keep entry = true ->
      first ≤ format.time entry ∧ format.time entry ≤ last) :
    (log.stored (format.day first) (format.day last)).filter keep =
      (history.recent capacity).filter keep := by
  have kept := persisted_filter covered.toComplete serves fun entry accepted =>
    (inside entry accepted).1
  rw [stored_filter represents, kept]
  apply flatMap_days_of_sorted fun entry => format.day (format.time entry)
  · refine (covered.ordered.filter keep).imp_of_mem ?_
    intro before after beforeKept afterKept order
    have beforeInside := inside before (List.mem_filter.mp beforeKept).2
    have afterInside := inside after (List.mem_filter.mp afterKept).2
    exact order (serves.mono beforeInside.1) (serves.mono afterInside.1)
  · exact fun entry accepted => day_mem (inside entry (List.mem_filter.mp accepted).2)

/-- In a window without an entry in the files or the ring alone, both hold the same number. -/
theorem length_stored (complete : Complete format capacity history) {first last : Int}
    (serves : Serves format capacity (history.recent capacity) first) {keep : α -> Bool}
    (inside : forall entry, keep entry = true ->
      first ≤ format.time entry ∧ format.time entry ≤ last) :
    ((log.stored (format.day first) (format.day last)).filter keep).length =
      ((history.recent capacity).filter keep).length := by
  have kept := persisted_filter complete serves fun entry accepted => (inside entry accepted).1
  rw [stored_filter represents, kept]
  exact length_flatMap_days (fun entry => format.day (format.time entry)) _
    fun entry accepted => day_mem (inside entry (List.mem_filter.mp accepted).2)

/-- The number of persisted entries of an instant. -/
theorem length_stored_instant (time : Int) :
    ((log.stored (format.day time) (format.day time)).filter
      fun entry => decide (format.time entry = time)).length =
    ((history.persisted format).filter fun entry => decide (format.time entry = time)).length := by
  rw [stored_filter represents]
  apply length_flatMap_days fun entry => format.day (format.time entry)
  intro entry listed
  have same : format.time entry = time := by simpa using (List.mem_filter.mp listed).2
  exact day_mem ⟨same.ge, same.le⟩

/-- Where the files and the ring hold as many entries of each instant, none is in the files
alone or in the ring alone. -/
theorem complete_of_instants (agree : forall entry, entry ∈ history.all ->
      Serves format capacity (history.recent capacity) (format.time entry) ->
        ((log.stored (format.day (format.time entry)) (format.day (format.time entry))).filter
          fun other => decide (format.time other = format.time entry)).length =
        ((history.recent capacity).filter
          fun other => decide (format.time other = format.time entry)).length) :
    Complete format capacity history := by
  have split : forall entry, entry ∈ history.all ->
      Serves format capacity (history.recent capacity) (format.time entry) ->
      ((history.older format capacity).filter
        fun other => decide (format.time other = format.time entry)).length +
      (((history.recent capacity).filter fun other => format.storable (format.time other)).filter
        fun other => decide (format.time other = format.time entry)).length =
      ((history.recent capacity).filter
        fun other => decide (format.time other = format.time entry)).length := by
    intro entry listed serves
    rw [← agree entry listed serves, length_stored_instant represents,
      history.persisted_eq capacity, List.filter_append, List.length_append]
  have instant : forall time, ((history.recent capacity).filter
        fun entry => format.storable (format.time entry)).filter
        (fun entry => decide (format.time entry = time)) =
      if format.storable time then
        (history.recent capacity).filter fun entry => decide (format.time entry = time)
      else [] := by
    intro time
    rw [List.filter_filter]
    cases writable : format.storable time with
    | true =>
        rw [if_pos rfl]
        apply List.filter_congr
        intro entry _
        by_cases same : format.time entry = time <;> simp [same, writable]
    | false =>
        rw [if_neg Bool.false_ne_true, List.filter_eq_nil_iff]
        intro entry _
        by_cases same : format.time entry = time <;> simp [same, writable]
  constructor
  · intro entry listed serves
    have balance := split entry (history.older_subset capacity listed) serves
    have writable : format.storable (format.time entry) = true := (List.mem_filter.mp listed).2
    rw [instant, if_pos writable] at balance
    have found : entry ∈ (history.older format capacity).filter
        fun other => decide (format.time other = format.time entry) := by simp [listed]
    have := List.length_pos_of_mem found
    omega
  · intro entry listed serves
    have balance := split entry (history.recent_subset capacity listed) serves
    cases writable : format.storable (format.time entry) with
    | true => rfl
    | false =>
        have found : entry ∈ (history.recent capacity).filter
            fun other => decide (format.time other = format.time entry) := by simp [listed]
        have older : (history.older format capacity).filter
            (fun other => decide (format.time other = format.time entry)) = [] := by
          rw [List.filter_eq_nil_iff]
          intro other member
          have otherWritable := (List.mem_filter.mp member).2
          by_cases same : format.time other = format.time entry
          · simp [same, writable] at otherWritable
          · simp [same]
        have := List.length_pos_of_mem found
        rw [instant, if_neg (by simp [writable]), older] at balance
        simp only [List.length_nil] at balance
        omega

/-- Where the files and the ring agree in all windows, the ring is in the order of the days. -/
theorem ordered_of_windows (agree : forall first, first ∈ history.recent capacity ->
      forall last, last ∈ history.recent capacity ->
      Serves format capacity (history.recent capacity) (format.time first) ->
        (log.stored (format.day (format.time first)) (format.day (format.time last))).filter
          (fun entry => decide (format.time first ≤ format.time entry) &&
            decide (format.time entry ≤ format.time last)) =
        (history.recent capacity).filter fun entry =>
          decide (format.time first ≤ format.time entry) &&
            decide (format.time entry ≤ format.time last)) :
    (history.recent capacity).Pairwise fun before after =>
      Serves format capacity (history.recent capacity) (format.time before) ->
        Serves format capacity (history.recent capacity) (format.time after) ->
          format.day (format.time before) ≤ format.day (format.time after) := by
  rw [List.pairwise_iff_forall_sublist]
  intro before after part beforeServes afterServes
  by_contra disorder
  have order : format.time after ≤ format.time before := by
    by_contra later
    exact disorder (format.monotone (not_le.mp later).le)
  have sorted := stored_sorted represents (fun entry =>
    decide (format.time after ≤ format.time entry) &&
      decide (format.time entry ≤ format.time before)) (format.day (format.time after))
    (format.day (format.time before))
  rw [agree after (part.subset (by simp)) before (part.subset (by simp)) afterServes] at sorted
  have kept := part.filter fun entry =>
    decide (format.time after ≤ format.time entry) &&
      decide (format.time entry ≤ format.time before)
  simp only [order, le_refl, decide_true, Bool.and_self, List.filter_cons_of_pos,
    List.filter_nil] at kept
  have := List.pairwise_cons.mp (sorted.sublist kept)
  exact disorder (this.1 after List.mem_cons_self)

end Reading

end RecentLog

end Library
end Basement
