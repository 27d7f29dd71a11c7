import Basement.Federation.Records

namespace Basement
namespace Federation

open Library

/-!
# A pass over a quiet primary

Nobody writes to the primary, and every driver call succeeds.  Then a pass is a
function of the replica's state: `computeDiff` scans the pages of the listing in a row,
every queued object is copied, and `recordSuccess` writes the row.

What a scan queues has a closed form.  The scan reads the pages up to the one with
which it has seen `scanCap` objects; of the objects on these pages that need a copy it
queues the first `maxBatchPerTick`.
-/

variable {contentOf : String -> Body}

/-! ## The scan -/

/-- The objects of one page. -/
def scanPage (lastSync : Int) (replica : Contents contentOf) :
    List (String × Object contentOf) -> DiffResult -> Except DiffResult DiffResult
  | [], dr => .ok dr
  | listed :: rest, dr =>
      match scanObject lastSync (replica.get? listed.1) listed dr with
      | .error dr => .error dr
      | .ok dr => scanPage lastSync replica rest dr

/-- `computeDiff`, over the pages that the listing returns. -/
def computeDiff (lastSync : Int) (replica : Contents contentOf) :
    List (List (String × Object contentOf)) -> DiffResult -> DiffResult
  | [], dr => dr
  | page :: rest, dr =>
      match scanPage lastSync replica page dr with
      | .error dr => dr
      | .ok dr =>
          match pageEnd (!rest.isEmpty) dr with
          | .error dr => dr
          | .ok dr => computeDiff lastSync replica rest dr

/-- The objects that a scan reads when it has seen `scanned` objects already. -/
def scanWindow (scanned : Nat) :
    List (List (String × Object contentOf)) -> List (String × Object contentOf)
  | [] => []
  | page :: rest =>
      page ++ if scanCap ≤ scanned + page.length then []
        else scanWindow (scanned + page.length) rest

/-- The watermark does not exclude the object, and the answer of the replica calls for
a copy. -/
def needs (lastSync : Int) (replica : Contents contentOf)
    (listed : String × Object contentOf) : Bool :=
  !filtered lastSync listed.2.mtime && needsCopy listed.2 (replica.get? listed.1)

/-- What is queued of a list of objects. -/
def due (lastSync : Int) (replica : Contents contentOf)
    (objects : List (String × Object contentOf)) : List DiffEntry :=
  (objects.filter (needs lastSync replica)).map fun listed => ⟨listed.1, listed.2.size⟩

section Scan

variable {lastSync : Int} {replica : Contents contentOf}

theorem due_append (front back : List (String × Object contentOf)) :
    due lastSync replica (front ++ back) = due lastSync replica front ++ due lastSync replica back := by
  simp [due]

theorem due_cons_of_needs {listed : String × Object contentOf}
    {rest : List (String × Object contentOf)} (wanted : needs lastSync replica listed = true) :
    due lastSync replica (listed :: rest) =
      ⟨listed.1, listed.2.size⟩ :: due lastSync replica rest := by
  simp [due, wanted]

theorem due_cons_of_not_needs {listed : String × Object contentOf}
    {rest : List (String × Object contentOf)} (unwanted : needs lastSync replica listed = false) :
    due lastSync replica (listed :: rest) = due lastSync replica rest := by
  simp [due, unwanted]

/-- A listed object goes to the result, when it needs a copy. -/
theorem scanObject_entries {listed : String × Object contentOf} {dr after : DiffResult}
    (result : scanObject lastSync (replica.get? listed.1) listed dr = .ok after) :
    after.entries = dr.entries ++ due lastSync replica [listed] ∧
      after.scanned = dr.scanned + 1 ∧
      (dr.entries.length < maxBatchPerTick -> after.entries.length < maxBatchPerTick) := by
  rcases scanObject_cases lastSync (replica.get? listed.1) listed dr with
    ⟨old, same⟩ | ⟨fresh, equal, same⟩ | ⟨fresh, differs, same⟩
  · rw [same] at result
    cases Except.ok.inj result
    rw [due_cons_of_not_needs (by simp [needs, old])]
    exact ⟨(List.append_nil _).symm, rfl, id⟩
  · rw [same] at result
    cases Except.ok.inj result
    rw [due_cons_of_not_needs (by simp [needs, equal])]
    exact ⟨(List.append_nil _).symm, rfl, id⟩
  · rw [same] at result
    rcases queue_ok result with ⟨appended, below⟩
    rw [due_cons_of_needs (by simp [needs, fresh, differs])]
    exact ⟨by rw [appended]; rfl, by rw [appended], fun _ => below⟩

/-- The object with which the batch is full ends the scan. -/
theorem scanObject_stops {listed : String × Object contentOf} {dr stopped : DiffResult}
    (result : scanObject lastSync (replica.get? listed.1) listed dr = .error stopped) :
    stopped.entries = dr.entries ++ due lastSync replica [listed] ∧
      maxBatchPerTick ≤ stopped.entries.length := by
  rcases scanObject_cases lastSync (replica.get? listed.1) listed dr with
    ⟨_, same⟩ | ⟨_, _, same⟩ | ⟨fresh, differs, same⟩
  · rw [same] at result
    cases result
  · rw [same] at result
    cases result
  · rw [same] at result
    rcases queue_error result with ⟨appended, full⟩
    rw [due_cons_of_needs (by simp [needs, fresh, differs])]
    exact ⟨by rw [appended]; rfl, full⟩

theorem scanPage_ok {page : List (String × Object contentOf)} :
    forall {dr after : DiffResult}, scanPage lastSync replica page dr = .ok after ->
      after.entries = dr.entries ++ due lastSync replica page ∧
        after.scanned = dr.scanned + page.length ∧
        (dr.entries.length < maxBatchPerTick -> after.entries.length < maxBatchPerTick) := by
  induction page with
  | nil =>
      intro dr after result
      cases Except.ok.inj result
      exact ⟨(List.append_nil _).symm, rfl, id⟩
  | cons listed rest ih =>
      intro dr after result
      simp only [scanPage] at result
      split at result
      · cases result
      · rename_i middle scanned
        rcases scanObject_entries scanned with ⟨entries, count, below⟩
        rcases ih result with ⟨restEntries, restCount, restBelow⟩
        refine ⟨?_, ?_, fun start => restBelow (below start)⟩
        · rw [restEntries, entries, List.append_assoc, ← due_append]
          rfl
        · rw [restCount, count, List.length_cons]
          omega

/-- A page on which the scan ends fills the batch. -/
theorem scanPage_error {page : List (String × Object contentOf)} :
    forall {dr stopped : DiffResult}, dr.entries.length < maxBatchPerTick ->
      scanPage lastSync replica page dr = .error stopped ->
        stopped.truncated = true ∧
          stopped.entries = (dr.entries ++ due lastSync replica page).take maxBatchPerTick ∧
          maxBatchPerTick ≤ (dr.entries ++ due lastSync replica page).length := by
  induction page with
  | nil =>
      intro dr stopped _ result
      cases result
  | cons listed rest ih =>
      intro dr stopped start result
      have whole : due lastSync replica (listed :: rest) =
          due lastSync replica [listed] ++ due lastSync replica rest := by
        rw [← due_append]
        rfl
      simp only [scanPage] at result
      split at result
      · rename_i full scanned
        cases Except.error.inj result
        rcases scanObject_stops scanned with ⟨entries, long⟩
        have exact : stopped.entries.length = maxBatchPerTick := by
          have one : (due lastSync replica [listed]).length ≤ 1 := by
            simpa [due] using List.length_filter_le (needs lastSync replica) [listed]
          rw [entries, List.length_append] at long ⊢
          omega
        refine ⟨scanObject_error scanned, ?_, ?_⟩
        · rw [whole, ← List.append_assoc, ← entries, ← exact, List.take_left']
          rfl
        · rw [whole, ← List.append_assoc, ← entries, List.length_append]
          omega
      · rename_i middle scanned
        rcases scanObject_entries scanned with ⟨entries, _, below⟩
        rcases ih (below start) result with ⟨cut, taken, long⟩
        rw [entries, List.append_assoc, ← whole] at taken long
        exact ⟨cut, taken, long⟩

/-- What a scan queues: the first `maxBatchPerTick` objects in its window that need a
copy. -/
theorem computeDiff_entries {pages : List (List (String × Object contentOf))} :
    forall {dr : DiffResult}, dr.entries.length < maxBatchPerTick ->
      (computeDiff lastSync replica pages dr).entries =
        (dr.entries ++ due lastSync replica (scanWindow dr.scanned pages)).take maxBatchPerTick := by
  induction pages with
  | nil =>
      intro dr below
      simp [computeDiff, scanWindow, due, List.take_of_length_le (Nat.le_of_lt below)]
  | cons page rest ih =>
      intro dr below
      simp only [computeDiff, scanWindow, due_append]
      split
      · rename_i stopped result
        rcases scanPage_error below result with ⟨_, taken, long⟩
        rw [taken, ← List.append_assoc, List.take_append_of_le_length long]
      · rename_i after result
        rcases scanPage_ok result with ⟨entries, count, keeps⟩
        have short := keeps below
        have ended : after.entries = (dr.entries ++ (due lastSync replica page ++ [])).take
            maxBatchPerTick := by
          rw [List.append_nil, ← entries, List.take_of_length_le (Nat.le_of_lt short)]
        rcases pageEnd_cases (!rest.isEmpty) after with
          ⟨last, same⟩ | ⟨_, full, same⟩ | ⟨_, room, same⟩
        · have done : rest = [] := by simpa using last
          simp only [same]
          simp only [done, scanWindow, ite_self]
          exact ended
        · rw [count] at full
          simp only [same, if_pos full]
          exact ended
        · rw [count] at room
          simp only [same, if_neg (not_le.mpr room)]
          rw [ih short, entries, count, List.append_assoc]

/-- A scan that is not cut short has read everything and has room in the batch. -/
theorem computeDiff_whole {pages : List (List (String × Object contentOf))} :
    forall {dr : DiffResult}, dr.entries.length < maxBatchPerTick ->
      (computeDiff lastSync replica pages dr).truncated = false ->
        scanWindow dr.scanned pages = pages.flatten ∧
          (computeDiff lastSync replica pages dr).entries.length < maxBatchPerTick := by
  induction pages with
  | nil => exact fun below _ => ⟨rfl, below⟩
  | cons page rest ih =>
      intro dr below
      simp only [computeDiff, scanWindow, List.flatten_cons]
      split
      · rename_i stopped result
        intro whole
        rw [(scanPage_error below result).1] at whole
        cases whole
      · rename_i after result
        rcases scanPage_ok result with ⟨_, count, keeps⟩
        rcases pageEnd_cases (!rest.isEmpty) after with
          ⟨last, same⟩ | ⟨_, _, same⟩ | ⟨_, room, same⟩
        · intro _
          have done : rest = [] := by simpa using last
          rw [same]
          simp only [done, scanWindow, ite_self]
          exact ⟨rfl, keeps below⟩
        · intro whole
          rw [same] at whole
          cases whole
        · rw [count] at room
          simp only [same, if_neg (not_le.mpr room)]
          intro whole
          rcases ih (keeps below) whole with ⟨window, short⟩
          rw [count] at window
          exact ⟨by rw [window], short⟩

/-- The window is the beginning of the listing. -/
theorem scanWindow_isPrefix (pages : List (List (String × Object contentOf))) :
    forall scanned : Nat, scanWindow scanned pages <+: pages.flatten := by
  induction pages with
  | nil => exact fun _ => List.prefix_rfl
  | cons page rest ih =>
      intro scanned
      simp only [scanWindow, List.flatten_cons]
      apply List.prefix_append_right_inj page |>.mpr
      split
      · exact List.nil_prefix
      · exact ih _

/-- What is queued is in the window and needs a copy. -/
theorem mem_due {objects : List (String × Object contentOf)} {entry : DiffEntry}
    (queued : entry ∈ due lastSync replica objects) :
    Exists fun listed => listed ∈ objects ∧ listed.1 = entry.key ∧
      needs lastSync replica listed = true := by
  rcases List.mem_map.mp queued with ⟨listed, kept, rfl⟩
  rcases List.mem_filter.mp kept with ⟨member, wanted⟩
  exact ⟨listed, member, rfl, wanted⟩

end Scan

/-! ## The pass -/

/-- The ways in which the primary's backend may page its listing. -/
structure Lister (primary : Contents contentOf) where
  pagings : List (List (String × Object contentOf)) -> Prop
  some_paging : Exists pagings
  listed : forall pages, pagings pages -> pages ≠ []
  whole : forall pages, pagings pages -> pages.flatten = primary.entries
  bounded : forall pages page, pagings pages -> page ∈ pages -> page.length ≤ listPageSize

/-- What the surroundings do in one pass: the pages of the listing, the clock at the
end, and the mtimes that the copies get. -/
structure Turn {primary : Contents contentOf} (lister : Lister primary) where
  pages : List (List (String × Object contentOf))
  paged : lister.pagings pages
  now : Int
  mtime : String -> Int
  notEarlier : forall key object, primary.get? key = some object -> object.mtime ≤ mtime key

/-- A replica: its row in the store, and what its bucket holds. -/
structure ReplicaState (contentOf : String -> Body) where
  record : ReplicaTarget
  contents : Contents contentOf

/-- `replicateOne`: the copy has the primary's ETag and bytes. -/
def replicateOne (primary : Contents contentOf) (mtime : String -> Int)
    (replica : Contents contentOf) (entry : DiffEntry) : Contents contentOf :=
  match primary.get? entry.key with
  | some object => replica.put entry.key { object with mtime := mtime entry.key }
  | none => replica

/-- `replicateBatch`. -/
def replicateBatch (primary : Contents contentOf) (mtime : String -> Int) (diff : List DiffEntry)
    (replica : Contents contentOf) : Contents contentOf :=
  diff.foldl (replicateOne primary mtime) replica

variable {primary : Contents contentOf} {lister : Lister primary}

def Turn.diff (turn : Turn lister) (state : ReplicaState contentOf) : DiffResult :=
  computeDiff state.record.lastSync state.contents turn.pages {}

/-- The entries that the pass copies. -/
def Turn.batch (turn : Turn lister) (state : ReplicaState contentOf) : List DiffEntry :=
  (turn.diff state).entries.take maxBatchPerTick

/-- `replicateToReplica`. -/
def Turn.replicateToReplica (turn : Turn lister) (state : ReplicaState contentOf) :
    ReplicaState contentOf where
  record := state.record.withHealth (recordSuccess turn.now state.record 0 0 (turn.diff state))
  contents := replicateBatch primary turn.mtime (turn.batch state) state.contents

/-- The state before each of a sequence of passes. -/
def passes (turns : Nat -> Turn lister) (start : ReplicaState contentOf) :
    Nat -> ReplicaState contentOf
  | 0 => start
  | count + 1 => (turns count).replicateToReplica (passes turns start count)

/-- Every primary object is on the replica in its current version. -/
def Synced (primary : Contents contentOf) (state : ReplicaState contentOf) : Prop :=
  forall key, Same (primary.get? key) (state.contents.get? key)

/-! ## What a pass does -/

theorem get?_replicateOne_self {mtime : String -> Int} {replica : Contents contentOf}
    {entry : DiffEntry} {object : Object contentOf} (found : primary.get? entry.key = some object) :
    (replicateOne primary mtime replica entry).get? entry.key =
      some { object with mtime := mtime entry.key } := by
  rw [replicateOne, found]
  exact SortedStore.get?_put_self _ _ _

theorem get?_replicateOne_of_ne {mtime : String -> Int} {replica : Contents contentOf}
    {entry : DiffEntry} {key : String} (different : key ≠ entry.key) :
    (replicateOne primary mtime replica entry).get? key = replica.get? key := by
  unfold replicateOne
  split
  · exact SortedStore.get?_put_of_ne _ _ different
  · rfl

/-- A batch leaves alone what it does not list. -/
theorem get?_replicateBatch_of_not_mem {mtime : String -> Int} {key : String}
    {diff : List DiffEntry} (absent : key ∉ diff.map DiffEntry.key) :
    forall {replica : Contents contentOf},
      (replicateBatch primary mtime diff replica).get? key = replica.get? key := by
  induction diff with
  | nil => exact rfl
  | cons entry rest ih =>
      intro replica
      rcases not_or.mp (mt List.mem_cons.mpr absent) with ⟨different, later⟩
      exact (ih later).trans (get?_replicateOne_of_ne different)

/-- A batch brings what it lists. -/
theorem get?_replicateBatch_of_mem {mtime : String -> Int} {key : String}
    {object : Object contentOf} (found : primary.get? key = some object) {diff : List DiffEntry}
    (copied : key ∈ diff.map DiffEntry.key) :
    forall {replica : Contents contentOf}, (replicateBatch primary mtime diff replica).get? key =
      some { object with mtime := mtime key } := by
  induction diff with
  | nil => cases copied
  | cons entry rest ih =>
      intro replica
      by_cases later : key ∈ rest.map DiffEntry.key
      · exact ih later
      · have here : key = entry.key := (List.mem_cons.mp copied).resolve_right later
        subst here
        exact (get?_replicateBatch_of_not_mem later).trans (get?_replicateOne_self found)

section Pass

variable (turn : Turn lister) {state : ReplicaState contentOf}

/-- A pass copies the first `maxBatchPerTick` objects in its window that need it. -/
theorem Turn.batch_eq : turn.batch state =
    (due state.record.lastSync state.contents (scanWindow 0 turn.pages)).take maxBatchPerTick := by
  unfold Turn.batch Turn.diff
  rw [computeDiff_entries (by decide), List.take_take, Nat.min_self]
  rfl

theorem Turn.mem_entries_of_mem_window {listed : String × Object contentOf}
    (member : listed ∈ scanWindow 0 turn.pages) : listed ∈ primary.entries := by
  rw [← lister.whole turn.pages turn.paged]
  exact (scanWindow_isPrefix turn.pages 0).subset member

/-- The pass copies objects of the primary. -/
theorem Turn.batch_present {entry : DiffEntry} (queued : entry ∈ turn.batch state) :
    (primary.get? entry.key).isSome := by
  rw [turn.batch_eq] at queued
  rcases mem_due (List.mem_of_mem_take queued) with ⟨listed, inWindow, same, _⟩
  rw [← same, (primary.mem_entries_iff _ _).mp (turn.mem_entries_of_mem_window inWindow)]
  rfl

/-- A listed object whose key is copied was in the window and needed it. -/
theorem Turn.needs_of_copied {listed : String × Object contentOf}
    (member : listed ∈ primary.entries) (copied : listed.1 ∈ (turn.batch state).map DiffEntry.key) :
    listed ∈ scanWindow 0 turn.pages ∧
      needs state.record.lastSync state.contents listed = true := by
  rcases List.mem_map.mp copied with ⟨entry, taken, here⟩
  rw [turn.batch_eq] at taken
  rcases mem_due (List.mem_of_mem_take taken) with ⟨other, inWindow, same, wanted⟩
  have equal : other = listed :=
    SortedStore.eq_of_key_eq (turn.mem_entries_of_mem_window inWindow) member (same.trans here)
  exact equal ▸ ⟨inWindow, wanted⟩

/-- After the pass a copied object is the primary's, and no other object changed. -/
theorem Turn.get?_of_copied {key : String} {object : Object contentOf}
    (found : primary.get? key = some object)
    (copied : key ∈ (turn.batch state).map DiffEntry.key) :
    (turn.replicateToReplica state).contents.get? key =
      some { object with mtime := turn.mtime key } :=
  get?_replicateBatch_of_mem found copied

theorem Turn.get?_of_not_copied {key : String}
    (absent : key ∉ (turn.batch state).map DiffEntry.key) :
    (turn.replicateToReplica state).contents.get? key = state.contents.get? key :=
  get?_replicateBatch_of_not_mem absent

/-- What is on the replica stays there. -/
theorem Turn.same_pass {key : String} (same : Same (primary.get? key) (state.contents.get? key)) :
    Same (primary.get? key) ((turn.replicateToReplica state).contents.get? key) := by
  intro object found
  by_cases copied : key ∈ (turn.batch state).map DiffEntry.key
  · exact ⟨_, turn.get?_of_copied found copied, rfl⟩
  · rw [turn.get?_of_not_copied copied]
    exact same object found

/-- The watermark stays when the scan was cut short, and is the clock otherwise. -/
theorem Turn.lastSync_pass : (turn.replicateToReplica state).record.lastSync =
    if (turn.diff state).truncated then state.record.lastSync else turn.now := by
  have drained : fullyDrained 0 (turn.diff state) = !(turn.diff state).truncated := rfl
  rw [Turn.replicateToReplica, ReplicaTarget.withHealth_lastSync, recordSuccess_lastSync, drained]
  cases (turn.diff state).truncated with
  | true => rfl
  | false => rfl

/-- A scan that was not cut short reads every object, and the pass copies all that
need it. -/
theorem Turn.batch_of_whole (whole : (turn.diff state).truncated = false) :
    turn.batch state = due state.record.lastSync state.contents primary.entries ∧
      (turn.batch state).length < maxBatchPerTick := by
  rcases computeDiff_whole (by decide) whole with ⟨window, short⟩
  have all : scanWindow 0 turn.pages = primary.entries :=
    window.trans (lister.whole turn.pages turn.paged)
  have batch : turn.batch state = _ := turn.batch_eq
  have below : (turn.batch state).length < maxBatchPerTick :=
    lt_of_le_of_lt (List.length_take_le' _ _) short
  refine ⟨?_, below⟩
  rw [all] at batch
  rw [batch, List.length_take] at below
  rw [batch, List.take_of_length_le (by omega)]

end Pass

end Federation
end Basement
