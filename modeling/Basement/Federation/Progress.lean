import Basement.Federation.QuietPass
import Mathlib.Order.WellFounded

namespace Basement
namespace Federation

open Library

/-!
# How far repeated passes reach

Over a quiet primary the passes go on until they have copied all they can reach.  An
object that the replica does not have is within reach when three things hold.  The
watermark does not exclude it.  The scan reads it: the backend, however it pages, lists
it on one of the pages that a scan takes before it has seen `scanCap` objects.  And not
so many objects without an ETag stand before it that they fill the batch, for these
are copied in every pass.

Within reach, every pass removes an object from the outstanding ones, those that are
missing or have an ETag and need a copy.  Out of reach, an object stays missing for
ever.
-/

variable {contentOf : String -> Body}

instance (onPrimary onReplica : Option (Object contentOf)) :
    Decidable (Same onPrimary onReplica) :=
  match onPrimary, onReplica with
  | none, _ => isTrue fun _ absent => by cases absent
  | some _, none => isFalse fun same => by rcases same _ rfl with ⟨_, here, _⟩; cases here
  | some object, some held =>
      decidable_of_iff (held.body = object.body)
        ⟨fun equal current present => by cases present; exact ⟨held, rfl, equal⟩,
          fun same => by rcases same object rfl with ⟨_, here, equal⟩; cases here; exact equal⟩

/-- The object has an ETag. -/
def tagged (listed : String × Object contentOf) : Bool := trimQuotes listed.2.etag ≠ ""

/-- An object without an ETag that the watermark does not exclude is copied in every
pass that gets to it. -/
def copiedAlways (lastSync : Int) (listed : String × Object contentOf) : Bool :=
  !filtered lastSync listed.2.mtime && !tagged listed

/-- The passes get to every object that is not on the replica. -/
def WithinReach {primary : Contents contentOf} (lister : Lister primary)
    (state : ReplicaState contentOf) : Prop :=
  forall listed, listed ∈ primary.entries ->
    ¬ Same (some listed.2) (state.contents.get? listed.1) ->
      filtered state.record.lastSync listed.2.mtime = false ∧
      (forall pages, lister.pagings pages -> listed ∈ scanWindow 0 pages) ∧
      ((primary.before listed.1).filter (copiedAlways state.record.lastSync)).length <
        maxBatchPerTick

/-- The object is missing on the replica, or has an ETag and needs a copy. -/
def outstanding (lastSync : Int) (replica : Contents contentOf)
    (listed : String × Object contentOf) : Bool :=
  !decide (Same (some listed.2) (replica.get? listed.1)) ||
    (tagged listed && needs lastSync replica listed)

/-! ## One object -/

section Object

variable {lastSync : Int} {replica : Contents contentOf} {listed : String × Object contentOf}

theorem needs_of_missing (fresh : filtered lastSync listed.2.mtime = false)
    (missing : ¬ Same (some listed.2) (replica.get? listed.1)) :
    needs lastSync replica listed = true := by
  have wanted : needsCopy listed.2 (replica.get? listed.1) = true :=
    Bool.eq_true_of_not_eq_false fun equal => missing (same_of_needsCopy_eq_false equal)
  simp [needs, fresh, wanted]

theorem needs_of_copiedAlways (always : copiedAlways lastSync listed = true) :
    needs lastSync replica listed = true := by
  simp only [copiedAlways, tagged, Bool.and_eq_true, Bool.not_eq_true', decide_eq_false_iff_not,
    not_not] at always
  rcases always with ⟨fresh, untagged⟩
  have wanted : needsCopy listed.2 (replica.get? listed.1) = true := by
    cases replica.get? listed.1 with
    | none => rfl
    | some head => simp [needsCopy, etagsDiffer, untagged]
  simp [needs, fresh, wanted]

/-- A fresh copy is not outstanding. -/
theorem outstanding_of_copy {mtime : Int} (later : listed.2.mtime ≤ mtime)
    (copied : replica.get? listed.1 = some { listed.2 with mtime := mtime }) :
    outstanding lastSync replica listed = false := by
  have same : Same (some listed.2) (replica.get? listed.1) := by
    rw [copied]
    intro object found
    cases found
    exact ⟨_, rfl, rfl⟩
  have settled : (tagged listed && needs lastSync replica listed) = false := by
    by_cases tag : trimQuotes listed.2.etag = ""
    · simp [tagged, tag]
    · simp [needs, copied, needsCopy, etagsDiffer, tag, later]
  simp only [outstanding, same, settled, decide_true]
  rfl

end Object

/-! ## One pass -/

section Pass

variable {primary : Contents contentOf} {lister : Lister primary} (turn : Turn lister)
  {state : ReplicaState contentOf}

theorem synced_iff : Synced primary state ↔ forall listed, listed ∈ primary.entries ->
    Same (some listed.2) (state.contents.get? listed.1) := by
  constructor
  · intro synced listed member
    rw [← (primary.mem_entries_iff listed.1 listed.2).mp member]
    exact synced listed.1
  · intro all key
    cases found : primary.get? key with
    | none => exact fun _ absent => by cases absent
    | some object => exact all (key, object) ((primary.mem_entries_iff key object).mpr found)

/-- What a pass copies is outstanding no longer, and the rest is as before. -/
theorem Turn.outstanding_pass (lastSync : Int) {listed : String × Object contentOf}
    (member : listed ∈ primary.entries) :
    outstanding lastSync (turn.replicateToReplica state).contents listed =
      (decide (listed.1 ∉ (turn.batch state).map DiffEntry.key) &&
        outstanding lastSync state.contents listed) := by
  have found := (primary.mem_entries_iff listed.1 listed.2).mp member
  by_cases copied : listed.1 ∈ (turn.batch state).map DiffEntry.key
  · rw [outstanding_of_copy (turn.notEarlier _ _ found) (turn.get?_of_copied found copied)]
    simp [copied]
  · simp [outstanding, needs, turn.get?_of_not_copied copied, copied]

/-- Where the scan reads an object, it has read what is listed before it. -/
theorem Turn.window_split {listed : String × Object contentOf}
    (inWindow : listed ∈ scanWindow 0 turn.pages) :
    Exists fun back => scanWindow 0 turn.pages = primary.before listed.1 ++ listed :: back := by
  rcases List.append_of_mem inWindow with ⟨front, back, window⟩
  rcases scanWindow_isPrefix turn.pages 0 with ⟨beyond, listing⟩
  have entries : primary.entries = front ++ listed :: (back ++ beyond) := by
    rw [← lister.whole turn.pages turn.paged, ← listing, window, List.append_assoc]
    rfl
  exact ⟨back, by rw [window, SortedStore.before_eq entries]⟩

/-- When fewer objects without an ETag stand in front than the batch holds, a full
batch has one with an ETag. -/
theorem exists_tagged {lastSync : Int} {replica : Contents contentOf}
    {front : List (String × Object contentOf)}
    (few : (front.filter (copiedAlways lastSync)).length < maxBatchPerTick)
    (many : maxBatchPerTick ≤ (front.filter (needs lastSync replica)).length) :
    Exists fun listed => listed ∈ (front.filter (needs lastSync replica)).take maxBatchPerTick ∧
      tagged listed = true := by
  by_contra none
  have always : forall listed,
      listed ∈ (front.filter (needs lastSync replica)).take maxBatchPerTick ->
        copiedAlways lastSync listed = true := by
    intro listed taken
    have wanted := (List.mem_filter.mp (List.mem_of_mem_take taken)).2
    have untagged : tagged listed = false :=
      Bool.eq_false_iff.mpr fun tag => none ⟨listed, taken, tag⟩
    simp only [needs, Bool.and_eq_true] at wanted
    simp [copiedAlways, untagged, wanted.1]
  have inFront := ((List.take_sublist maxBatchPerTick _).trans
    (List.filter_sublist (p := needs lastSync replica) (l := front))).filter (copiedAlways lastSync)
  rw [List.filter_eq_self.mpr always] at inFront
  have long := inFront.length_le
  rw [List.length_take, Nat.min_eq_left many] at long
  omega

/-- A pass over a replica that misses an object within reach copies an outstanding
object. -/
theorem Turn.copies_outstanding (reach : WithinReach lister state)
    (unsynced : ¬ Synced primary state) :
    Exists fun listed => listed ∈ primary.entries ∧
      outstanding state.record.lastSync state.contents listed = true ∧
      listed.1 ∈ (turn.batch state).map DiffEntry.key := by
  rw [synced_iff] at unsynced
  push Not at unsynced
  rcases unsynced with ⟨missing, member, absent⟩
  rcases reach missing member absent with ⟨fresh, inWindow, few⟩
  have wanted := needs_of_missing fresh absent
  rcases turn.window_split (inWindow turn.pages turn.paged) with ⟨back, window⟩
  have batch : turn.batch state = _ := turn.batch_eq
  rw [window, due_append, due_cons_of_needs wanted] at batch
  by_cases many : maxBatchPerTick ≤
      ((primary.before missing.1).filter (needs state.record.lastSync state.contents)).length
  · rcases exists_tagged few many with ⟨listed, taken, tag⟩
    rcases List.mem_filter.mp (List.mem_of_mem_take taken) with ⟨earlier, needed⟩
    refine ⟨listed, (List.mem_filter.mp earlier).1, by simp [outstanding, tag, needed], ?_⟩
    rw [batch, List.take_append_of_le_length (by simpa [due] using many), due, ← List.map_take,
      List.map_map]
    exact List.mem_map_of_mem taken
  · refine ⟨missing, member, by simp [outstanding, absent], ?_⟩
    have first : due state.record.lastSync state.contents (primary.before missing.1) ++
        [⟨missing.1, missing.2.size⟩] <+: turn.batch state := by
      rw [batch]
      refine List.prefix_take_iff.mpr ⟨⟨due state.record.lastSync state.contents back, ?_⟩, ?_⟩
      · rw [List.append_assoc]
        rfl
      · simp only [due, List.length_append, List.length_map, List.length_singleton]
        omega
    exact List.mem_map.mpr ⟨⟨missing.1, missing.2.size⟩,
      first.subset (List.mem_append_right _ List.mem_cons_self), rfl⟩

/-- A scan that was not cut short leaves nothing missing. -/
theorem Turn.synced_of_whole (reach : WithinReach lister state)
    (whole : (turn.diff state).truncated = false) :
    Synced primary (turn.replicateToReplica state) := by
  intro key
  by_cases same : Same (primary.get? key) (state.contents.get? key)
  · exact turn.same_pass same
  · intro object found
    have member := (primary.mem_entries_iff key object).mpr found
    rw [found] at same
    have wanted := needs_of_missing (reach (key, object) member same).1 same
    have copied : key ∈ (turn.batch state).map DiffEntry.key := by
      rw [(turn.batch_of_whole whole).1]
      exact List.mem_map.mpr ⟨_, List.mem_map_of_mem (List.mem_filter.mpr ⟨member, wanted⟩), rfl⟩
    exact ⟨_, turn.get?_of_copied found copied, rfl⟩

/-- As long as something within reach is missing, the watermark stays. -/
theorem Turn.lastSync_of_unsynced (reach : WithinReach lister state)
    (unsynced : ¬ Synced primary (turn.replicateToReplica state)) :
    (turn.replicateToReplica state).record.lastSync = state.record.lastSync := by
  rw [turn.lastSync_pass]
  exact if_pos (Bool.eq_true_of_not_eq_false fun whole => unsynced (turn.synced_of_whole reach whole))

/-- A pass leaves what is within reach within reach. -/
theorem Turn.withinReach_pass (reach : WithinReach lister state) :
    WithinReach lister (turn.replicateToReplica state) := by
  intro listed member absent
  rw [turn.lastSync_of_unsynced reach fun synced => absent (synced_iff.mp synced listed member)]
  refine reach listed member fun same => absent ?_
  have found := (primary.mem_entries_iff listed.1 listed.2).mp member
  rw [← found] at same ⊢
  exact turn.same_pass same

end Pass

/-! ## Repeated passes -/

section Passes

variable {primary : Contents contentOf} {lister : Lister primary} {turns : Nat -> Turn lister}
  {start : ReplicaState contentOf}

theorem withinReach_passes (reach : WithinReach lister start) :
    forall count : Nat, WithinReach lister (passes turns start count)
  | 0 => reach
  | count + 1 => (turns count).withinReach_pass (withinReach_passes reach count)

/-- Passes over a replica whose missing objects are within reach end with a replica
that holds every primary object. -/
theorem synced_passes (reach : WithinReach lister start) :
    Exists fun count => Synced primary (passes turns start count) := by
  by_contra never
  have unsynced : forall count, ¬ Synced primary (passes turns start count) :=
    fun count synced => never ⟨count, synced⟩
  have lastSync : forall count, (passes turns start count).record.lastSync =
      start.record.lastSync := by
    intro count
    induction count with
    | zero => rfl
    | succ count ih =>
        exact ((turns count).lastSync_of_unsynced (withinReach_passes reach count)
          (unsynced (count + 1))).trans ih
  -- Every pass removes an outstanding object and adds none.
  rcases WellFounded.not_rel_apply_succ (r := fun less more : Nat => less < more)
    (fun count => (primary.entries.filter
      (outstanding start.record.lastSync (passes turns start count).contents)).length)
    with ⟨count, stuck⟩
  apply stuck
  rcases (turns count).copies_outstanding (withinReach_passes reach count) (unsynced count) with
    ⟨listed, member, remains, copied⟩
  rw [lastSync count] at remains
  have fewer : primary.entries.filter
        (outstanding start.record.lastSync (passes turns start (count + 1)).contents) =
      (primary.entries.filter
        (outstanding start.record.lastSync (passes turns start count).contents)).filter
          fun listed => decide
            (listed.1 ∉ ((turns count).batch (passes turns start count)).map DiffEntry.key) := by
    rw [List.filter_filter]
    exact List.filter_congr fun other listed => (turns count).outstanding_pass _ listed
  rw [fewer]
  exact List.length_filter_lt_length_iff_exists.mpr
    ⟨listed, List.mem_filter.mpr ⟨member, remains⟩, by simpa using copied⟩

/-- What no pass copies stays missing. -/
theorem missing_passes {listed : String × Object contentOf} (member : listed ∈ primary.entries)
    (missing : ¬ Same (some listed.2) (start.contents.get? listed.1))
    (untouched : forall count,
      listed.1 ∉ ((turns count).batch (passes turns start count)).map DiffEntry.key) :
    forall count, ¬ Synced primary (passes turns start count) := by
  have kept : forall count,
      (passes turns start count).contents.get? listed.1 = start.contents.get? listed.1 := by
    intro count
    induction count with
    | zero => rfl
    | succ count ih => exact ((turns count).get?_of_not_copied (untouched count)).trans ih
  intro count synced
  have same := synced_iff.mp synced listed member
  rw [kept count] at same
  exact missing same

end Passes

/-! ## Out of reach -/

section OutOfReach

variable {primary : Contents contentOf} {lister : Lister primary} (turn : Turn lister)
  {state : ReplicaState contentOf} {listed : String × Object contentOf}

theorem Turn.not_copied_of_filtered (member : listed ∈ primary.entries)
    (old : filtered state.record.lastSync listed.2.mtime = true) :
    listed.1 ∉ (turn.batch state).map DiffEntry.key := by
  intro copied
  have wanted := (turn.needs_of_copied member copied).2
  simp [needs, old] at wanted

theorem Turn.not_copied_of_beyond (member : listed ∈ primary.entries)
    (beyond : listed ∉ scanWindow 0 turn.pages) :
    listed.1 ∉ (turn.batch state).map DiffEntry.key :=
  fun copied => beyond (turn.needs_of_copied member copied).1

/-- Enough objects without an ETag fill the batch before the scan gets any further. -/
theorem Turn.not_copied_of_crowded (member : listed ∈ primary.entries)
    (many : maxBatchPerTick ≤
      ((primary.before listed.1).filter (copiedAlways state.record.lastSync)).length) :
    listed.1 ∉ (turn.batch state).map DiffEntry.key ∧ (turn.diff state).truncated = true := by
  have crowd : maxBatchPerTick ≤
      (due state.record.lastSync state.contents (primary.before listed.1)).length := by
    apply le_trans many
    rw [due, List.length_map]
    exact (List.monotone_filter_right _ fun _ => needs_of_copiedAlways).length_le
  have batch : turn.batch state = _ := turn.batch_eq
  constructor
  · intro copied
    rcases turn.window_split (turn.needs_of_copied member copied).1 with ⟨back, window⟩
    rw [window, due_append, List.take_append_of_le_length crowd] at batch
    rcases List.mem_map.mp copied with ⟨entry, taken, here⟩
    rw [batch] at taken
    rcases mem_due (List.mem_of_mem_take taken) with ⟨other, earlier, same, _⟩
    have order : other.1 < listed.1 := by simpa using (List.mem_filter.mp earlier).2
    exact absurd (same.trans here) (ne_of_lt order)
  · refine Bool.eq_true_of_not_eq_false fun whole => ?_
    rcases turn.batch_of_whole whole with ⟨all, short⟩
    have inAll : (due state.record.lastSync state.contents (primary.before listed.1)).Sublist
        (due state.record.lastSync state.contents primary.entries) :=
      (List.filter_sublist.filter _).map _
    have long := inAll.length_le
    rw [all] at short
    omega

/-- The surroundings that page in one way, keep one time, and copy the mtimes. -/
def Lister.steady (lister : Lister primary) (pages : List (List (String × Object contentOf)))
    (paged : lister.pagings pages) (now : Int) : Turn lister where
  pages := pages
  paged := paged
  now := now
  mtime := fun key => ((primary.get? key).map fun object => object.mtime).getD 0
  notEarlier := by
    intro key object found
    rw [found]
    exact le_rfl

end OutOfReach

/-! ## Exactly when passes make progress -/

/-- A pass copies nothing and changes nothing but timestamps in the row. -/
def Turn.Idle {primary : Contents contentOf} {lister : Lister primary} (turn : Turn lister)
    (state : ReplicaState contentOf) : Prop :=
  turn.batch state = [] ∧
    { (turn.replicateToReplica state).record with lastSync := state.record.lastSync } = state.record

/-- However the backend pages and whatever the clock reads: a pass is idle only over a
replica that holds every primary object, and some number of passes leads to one. -/
def MakesProgress {primary : Contents contentOf} (lister : Lister primary)
    (start : ReplicaState contentOf) : Prop :=
  forall turns : Nat -> Turn lister,
    (forall count, (turns count).Idle (passes turns start count) ->
      Synced primary (passes turns start count)) ∧
    Exists fun count => Synced primary (passes turns start count)

/-- Polling makes progress until done exactly when every missing object is within
reach at the start. -/
theorem makesProgress_iff {primary : Contents contentOf} (lister : Lister primary)
    (start : ReplicaState contentOf) :
    MakesProgress lister start ↔ WithinReach lister start := by
  constructor
  · intro progress listed member missing
    have stuck : forall (pages : List (List (String × Object contentOf)))
        (paged : lister.pagings pages) (now : Int),
        ¬ forall count, listed.1 ∉ ((lister.steady pages paged now).batch
          (passes (fun _ => lister.steady pages paged now) start count)).map DiffEntry.key := by
      intro pages paged now untouched
      rcases (progress fun _ => lister.steady pages paged now).2 with ⟨count, synced⟩
      exact missing_passes member missing untouched count synced
    rcases lister.some_paging with ⟨pages, paged⟩
    refine ⟨Bool.eq_false_iff.mpr fun old => ?_, fun others allowed => ?_, ?_⟩
    · -- The clock is not behind the watermark, so the object stays excluded.
      have excluded : filtered (max start.record.lastSync 1) listed.2.mtime = true := by
        simp only [filtered, Bool.and_eq_true, decide_eq_true_eq] at old ⊢
        omega
      refine stuck pages paged (max start.record.lastSync 1) fun count => ?_
      apply (lister.steady pages paged _).not_copied_of_filtered member
      induction count with
      | zero => exact old
      | succ count ih =>
          rw [passes, Turn.lastSync_pass]
          split
          · exact ih
          · exact excluded
    · by_contra beyond
      exact stuck others allowed 0 fun count =>
        (lister.steady others allowed 0).not_copied_of_beyond member beyond
    · by_contra few
      have lastSync : forall count,
          (passes (fun _ => lister.steady pages paged 0) start count).record.lastSync =
            start.record.lastSync := by
        intro count
        induction count with
        | zero => rfl
        | succ count ih =>
            rw [passes, Turn.lastSync_pass, if_pos, ih]
            refine (Turn.not_copied_of_crowded _ member ?_).2
            rw [ih]
            exact not_lt.mp few
      refine stuck pages paged 0 fun count => (Turn.not_copied_of_crowded _ member ?_).1
      rw [lastSync count]
      exact not_lt.mp few
  · intro reach turns
    refine ⟨?_, synced_passes reach⟩
    rintro count ⟨nothing, _⟩
    by_contra unsynced
    rcases (turns count).copies_outstanding (withinReach_passes reach count) unsynced with
      ⟨_, _, _, copied⟩
    rw [nothing] at copied
    cases copied

/-! A bucket with one object more than a page holds, and a new replica. -/

/-- Keys of one letter, shorter ones first. -/
def crowdKey (n : Nat) : String := String.ofList (List.replicate (n + 1) 'a')

theorem replicate_lt {n m : Nat} (less : n < m) :
    List.replicate n 'a' < List.replicate m 'a' := by
  induction n generalizing m with
  | zero =>
      cases m with
      | zero => omega
      | succ m => exact List.Lex.nil
  | succ n ih =>
      cases m with
      | zero => omega
      | succ m => exact List.Lex.cons (ih (by omega))

theorem crowdKey_lt {n m : Nat} (less : n < m) : crowdKey n < crowdKey m := by
  rw [String.lt_iff_toList_lt]
  simp only [crowdKey, String.toList_ofList]
  exact replicate_lt (by omega)

def crowdEntry (n : Nat) : String × Object tagBody := (crowdKey n, ⟨sampleVersion "e1", 7 * second⟩)

def crowd (size : Nat) : Contents tagBody where
  entries := (List.range size).map crowdEntry
  sorted := List.pairwise_map.mpr (List.pairwise_lt_range.imp crowdKey_lt)

theorem mem_crowd {n size : Nat} : crowdEntry n ∈ (crowd size).entries ↔ n < size := by
  constructor
  · intro member
    rcases List.mem_map.mp member with ⟨other, below, same⟩
    rcases lt_trichotomy other n with less | equal | greater
    · exact absurd (congrArg Prod.fst same) (ne_of_lt (crowdKey_lt less))
    · exact equal ▸ List.mem_range.mp below
    · exact absurd (congrArg Prod.fst same).symm (ne_of_lt (crowdKey_lt greater))
  · exact fun below => List.mem_map_of_mem (List.mem_range.mpr below)

/-- The listing of one object more than a page holds. -/
def crowdPages : List (List (String × Object tagBody)) :=
  [(crowd listPageSize).entries, [crowdEntry listPageSize]]

def crowdLister : Lister (crowd (listPageSize + 1)) where
  pagings := fun pages => pages = crowdPages
  some_paging := ⟨_, rfl⟩
  listed := by
    rintro _ rfl
    exact List.cons_ne_nil _ _
  whole := by
    rintro _ rfl
    simp [crowdPages, crowd, List.range_succ]
  bounded := by
    rintro _ page rfl member
    rcases List.mem_cons.mp member with same | last
    · simp [same, crowd]
    · rw [List.mem_singleton.mp last]
      exact Nat.succ_le_of_lt (by decide)

def newReplica : ReplicaState tagBody where
  record := { regionID := "backup", bucket := "photos" }
  contents := SortedStore.empty

/-- The passes never see the object on the second page. -/
theorem second_page_is_missed :
    ¬ forall (primary : Contents tagBody) (lister : Lister primary) (start : ReplicaState tagBody),
      MakesProgress lister start := by
  intro stated
  have beyond : crowdEntry listPageSize ∉ scanWindow 0 crowdPages := by
    have full : scanCap ≤ 0 + (crowd listPageSize).entries.length := by
      simp [crowd, scanCap, listPageSize, maxBatchPerTick]
    rw [crowdPages, scanWindow, if_pos full, List.append_nil]
    exact fun seen => lt_irrefl listPageSize (mem_crowd.mp seen)
  let turn : Turn crowdLister := crowdLister.steady crowdPages rfl 0
  rcases (stated _ crowdLister newReplica fun _ => turn).2 with ⟨count, synced⟩
  have member := mem_crowd.mpr (Nat.lt_succ_self listPageSize)
  refine missing_passes member ?_ (fun _ => turn.not_copied_of_beyond member beyond) count synced
  intro held
  rcases held _ rfl with ⟨_, here, _⟩
  cases here

end Federation
end Basement
