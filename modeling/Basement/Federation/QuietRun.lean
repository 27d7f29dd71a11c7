import Basement.Federation.QuietPass
import Basement.Federation.Replication
import Basement.Library.Transition

namespace Basement
namespace Federation
namespace Replication

open Library

/-!
# The quiet pass as a run of the engine

The pass over a quiet primary is one run of the engine among many: the one in which
nobody else takes a step, every call succeeds, and the copies of the batch are made one
after the other.  The run ends in the state that the function computes.
-/

variable {contentOf : String -> Body} {world : World contentOf} {pass : Pass contentOf}

/-- Where a pass stands after a scan loop: it goes on, or hands over its batch. -/
def Stage.after (goOn : DiffResult -> Stage contentOf) :
    Except DiffResult DiffResult -> Stage contentOf
  | .ok dr => goOn dr
  | .error dr => .copying (DiffResult.batch dr)

/-- The HEADs of one page are the function's scan of it. -/
theorem scanPage_reaches {cursor : Option String} {more : Bool}
    (page : List (String × Object contentOf)) : forall dr : DiffResult,
      Transition.Reaches step (world.setStage pass (.scanning page cursor more dr))
        (world.setStage pass (Stage.after (fun dr => .scanning [] cursor more dr)
          (scanPage pass.snap.lastSync world.replica page dr))) := by
  induction page with
  | nil => exact fun dr => Transition.Reaches.refl _
  | cons listed rest ih =>
      intro dr
      cases result : scanObject pass.snap.lastSync (world.replica.get? listed.1) listed dr with
      | error stopped =>
          apply Transition.Reaches.of_step (.pass (.headObject true))
          simp [step, passStep, World.setStage, scanPage, Stage.after, result]
      | ok next =>
          refine Transition.Reaches.trans (Transition.Reaches.of_step (.pass (.headObject true)) ?_)
            (by simpa only [scanPage, result] using ih next)
          simp [step, passStep, World.setStage, result]

/-- One page: its listing, and its HEADs. -/
theorem page_reaches {cursor : Option String} {limit : Nat}
    (allowed : 0 < limit ∧ limit ≤ listPageSize) (dr : DiffResult) :
    Transition.Reaches step (world.setStage pass (.listing cursor dr))
      (world.setStage pass (Stage.after
        (fun dr => .scanning [] (SortedStore.nextCursor cursor (world.primary.page cursor limit))
          (decide (limit < (world.primary.after cursor).length)) dr)
        (scanPage pass.snap.lastSync world.replica (world.primary.page cursor limit) dr))) := by
  refine Transition.Reaches.trans
    (Transition.Reaches.of_step (.pass (.listPage (some limit))) ?_) (scanPage_reaches _ dr)
  simp only [step, passStep, World.setStage, Option.bind_some, allowed, and_self, if_true]
  rfl

/-- The end of a page. -/
theorem endPage_reaches {cursor : Option String} {more : Bool} (dr : DiffResult) :
    Transition.Reaches step (world.setStage pass (.scanning [] cursor more dr))
      (world.setStage pass (Stage.after (fun dr => .listing cursor dr) (pageEnd more dr))) := by
  apply Transition.Reaches.of_step (.pass .endPage)
  simp only [step, passStep, World.setStage, Option.bind_some]
  cases pageEnd more dr with
  | error stopped => rfl
  | ok next => rfl

/-- The listing and its scan are the function's `computeDiff`, when the backend returns
no empty page. -/
theorem computeDiff_reaches (pages : List (List (String × Object contentOf))) :
    forall (cursor : Option String) (dr : DiffResult), pages ≠ [] ->
      (forall page, page ∈ pages -> page ≠ [] ∧ page.length ≤ listPageSize) ->
      world.primary.after cursor = pages.flatten ->
        Transition.Reaches step (world.setStage pass (.listing cursor dr))
          (world.setStage pass (.copying (DiffResult.batch
            (computeDiff pass.snap.lastSync world.replica pages dr)))) := by
  induction pages with
  | nil => exact fun _ _ listed => absurd rfl listed
  | cons page rest ih =>
      intro cursor dr _ wellFormed listing
      rcases wellFormed page List.mem_cons_self with ⟨filled, bounded⟩
      have restFormed : forall other, other ∈ rest -> other ≠ [] ∧ other.length ≤ listPageSize :=
        fun other member => wellFormed other (List.mem_cons_of_mem _ member)
      have first : world.primary.page cursor page.length = page := by
        rw [SortedStore.page, listing, List.flatten_cons, List.take_left']
        rfl
      have further : decide (page.length < (world.primary.after cursor).length) = !rest.isEmpty := by
        rw [listing, List.flatten_cons, List.length_append]
        cases rest with
        | nil => simp
        | cons next others =>
            have some : 0 < next.length := List.length_pos_iff.mpr (restFormed next List.mem_cons_self).1
            simp only [List.flatten_cons, List.length_append, List.isEmpty_cons, Bool.not_false,
              decide_eq_true_eq]
            omega
      refine Transition.Reaches.trans
        (page_reaches ⟨List.length_pos_iff.mpr filled, bounded⟩ dr) ?_
      rw [first, further, computeDiff]
      cases scanPage pass.snap.lastSync world.replica page dr with
      | error stopped => exact Transition.Reaches.refl _
      | ok after =>
          apply Transition.Reaches.trans (endPage_reaches after)
          rcases pageEnd_cases (!rest.isEmpty) after with
            ⟨_, same⟩ | ⟨_, _, same⟩ | ⟨next, _, same⟩
          · simp only [same]
            exact Transition.Reaches.refl _
          · simp only [same]
            exact Transition.Reaches.refl _
          · simp only [same]
            apply ih _ after (by simpa using next) restFormed
            exact SortedStore.after_nextCursor (by rw [listing, List.flatten_cons]) filled

/-- The copies of a batch, one after the other, are the function's `replicateBatch`. -/
theorem replicateBatch_reaches {mtime : String -> Int} {dr : DiffResult} (todo : List DiffEntry) :
    forall (replica : Contents contentOf) (replicated : Nat),
      (forall entry, entry ∈ todo -> (world.primary.get? entry.key).isSome) ->
        Transition.Reaches step
          ({ world with replica := replica }.setStage pass
            (.copying { dr := dr, todo := todo, replicated := replicated }))
          ({ world with replica := replicateBatch world.primary mtime todo replica }.setStage pass
            (.copying { dr := dr, todo := [], replicated := replicated + todo.length })) := by
  induction todo with
  | nil => exact fun _ _ _ => Transition.Reaches.refl _
  | cons entry rest ih =>
      intro replica replicated present
      rcases Option.isSome_iff_exists.mp (present entry List.mem_cons_self) with ⟨object, found⟩
      have copied : replicateOne world.primary mtime replica entry =
          replica.put entry.key { object with mtime := mtime entry.key } := by
        rw [replicateOne, found]
      have reads : step ({ world with replica := replica }.setStage pass
            (.copying { dr := dr, todo := entry :: rest, replicated := replicated }))
            (.pass (.openStream 0 true)) =
          some ({ world with replica := replica }.setStage pass (.copying
            { dr := dr, todo := rest, flights := [⟨entry, object.body⟩],
              replicated := replicated })) := by
        simp [step, passStep, World.setStage, found]
      have writes : step ({ world with replica := replica }.setStage pass (.copying
            { dr := dr, todo := rest, flights := [⟨entry, object.body⟩], replicated := replicated }))
            (.pass (.putLands 0 { object with mtime := mtime entry.key })) =
          some ({ world with replica := replicateOne world.primary mtime replica entry }.setStage pass
            (.copying { dr := dr, todo := rest, replicated := replicated + 1 })) := by
        simp [step, passStep, World.setStage, copied]
      refine Transition.Reaches.trans (Transition.Reaches.of_step _ reads)
        (Transition.Reaches.trans (Transition.Reaches.of_step _ writes) ?_)
      have rest_run := ih (replicateOne world.primary mtime replica entry) (replicated + 1)
        fun other member => present other (List.mem_cons_of_mem _ member)
      rw [Nat.add_assoc, Nat.add_comm 1] at rest_run
      exact rest_run

/-- The listing of an empty bucket is one empty page. -/
theorem emptyListing_reaches (empty : world.primary.after none = []) :
    Transition.Reaches step (world.setStage pass (.listing none {}))
      (world.setStage pass (.copying (DiffResult.batch {}))) := by
  have page : world.primary.page none 1 = [] := by
    rw [SortedStore.page, empty]
    rfl
  apply Transition.Reaches.trans (page_reaches (show 0 < 1 ∧ 1 ≤ listPageSize by decide) {})
  rw [page, empty]
  exact endPage_reaches {}

/-- A pass over a quiet primary is a run of the engine.  It ends with the row and the
replica that the function computes. -/
theorem quietPass_reaches {lister : Lister world.primary} (idle : world.poller = none)
    (turn : Turn lister)
    (filled : forall page, page ∈ turn.pages -> page = [] -> turn.pages = [[]])
    (later : world.clock ≤ turn.now) :
    Transition.Reaches step world
      { world with
        clock := turn.now
        record := (turn.replicateToReplica ⟨world.record, world.replica⟩).record
        replica := (turn.replicateToReplica ⟨world.record, world.replica⟩).contents
        failures := 0 } := by
  let state : ReplicaState contentOf := ⟨world.record, world.replica⟩
  let pass : Pass contentOf := ⟨world.record, .resolving, []⟩
  have listing : world.primary.after none = turn.pages.flatten := by
    rw [lister.whole turn.pages turn.paged]
    exact List.filter_eq_self.mpr fun _ _ => decide_eq_true trivial
  have starts : Transition.Reaches step world (world.setStage pass (.listing none {})) := by
    have loads : step world .loadRecord = some { world with poller := some pass } := by
      simp only [step, idle]
      rfl
    exact (Transition.Reaches.of_step _ loads).trans
      (Transition.Reaches.of_step (.pass (.resolve true)) rfl)
  have scans : Transition.Reaches step (world.setStage pass (.listing none {}))
      (world.setStage pass (.copying (DiffResult.batch (turn.diff state)))) := by
    by_cases empty : turn.pages = [[]]
    · have diff : turn.diff state = {} := by
        rw [Turn.diff, empty]
        rfl
      rw [diff]
      exact emptyListing_reaches (by rw [listing, empty]; rfl)
    · refine computeDiff_reaches turn.pages none {} (lister.listed _ turn.paged) ?_ listing
      intro page member
      exact ⟨fun none => empty (filled page member none), lister.bounded _ _ turn.paged member⟩
  have copies : Transition.Reaches step
      (world.setStage pass (.copying (DiffResult.batch (turn.diff state))))
      ({ world with replica := (turn.replicateToReplica state).contents }.setStage pass
        (.copying { dr := turn.diff state, todo := [], replicated := (turn.batch state).length })) := by
    rw [← Nat.zero_add (turn.batch state).length]
    exact replicateBatch_reaches (turn.batch state) world.replica 0 fun _ => turn.batch_present
  have waits : step ({ world with
        replica := (turn.replicateToReplica state).contents }.setStage pass (.copying
          { dr := turn.diff state, todo := [], replicated := (turn.batch state).length }))
      (.tick (turn.now - world.clock).toNat) =
        some ({ world with
          clock := turn.now
          replica := (turn.replicateToReplica state).contents }.setStage pass (.copying
            { dr := turn.diff state, todo := [], replicated := (turn.batch state).length })) := by
    have reading : world.clock + ((turn.now - world.clock).toNat : Int) = turn.now := by omega
    simp only [step, World.setStage, reading]
  have finishes : step ({ world with
        clock := turn.now
        replica := (turn.replicateToReplica state).contents }.setStage pass (.copying
          { dr := turn.diff state, todo := [], replicated := (turn.batch state).length }))
      (.pass .finishPass) =
        some ({ world with
          clock := turn.now
          replica := (turn.replicateToReplica state).contents
          failures := 0 }.setStage pass
            (.recording (recordSuccess turn.now world.record 0 0 (turn.diff state)))) := by
    have objects : Batch.pendingObjects
        { dr := turn.diff state, todo := [], replicated := (turn.batch state).length } = 0 :=
      Int.sub_self _
    have bytes : Batch.pendingBytes
        { dr := turn.diff state, todo := [], replicated := (turn.batch state).length } = 0 := by
      change (((turn.batch state).drop (turn.batch state).length).map DiffEntry.size).sum = 0
      rw [List.drop_length]
      rfl
    simp [step, passStep, World.setStage, objects, bytes, pass]
  refine starts.trans (scans.trans (copies.trans ((Transition.Reaches.of_step _ waits).trans
    ((Transition.Reaches.of_step _ finishes).trans
      (Transition.Reaches.of_step (.pass (.storeRecord true)) ?_)))))
  simp only [step, passStep, World.setStage, Option.bind_some, if_true, Turn.replicateToReplica,
    idle]
  rfl

/-- A photo that the replica does not have. -/
def photoWorld : World tagBody where
  clock := 5
  primary := SortedStore.empty.put "cat.jpg" { sampleVersion "v1" with mtime := 3 }
  replica := SortedStore.empty
  record := { regionID := "r2", bucket := "photos" }
  failures := 0
  poller := none
  queue := []
  worker := none
  strays := []
  leaked := []

theorem quietPass_reaches_photo : Exists fun final => Transition.Reaches step photoWorld final ∧
    final.replica.get? "cat.jpg" = photoWorld.primary.get? "cat.jpg" := by
  let lister : Lister photoWorld.primary := {
    pagings := fun pages => pages = [photoWorld.primary.entries]
    some_paging := ⟨_, rfl⟩
    listed := fun pages paged => by rw [paged]; exact List.cons_ne_nil _ _
    whole := fun pages paged => by rw [paged]; exact List.append_nil _
    bounded := fun pages page paged member => by
      cases List.mem_singleton.mp (paged ▸ member)
      decide }
  let turn : Turn lister := ⟨[photoWorld.primary.entries], rfl, 9, fun _ => 3, by
    intro key object found
    cases List.mem_singleton.mp ((SortedStore.mem_entries_iff ..).mpr found)
    exact le_rfl⟩
  refine ⟨_, quietPass_reaches rfl turn ?_ (show (5 : Int) ≤ 9 by decide), by rfl⟩
  intro page member empty
  cases List.mem_singleton.mp member
  cases empty

end Replication
end Federation
end Basement
