import Basement.Federation.Watermark

namespace Basement
namespace Federation
namespace Replication

open Library

/-!
# One polling pass among the users' writes

A pass starts from the stored row and ends by storing what it computed.  In between
the users of the primary write as they like.  Nobody else writes to the replica, so
every copy brings what the pass read, and what the pass read is either still there or
was overwritten while the pass was running.

The watermark stays safe when two things are in time: an object is not written while
the clock is behind a watermark by the slack, and what was written since the snapshot
is either on the replica or within the slack when the pass reads the clock.
-/

variable {contentOf : String -> Body}

/-- The steps of a pass in progress, of the users, and of the pass's abandoned calls. -/
def InPass : Action contentOf -> Prop
  | .tick _ | .userPut _ _ | .userDelete _ | .pass _ | .strayLands _ _ | .leakedReads _ => True
  | .loadRecord | .notify _ _ | .takeTask _ | .dropTask | .job _ => False

instance (action : Action contentOf) : Decidable (InPass action) :=
  match action with
  | .tick _ | .userPut _ _ | .userDelete _ | .pass _ | .strayLands _ _ | .leakedReads _ =>
      inferInstanceAs (Decidable True)
  | .loadRecord | .notify _ _ | .takeTask _ | .dropTask | .job _ => inferInstanceAs (Decidable False)

/-- A pass that has just taken its snapshot, and no event. -/
structure World.AtPassStart (world : World contentOf) : Prop where
  poller : world.poller = some ⟨world.record, .resolving, []⟩
  queue : world.queue = []
  worker : world.worker = none
  strays : world.strays = []
  leaked : world.leaked = []

/-- Users write past the watermark, and the pass finishes before their writes are
older than the slack. -/
def InTime (world : World contentOf) : Action contentOf -> Prop
  | .userPut _ _ => world.Unfiltered (wholeSecond world.clock)
  | .pass .finishPass => Drained world (.pass .finishPass)
  | _ => True

/-! ## The clock stays ahead of the watermarks -/

theorem filtered_eq_false_iff {mark mtime : Int} :
    filtered mark mtime = false ↔ mark = 0 ∨ mark - lastSyncSlack < mtime := by
  unfold filtered
  by_cases zero : mark = 0
  · simp [zero]
  · simp [zero]

/-- The clock, once read, is no obstacle for objects written later. -/
theorem filtered_clock {now later : Int} (order : now ≤ later) :
    filtered now (wholeSecond later) = false := by
  refine filtered_eq_false_iff.mpr (Or.inr ?_)
  have close := lt_wholeSecond_add now
  have mono := wholeSecond_mono order
  have slack : lastSyncSlack = 2 * second := rfl
  have positive : (0 : Int) < second := by decide
  omega

theorem step_clock {world next : World contentOf} {action : Action contentOf}
    (taken : step world action = some next) : world.clock ≤ next.clock := by
  cases step_moves taken with
  | waited elapsed =>
      change world.clock ≤ world.clock + elapsed
      omega
  | passed pass action next running moved => cases moved <;> exact le_rfl
  | worked job action next working moved => cases moved <;> exact le_rfl
  | userPut | userDeleted | loaded | queued | overflowed | unresolved | taken | dropped
  | strayed | leakGone | leakRead => exact le_rfl

/-- A watermark that is not ahead of the clock at the start of a run is no obstacle
for any later write: every other mark is a reading of the clock. -/
theorem writes_stay_unfiltered {start final : World contentOf} {actions : List (Action contentOf)}
    (behind : start.Unfiltered (wholeSecond start.clock))
    (run : Transition.exec step start actions = some final) :
    final.Unfiltered (wholeSecond final.clock) := by
  have preserved : forall (world : World contentOf) action next,
      world.Unfiltered (wholeSecond world.clock) -> step world action = some next ->
        next.Unfiltered (wholeSecond next.clock) := by
    intro world action next before taken mark held
    have order := step_clock taken
    rcases step_marks taken held with marked | ⟨same, _⟩
    · rcases filtered_eq_false_iff.mp (before mark marked) with zero | ahead
      · exact filtered_eq_false_iff.mpr (Or.inl zero)
      · have mono := wholeSecond_mono order
        exact filtered_eq_false_iff.mpr (Or.inr (by omega))
    · rw [same]
      exact filtered_clock order
  exact Transition.exec_invariant preserved behind run

/-! ## The pass's own writes -/

/-- No copy of the pass has failed or was given up so far. -/
def Stage.Untroubled : Stage contentOf -> Prop
  | .failing _ | .recording _ => False
  | .copying batch => ¬ batch.Troubled
  | _ => True

/-- No call that failed or was abandoned may still take effect. -/
def World.Settled (world : World contentOf) : Prop := world.strays = [] ∧ world.leaked = []

/-- A write that may still reach the replica. -/
def World.Outstanding (world : World contentOf) (stray : Stray) : Prop :=
  stray ∈ world.strays ∨
    Exists fun pass => Exists fun batch => world.poller = some pass ∧
      pass.stage = .copying batch ∧ Exists fun flight =>
        flight ∈ batch.flights ∧ stray = flight.stray

/-- Only the pass writes to the replica, and what it writes lands well. -/
structure OwnWrites (world : World contentOf) : Prop where
  queue : world.queue = []
  worker : world.worker = none
  lands : forall stray, world.Outstanding stray -> world.LandsWell stray.key stray.body
  settled : forall pass, world.poller = some pass -> pass.stage.Untroubled -> world.Settled

namespace OwnWrites

variable {world next : World contentOf}

/-- What the pass writes is harmless. -/
theorem harmless (own : OwnWrites world) {action : Action contentOf} (inPass : InPass action)
    (inTime : InTime world action) : Harmless world action ∧ Drained world action := by
  cases action with
  | userPut key version => exact ⟨inTime, trivial⟩
  | pass action =>
      cases action with
      | putLands index object =>
          refine ⟨?_, trivial⟩
          intro pass batch flight running stage flying
          exact own.lands flight.stray
            (Or.inr ⟨pass, batch, running, stage, flight, List.mem_of_getElem? flying, rfl⟩)
      | finishPass => exact ⟨trivial, inTime⟩
      | resolve | listPage | headObject | endPage | openStream | putFails | abandonBatch
      | loadLag | storeRecord => exact ⟨trivial, trivial⟩
  | strayLands index object =>
      refine ⟨?_, trivial⟩
      intro stray found
      exact own.lands stray (Or.inl (List.mem_of_getElem? found))
  | job action => cases inPass
  | tick | userDelete | loadRecord | notify | takeTask | dropTask | leakedReads =>
      exact ⟨trivial, trivial⟩

/-- A write lands well as long as the primary's objects and the marks stay. -/
private theorem landsWell_of_marks (world next : World contentOf) (primary : next.primary = world.primary)
    (marks : forall mark, next.Mark mark -> world.Mark mark) {key : String} {body : Option Body}
    (lands : world.LandsWell key body) : next.LandsWell key body := by
  intro object found
  rw [primary] at found
  exact (lands object found).imp_right fun unfiltered mark held => unfiltered mark (marks mark held)

/-- The pass moves on without a failure and without a new flight. -/
private theorem calm {pass : Pass contentOf} {stage : Stage contentOf} (own : OwnWrites world)
    (running : world.poller = some pass) (untroubled : pass.stage.Untroubled)
    (flights : forall batch, stage = .copying batch -> batch.flights = []) :
    OwnWrites (world.setStage pass stage) where
  queue := own.queue
  worker := own.worker
  lands := by
    intro stray outstanding
    have held : stray ∈ world.strays := by
      rcases outstanding with held | ⟨_, batch, moved, same, flight, flying, _⟩
      · exact held
      · cases Option.some.inj moved
        rw [flights batch same] at flying
        cases flying
    rw [(own.settled pass running untroubled).1] at held
    cases held
  settled := fun _ _ _ => own.settled pass running untroubled

/-- The pass is in its batch, or has given up: what is outstanding was so before. -/
private theorem inBatch {pass : Pass contentOf} {stage : Stage contentOf} (own : OwnWrites world)
    (before : World contentOf) (running : world.poller = some pass)
    (queue : before.queue = world.queue) (worker : before.worker = world.worker)
    (record : before.record = world.record) (primary : before.primary = world.primary)
    (marks : forall mark, stage.Mark mark -> world.Mark mark)
    (outstanding : forall stray, (before.setStage pass stage).Outstanding stray ->
      world.Outstanding stray ∨ world.LandsWell stray.key stray.body)
    (settled : stage.Untroubled -> before.Settled) :
    OwnWrites (before.setStage pass stage) where
  queue := queue.trans own.queue
  worker := worker.trans own.worker
  lands := by
    intro stray held
    have was : world.LandsWell stray.key stray.body := by
      rcases outstanding stray held with old | well
      · exact own.lands stray old
      · exact well
    refine landsWell_of_marks world (before.setStage pass stage) primary ?_ was
    intro mark marked
    rcases mark_setStage running record queue worker marked with known | staged
    · exact known
    · exact marks mark staged
  settled := by
    intro other moved untroubled
    cases Option.some.inj moved
    exact settled untroubled

/-- A flight of the batch is outstanding. -/
private theorem flying {pass : Pass contentOf} {batch : Batch} {flight : Flight}
    (running : world.poller = some pass) (stage : pass.stage = .copying batch)
    (aloft : flight ∈ batch.flights) : world.Outstanding flight.stray :=
  Or.inr ⟨pass, batch, running, stage, flight, aloft, rfl⟩

private theorem passMove {pass : Pass contentOf} {action : PassAction contentOf}
    (own : OwnWrites world) (running : world.poller = some pass) (below : pass.stage.Below)
    (moved : PassMove world pass action next) : OwnWrites next := by
  have calmly : forall {batch : Batch}, pass.stage = .copying batch -> ¬ batch.Troubled ->
      world.Settled := by
    intro batch stage untroubled
    exact own.settled pass running (by rw [stage]; exact untroubled)
  cases moved with
  | resolved stage =>
      exact own.calm running (by rw [stage]; trivial) (fun _ other => by cases other)
  | listed cursor dr limit stage =>
      exact own.calm running (by rw [stage]; trivial) (fun _ other => by cases other)
  | scanned listed rest cursor more dr after answered stage result =>
      exact own.calm running (by rw [stage]; trivial) (fun _ other => by cases other)
  | turned cursor more dr after stage result =>
      exact own.calm running (by rw [stage]; trivial) (fun _ other => by cases other)
  | filled listed rest cursor more dr after answered stage result =>
      exact own.calm running (by rw [stage]; trivial) (fun _ same => by cases same; rfl)
  | ended cursor more dr after stage result =>
      exact own.calm running (by rw [stage]; trivial) (fun _ same => by cases same; rfl)
  | failed undrained =>
      refine own.inBatch _ running rfl rfl rfl rfl (fun _ => False.elim) ?_ False.elim
      rintro stray (held | ⟨_, batch, now, same, _⟩)
      · exact Or.inl (Or.inl held)
      · cases Option.some.inj now
        cases same
  | opened batch index entry object stage waiting found =>
      have count := Batch.accounted_opened ⟨entry, object.body⟩ waiting
      refine own.inBatch world running rfl rfl rfl rfl (fun _ => False.elim) ?_
        (fun untroubled => calmly stage fun troubled =>
          untroubled (troubled.imp_right count.trans_lt))
      rintro stray (held | ⟨_, other, now, same, flight, aloft, rfl⟩)
      · exact Or.inl (Or.inl held)
      · cases Option.some.inj now
        cases same
        rcases List.mem_cons.mp aloft with new | old
        · subst new
          apply Or.inr
          intro current present
          cases Option.some.inj (found.symm.trans present)
          exact Or.inl rfl
        · exact Or.inl (flying running stage old)
  | refused batch index ok stage =>
      refine own.inBatch world running rfl rfl rfl rfl (fun _ => False.elim) ?_
        (fun untroubled => absurd (Or.inl rfl) untroubled)
      rintro stray (held | ⟨_, other, now, same, flight, aloft, rfl⟩)
      · exact Or.inl (Or.inl held)
      · cases Option.some.inj now
        cases same
        exact Or.inl (flying running stage aloft)
  | landed batch index flight object stage aloft body =>
      have count := Batch.accounted_landed aloft
      refine own.inBatch _ running rfl rfl rfl rfl (fun _ => False.elim) ?_
        (fun untroubled => calmly stage fun troubled =>
          untroubled (troubled.imp_right count.trans_lt))
      rintro stray (held | ⟨_, other, now, same, another, remains, rfl⟩)
      · exact Or.inl (Or.inl held)
      · cases Option.some.inj now
        cases same
        exact Or.inl (flying running stage (List.mem_of_mem_eraseIdx remains))
  | broke batch index flight stage aloft =>
      refine own.inBatch _ running rfl rfl rfl rfl (fun _ => False.elim) ?_
        (fun untroubled => absurd (Or.inl rfl) untroubled)
      rintro stray (held | ⟨_, other, now, same, another, remains, rfl⟩)
      · rcases List.mem_cons.mp held with new | old
        · rw [new]
          exact Or.inl (flying running stage (List.mem_of_getElem? aloft))
        · exact Or.inl (Or.inl old)
      · cases Option.some.inj now
        cases same
        exact Or.inl (flying running stage (List.mem_of_mem_eraseIdx remains))
  | abandoned batch noticed stage =>
      rw [stage] at below
      refine own.inBatch _ running rfl rfl rfl rfl (fun _ => False.elim) ?_ ?_
      rotate_left
      · intro untroubled
        rcases Batch.nothing_abandoned below untroubled with ⟨todo, flights, calm⟩
        rcases calmly stage calm with ⟨strays, leaked⟩
        exact ⟨by simp [flights, strays], by simp [todo, leaked]⟩
      rintro stray (held | ⟨_, other, now, same, another, remains, rfl⟩)
      · rcases List.mem_append.mp held with new | old
        · rcases List.mem_map.mp new with ⟨flight, aloft, rfl⟩
          exact Or.inl (flying running stage aloft)
        · exact Or.inl (Or.inl old)
      · cases Option.some.inj now
        cases same
        cases remains
  | finished batch stage todo flights ok =>
      cases drained : fullyDrained batch.pendingObjects batch.dr with
      | true =>
          refine ⟨own.queue, own.worker, ?_, ?_⟩
          · rintro stray (held | ⟨_, other, now, same, _⟩)
            · have settled := calmly stage (Batch.not_troubled_of_drained ok drained)
              rw [show world.strays = [] from settled.1] at held
              cases held
            · cases Option.some.inj now
              cases same
          · intro other now untroubled
            cases Option.some.inj now
            cases untroubled
      | false =>
          refine own.inBatch _ running rfl rfl rfl rfl ?_ ?_ False.elim
          · intro mark same
            change mark = _ at same
            rw [recordSuccess_lastSync, drained] at same
            exact World.Mark.ofPass running (Or.inl same)
          · rintro stray (held | ⟨_, other, now, same, _⟩)
            · exact Or.inl (Or.inl held)
            · cases Option.some.inj now
              cases same
  | reported failures loaded stage =>
      refine own.inBatch world running rfl rfl rfl rfl ?_ ?_ False.elim
      · intro mark same
        exact World.Mark.ofPass running (Or.inl same)
      · rintro stray (held | ⟨_, batch, now, same, _⟩)
        · exact Or.inl (Or.inl held)
        · cases Option.some.inj now
          cases same
  | stored upd persisted stage =>
      refine ⟨own.queue, own.worker, ?_, fun other gone => by cases gone⟩
      rintro stray (held | ⟨_, _, gone, _⟩)
      · refine landsWell_of_marks world _ ?_ ?_ (own.lands stray (Or.inl held))
        · rfl
        intro mark marked
        rcases passMove_marks running (.stored upd persisted stage) marked with known | ⟨_, no⟩
        · exact known
        · cases no
      · cases gone

/-- A write of a user leaves what is outstanding harmless. -/
private theorem setPrimary (own : OwnWrites world) (key : String)
    (object : Option (Object contentOf))
    (recent : forall written, object = some written -> world.Unfiltered written.mtime) :
    OwnWrites (world.setPrimary key object) where
  queue := own.queue
  worker := own.worker
  lands := by
    intro stray outstanding
    have was : world.Outstanding stray := by
      rcases outstanding with held | ⟨pass, batch, running, stage, rest⟩
      · exact Or.inl held
      · rcases Option.map_eq_some_iff.mp running with ⟨old, before, rfl⟩
        exact Or.inr ⟨old, batch, before, stage, rest⟩
    intro current present
    change (world.primary.set key object).get? stray.key = some current at present
    rw [SortedStore.get?_set] at present
    split at present
    · exact Or.inr fun mark held => recent current present mark (mark_wrote.mp held)
    · exact (own.lands stray was current present).imp_right
        fun unfiltered mark held => unfiltered mark (mark_wrote.mp held)
  settled := by
    intro pass running untroubled
    rcases Option.map_eq_some_iff.mp running with ⟨old, before, rfl⟩
    exact own.settled old before untroubled

/-- A stray that reaches the replica is outstanding no longer. -/
private theorem strayLanded {index : Nat} {stray : Stray} {object : Option (Object contentOf)}
    (own : OwnWrites world) (found : world.strays[index]? = some stray) :
    OwnWrites ({ world with strays := world.strays.eraseIdx index }.setReplica stray.key object) where
  queue := own.queue
  worker := own.worker
  lands := by
    intro other outstanding
    have was : world.Outstanding other := by
      rcases outstanding with held | ⟨pass, batch, running, stage, rest⟩
      · exact Or.inl (List.mem_of_mem_eraseIdx held)
      · rcases Option.map_eq_some_iff.mp running with ⟨old, before, rfl⟩
        exact Or.inr ⟨old, batch, before, stage, rest⟩
    refine landsWell_of_marks world _ ?_ ?_ (own.lands other was)
    · rfl
    · exact fun mark => mark_wrote.mp
  settled := by
    intro pass running untroubled
    rcases Option.map_eq_some_iff.mp running with ⟨old, before, rfl⟩
    rw [(own.settled old before untroubled).1] at found
    cases found

/-- A leaked copy reads the primary's object: what it will write is current. -/
private theorem leakRead {index : Nat} {key : String} {object : Object contentOf}
    (own : OwnWrites world) (found : world.leaked[index]? = some key)
    (present : world.primary.get? key = some object) :
    OwnWrites { world with
      leaked := world.leaked.eraseIdx index
      strays := ⟨key, some object.body⟩ :: world.strays } where
  queue := own.queue
  worker := own.worker
  lands := by
    rintro stray (held | flights)
    · rcases List.mem_cons.mp held with new | old
      · subst new
        intro current here
        cases Option.some.inj (present.symm.trans here)
        exact Or.inl rfl
      · exact own.lands stray (Or.inl old)
    · exact own.lands stray (Or.inr flights)
  settled := by
    intro pass running untroubled
    rw [(own.settled pass running untroubled).2] at found
    cases found

/-- A leaked copy finds no object. -/
private theorem leakGone {index : Nat} {key : String} (own : OwnWrites world)
    (found : world.leaked[index]? = some key) :
    OwnWrites { world with leaked := world.leaked.eraseIdx index } where
  queue := own.queue
  worker := own.worker
  lands := own.lands
  settled := by
    intro pass running untroubled
    rw [(own.settled pass running untroubled).2] at found
    cases found

/-- Every step of the pass and of the users keeps the pass's writes harmless. -/
theorem step {action : Action contentOf} (own : OwnWrites world) (safe : SafeInv world)
    (inPass : InPass action) (inTime : InTime world action)
    (taken : Replication.step world action = some next) : OwnWrites next := by
  cases step_moves taken with
  | waited elapsed => exact ⟨own.queue, own.worker, own.lands, own.settled⟩
  | userPut key version =>
      apply own.setPrimary key _
      intro written same
      cases Option.some.inj same
      exact inTime
  | userDeleted key =>
      apply own.setPrimary key none
      intro written none
      cases none
  | passed pass action next running moved =>
      exact own.passMove running (safe.pass pass running).1 moved
  | strayed index stray object found body => exact own.strayLanded found
  | leakGone index key found gone => exact own.leakGone found
  | leakRead index key object found present => exact own.leakRead found present
  | loaded | queued | overflowed | unresolved | taken | dropped | worked => cases inPass

end OwnWrites

/-! ## The safety of one pass -/

theorem World.AtPassStart.ownWrites {world : World contentOf} (start : world.AtPassStart) :
    OwnWrites world := by
  refine ⟨start.queue, start.worker, ?_, fun _ _ _ => ⟨start.strays, start.leaked⟩⟩
  rintro stray (held | ⟨pass, batch, running, stage, _⟩)
  · rw [start.strays] at held
    cases held
  · rw [start.poller] at running
    cases Option.some.inj running
    cases stage

theorem World.AtPassStart.safeInv {world : World contentOf} (start : world.AtPassStart)
    (clean : Clean world.primary world.replica world.record.lastSync) : SafeInv world where
  clean := by
    rintro mark (stored | ⟨task, queued, _⟩ | ⟨pass, running, held⟩ | ⟨job, working, _⟩)
    · rw [stored]
      exact clean
    · rw [start.queue] at queued
      cases queued
    · rw [start.poller] at running
      cases Option.some.inj running
      rcases held with snap | none
      · rw [snap]
        exact clean
      · cases none
    · rw [start.worker] at working
      cases working
  pass := by
    intro pass running
    rw [start.poller] at running
    cases Option.some.inj running
    exact ⟨trivial, fun _ _ => trivial⟩

/-- The watermark is safe through one polling pass.  Whatever the two sides hold when
the pass takes its snapshot, and however the users write while it runs: if their writes
are past the watermark, and those that the replica does not have are within the slack
when a drained pass reads the clock, then everything the stored watermark filters is on
the replica in its current version. -/
theorem polling_watermark_safe {start final : World contentOf}
    {actions : List (Action contentOf)} (atStart : start.AtPassStart)
    (clean : Clean start.primary start.replica start.record.lastSync)
    (onePass : forall action, action ∈ actions -> InPass action)
    (inTime : Transition.Meets step InTime start actions)
    (run : Transition.exec step start actions = some final) :
    Clean final.primary final.replica final.record.lastSync := by
  have preserved : forall (world : World contentOf) action next,
      SafeInv world ∧ OwnWrites world -> InTime world action ∧ InPass action ->
        step world action = some next -> SafeInv next ∧ OwnWrites next := by
    rintro world action next ⟨safe, own⟩ ⟨timely, inPass⟩ taken
    rcases own.harmless inPass timely with ⟨harmless, drained⟩
    exact ⟨safe.step harmless drained taken, own.step safe inPass timely taken⟩
  have held := Transition.exec_invariant_of_meets preserved
    ⟨atStart.safeInv clean, atStart.ownWrites⟩ (Transition.meets_and inTime onePass) run
  exact held.1.clean _ (Or.inl rfl)

/-! Two runs of a pass, over sample objects. -/

def sampleRow : ReplicaTarget := { regionID := "backup", bucket := "photos" }

/-- A pass over an empty primary, a hundred seconds into the clock. -/
def samplePass : World tagBody where
  clock := 100 * second
  primary := SortedStore.empty
  replica := SortedStore.empty
  record := sampleRow
  failures := 0
  poller := some ⟨sampleRow, .resolving, []⟩
  queue := []
  worker := none
  strays := []
  leaked := []

theorem samplePass_clean : Clean samplePass.primary samplePass.replica samplePass.record.lastSync := by
  intro key object found
  cases found

/-- A photo is uploaded before the page is listed, and copied within the pass. -/
def uploadBeforePage : List (Action tagBody) :=
  [.pass (.resolve true), .userPut "cat" (sampleVersion "e1"), .pass (.listPage (some 1000)),
    .pass (.headObject true), .pass .endPage, .pass (.openStream 0 true),
    .pass (.putLands 0 ⟨sampleVersion "e1", 7 * second⟩), .tick 5000000000, .pass .finishPass,
    .pass (.storeRecord true)]

/-- A photo is uploaded after the page was listed, and the pass takes ten seconds more. -/
def uploadAfterPage : List (Action tagBody) :=
  [.pass (.resolve true), .pass (.listPage (some 1000)), .userPut "cat" (sampleVersion "e1"),
    .tick 10000000000, .pass .endPage, .pass .finishPass, .pass (.storeRecord true)]

theorem polling_watermark_safe_upload : Exists fun final =>
    Transition.exec step samplePass uploadBeforePage = some final ∧
    final.record.lastSync = 105 * second ∧
    Clean final.primary final.replica final.record.lastSync := by
  have inTime : Transition.Meets step InTime samplePass uploadBeforePage := by
    refine Transition.meets_of_step trivial rfl (Transition.meets_of_step ?_ rfl
      (Transition.meets_of_step trivial rfl (Transition.meets_of_step trivial rfl
      (Transition.meets_of_step trivial rfl (Transition.meets_of_step trivial rfl
      (Transition.meets_of_step trivial rfl (Transition.meets_of_step trivial rfl
      (Transition.meets_of_step ?_ rfl (Transition.meets_of_step trivial rfl trivial)))))))))
    · have behind : samplePass.Unfiltered (wholeSecond samplePass.clock) := by
        rintro mark (stored | ⟨_, queued, _⟩ | ⟨_, running, held⟩ | ⟨_, working, _⟩)
        · exact filtered_eq_false_iff.mpr (Or.inl stored)
        · cases queued
        · cases running
          exact filtered_eq_false_iff.mpr (Or.inl (held.resolve_right id))
        · cases working
      exact writes_stay_unfiltered behind
        (show Transition.exec step samplePass [.pass (.resolve true)] = some _ from rfl)
    · intro _ pass key object running written found _
      cases running
      cases List.mem_singleton.mp written
      intro current present
      cases present
      exact ⟨_, rfl, rfl⟩
  exact ⟨_, rfl, rfl, polling_watermark_safe ⟨rfl, rfl, rfl, rfl, rfl⟩ samplePass_clean
    (by decide) inTime rfl⟩

/-- The pass stores a watermark past an object that it never saw. -/
theorem upload_after_page_is_stranded :
    ¬ forall (start final : World tagBody) (actions : List (Action tagBody)),
      start.AtPassStart -> Clean start.primary start.replica start.record.lastSync ->
        (forall action, action ∈ actions -> InPass action) ->
          Transition.exec step start actions = some final ->
            Clean final.primary final.replica final.record.lastSync := by
  intro stated
  have clean := stated samplePass _ uploadAfterPage ⟨rfl, rfl, rfl, rfl, rfl⟩ samplePass_clean
    (by decide) rfl
  rcases clean "cat" _ rfl (by decide) _ rfl with ⟨held, here, _⟩
  cases here

end Replication
end Federation
end Basement
