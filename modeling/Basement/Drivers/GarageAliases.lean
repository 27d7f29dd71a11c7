import Mathlib.Data.List.Nodup

namespace Basement
namespace Drivers
namespace GarageAliases

/-!
# Reconciling the aliases of a Garage bucket

Neither admin API of Garage replaces the aliases of a bucket at once.  A driver reads the
aliases that the bucket has, adds the ones that are missing and then removes the ones that are
not wanted, one call each, and stops at the first call that fails.

Every call may be answered, refused, or served with its answer lost.  A session keeps the calls
that were sent, in order, and the bucket as the service has it.  `reconciles_iff` says when the
calls of a run are what was asked for.
-/

/-! ## The service -/

structure Quotas where
  maxSize : Option Int := none
  maxObjects : Option Int := none

structure BucketUpdate where
  quotas : Option Quotas
  aliases : Option (List String)

/-- What `GetBucketInfo` tells of a bucket, as far as an update reads or changes it. -/
structure BucketInfo where
  quotas : Quotas
  globalAliases : List String

inductive Call where
  | updateBucket (quotas : Quotas)
  | getBucketInfo
  | addBucketAlias (globalAlias : String)
  | removeBucketAlias (globalAlias : String)

def Call.addedAlias : Call -> Option String
  | .addBucketAlias globalAlias => some globalAlias
  | _ => none

def Call.changesAliases : Call -> Bool
  | .addBucketAlias _ => true
  | .removeBucketAlias _ => true
  | _ => false

/-- The bucket after a call that the service served. -/
def BucketInfo.serve (bucket : BucketInfo) : Call -> BucketInfo
  | .updateBucket quotas => { bucket with quotas := quotas }
  | .getBucketInfo => bucket
  | .addBucketAlias globalAlias =>
      { bucket with globalAliases := bucket.globalAliases.insert globalAlias }
  | .removeBucketAlias globalAlias =>
      { bucket with globalAliases := bucket.globalAliases.filter fun name => name != globalAlias }

inductive Outcome where
  | answered
  | refused
  | lost
  deriving DecidableEq

/-! ## The drivers -/

structure Session where
  bucket : BucketInfo
  sent : List Call := []
  failed : Bool := false

namespace Session

/-- One request of `client.do`.  After a failure nothing more is sent. -/
def send (outcome : Nat -> Outcome) (session : Session) (call : Call) : Session :=
  if session.failed then session
  else
    { bucket :=
        if outcome session.sent.length = .refused then session.bucket
        else session.bucket.serve call
      sent := session.sent ++ [call]
      failed := decide (outcome session.sent.length ≠ .answered) }

def sendAll (outcome : Nat -> Outcome) (session : Session) (calls : List Call) : Session :=
  calls.foldl (send outcome) session

/-- The calls that add or remove an alias. -/
def aliasCalls (session : Session) : List Call :=
  session.sent.filter Call.changesAliases

end Session

def diffAliases (current desired : List String) : List String × List String :=
  (desired.filter fun globalAlias => globalAlias ∉ current,
    current.filter fun globalAlias => globalAlias ∉ desired)

def diffAliasesV1 (current desired : List String) : List String × List String :=
  (desired.filter fun globalAlias => globalAlias ∉ current,
    current.filter fun globalAlias => globalAlias ∉ desired)

/-- The three steps of an update: the quotas, the aliases, and a last read.  The two drivers
send the same calls to different endpoints. -/
def reconcile (diff : List String -> List String -> List String × List String)
    (outcome : Nat -> Outcome) (update : BucketUpdate) (bucket : BucketInfo) : Session :=
  let started : Session := { bucket := bucket }
  let limited := match update.quotas with
    | none => started
    | some quotas => started.send outcome (.updateBucket quotas)
  let reconciled := match update.aliases with
    | none => limited
    | some desired =>
        let read := limited.send outcome .getBucketInfo
        let changes := diff read.bucket.globalAliases desired
        let added := read.sendAll outcome (changes.1.map Call.addBucketAlias)
        added.sendAll outcome (changes.2.map Call.removeBucketAlias)
  reconciled.send outcome .getBucketInfo

def updateBucket : (Nat -> Outcome) -> BucketUpdate -> BucketInfo -> Session :=
  reconcile diffAliases

def updateBucketV1 : (Nat -> Outcome) -> BucketUpdate -> BucketInfo -> Session :=
  reconcile diffAliasesV1

/-! ## One script of calls -/

/-- The calls of an update that meets no failure. -/
def script (quotas : Option Quotas) (current desired : List String) : List Call :=
  quotas.toList.map Call.updateBucket ++ .getBucketInfo ::
    ((diffAliases current desired).1.map Call.addBucketAlias ++
      ((diffAliases current desired).2.map Call.removeBucketAlias ++ [.getBucketInfo]))

section Sending

variable (outcome : Nat -> Outcome)

theorem send_keeps_aliases (session : Session) (call : Call) (quiet : call.changesAliases = false) :
    (session.send outcome call).bucket.globalAliases = session.bucket.globalAliases := by
  rw [Session.send]
  split
  · rfl
  · cases call with
    | updateBucket quotas => exact (apply_ite BucketInfo.globalAliases _ _ _).trans (ite_self _)
    | getBucketInfo => exact congrArg BucketInfo.globalAliases (ite_self _)
    | addBucketAlias name => cases quiet
    | removeBucketAlias name => cases quiet

theorem reconcile_eq_script (quotas : Option Quotas) (desired : List String) (bucket : BucketInfo) :
    updateBucket outcome { quotas := quotas, aliases := some desired } bucket =
      Session.sendAll outcome { bucket := bucket } (script quotas bucket.globalAliases desired) := by
  cases quotas with
  | none =>
      simp only [updateBucket, reconcile, Session.sendAll, script, Option.toList_none, List.map_nil,
        List.nil_append, List.foldl_cons, List.foldl_append, List.foldl_nil,
        send_keeps_aliases outcome _ .getBucketInfo rfl]
  | some quotas =>
      simp only [updateBucket, reconcile, Session.sendAll, script, Option.toList_some, List.map_cons,
        List.map_nil, List.singleton_append, List.foldl_cons, List.foldl_append, List.foldl_nil,
        send_keeps_aliases outcome _ .getBucketInfo rfl,
        send_keeps_aliases outcome _ (.updateBucket quotas) rfl]

theorem sendAll_of_failed (session : Session) (calls : List Call) (failed : session.failed = true) :
    session.sendAll outcome calls = session := by
  induction calls with
  | nil => rfl
  | cons call calls ih =>
      have first : session.send outcome call = session := by
        rw [Session.send, if_pos failed]
      rw [Session.sendAll, List.foldl_cons, first]
      exact ih

/-- What a run has sent is a beginning of its calls, and what was served is part of it. -/
theorem sendAll_spec (session : Session) (calls : List Call) :
    Exists fun sent : List Call => Exists fun served : List Call =>
      (session.sendAll outcome calls).sent = session.sent ++ sent ∧
      sent <+: calls ∧ served.Sublist sent ∧
      (session.sendAll outcome calls).bucket = served.foldl BucketInfo.serve session.bucket ∧
      ((session.sendAll outcome calls).failed = false -> served = calls ∧ sent = calls) := by
  induction calls generalizing session with
  | nil =>
      refine ⟨[], [], (List.append_nil _).symm, List.prefix_rfl, List.Sublist.refl [], rfl, ?_⟩
      intro answered
      exact ⟨rfl, rfl⟩
  | cons call calls ih =>
      by_cases failed : session.failed = true
      · rw [sendAll_of_failed outcome session (call :: calls) failed]
        refine ⟨[], [], (List.append_nil _).symm, List.nil_prefix, List.Sublist.refl [], rfl, ?_⟩
        intro answered
        rw [failed] at answered
        cases answered
      · rcases ih (session.send outcome call) with ⟨sent, served, sentEq, early, part, bucketEq, whole⟩
        have unfolded : session.sendAll outcome (call :: calls) =
            (session.send outcome call).sendAll outcome calls := rfl
        rw [unfolded]
        have sentFirst : (session.send outcome call).sent = session.sent ++ [call] := by
          rw [Session.send, if_neg failed]
        have longer : call :: sent <+: call :: calls := (List.prefix_cons_inj call).mpr early
        by_cases refused : outcome session.sent.length = .refused
        · have bucketFirst : (session.send outcome call).bucket = session.bucket := by
            rw [Session.send, if_neg failed, if_pos refused]
          have stopped : (session.send outcome call).failed = true := by
            rw [Session.send, if_neg failed]
            simp only [refused, ne_eq, reduceCtorEq, not_false_eq_true, decide_true]
          refine ⟨call :: sent, served, ?_, longer, part.cons call, ?_, ?_⟩
          · rw [sentEq, sentFirst, List.append_assoc, List.singleton_append]
          · rw [bucketEq, bucketFirst]
          · intro answered
            rw [sendAll_of_failed outcome _ calls stopped, stopped] at answered
            cases answered
        · have bucketFirst : (session.send outcome call).bucket = session.bucket.serve call := by
            rw [Session.send, if_neg failed, if_neg refused]
          refine ⟨call :: sent, call :: served, ?_, longer, part.cons_cons call, ?_, ?_⟩
          · rw [sentEq, sentFirst, List.append_assoc, List.singleton_append]
          · rw [bucketEq, bucketFirst, List.foldl_cons]
          · intro answered
            rw [(whole answered).1, (whole answered).2]
            exact ⟨rfl, rfl⟩

end Sending

/-! ## What served calls leave -/

namespace BucketInfo

theorem mem_serve_iff (bucket : BucketInfo) (call : Call) (name : String) :
    name ∈ (bucket.serve call).globalAliases ↔
      call = .addBucketAlias name ∨
        name ∈ bucket.globalAliases ∧ call ≠ .removeBucketAlias name := by
  cases call with
  | updateBucket quotas => simp [serve]
  | getBucketInfo => simp [serve]
  | addBucketAlias added => simp [serve, @eq_comm String added]
  | removeBucketAlias removed => simp [serve, @eq_comm String removed]

/-- An alias stays as long as no call removes it. -/
theorem mem_foldl_serve (bucket : BucketInfo) (calls : List Call) (name : String)
    (spared : Call.removeBucketAlias name ∉ calls)
    (held : name ∈ bucket.globalAliases ∨ Call.addBucketAlias name ∈ calls) :
    name ∈ (calls.foldl serve bucket).globalAliases := by
  induction calls generalizing bucket with
  | nil => exact held.resolve_right List.not_mem_nil
  | cons call calls ih =>
      rw [List.mem_cons, not_or] at spared
      rw [List.foldl_cons]
      apply ih (bucket.serve call) spared.2
      rw [mem_serve_iff]
      rcases held with present | added
      · exact Or.inl (Or.inr ⟨present, Ne.symm spared.1⟩)
      · rcases List.mem_cons.mp added with first | later
        · exact Or.inl (Or.inl first.symm)
        · exact Or.inr later

theorem foldl_serve_adds (bucket : BucketInfo) (added : List String) (name : String) :
    name ∈ ((added.map Call.addBucketAlias).foldl serve bucket).globalAliases ↔
      name ∈ bucket.globalAliases ∨ name ∈ added := by
  induction added generalizing bucket with
  | nil => simp
  | cons first added ih =>
      rw [List.map_cons, List.foldl_cons, ih, mem_serve_iff, List.mem_cons,
        Call.addBucketAlias.injEq, eq_comm, or_assoc, or_left_comm]
      simp only [ne_eq, reduceCtorEq, not_false_eq_true, and_true]

theorem foldl_serve_removes (bucket : BucketInfo) (removed : List String) (name : String) :
    name ∈ ((removed.map Call.removeBucketAlias).foldl serve bucket).globalAliases ↔
      name ∈ bucket.globalAliases ∧ name ∉ removed := by
  induction removed generalizing bucket with
  | nil => simp
  | cons first removed ih =>
      rw [List.map_cons, List.foldl_cons, ih, mem_serve_iff, List.mem_cons, not_or, ne_eq,
        Call.removeBucketAlias.injEq, @eq_comm String first]
      simp only [reduceCtorEq, false_or, and_assoc]

end BucketInfo

/-! ## When the calls are what was asked for -/

theorem mem_toAdd {current desired : List String} {name : String} :
    name ∈ (diffAliases current desired).1 ↔ name ∈ desired ∧ name ∉ current := by
  simp [diffAliases]

theorem mem_toRemove {current desired : List String} {name : String} :
    name ∈ (diffAliases current desired).2 ↔ name ∈ current ∧ name ∉ desired := by
  simp [diffAliases]

theorem diffAliasesV1_eq : diffAliasesV1 = diffAliases := rfl

/-- What an update of the aliases is to do, whichever calls fail. -/
structure Reconciles (driver : (Nat -> Outcome) -> BucketUpdate -> BucketInfo -> Session)
    (quotas : Option Quotas) (bucket : BucketInfo) (desired : List String) : Prop where
  /-- After every beginning of the sequence there is an alias.  Only a bucket that had none
  has none before the first call. -/
  named : forall outcome calls,
    calls <+: (driver outcome { quotas := quotas, aliases := some desired } bucket).aliasCalls ->
    calls ≠ [] ∨ bucket.globalAliases ≠ [] ->
    (calls.foldl BucketInfo.serve bucket).globalAliases ≠ []
  reached : forall outcome,
    (driver outcome { quotas := quotas, aliases := some desired } bucket).failed = false ->
    forall name, name ∈ (driver outcome
      { quotas := quotas, aliases := some desired } bucket).bucket.globalAliases ↔ name ∈ desired
  addedOnce : forall outcome,
    ((driver outcome { quotas := quotas, aliases := some desired } bucket).sent.filterMap
      Call.addedAlias).Nodup
  desiredKept : forall outcome name,
    Call.removeBucketAlias name ∈
      (driver outcome { quotas := quotas, aliases := some desired } bucket).sent -> name ∉ desired
  commonKept : forall outcome name, name ∈ bucket.globalAliases -> name ∈ desired ->
    name ∈ (driver outcome
      { quotas := quotas, aliases := some desired } bucket).bucket.globalAliases

theorem script_adds (quotas : Option Quotas) (current desired : List String) :
    (script quotas current desired).filterMap Call.addedAlias = (diffAliases current desired).1 := by
  have limits : (quotas.toList.map Call.updateBucket).filterMap Call.addedAlias = [] := by
    cases quotas <;> rfl
  have adds (names : List String) :
      (names.map Call.addBucketAlias).filterMap Call.addedAlias = names := by
    rw [List.filterMap_map]
    exact List.filterMap_some
  have removes (names : List String) :
      (names.map Call.removeBucketAlias).filterMap Call.addedAlias = [] := by
    rw [List.filterMap_map]
    exact List.filterMap_eq_nil_iff.mpr (fun name member => rfl)
  rw [script, List.filterMap_append, limits, List.nil_append,
    List.filterMap_cons_none (show Call.addedAlias .getBucketInfo = none from rfl),
    List.filterMap_append, adds, List.filterMap_append, removes, List.nil_append]
  exact List.append_nil _

theorem script_changes (quotas : Option Quotas) (current desired : List String) :
    (script quotas current desired).filter Call.changesAliases =
      (diffAliases current desired).1.map Call.addBucketAlias ++
        (diffAliases current desired).2.map Call.removeBucketAlias := by
  have limits : (quotas.toList.map Call.updateBucket).filter Call.changesAliases = [] := by
    cases quotas <;> rfl
  have adds (names : List String) :
      (names.map Call.addBucketAlias).filter Call.changesAliases = names.map Call.addBucketAlias := by
    rw [List.filter_eq_self]
    intro call member
    rcases List.mem_map.mp member with ⟨name, named, rfl⟩
    rfl
  have removes (names : List String) :
      (names.map Call.removeBucketAlias).filter Call.changesAliases =
        names.map Call.removeBucketAlias := by
    rw [List.filter_eq_self]
    intro call member
    rcases List.mem_map.mp member with ⟨name, named, rfl⟩
    rfl
  have read : Call.changesAliases .getBucketInfo ≠ true := Bool.false_ne_true
  rw [script, List.filter_append, limits, List.nil_append, List.filter_cons_of_neg read,
    List.filter_append, adds, List.filter_append, removes, List.filter_cons_of_neg read]
  exact congrArg _ (List.append_nil _)

theorem mem_script_removes {quotas : Option Quotas} {current desired : List String} {name : String} :
    Call.removeBucketAlias name ∈ script quotas current desired ↔
      name ∈ current ∧ name ∉ desired := by
  have changes : Call.removeBucketAlias name ∈ script quotas current desired ↔
      Call.removeBucketAlias name ∈ (script quotas current desired).filter Call.changesAliases := by
    rw [List.mem_filter]
    exact (and_iff_left rfl).symm
  rw [changes, script_changes, List.mem_append, List.mem_map_of_injective, mem_toRemove]
  · simp
  · intro left right same
    exact Call.removeBucketAlias.inj same

theorem foldl_serve_script (quotas : Option Quotas) (bucket : BucketInfo) (desired : List String)
    (name : String) :
    name ∈ ((script quotas bucket.globalAliases desired).foldl BucketInfo.serve bucket).globalAliases ↔
      name ∈ desired := by
  have limited : ((quotas.toList.map Call.updateBucket).foldl BucketInfo.serve bucket).globalAliases =
      bucket.globalAliases := by
    cases quotas <;> rfl
  rw [script, List.foldl_append, List.foldl_cons, List.foldl_append, List.foldl_append]
  rw [show forall served : BucketInfo, [Call.getBucketInfo].foldl BucketInfo.serve served = served
    from fun served => rfl]
  rw [BucketInfo.foldl_serve_removes, BucketInfo.foldl_serve_adds, mem_toRemove, mem_toAdd,
    BucketInfo.serve, limited]
  tauto

theorem prefix_changes_named {quotas : Option Quotas} {bucket : BucketInfo} {desired : List String}
    (nonempty : desired ≠ []) {calls : List Call}
    (early : calls <+: (script quotas bucket.globalAliases desired).filter Call.changesAliases)
    (started : calls ≠ [] ∨ bucket.globalAliases ≠ []) :
    (calls.foldl BucketInfo.serve bucket).globalAliases ≠ [] := by
  rw [script_changes] at early
  rcases List.prefix_or_prefix_of_prefix early (List.prefix_append _ _) with adding | added
  · -- Nothing has been removed yet, so an old alias is there, or the first one added.
    have spared (name : String) : Call.removeBucketAlias name ∉ calls := by
      intro member
      rcases List.mem_map.mp (adding.subset member) with ⟨added, addedMember, clash⟩
      cases clash
    rcases started with sent | held
    · rcases List.exists_mem_of_ne_nil calls sent with ⟨call, member⟩
      rcases List.mem_map.mp (adding.subset member) with ⟨added, addedMember, rfl⟩
      exact List.ne_nil_of_mem (bucket.mem_foldl_serve calls added (spared added) (Or.inr member))
    · rcases List.exists_mem_of_ne_nil _ held with ⟨name, member⟩
      exact List.ne_nil_of_mem (bucket.mem_foldl_serve calls name (spared name) (Or.inl member))
  · -- Every alias that was asked for is there, and none of them is removed.
    rcases List.exists_mem_of_ne_nil desired nonempty with ⟨name, wanted⟩
    have spared : Call.removeBucketAlias name ∉ calls := by
      intro member
      rw [← script_changes quotas] at early
      have removed := (mem_script_removes.mp (List.mem_of_mem_filter (early.subset member))).2
      exact removed wanted
    have held : name ∈ bucket.globalAliases ∨ Call.addBucketAlias name ∈ calls := by
      by_cases present : name ∈ bucket.globalAliases
      · exact Or.inl present
      · exact Or.inr (added.subset (List.mem_map_of_mem (mem_toAdd.mpr ⟨wanted, present⟩)))
    exact List.ne_nil_of_mem (bucket.mem_foldl_serve calls name spared held)

theorem toAdd_nodup_iff (current desired : List String) :
    (diffAliases current desired).1.Nodup ↔
      forall name, name ∉ current -> desired.count name ≤ 1 := by
  have counted {name : String} (missing : name ∉ current) :
      (diffAliases current desired).1.count name = desired.count name :=
    List.count_filter (by rw [decide_eq_true_eq]; exact missing)
  rw [List.nodup_iff_count_le_one]
  constructor
  · intro once name missing
    rw [← counted missing]
    exact once name
  · intro once name
    by_cases missing : name ∉ current
    · rw [counted missing]
      exact once name missing
    · have absent : name ∉ (diffAliases current desired).1 := by
        intro member
        exact missing (mem_toAdd.mp member).2
      rw [List.count_eq_zero_of_not_mem absent]
      exact Nat.zero_le 1

theorem updateBucket_reconciles (quotas : Option Quotas) (bucket : BucketInfo)
    {desired : List String} (nonempty : desired ≠ [])
    (once : (diffAliases bucket.globalAliases desired).1.Nodup) :
    Reconciles updateBucket quotas bucket desired := by
  have early (outcome : Nat -> Outcome) :
      (updateBucket outcome { quotas := quotas, aliases := some desired } bucket).sent <+:
        script quotas bucket.globalAliases desired := by
    rw [reconcile_eq_script]
    rcases sendAll_spec outcome { bucket := bucket } (script quotas bucket.globalAliases desired) with
      ⟨sent, served, sentEq, early, rest⟩
    rw [sentEq]
    exact early
  constructor
  case named =>
    intro outcome calls beginning started
    exact prefix_changes_named nonempty
      (beginning.trans ((early outcome).filter Call.changesAliases)) started
  case reached =>
    intro outcome answered name
    rw [reconcile_eq_script] at answered ⊢
    rcases sendAll_spec outcome { bucket := bucket } (script quotas bucket.globalAliases desired) with
      ⟨sent, served, sentEq, beginning, part, bucketEq, whole⟩
    rw [bucketEq, (whole answered).1]
    exact foldl_serve_script quotas bucket desired name
  case addedOnce =>
    intro outcome
    apply List.Sublist.nodup ((early outcome).filterMap Call.addedAlias).sublist
    rw [script_adds]
    exact once
  case desiredKept =>
    intro outcome name removed
    exact (mem_script_removes.mp ((early outcome).subset removed)).2
  case commonKept =>
    intro outcome name present wanted
    rw [reconcile_eq_script]
    rcases sendAll_spec outcome { bucket := bucket } (script quotas bucket.globalAliases desired) with
      ⟨sent, served, sentEq, beginning, part, bucketEq, whole⟩
    rw [bucketEq]
    apply bucket.mem_foldl_serve served name
    · intro removed
      exact (mem_script_removes.mp (beginning.subset (part.subset removed))).2 wanted
    · exact Or.inl present

/-- With every call answered, the whole script is sent. -/
theorem updateBucket_answered (quotas : Option Quotas) (bucket : BucketInfo) (desired : List String) :
    (updateBucket (fun _ => .answered) { quotas := quotas, aliases := some desired } bucket).sent =
      script quotas bucket.globalAliases desired := by
  have all (session : Session) (calls : List Call) (running : session.failed = false) :
      (session.sendAll (fun call => .answered) calls).sent = session.sent ++ calls := by
    induction calls generalizing session with
    | nil => exact (List.append_nil _).symm
    | cons call calls ih =>
        have first : session.send (fun call => .answered) call =
            { bucket := session.bucket.serve call, sent := session.sent ++ [call] } := by
          rw [Session.send, running]
          rfl
        rw [Session.sendAll, List.foldl_cons, first, ← Session.sendAll, ih _ rfl,
          List.append_assoc, List.singleton_append]
  rw [reconcile_eq_script, all { bucket := bucket } _ rfl, List.nil_append]

/-- Both drivers do what was asked for, with the same calls, exactly when no alias that the
bucket does not have is asked for twice. -/
theorem reconciles_iff (quotas : Option Quotas) (bucket : BucketInfo) {desired : List String}
    (nonempty : desired ≠ []) :
    Reconciles updateBucket quotas bucket desired ∧ Reconciles updateBucketV1 quotas bucket desired ∧
      (forall outcome,
        (updateBucket outcome { quotas := quotas, aliases := some desired } bucket).sent =
          (updateBucketV1 outcome { quotas := quotas, aliases := some desired } bucket).sent) ↔
      forall name, name ∉ bucket.globalAliases -> desired.count name ≤ 1 := by
  rw [← toAdd_nodup_iff]
  constructor
  · rintro ⟨newer, older, same⟩
    have once := newer.addedOnce fun call => .answered
    rwa [updateBucket_answered, script_adds] at once
  · intro once
    have alike : updateBucketV1 = updateBucket := congrArg reconcile diffAliasesV1_eq
    rw [alike]
    have holds := updateBucket_reconciles quotas bucket nonempty once
    exact ⟨holds, holds, fun outcome => rfl⟩

theorem reconciles_iff_renamed :
    ["new"] ≠ [] ∧
      (Reconciles updateBucket none { quotas := {}, globalAliases := ["old"] } ["new"] ∧
        Reconciles updateBucketV1 none { quotas := {}, globalAliases := ["old"] } ["new"] ∧
        (forall outcome,
          (updateBucket outcome { quotas := none, aliases := some ["new"] }
            { quotas := {}, globalAliases := ["old"] }).sent =
          (updateBucketV1 outcome { quotas := none, aliases := some ["new"] }
            { quotas := {}, globalAliases := ["old"] }).sent)) := by
  have nonempty : ["new"] ≠ [] := List.cons_ne_nil "new" []
  refine ⟨nonempty, (reconciles_iff none { quotas := {}, globalAliases := ["old"] } nonempty).mpr ?_⟩
  intro name missing
  exact List.count_le_length

/-- A bucket that is to have an alias twice is sent it twice. -/
theorem repeated_alias_added_twice :
    ¬ Reconciles updateBucket none { quotas := {}, globalAliases := ["photos"] }
      ["albums", "albums"] := by
  intro reconciles
  have once := reconciles.addedOnce fun call => .answered
  rw [updateBucket_answered, script_adds, toAdd_nodup_iff] at once
  exact absurd (once "albums" (by decide)) (by decide)

end GarageAliases
end Drivers
end Basement
