import Basement.ClusterSecrets.Manager

namespace Basement
namespace ClusterSecrets

open Library

/-!
# One cluster, one key

The keys of a cluster are in its records, in the cache, in calls in flight and in the ciphertexts
that were returned.  Every part of a call hands on a key that one of these had already, but for
one: a bootstrap writes a key that is new.  So all of them have the same key as long as a
bootstrap only writes where none of them has a key.

`BootstrapFirstAdmin` checks the records alone.  They are also empty after the last admin was
removed, when the cache, a call in flight or a ciphertext still has the old key.
-/

/-! ## The keys of a cluster -/

/-- The key that a call has in hand for the cluster. -/
def Call.keys (clusterID : String) : Call -> List CSK
  | .unlocking cid csk => if cid = clusterID then [csk] else []
  | .adding cid _ _ csk => if cid = clusterID then [csk] else []
  | .added rec => if rec.clusterID = clusterID then [rec.wrapped.content] else []
  | .bootstrapping _ _ _ => []
  | .bootstrapped cid csk => if cid = clusterID then [csk] else []
  | .encrypting cid _ csk => if cid = clusterID then [csk] else []

/-- The keys of a cluster, wherever they are. -/
def Manager.keys (manager : Manager) (clusterID : String) : List CSK :=
  (getWrappedCSKs manager.records clusterID).map (fun rec => rec.wrapped.content) ++
    (manager.csks.get? clusterID).toList ++
      manager.calls.entries.flatMap (fun entry => entry.2.keys clusterID) ++
        (manager.secrets.filter fun secret => secret.clusterID = clusterID).map fun secret =>
          secret.box.key

/-- The cluster and the key that a step writes first, if it does. -/
def Manager.mints (manager : Manager) : Event -> Option (String × CSK)
  | .resume id draw =>
      match manager.calls.get? id with
      | some (.bootstrapping clusterID _ _) =>
          if draw.storeError.isSome then none else some (clusterID, draw.csk)
      | _ => none
  | _ => none

theorem mem_own {cid clusterID : String} {csk other : CSK} :
    other ∈ (if cid = clusterID then [csk] else []) ↔ cid = clusterID ∧ other = csk := by
  split
  · rename_i same
    simp [same]
  · rename_i differs
    simp [differs]

/-- Every key of the cluster is one of these. -/
structure Manager.AllKeys (manager : Manager) (clusterID : String) (allowed : CSK -> Prop) :
    Prop where
  records : forall rec, rec ∈ manager.records -> rec.clusterID = clusterID ->
    allowed rec.wrapped.content
  cached : forall csk, manager.csks.get? clusterID = some csk -> allowed csk
  calls : forall id call, manager.calls.get? id = some call ->
    forall csk, csk ∈ call.keys clusterID ->
    allowed csk
  secrets : forall secret, secret ∈ manager.secrets -> secret.clusterID = clusterID ->
    allowed secret.box.key

theorem allKeys_iff {manager : Manager} {clusterID : String} {allowed : CSK -> Prop} :
    manager.AllKeys clusterID allowed ↔ forall csk, csk ∈ manager.keys clusterID ->
      allowed csk := by
  simp only [Manager.keys, getWrappedCSKs, List.mem_append, List.mem_map, Option.mem_toList,
    List.mem_flatMap, List.mem_filter, decide_eq_true_eq]
  constructor
  · rintro all csk (((⟨rec, ⟨member, own⟩, rfl⟩ | cached) | ⟨entry, member, held⟩) |
      ⟨secret, ⟨member, own⟩, rfl⟩)
    · exact all.records rec member own
    · exact all.cached csk cached
    · exact all.calls entry.1 entry.2 ((manager.calls.mem_entries_iff _ _).mp member) csk held
    · exact all.secrets secret member own
  · intro all
    refine ⟨?_, ?_, ?_, ?_⟩
    · intro rec member own
      exact all _ (Or.inl (Or.inl (Or.inl ⟨rec, ⟨member, own⟩, rfl⟩)))
    · intro csk cached
      exact all csk (Or.inl (Or.inl (Or.inr cached)))
    · intro id call found csk held
      have listed := (manager.calls.mem_entries_iff id call).mpr found
      exact all csk (Or.inl (Or.inr ⟨(id, call), listed, held⟩))
    · intro secret member own
      exact all _ (Or.inr ⟨secret, ⟨member, own⟩, rfl⟩)

/-! ## What the parts of a call do to the keys -/

namespace Manager.AllKeys

variable {manager : Manager} {clusterID : String} {allowed : CSK -> Prop}

theorem park (all : manager.AllKeys clusterID allowed) (id : Nat) (call : Call)
    (own : forall csk, csk ∈ call.keys clusterID -> allowed csk) :
    (manager.park id call).AllKeys clusterID allowed := by
  refine ⟨all.records, all.cached, ?_, all.secrets⟩
  intro other found present csk held
  by_cases same : other = id
  · rw [same, Manager.park, SortedStore.get?_put_self] at present
    cases present
    exact own csk held
  · rw [Manager.park, SortedStore.get?_put_of_ne _ _ same] at present
    exact all.calls other found present csk held

theorem finish (all : manager.AllKeys clusterID allowed) (id : Nat) :
    (manager.finish id).AllKeys clusterID allowed := by
  refine ⟨all.records, all.cached, ?_, all.secrets⟩
  intro other found present csk held
  exact all.calls other found (SortedStore.get?_erase_eq_some.mp present).2 csk held

theorem cache (all : manager.AllKeys clusterID allowed) (cid : String) (csk : CSK)
    (own : cid = clusterID -> allowed csk) :
    ({ manager with csks := manager.csks.put cid csk } : Manager).AllKeys clusterID allowed := by
  refine ⟨all.records, ?_, all.calls, all.secrets⟩
  intro other cached
  by_cases same : clusterID = cid
  · rw [same, SortedStore.get?_put_self] at cached
    cases cached
    exact own same.symm
  · rw [SortedStore.get?_put_of_ne _ _ same] at cached
    exact all.cached other cached

theorem drop (all : manager.AllKeys clusterID allowed) (cid : String) :
    ({ manager with csks := manager.csks.erase cid } : Manager).AllKeys clusterID allowed := by
  refine ⟨all.records, ?_, all.calls, all.secrets⟩
  intro other cached
  exact all.cached other (SortedStore.get?_erase_eq_some.mp cached).2

theorem dropAll (all : manager.AllKeys clusterID allowed) :
    ({ manager with csks := SortedStore.empty } : Manager).AllKeys clusterID allowed := by
  refine ⟨all.records, ?_, all.calls, all.secrets⟩
  intro other cached
  cases cached

theorem store (all : manager.AllKeys clusterID allowed) {rec : WrappedCSK}
    (own : rec.clusterID = clusterID -> allowed rec.wrapped.content) :
    ({ manager with records := putWrappedCSK manager.records rec } : Manager).AllKeys clusterID
      allowed := by
  refine ⟨?_, all.cached, all.calls, all.secrets⟩
  intro other member same
  rcases mem_putWrappedCSK member with rfl | old
  · exact own same
  · exact all.records other old same

theorem remove (all : manager.AllKeys clusterID allowed) (cid adminUserID : String) :
    ({ manager with records := deleteWrappedCSK manager.records cid adminUserID } : Manager).AllKeys
      clusterID allowed :=
  ⟨fun other member => all.records other (mem_of_mem_deleteWrappedCSK member),
    all.cached, all.calls,
    all.secrets⟩

theorem answer (all : manager.AllKeys clusterID allowed) {secret : Secret}
    (own : secret.clusterID = clusterID -> allowed secret.box.key) :
    ({ manager with secrets := manager.secrets ++ [secret] } : Manager).AllKeys clusterID
      allowed := by
  refine ⟨all.records, all.cached, all.calls, ?_⟩
  intro other member same
  rcases List.mem_append.mp member with old | new
  · exact all.secrets other old same
  · rw [List.mem_singleton.mp new] at same ⊢
    exact own same

/-- A key that is unwrapped is that of a record. -/
theorem recorded (all : manager.AllKeys clusterID allowed) {cid : String} {csk : CSK}
    (stored : Exists fun rec => rec ∈ getWrappedCSKs manager.records cid ∧
      rec.wrapped.content = csk) :
    forall other, other ∈ (if cid = clusterID then [csk] else []) -> allowed other := by
  intro other held
  rcases stored with ⟨rec, member, rfl⟩
  rcases mem_own.mp held with ⟨same, rfl⟩
  have parts := List.mem_filter.mp member
  exact all.records rec parts.1 ((of_decide_eq_true parts.2).trans same)

/-- A key that is copied is that of the cache. -/
theorem copied (all : manager.AllKeys clusterID allowed) {cid : String} {csk : CSK}
    (found : copyKey manager.csks cid = .ok csk) :
    forall other, other ∈ (if cid = clusterID then [csk] else []) -> allowed other := by
  intro other held
  rcases mem_own.mp held with ⟨rfl, rfl⟩
  exact all.cached other (copyKey_ok found)

/-- The first part of a call takes keys from where they are. -/
theorem begin (all : manager.AllKeys clusterID allowed) {id : Nat} {draw : Draw} {request : Request}
    {next : Manager} (taken : manager.begin id draw request = some next) :
    next.AllKeys clusterID allowed := by
  cases request with
  | unlock cid password =>
      simp only [Manager.begin] at taken
      split at taken
      · cases taken
        exact all
      · rename_i csk unlocked
        cases taken
        exact all.park id _ (all.recorded (unlockKey_ok unlocked))
  | unlockAs cid adminUserID password =>
      simp only [Manager.begin] at taken
      split at taken
      · cases taken
        exact all
      · rename_i csk unlocked
        cases taken
        exact all.park id _ (all.recorded (unlockAsKey_ok unlocked))
  | addAdmin cid adminUserID password =>
      simp only [Manager.begin] at taken
      split at taken
      · rename_i csk _ found
        cases taken
        exact all.park id _ (all.copied found)
      · cases taken
        exact all
  | bootstrapFirstAdmin cid adminUserID password =>
      simp only [Manager.begin] at taken
      split at taken
      · cases taken
        exact all
      · split at taken
        · cases taken
        · split at taken
          · cases taken
            exact all
          · cases taken
            have parked := all.park id (.bootstrapping cid adminUserID password) (by
              intro other held
              cases held)
            exact ⟨parked.records, parked.cached, parked.calls, parked.secrets⟩
  | encrypt cid plaintext =>
      simp only [Manager.begin] at taken
      split at taken
      · cases taken
        exact all
      · rename_i csk found
        cases taken
        exact all.park id _ (all.copied found)
  | removeAdmin cid adminUserID =>
      simp only [Manager.begin] at taken
      split at taken
      · cases taken
        exact all
      · cases taken
        exact all.remove cid adminUserID
  | lock cid =>
      cases taken
      exact all.drop cid
  | lockAll =>
      cases taken
      exact all.dropAll

/-- The next part of a call hands on the key that the call has, or writes a new one. -/
theorem resume (all : manager.AllKeys clusterID allowed) {id : Nat} {draw : Draw} {call : Call}
    (found : manager.calls.get? id = some call)
    (minted : forall csk, manager.mints (.resume id draw) = some (clusterID, csk) -> allowed csk) :
    (manager.resume id draw call).AllKeys clusterID allowed := by
  have own := all.calls id call found
  have finished := all.finish id
  cases call with
  | unlocking cid csk => exact finished.cache cid csk fun same => own csk (mem_own.mpr ⟨same, rfl⟩)
  | adding cid adminUserID password csk =>
      simp only [Manager.resume]
      split
      · exact finished
      · rename_i rec made
        refine all.park id _ ?_
        intro other held
        rw [addAdminRecord_ok made] at held
        exact own other held
  | added rec =>
      simp only [Manager.resume]
      split
      · exact finished
      · exact finished.store fun same => own _ (mem_own.mpr ⟨same, rfl⟩)
  | bootstrapping cid adminUserID password =>
      simp only [Manager.resume]
      split
      · exact ⟨finished.records, finished.cached, finished.calls, finished.secrets⟩
      · rename_i written
        have new : cid = clusterID -> allowed draw.csk := by
          intro same
          refine minted draw.csk ?_
          simp [Manager.mints, found, written, same]
        have parked := all.park id (.bootstrapped cid draw.csk) (by
          intro other held
          rcases mem_own.mp held with ⟨same, rfl⟩
          exact new same)
        exact parked.store new
  | bootstrapped cid csk =>
      have cached := finished.cache cid csk fun same => own csk (mem_own.mpr ⟨same, rfl⟩)
      exact ⟨cached.records, cached.cached, cached.calls, cached.secrets⟩
  | encrypting cid plaintext csk =>
      exact finished.answer fun same => own csk (mem_own.mpr ⟨same, rfl⟩)

end Manager.AllKeys

/-- A step only hands on keys of the cluster, or writes a new one. -/
theorem step_keys {manager next : Manager} {event : Event} (taken : step manager event = some next)
    (clusterID : String) :
    next.AllKeys clusterID fun csk =>
      csk ∈ manager.keys clusterID ∨ manager.mints event = some (clusterID, csk) := by
  have all : manager.AllKeys clusterID fun csk =>
      csk ∈ manager.keys clusterID ∨ manager.mints event = some (clusterID, csk) :=
    allKeys_iff.mpr fun csk held => Or.inl held
  cases event with
  | call id request draw =>
      simp only [step] at taken
      split at taken
      · cases taken
      · exact all.begin taken
  | resume id draw =>
      rcases Option.map_eq_some_iff.mp taken with ⟨call, found, rfl⟩
      exact all.resume found fun csk minted => Or.inr minted
  | restart =>
      cases taken
      refine ⟨all.records, ?_, ?_, all.secrets⟩
      · intro csk cached
        cases cached
      · intro id call found
        cases found

/-! ## Runs -/

/-- A key is only written first where the cluster has none. -/
def FirstKey (manager : Manager) (event : Event) : Prop :=
  forall minted, minted ∈ manager.mints event -> manager.keys minted.1 = []

instance (manager : Manager) (event : Event) : Decidable (FirstKey manager event) :=
  inferInstanceAs (Decidable
    (forall minted, minted ∈ manager.mints event -> manager.keys minted.1 = []))

/-- All keys of a cluster are the same. -/
def Manager.Agrees (manager : Manager) : Prop :=
  forall clusterID, Exists fun key => manager.AllKeys clusterID fun csk => csk = key

theorem start_agrees : start.Agrees := by
  intro clusterID
  refine ⟨0, allKeys_iff.mpr ?_⟩
  intro csk held
  cases held

/-- A step whose new key is a first one keeps the keys of each cluster the same. -/
theorem step_agrees (manager : Manager) (event : Event) (next : Manager) (agrees : manager.Agrees)
    (first : FirstKey manager event) (taken : step manager event = some next) : next.Agrees := by
  intro clusterID
  have keys := allKeys_iff.mp (step_keys taken clusterID)
  by_cases minted : Exists fun key => manager.mints event = some (clusterID, key)
  · rcases minted with ⟨key, minted⟩
    refine ⟨key, allKeys_iff.mpr ?_⟩
    intro csk held
    rcases keys csk held with old | new
    · rw [first _ minted] at old
      cases old
    · rw [minted] at new
      exact (Prod.mk.inj (Option.some.inj new)).2.symm
  · rcases agrees clusterID with ⟨key, all⟩
    refine ⟨key, allKeys_iff.mpr ?_⟩
    intro csk held
    rcases keys csk held with old | new
    · exact allKeys_iff.mp all csk old
    · exact absurd ⟨csk, new⟩ minted

/-- The records of a cluster wrap one key, a cached key is the one they wrap, and what was
encrypted can be read after an admin of the cluster has unlocked it. -/
structure OneKey (manager : Manager) (clusterID : String) : Prop where
  records : forall rec other, rec ∈ getWrappedCSKs manager.records clusterID ->
    other ∈ getWrappedCSKs manager.records clusterID -> rec.wrapped.content = other.wrapped.content
  cached : forall csk rec, manager.csks.get? clusterID = some csk ->
    rec ∈ getWrappedCSKs manager.records clusterID -> rec.wrapped.content = csk
  readable : forall secret, secret ∈ manager.secrets -> secret.clusterID = clusterID ->
    forall adminUserID password csk,
      unlockAsKey manager.records clusterID adminUserID password none = .ok csk ->
        decrypt (manager.csks.put clusterID csk) clusterID secret.box = .ok secret.box.content

theorem Manager.Agrees.oneKey {manager : Manager} (agrees : manager.Agrees) (clusterID : String) :
    OneKey manager clusterID := by
  rcases agrees clusterID with ⟨key, all⟩
  have stored : forall rec, rec ∈ getWrappedCSKs manager.records clusterID ->
    rec.wrapped.content = key := by
    intro rec member
    have parts := List.mem_filter.mp member
    exact all.records rec parts.1 (of_decide_eq_true parts.2)
  refine ⟨?_, ?_, ?_⟩
  · intro rec other member otherMember
    rw [stored rec member, stored other otherMember]
  · intro csk rec cached member
    rw [stored rec member, all.cached csk cached]
  · intro secret member own adminUserID password csk unlocked
    rcases unlockAsKey_ok unlocked with ⟨rec, recMember, rfl⟩
    have same : secret.box.key = rec.wrapped.content := by
      rw [all.secrets secret member own, stored rec recMember]
    simp only [decrypt, copyKey, SortedStore.get?_put_self, Sealed.unseal, same, if_true]

/-- A cluster has one key as long as no bootstrap writes a second one. -/
theorem one_cluster_one_key {events : List Event} {final : Manager}
    (run : Transition.exec step start events = some final)
    (first : Transition.Meets step FirstKey start events) (clusterID : String) :
    OneKey final clusterID :=
  (Transition.exec_invariant_of_meets step_agrees start_agrees first run).oneKey clusterID

/-! ## The last admin -/

/-- A first admin, a ciphertext, and a second admin who takes over. -/
def handOver : List Event :=
  [.call 0 (.bootstrapFirstAdmin "c1" "ada" "hunter2") {}, .resume 0 { csk := 1, salt := 10 },
    .resume 0 {}, .call 1 (.encrypt "c1" "token") {}, .resume 1 {},
    .call 2 (.addAdmin "c1" "grace" "tr0ub4dor") {}, .resume 2 { salt := 11 }, .resume 2 {},
    .call 3 (.removeAdmin "c1" "ada") {}, .call 4 (.lock "c1") {}]

def handedOver : Manager := (Transition.exec step start handOver).getD start

theorem one_cluster_one_key_handOver :
    decrypt (handedOver.csks.put "c1" 1) "c1" ⟨1, "token"⟩ = .ok "token" :=
  (@one_cluster_one_key handOver handedOver rfl (by decide) "c1").readable ⟨"c1", ⟨1, "token"⟩⟩
    (List.mem_singleton.mpr rfl) rfl "grace" "tr0ub4dor" 1 rfl

/-- The last admin is removed, and another one bootstraps. -/
def startOver : List Event :=
  [.call 0 (.bootstrapFirstAdmin "c1" "ada" "hunter2") {}, .resume 0 { csk := 1, salt := 10 },
    .resume 0 {}, .call 1 (.encrypt "c1" "token") {}, .resume 1 {},
    .call 2 (.removeAdmin "c1" "ada") {},
    .call 3 (.bootstrapFirstAdmin "c1" "grace" "tr0ub4dor") {},
    .resume 3 { csk := 2, salt := 11 }, .resume 3 {}]

def startedOver : Manager := (Transition.exec step start startOver).getD start

/-- What was encrypted before the last admin was removed cannot be read by the next one. -/
theorem bootstrap_writes_second_key :
    ¬ forall (events : List Event) (final : Manager),
      Transition.exec step start events = some final ->
      forall clusterID, OneKey final clusterID := by
  intro stated
  have one := stated startOver startedOver rfl "c1"
  have read := one.readable ⟨"c1", ⟨1, "token"⟩⟩ (List.mem_singleton.mpr rfl) rfl "grace"
    "tr0ub4dor" 2 rfl
  have unreadable : decrypt (startedOver.csks.put "c1" 2) "c1" ⟨1, "token"⟩ = .error .unreadable :=
    rfl
  rw [unreadable] at read
  cases read

end ClusterSecrets
end Basement
