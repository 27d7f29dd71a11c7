import Basement.Federation.Events

namespace Basement
namespace Webhooks

open Library
open Federation (Endpoint FederatedBucket Rows)
open Federation.Events

/-!
# Test deliveries

The test handler of a webhook emits a synthetic envelope that is built to pass the
webhook's own filters.  The envelope takes the same way as a real event: through the
dispatcher to every internal subscriber.  The only subscriber is the federation engine,
whose tasks copy and delete objects.  The deliveries themselves touch no bucket and no
federation record.
-/

/-- The envelope of a test passes the filters of the webhook it is for. -/
theorem testEnvelope_matches {w : Webhook} {event : EventType} {rest : List EventType}
    (enabled : w.enabled = true) (events : w.events = event :: rest) (eventID : String)
    (now : Int) : w.matchesEvent (w.testEnvelope event eventID now) = true := by
  have listed : w.listedFor (w.testEnvelope event eventID now).regionID
      (w.testEnvelope event eventID now).bucket = true := by
    unfold Webhook.listedFor Webhook.testEnvelope
    cases w.bucketFilter with
    | none => rfl
    | some narrowed =>
        by_cases region : narrowed.regionID = "" <;> by_cases bucket : narrowed.bucket = "" <;>
          simp [region, bucket]
  have beneath : (w.prefixFilter = "" ||
      w.prefixFilter.toList.isPrefixOf (w.testEnvelope event eventID now).key.toList) = true := by
    unfold Webhook.testEnvelope
    by_cases whole : w.prefixFilter = ""
    · simp [whole]
    · simp [whole, String.toList_append]
  have subscribed : w.events.contains (w.testEnvelope event eventID now).type = true := by
    simp [events, Webhook.testEnvelope]
  unfold Webhook.matchesEvent
  rw [enabled, subscribed, listed, beneath]
  rfl

/-- A test that is accepted is a test of an enabled webhook of the caller. -/
theorem userTestWebhook_ok {hooks : Hooks} {userID id eventID : String} {now : Int}
    {reply : WebhookReply} {envelope : EventEnvelope}
    (tested : userTestWebhook hooks userID id eventID now = .ok (reply, envelope)) :
    Exists fun w => Exists fun event => Exists fun rest =>
      hooks.get? id = some w ∧ w.ownerUserID = userID ∧ w.enabled = true ∧
        w.events = event :: rest ∧ envelope = w.testEnvelope event eventID now := by
  unfold userTestWebhook at tested
  split at tested
  · cases tested
  · rename_i existing owned
    rcases requireOwnedWebhook_ok owned with ⟨found, owner⟩
    split at tested
    · cases tested
    · rename_i enabled
      split at tested
      · cases tested
      · rename_i event rest events
        cases tested
        exact ⟨existing, event, rest, found, owner, by simpa using enabled, events, rfl⟩

/-- Nothing that the envelope triggers changes an object, a federation record or a failure
count, in whatever state and order the tasks are executed. -/
def OnlyATest {Obj : Type} (site : Site Obj) (envelope : EventEnvelope) : Prop :=
  forall (later : Site Obj) (executed : List (EventTask × TaskIO)),
    (forall entry, entry ∈ executed ->
      entry.1 ∈ handleWebhookEvent site.rows site.channels envelope) ->
    (executeTasks later executed).SameData later

theorem onlyATest_iff {Obj : Type} {site : Site Obj} {envelope : EventEnvelope} :
    OnlyATest site envelope ↔ ¬ Replicates site.rows site.channels envelope := by
  rw [← handleWebhookEvent_eq_nil_iff]
  constructor
  · intro only
    apply List.eq_nil_iff_forall_not_mem.mpr
    intro task queued
    rcases mem_handleWebhookEvent queued with ⟨fb, waiting, found, _⟩
    -- the primary cannot be resolved, so that a failure is counted
    have counted := (only site [(task, { resolvesPrimary := false })] (by simpa using queued)).2.2
    have failed : executeTasks site [(task, { resolvesPrimary := false })] =
        site.fail task { resolvesPrimary := false } := by
      simp [executeTasks, handleEventTask, found]
    rw [failed] at counted
    have more := site.fail_failures task { resolvesPrimary := false }
    rw [counted] at more
    omega
  · intro silent later executed triggered
    have nothing : executed = [] := by
      apply List.eq_nil_iff_forall_not_mem.mpr
      intro entry member
      have queued := triggered entry member
      rw [silent] at queued
      cases queued
    rw [nothing]
    exact ⟨rfl, rfl, rfl⟩

/-- A test delivery is only a test, and its envelope passes the filters of the webhook,
exactly if no federation replicates the region and the bucket that the envelope names. -/
theorem test_delivery_only_a_test_iff {Obj : Type} (site : Site Obj) {hooks : Hooks}
    {userID id eventID : String} {now : Int} {reply : WebhookReply} {envelope : EventEnvelope}
    (tested : userTestWebhook hooks userID id eventID now = .ok (reply, envelope)) :
    (OnlyATest site envelope ∧
        Exists fun w => hooks.get? id = some w ∧ w.matchesEvent envelope = true) ↔
      ¬ Replicates site.rows site.channels envelope := by
  rcases userTestWebhook_ok tested with ⟨w, event, rest, found, _, enabled, events, rfl⟩
  rw [onlyATest_iff]
  constructor
  · exact fun both => both.1
  · exact fun unreplicated =>
      ⟨unreplicated, w, found, testEnvelope_matches enabled events eventID now⟩

/-! ## A test that deletes -/

/-- A webhook on the deletions in one bucket. -/
def sampleHook : Webhook where
  id := "hook-1"
  ownerUserID := "ada"
  name := "audit"
  targetURL := "https://hooks.example/in"
  events := [.objectDeleted]
  bucketFilter := some ⟨"region-1", "photos"⟩
  prefixFilter := "test/"
  secret := "0123456789abcdef"
  enabled := true
  createdAt := 1
  updatedAt := 1
  lastDelivery := none
  failureCount := 0

def sampleHooks : Hooks := SortedStore.empty.put "hook-1" sampleHook

/-- A federation that replicates the bucket to a second region. -/
def sampleFederation : FederatedBucket where
  id := "fed-1"
  ownerUserID := "ada"
  name := "photos"
  primary := { regionID := "region-1", bucket := "photos" }
  replicas := [{ regionID := "region-2", bucket := "photos" }]
  policy := Federation.defaultPolicy

/-- Its loop runs if the federation is stored, and the replica holds one object. -/
def sampleSite (rows : Rows) : Site String where
  rows := rows
  channels := SortedStore.empty.put "fed-1" []
  buckets endpoint key :=
    if endpoint.regionID = "region-2" ∧ key = "test/synthetic-event.txt" then some "kept" else none
  failures _ _ := 0

/-- The envelope of the test. -/
def sampleEnvelope : EventEnvelope := sampleHook.testEnvelope .objectDeleted "event-1" 5

theorem sample_tested : userTestWebhook sampleHooks "ada" "hook-1" "event-1" 5 =
    .ok (.queued "hook-1" .objectDeleted, sampleEnvelope) := by rfl

theorem test_delivery_only_a_test_unreplicated :
    OnlyATest (sampleSite SortedStore.empty) sampleEnvelope ∧
      Exists fun w => sampleHooks.get? "hook-1" = some w ∧ w.matchesEvent sampleEnvelope = true :=
  (test_delivery_only_a_test_iff (sampleSite SortedStore.empty) sample_tested).mpr fun replicated => by
    rcases replicated with ⟨fbID, fb, waiting, found, _⟩
    cases found

/-- The test of a webhook on the bucket of a federation deletes the replica's object. -/
theorem test_delivery_deletes_from_replica :
    ¬ forall (rows : Rows) (reply : WebhookReply) (envelope : EventEnvelope),
      userTestWebhook sampleHooks "ada" "hook-1" "event-1" 5 = .ok (reply, envelope) ->
        OnlyATest (sampleSite rows) envelope := by
  intro stated
  have only := stated (SortedStore.empty.put "fed-1" sampleFederation) _ _ sample_tested
  have kept := (only (sampleSite (SortedStore.empty.put "fed-1" sampleFederation))
    [(⟨"fed-1", { regionID := "region-2", bucket := "photos" }, "test/synthetic-event.txt", 42, true⟩,
      {})] (by decide)).1
  have gone := congrFun (congrFun kept ⟨"region-2", "photos"⟩) "test/synthetic-event.txt"
  exact absurd gone (by decide)

end Webhooks
end Basement
