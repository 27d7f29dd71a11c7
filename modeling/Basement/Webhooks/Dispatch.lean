import Basement.Library.Transition
import Basement.Webhooks.Hooks

namespace Basement
namespace Webhooks

open Library
open Api (trimSpace isSpace)

/-!
# Dispatch and delivery

All users share one engine.  A handler puts an envelope into its queue; the dispatcher
takes the envelopes out one by one and starts a delivery for each webhook in the store
that matches, whoever owns it; a delivery posts the envelope until the target accepts it
or the attempts are used up.

Each envelope carries where it came from, and `posts` lists everything that was posted.
Neither is read by the code.  They are there to say whose events went where:
`Post.StaysWithOwner` is that statement about one post, and `Engine.seenBy` is what the
engine looks like to one user.
-/

/-! ## The engine -/

/-- The request an envelope goes back to. -/
inductive Origin where
  | object
  | test (userID : String)
  deriving DecidableEq, Repr

structure Pending where
  envelope : EventEnvelope
  origin : Origin
  deriving DecidableEq, Repr

/-- A delivery goroutine: its copy of the webhook and the attempts that failed so far. -/
structure Flight where
  hook : Webhook
  pending : Pending
  attempts : Nat := 0
  deriving DecidableEq, Repr

structure Post where
  hook : Webhook
  pending : Pending
  deriving DecidableEq, Repr

/-- `issued` lists the webhook identifiers minted so far, with their owners. -/
structure Engine where
  hooks : Hooks := SortedStore.empty
  issued : List (String × String) := []
  events : List Pending := []
  flights : List Flight := []
  posts : List Post := []

/-- `eventQueueSize`. -/
def eventQueueSize : Nat := 1000

/-- `len(DefaultBackoff) + 1`. -/
def deliveryAttempts : Nat := 4

/-- `Engine.Emit`: a full queue loses its oldest envelope, and the new one as well when
another emitter takes the place that became free. -/
def emit (events : List Pending) (pending : Pending) (raced : Bool) : List Pending :=
  if events.length < eventQueueSize then events ++ [pending]
  else if raced then events.tail
  else events.tail ++ [pending]

/-- How `attemptDelivery` ends. -/
inductive Outcome where
  | unbuilt (error : String)
  | failed (error : String)
  | responded (status : Nat)
  deriving DecidableEq, Repr

structure Attempt where
  outcome : Outcome
  deliveredAt : Int := 0
  durationMs : Nat := 0
  deriving DecidableEq, Repr

/-- `attemptDelivery`. -/
def Attempt.result (attempt : Attempt) : DeliveryResult :=
  match attempt.outcome with
  | .unbuilt error =>
      { deliveredAt := attempt.deliveredAt, durationMs := attempt.durationMs, success := false
        error := "build request: " ++ error }
  | .failed error =>
      { deliveredAt := attempt.deliveredAt, durationMs := attempt.durationMs, success := false
        error := error }
  | .responded status =>
      { deliveredAt := attempt.deliveredAt, httpStatus := status, durationMs := attempt.durationMs
        success := decide (200 ≤ status ∧ status < 300)
        error := if 200 ≤ status ∧ status < 300 then "" else "non-2xx status: " ++ toString status }

/-- A request was handed to the HTTP client. -/
def Attempt.posts (attempt : Attempt) : Bool :=
  match attempt.outcome with
  | .unbuilt _ => false
  | .failed _ => true
  | .responded _ => true

inductive Action where
  | create (userID : String) (req : WebhookCreateRequest) (io : CallIO)
  | update (userID id : String) (req : WebhookCreateRequest) (io : CallIO)
  | toggle (userID id : String) (enable : Bool) (io : CallIO)
  | remove (userID id : String) (io : CallIO)
  | test (userID id eventID : String) (now : Int) (raced : Bool)
  | deleteObject (userID regionID bucket key : String) (deleted : Bool) (eventID : String)
      (now : Int) (raced : Bool)
  | dispatch
  | attempt (index : Nat) (attempt : Attempt) (io : CallIO)
  | abandon (index : Nat)

/-- `Engine.dispatch`: the deliveries it starts. -/
def dispatched (hooks : Hooks) (pending : Pending) : List Flight :=
  ((listForBucket hooks pending.envelope.regionID pending.envelope.bucket).filter fun w =>
    w.matchesEvent pending.envelope).map fun w => { hook := w, pending := pending }

/-- The envelope that `userDeleteRegionObjectHandler` emits after the delete. -/
def deletedEnvelope (regionID bucket key eventID : String) (now : Int) : EventEnvelope where
  id := eventID
  type := .objectDeleted
  occurredAt := now
  regionID := regionID
  bucket := bucket
  key := key

/-- `userDeleteRegionObjectHandler` reaches its emission. -/
def emitsDelete (regions : Regions) (userID regionID bucket key : String) (deleted : Bool) : Bool :=
  userID != "" && regionID != "" && decide (regions.owner regionID = some userID) &&
    bucket != "" && key != "" && deleted

/-- The posts after an attempt. -/
def postedBy (posts : List Post) (flight : Flight) (attempt : Attempt) : List Post :=
  if attempt.posts then posts ++ [{ hook := flight.hook, pending := flight.pending }] else posts

/-- One attempt of a delivery, with what follows if it is the last. -/
def Engine.attempted (engine : Engine) (earlier : List Flight) (flight : Flight)
    (later : List Flight) (attempt : Attempt) (io : CallIO) : Engine :=
  if attempt.result.success || flight.attempts + 1 = deliveryAttempts then
    { engine with
      hooks := (recordDelivery engine.hooks flight.hook.id attempt.result io).2
      flights := earlier ++ later
      posts := postedBy engine.posts flight attempt }
  else
    { engine with
      flights := earlier ++ { flight with attempts := flight.attempts + 1 } :: later
      posts := postedBy engine.posts flight attempt }

variable (library : TargetLibrary) (regions : Regions)

/-- One step of the handlers, of the dispatcher or of a delivery. -/
def step (engine : Engine) : Action -> Option Engine
  | .create userID req io =>
      if engine.issued.any fun entry => entry.2 = io.uuid then none
      else
        some { engine with
          hooks := (userCreateWebhook library regions engine.hooks userID req io).2
          issued := engine.issued ++ [(userID, io.uuid)] }
  | .update userID id req io =>
      some { engine with
        hooks := (userUpdateWebhook library regions engine.hooks userID id req io).2 }
  | .toggle userID id enable io =>
      some { engine with hooks := (toggleWebhook engine.hooks userID id enable io).2 }
  | .remove userID id io =>
      some { engine with hooks := (userDeleteWebhook engine.hooks userID id io).2 }
  | .test userID id eventID now raced =>
      match userTestWebhook engine.hooks userID id eventID now with
      | .error _ => some engine
      | .ok (_, envelope) =>
          some { engine with events := emit engine.events ⟨envelope, .test userID⟩ raced }
  | .deleteObject userID regionID bucket key deleted eventID now raced =>
      if emitsDelete regions userID regionID bucket key deleted then
        some { engine with
          events :=
            emit engine.events ⟨deletedEnvelope regionID bucket key eventID now, .object⟩ raced }
      else some engine
  | .dispatch =>
      match engine.events with
      | [] => none
      | pending :: rest =>
          some { engine with
            events := rest
            flights := engine.flights ++ dispatched engine.hooks pending }
  | .attempt index attempt io =>
      match engine.flights.drop index with
      | [] => none
      | flight :: later =>
          some (engine.attempted (engine.flights.take index) flight later attempt io)
  | .abandon index =>
      match engine.flights.drop index with
      | [] => none
      | _ :: later => some { engine with flights := engine.flights.take index ++ later }

/-! ## Whose events went where -/

/-- The user an envelope belongs to: the owner of its region, or the user who asked for
the test. -/
def Pending.subject (pending : Pending) : Option String :=
  match pending.origin with
  | .object => regions.owner pending.envelope.regionID
  | .test userID => some userID

/-- An object event about a region goes to a webhook of the region's owner, and a test to
a webhook of the user who asked for it. -/
def Post.StaysWithOwner (post : Post) : Prop :=
  match post.pending.origin with
  | .object => regions.owner post.pending.envelope.regionID = some post.hook.ownerUserID
  | .test userID => post.hook.ownerUserID = userID

/-- The webhook has no filter, or one that names no region. -/
def Webhook.namesNoRegion (w : Webhook) : Bool :=
  match w.bucketFilter with
  | none => true
  | some filter => filter.regionID = ""

/-- When an envelope is dispatched, each stored webhook that matches it and names no region
belongs to the envelope's own user. -/
def Contained (engine : Engine) : Action -> Prop
  | .dispatch => forall pending, pending ∈ engine.events.head? ->
      forall entry, entry ∈ engine.hooks.entries -> entry.2.namesNoRegion = true ->
        entry.2.matchesEvent pending.envelope = true ->
          pending.subject regions = some entry.2.ownerUserID
  | _ => True

/-- No envelope is emitted into a full queue. -/
def Roomy (engine : Engine) : Action -> Prop
  | .test _ _ _ _ _ => engine.events.length < eventQueueSize
  | .deleteObject _ _ _ _ _ _ _ _ => engine.events.length < eventQueueSize
  | _ => True

instance (engine : Engine) : (action : Action) -> Decidable (Contained regions engine action)
  | .dispatch => inferInstanceAs (Decidable (forall pending, pending ∈ engine.events.head? ->
      forall entry, entry ∈ engine.hooks.entries -> entry.2.namesNoRegion = true ->
        entry.2.matchesEvent pending.envelope = true ->
          pending.subject regions = some entry.2.ownerUserID))
  | .create _ _ _ | .update _ _ _ _ | .toggle _ _ _ _ | .remove _ _ _ | .test _ _ _ _ _
  | .deleteObject _ _ _ _ _ _ _ _ | .attempt _ _ _ | .abandon _ => .isTrue trivial

instance (engine : Engine) : (action : Action) -> Decidable (Roomy engine action)
  | .test _ _ _ _ _ | .deleteObject _ _ _ _ _ _ _ _ =>
      inferInstanceAs (Decidable (engine.events.length < eventQueueSize))
  | .create _ _ _ | .update _ _ _ _ | .toggle _ _ _ _ | .remove _ _ _ | .dispatch
  | .attempt _ _ _ | .abandon _ => .isTrue trivial

/-- The delivery is for a webhook of the user. -/
def Flight.isOf (userID : String) (flight : Flight) : Bool := ownedBy userID flight.hook

def Post.isOf (userID : String) (post : Post) : Bool := ownedBy userID post.hook

def Pending.isOf (userID : String) (pending : Pending) : Bool :=
  pending.subject regions = some userID

/-- The engine as one user knows it: the user's webhooks, events, deliveries and posts. -/
def Engine.seenBy (userID : String) (engine : Engine) : Engine where
  hooks := engine.hooks.filter (ownedBy userID)
  issued := engine.issued.filter fun entry => entry.1 = userID
  events := engine.events.filter (Pending.isOf regions userID)
  flights := engine.flights.filter (Flight.isOf userID)
  posts := engine.posts.filter (Post.isOf userID)

/-- A step as one user knows it: the user's own requests, and the steps taken for the user's
own events and deliveries. -/
def ownAction (userID : String) (engine : Engine) : Action -> Option Action
  | .create user req io => if user = userID then some (.create user req io) else none
  | .update user id req io => if user = userID then some (.update user id req io) else none
  | .toggle user id enable io => if user = userID then some (.toggle user id enable io) else none
  | .remove user id io => if user = userID then some (.remove user id io) else none
  | .test user id eventID now raced =>
      if user = userID then some (.test user id eventID now raced) else none
  | .deleteObject user regionID bucket key deleted eventID now raced =>
      if user = userID then some (.deleteObject user regionID bucket key deleted eventID now raced)
      else none
  | .dispatch =>
      match engine.events with
      | [] => none
      | pending :: _ => if pending.isOf regions userID then some .dispatch else none
  | .attempt index attempt io =>
      match engine.flights.drop index with
      | [] => none
      | flight :: _ =>
          if flight.isOf userID then
            some (.attempt ((engine.flights.take index).filter (Flight.isOf userID)).length attempt io)
          else none
  | .abandon index =>
      match engine.flights.drop index with
      | [] => none
      | flight :: _ =>
          if flight.isOf userID then
            some (.abandon ((engine.flights.take index).filter (Flight.isOf userID)).length)
          else none

variable {library} {regions}

theorem Post.staysWithOwner_iff {post : Post} :
    post.StaysWithOwner regions ↔ post.pending.subject regions = some post.hook.ownerUserID := by
  unfold Post.StaysWithOwner Pending.subject
  cases post.pending.origin with
  | object => rfl
  | test userID => simp [eq_comm]

/-! ## Regions -/

theorem uuid_not_space {c : Char}
    (shaped : (c.isDigit || (decide ('a' ≤ c) && decide (c ≤ 'f')) || decide (c = '-')) = true) :
    isSpace c = false := by
  cases space : isSpace c with
  | false => rfl
  | true =>
      exfalso
      simp only [isSpace, Bool.or_eq_true, decide_eq_true_eq, Bool.and_eq_true] at space
      rcases space with listed | ⟨above, _⟩
      · simp only [List.mem_cons, List.not_mem_nil, or_false] at listed
        rcases listed with rfl | rfl | rfl | rfl | rfl | rfl | rfl | rfl | rfl | rfl | rfl | rfl |
          rfl | rfl <;> exact absurd shaped (by decide)
      · have ascii : c ≤ 'f' := by
          simp only [Bool.or_eq_true, Bool.and_eq_true, decide_eq_true_eq, Char.isDigit] at shaped
          rcases shaped with (⟨_, digit⟩ | ⟨_, letter⟩) | rfl
          · exact le_trans (show c ≤ '9' from digit) (by decide)
          · exact letter
          · decide
        exact absurd (le_trans above ascii) (by decide)

/-- The identifier of a region has no space around it. -/
theorem Regions.trimSpace_registered {regionID userID : String}
    (owned : regions.owner regionID = some userID) : trimSpace regionID = regionID := by
  have shaped := regions.minted owned
  simp only [uuidShaped, Bool.and_eq_true, List.all_eq_true] at shaped
  have kept : forall {cs : List Char}, (forall c, c ∈ cs -> c ∈ regionID.toList) ->
      cs.dropWhile isSpace = cs := by
    intro cs within
    cases cs with
    | nil => rfl
    | cons c rest =>
        rw [List.dropWhile_cons_of_neg]
        simp [uuid_not_space (shaped.2 c (within c List.mem_cons_self))]
  unfold trimSpace
  rw [kept fun c member => member, kept fun c member => List.mem_reverse.mp member,
    List.reverse_reverse, String.ofList_toList]

theorem Regions.test_region_unregistered (regions : Regions) :
    regions.owner (trimSpace "test-region") = none := by
  cases owned : regions.owner (trimSpace "test-region") with
  | none => rfl
  | some userID => exact absurd (regions.minted owned) (by decide)

/-! ## The invariant -/

/-- What the stored rows have in common, and that no identifier is minted twice. -/
structure Registered (regions : Regions) (hooks : Hooks) (issued : List (String × String)) :
    Prop where
  rows : forall id w, hooks.get? id = some w -> Row regions id w
  listed : forall id w, hooks.get? id = some w -> (w.ownerUserID, id) ∈ issued
  unique : forall {first second id : String}, (first, id) ∈ issued -> (second, id) ∈ issued ->
    first = second

/-- The region of a waiting envelope is registered, or one that a test is about. -/
def Pending.Sourced (regions : Regions) (pending : Pending) : Prop :=
  match pending.origin with
  | .object => Exists fun userID => regions.owner pending.envelope.regionID = some userID
  | .test userID => pending.envelope.regionID = "test-region" ∨
      regions.owner (trimSpace pending.envelope.regionID) = some userID

structure Engine.Inv (regions : Regions) (engine : Engine) : Prop where
  registered : Registered regions engine.hooks engine.issued
  sourced : forall pending, pending ∈ engine.events -> pending.Sourced regions
  flights : forall flight, flight ∈ engine.flights ->
    (flight.hook.ownerUserID, flight.hook.id) ∈ engine.issued ∧
      flight.pending.subject regions = some flight.hook.ownerUserID
  posts : forall post, post ∈ engine.posts ->
    post.pending.subject regions = some post.hook.ownerUserID

theorem Engine.inv_start : Engine.Inv regions {} where
  registered := {
    rows := fun _ _ found => nomatch found
    listed := fun _ _ found => nomatch found
    unique := fun member _ => nomatch member }
  sourced := fun _ member => nomatch member
  flights := fun _ member => nomatch member
  posts := fun _ member => nomatch member

variable {engine next : Engine} {userID : String}

theorem Registered.change {hooks after : Hooks} {issued : List (String × String)}
    (registered : Registered regions hooks issued)
    (change : OwnChange regions userID none hooks after) : Registered regions after issued where
  rows := change.rows registered.rows
  unique := registered.unique
  listed := by
    intro id w found
    rcases change id with same | ⟨before, known, own⟩
    · exact registered.listed id w (same ▸ found)
    · rw [(own w found).1]
      cases held : hooks.get? id with
      | none => cases known held
      | some old => exact before old held ▸ registered.listed id old held

theorem Registered.created {hooks after : Hooks} {issued : List (String × String)} {uuid : String}
    (registered : Registered regions hooks issued) (fresh : forall owner, (owner, uuid) ∉ issued)
    (change : OwnChange regions userID (some uuid) hooks after) :
    Registered regions after (issued ++ [(userID, uuid)]) where
  rows := change.rows registered.rows
  unique := by
    intro first second id firstListed secondListed
    simp only [List.mem_append, List.mem_singleton, Prod.mk.injEq] at firstListed secondListed
    rcases firstListed with firstOld | ⟨rfl, rfl⟩
    · rcases secondListed with secondOld | ⟨rfl, rfl⟩
      · exact registered.unique firstOld secondOld
      · exact absurd firstOld (fresh _)
    · rcases secondListed with secondOld | ⟨rfl, _⟩
      · exact absurd secondOld (fresh _)
      · rfl
  listed := by
    intro id w found
    rcases change id with same | ⟨before, known, own⟩
    · exact List.mem_append_left _ (registered.listed id w (same ▸ found))
    · rw [(own w found).1]
      cases held : hooks.get? id with
      | none =>
          cases known held
          exact List.mem_append_right _ List.mem_cons_self
      | some old =>
          exact List.mem_append_left _ (before old held ▸ registered.listed id old held)

/-- The row that a delivery reports on belongs to the owner of the delivery's copy. -/
theorem Engine.Inv.flight_row (inv : engine.Inv regions) {flight : Flight}
    (listed : flight ∈ engine.flights) :
    forall w, engine.hooks.get? flight.hook.id = some w ->
      w.ownerUserID = flight.hook.ownerUserID :=
  fun w found =>
    inv.registered.unique (inv.registered.listed _ w found) (inv.flights flight listed).1

/-- A webhook whose filter names a region gets envelopes of its own owner only. -/
theorem named_region_subject {id : String} {w : Webhook} {pending : Pending}
    (row : Row regions id w) (sourced : pending.Sourced regions)
    (fires : w.matchesEvent pending.envelope = true) (named : w.namesNoRegion = false) :
    pending.subject regions = some w.ownerUserID := by
  have owned := row.owned
  unfold Webhook.namesNoRegion at named
  simp only [Webhook.matchesEvent, Webhook.listedFor, Bool.and_eq_true] at fires
  cases filtered : w.bucketFilter with
  | none => simp [filtered] at named
  | some narrowed =>
      simp only [filtered, decide_eq_false_iff_not] at named
      simp only [filtered, Bool.or_eq_true, decide_eq_true_eq, named, false_or, Bool.and_eq_true]
        at fires
      have region : narrowed.regionID = pending.envelope.regionID := fires.1.2.1
      have mine := owned narrowed filtered named
      rw [region] at mine
      unfold Pending.Sourced at sourced
      unfold Pending.subject
      cases origin : pending.origin with
      | object =>
          simp only [origin] at sourced
          rcases sourced with ⟨user, registered⟩
          rw [Regions.trimSpace_registered registered] at mine
          exact mine
      | test user =>
          simp only [origin] at sourced
          rcases sourced with testRegion | own
          · rw [testRegion, regions.test_region_unregistered] at mine
            cases mine
          · exact own.symm.trans mine

theorem mem_dispatched {hooks : Hooks} {pending : Pending} {flight : Flight} :
    flight ∈ dispatched hooks pending ↔ Exists fun id => Exists fun w =>
      hooks.get? id = some w ∧ w.matchesEvent pending.envelope = true ∧
        flight = { hook := w, pending := pending } := by
  simp only [dispatched, listForBucket, List.mem_map, List.mem_filter]
  constructor
  · rintro ⟨w, ⟨⟨⟨⟨id, _⟩, member, rfl⟩, _⟩, fires⟩, rfl⟩
    exact ⟨id, _, (hooks.mem_entries_iff id _).mp member, fires, rfl⟩
  · rintro ⟨id, w, found, fires, rfl⟩
    have listed : w.listedFor pending.envelope.regionID pending.envelope.bucket = true := by
      simp only [Webhook.matchesEvent, Bool.and_eq_true] at fires
      exact fires.1.2
    exact ⟨w, ⟨⟨⟨(id, w), (hooks.mem_entries_iff id w).mpr found, rfl⟩, listed⟩, fires⟩, rfl⟩

/-- What a dispatch starts stays with the owner exactly if the matching webhooks that name
no region are the owner's. -/
theorem dispatched_stays_iff {hooks : Hooks} {issued : List (String × String)}
    (registered : Registered regions hooks issued) {pending : Pending}
    (sourced : pending.Sourced regions) :
    (forall flight, flight ∈ dispatched hooks pending ->
        pending.subject regions = some flight.hook.ownerUserID) ↔
      forall entry, entry ∈ hooks.entries -> entry.2.namesNoRegion = true ->
        entry.2.matchesEvent pending.envelope = true ->
          pending.subject regions = some entry.2.ownerUserID := by
  constructor
  · rintro stays ⟨id, w⟩ listed _ fires
    exact stays _ (mem_dispatched.mpr ⟨id, w, (hooks.mem_entries_iff id w).mp listed, fires, rfl⟩)
  · intro contained flight started
    rcases mem_dispatched.mp started with ⟨id, w, found, fires, rfl⟩
    cases named : w.namesNoRegion with
    | true => exact contained (id, w) ((hooks.mem_entries_iff id w).mpr found) named fires
    | false => exact named_region_subject (registered.rows id w found) sourced fires named

/-! ## Steps -/

theorem emit_mem {events : List Pending} {pending other : Pending} {raced : Bool}
    (member : other ∈ emit events pending raced) : other = pending ∨ other ∈ events := by
  unfold emit at member
  split at member
  · exact (List.mem_append.mp member).symm.imp_left List.mem_singleton.mp
  · split at member
    · exact Or.inr (List.mem_of_mem_tail member)
    · exact (List.mem_append.mp member).symm.imp List.mem_singleton.mp List.mem_of_mem_tail

/-- What a test request emits passes the filters of the webhook and concerns its own region. -/
theorem userTestWebhook_sourced {hooks : Hooks} {id eventID : String} {now : Int}
    {reply : WebhookReply} {envelope : EventEnvelope}
    (rows : forall id w, hooks.get? id = some w -> Row regions id w)
    (emitted : userTestWebhook hooks userID id eventID now = .ok (reply, envelope)) :
    Pending.Sourced regions ⟨envelope, .test userID⟩ := by
  unfold userTestWebhook at emitted
  split at emitted
  · cases emitted
  · rename_i existing owned
    rcases requireOwnedWebhook_ok owned with ⟨found, owner⟩
    split at emitted
    · cases emitted
    · split at emitted
      · cases emitted
      · cases emitted
        have row := (rows id existing found).owned
        simp only [Pending.Sourced, Webhook.testEnvelope]
        cases filtered : existing.bucketFilter with
        | none => exact Or.inl rfl
        | some narrowed =>
            by_cases named : narrowed.regionID = ""
            · exact Or.inl (if_pos named)
            · simp only [if_neg named]
              exact Or.inr (owner ▸ row narrowed filtered named)

theorem Engine.Inv.changed (inv : engine.Inv regions) {hooks : Hooks}
    (change : OwnChange regions userID none engine.hooks hooks) :
    Engine.Inv regions { engine with hooks := hooks } where
  registered := inv.registered.change change
  sourced := inv.sourced
  flights := inv.flights
  posts := inv.posts

theorem Engine.Inv.emitted (inv : engine.Inv regions) {pending : Pending} {raced : Bool}
    (sourced : pending.Sourced regions) :
    Engine.Inv regions { engine with events := emit engine.events pending raced } where
  registered := inv.registered
  sourced := by
    intro other member
    rcases emit_mem member with rfl | old
    · exact sourced
    · exact inv.sourced other old
  flights := inv.flights
  posts := inv.posts

/-- One attempt keeps the invariant, whether it is the last of its delivery or not. -/
theorem Engine.Inv.attempted (inv : engine.Inv regions) {earlier later : List Flight}
    {flight : Flight} (split : engine.flights = earlier ++ flight :: later) (attempt : Attempt)
    (io : CallIO) : Engine.Inv regions (engine.attempted earlier flight later attempt io) := by
  have listed : flight ∈ engine.flights := by
    rw [split]
    simp
  have others : forall other, other ∈ earlier ++ later -> other ∈ engine.flights := by
    intro other member
    rw [split]
    rcases List.mem_append.mp member with before | behind
    · exact List.mem_append_left _ before
    · exact List.mem_append_right _ (List.mem_cons_of_mem _ behind)
  have posted : forall post, post ∈ postedBy engine.posts flight attempt ->
      post.pending.subject regions = some post.hook.ownerUserID := by
    intro post member
    unfold postedBy at member
    split at member
    · rcases List.mem_append.mp member with old | new
      · exact inv.posts post old
      · cases List.mem_singleton.mp new
        exact (inv.flights flight listed).2
    · exact inv.posts post member
  unfold Engine.attempted
  split
  · exact {
      registered := inv.registered.change
        (recordDelivery_change (inv.flight_row listed) inv.registered.rows _ _)
      sourced := inv.sourced
      flights := fun other member => inv.flights other (others other member)
      posts := posted }
  · refine { registered := inv.registered, sourced := inv.sourced, flights := ?_, posts := posted }
    intro other member
    rcases List.mem_append.mp member with before | behind
    · exact inv.flights other (others other (List.mem_append_left _ before))
    · rcases List.mem_cons.mp behind with rfl | behind
      · exact inv.flights flight listed
      · exact inv.flights other (others other (List.mem_append_right _ behind))

theorem flights_split {flights : List Flight} {index : Nat} {flight : Flight} {later : List Flight}
    (dropped : flights.drop index = flight :: later) :
    flights = flights.take index ++ flight :: later := by
  rw [← dropped, List.take_append_drop]

theorem fresh_issued {issued : List (String × String)} {uuid : String}
    (fresh : ¬ (issued.any fun entry => decide (entry.2 = uuid)) = true) :
    forall owner, (owner, uuid) ∉ issued := by
  intro owner member
  exact fresh (List.any_eq_true.mpr ⟨(owner, uuid), member, decide_eq_true rfl⟩)

theorem Registered.absent {hooks : Hooks} {issued : List (String × String)} {uuid : String}
    (registered : Registered regions hooks issued) (fresh : forall owner, (owner, uuid) ∉ issued) :
    hooks.get? uuid = none := by
  cases held : hooks.get? uuid with
  | none => rfl
  | some w => exact absurd (registered.listed uuid w held) (fresh _)

/-- What a step of the engine does. -/
inductive Moved (library : TargetLibrary) (regions : Regions) (engine : Engine) :
    Action -> Engine -> Prop where
  | created (user : String) (req : WebhookCreateRequest) (io : CallIO)
      (minted : ¬ (engine.issued.any fun entry => decide (entry.2 = io.uuid)) = true) :
      Moved library regions engine (.create user req io)
        { engine with
          hooks := (userCreateWebhook library regions engine.hooks user req io).2
          issued := engine.issued ++ [(user, io.uuid)] }
  | updated (user id : String) (req : WebhookCreateRequest) (io : CallIO) :
      Moved library regions engine (.update user id req io)
        { engine with hooks := (userUpdateWebhook library regions engine.hooks user id req io).2 }
  | toggled (user id : String) (enable : Bool) (io : CallIO) :
      Moved library regions engine (.toggle user id enable io)
        { engine with hooks := (toggleWebhook engine.hooks user id enable io).2 }
  | removed (user id : String) (io : CallIO) :
      Moved library regions engine (.remove user id io)
        { engine with hooks := (userDeleteWebhook engine.hooks user id io).2 }
  | tested (user id eventID : String) (now : Int) (raced : Bool)
      (reply : WebhookReply × EventEnvelope)
      (emitted : userTestWebhook engine.hooks user id eventID now = .ok reply) :
      Moved library regions engine (.test user id eventID now raced)
        { engine with events := emit engine.events ⟨reply.2, .test user⟩ raced }
  | testRefused (user id eventID : String) (now : Int) (raced : Bool) (refusal : Api.Refusal)
      (refused : userTestWebhook engine.hooks user id eventID now = .error refusal) :
      Moved library regions engine (.test user id eventID now raced) engine
  | deleted (user regionID bucket key : String) (deleted : Bool) (eventID : String) (now : Int)
      (raced : Bool) (accepted : emitsDelete regions user regionID bucket key deleted = true) :
      Moved library regions engine (.deleteObject user regionID bucket key deleted eventID now raced)
        { engine with
          events :=
            emit engine.events ⟨deletedEnvelope regionID bucket key eventID now, .object⟩ raced }
  | deleteRefused (user regionID bucket key : String) (deleted : Bool) (eventID : String)
      (now : Int) (raced : Bool)
      (refused : ¬ emitsDelete regions user regionID bucket key deleted = true) :
      Moved library regions engine (.deleteObject user regionID bucket key deleted eventID now raced)
        engine
  | dispatched (pending : Pending) (rest : List Pending)
      (waiting : engine.events = pending :: rest) :
      Moved library regions engine .dispatch
        { engine with
          events := rest
          flights := engine.flights ++ dispatched engine.hooks pending }
  | attempted (index : Nat) (attempt : Attempt) (io : CallIO) (flight : Flight)
      (later : List Flight) (dropped : engine.flights.drop index = flight :: later) :
      Moved library regions engine (.attempt index attempt io)
        (engine.attempted (engine.flights.take index) flight later attempt io)
  | abandoned (index : Nat) (flight : Flight) (later : List Flight)
      (dropped : engine.flights.drop index = flight :: later) :
      Moved library regions engine (.abandon index)
        { engine with flights := engine.flights.take index ++ later }

theorem step_moved {action : Action} (taken : step library regions engine action = some next) :
    Moved library regions engine action next := by
  cases action with
  | create user req io =>
      simp only [step] at taken
      split at taken
      · cases taken
      · rename_i minted
        cases taken
        exact .created user req io minted
  | update user id req io =>
      cases taken
      exact .updated user id req io
  | toggle user id enable io =>
      cases taken
      exact .toggled user id enable io
  | remove user id io =>
      cases taken
      exact .removed user id io
  | test user id eventID now raced =>
      simp only [step] at taken
      split at taken
      · rename_i refusal refused
        cases taken
        exact .testRefused user id eventID now raced refusal refused
      · rename_i reply envelope emitted
        cases taken
        exact .tested user id eventID now raced (reply, envelope) emitted
  | deleteObject user regionID bucket key deleted eventID now raced =>
      simp only [step] at taken
      split at taken
      · rename_i accepted
        cases taken
        exact .deleted user regionID bucket key deleted eventID now raced accepted
      · rename_i refused
        cases taken
        exact .deleteRefused user regionID bucket key deleted eventID now raced refused
  | dispatch =>
      simp only [step] at taken
      split at taken
      · cases taken
      · rename_i pending rest waiting
        cases taken
        exact .dispatched pending rest waiting
  | attempt index attempt io =>
      simp only [step] at taken
      split at taken
      · cases taken
      · rename_i flight later dropped
        cases taken
        exact .attempted index attempt io flight later dropped
  | abandon index =>
      simp only [step] at taken
      split at taken
      · cases taken
      · rename_i flight later dropped
        cases taken
        exact .abandoned index flight later dropped

/-- Only the owner of a region emits its deletions. -/
theorem emitsDelete_owner {user regionID bucket key : String} {deleted : Bool}
    (accepted : emitsDelete regions user regionID bucket key deleted = true) :
    regions.owner regionID = some user := by
  simp only [emitsDelete, Bool.and_eq_true, decide_eq_true_eq] at accepted
  exact accepted.1.1.1.2

theorem Engine.Inv.dispatched_stays (inv : engine.Inv regions) {pending : Pending} {rest : List Pending}
    (waiting : engine.events = pending :: rest) (contained : Contained regions engine .dispatch) :
    forall flight, flight ∈ dispatched engine.hooks pending ->
      pending.subject regions = some flight.hook.ownerUserID :=
  (dispatched_stays_iff inv.registered (inv.sourced pending (by simp [waiting]))).mpr
    (contained pending (by simp [waiting]))

/-- Each step keeps the invariant, a dispatch if it is contained. -/
theorem step_inv {action : Action} (inv : engine.Inv regions) (contained : Contained regions engine action)
    (taken : step library regions engine action = some next) : next.Inv regions := by
  cases step_moved taken with
  | created user req io minted =>
      have fresh := fresh_issued minted
      have absent := inv.registered.absent fresh
      exact {
        registered := inv.registered.created fresh (userCreateWebhook_change absent)
        sourced := inv.sourced
        flights := fun flight member =>
          ⟨List.mem_append_left _ (inv.flights flight member).1, (inv.flights flight member).2⟩
        posts := inv.posts }
  | updated => exact inv.changed (userUpdateWebhook_change inv.registered.rows)
  | toggled => exact inv.changed (toggleWebhook_change inv.registered.rows)
  | removed => exact inv.changed (userDeleteWebhook_change inv.registered.rows)
  | tested user id eventID now raced reply emitted =>
      exact inv.emitted (userTestWebhook_sourced inv.registered.rows emitted)
  | deleted user regionID bucket key deleted eventID now raced accepted =>
      exact inv.emitted ⟨user, emitsDelete_owner accepted⟩
  | testRefused | deleteRefused => exact inv
  | dispatched pending rest waiting =>
      refine { registered := inv.registered, sourced := ?_, flights := ?_, posts := inv.posts }
      · intro other member
        exact inv.sourced other (by simp [waiting, member])
      · intro flight member
        rcases List.mem_append.mp member with old | started
        · exact inv.flights flight old
        · have stays := inv.dispatched_stays waiting contained flight started
          rcases mem_dispatched.mp started with ⟨id, w, found, _, rfl⟩
          have row := inv.registered.rows id w found
          exact ⟨row.id ▸ inv.registered.listed id w found, stays⟩
  | attempted index attempt io flight later dropped =>
      exact inv.attempted (flights_split dropped) attempt io
  | abandoned index flight later dropped =>
      refine { registered := inv.registered, sourced := inv.sourced, flights := ?_, posts := inv.posts }
      intro other member
      apply inv.flights other
      rw [flights_split dropped]
      rcases List.mem_append.mp member with before | behind
      · exact List.mem_append_left _ before
      · exact List.mem_append_right _ (List.mem_cons_of_mem _ behind)

/-! ## What one user sees -/

theorem dispatched_part (hooks : Hooks) (userID : String) (pending : Pending) :
    dispatched (hooks.filter (ownedBy userID)) pending =
      (dispatched hooks pending).filter (Flight.isOf userID) := by
  unfold dispatched listForBucket SortedStore.filter
  simp only [List.filter_map, List.filter_filter, Function.comp_def]
  congr 2
  apply List.filter_congr
  intro entry _
  simp only [Flight.isOf]
  cases ownedBy userID entry.2 <;> simp

/-- A change of one user's webhooks is not seen by the others. -/
theorem Engine.seenBy_changed {user : String} {minted : Option String} {hooks : Hooks}
    (change : OwnChange regions user minted engine.hooks hooks) (different : user ≠ userID) :
    Engine.seenBy regions userID { engine with hooks := hooks } = engine.seenBy regions userID := by
  simp only [Engine.seenBy, change.others different.symm]

/-- With room in the queue, an envelope is seen by the user it belongs to. -/
theorem emit_seen {events : List Pending} (pending : Pending) (raced : Bool)
    (room : events.length < eventQueueSize) :
    (emit events pending raced).filter (Pending.isOf regions userID) =
      if pending.isOf regions userID then
        emit (events.filter (Pending.isOf regions userID)) pending raced
      else events.filter (Pending.isOf regions userID) := by
  have fewer : (events.filter (Pending.isOf regions userID)).length < eventQueueSize :=
    lt_of_le_of_lt (List.length_filter_le _ _) room
  unfold emit
  rw [if_pos room, if_pos fewer, List.filter_append, List.filter_singleton]
  cases pending.isOf regions userID <;> simp

/-- The deliveries of one user, split at one of them. -/
theorem Engine.flights_seen (regions : Regions) {later : List Flight} {index : Nat} {flight : Flight}
    (dropped : engine.flights.drop index = flight :: later) (mine : flight.isOf userID = true) :
    (engine.seenBy regions userID).flights.take
        ((engine.flights.take index).filter (Flight.isOf userID)).length =
        (engine.flights.take index).filter (Flight.isOf userID) ∧
      (engine.seenBy regions userID).flights.drop
        ((engine.flights.take index).filter (Flight.isOf userID)).length =
        flight :: later.filter (Flight.isOf userID) := by
  have split := congrArg (List.filter (Flight.isOf userID)) (flights_split dropped)
  rw [List.filter_append, List.filter_cons_of_pos mine] at split
  simp only [Engine.seenBy]
  rw [split]
  exact ⟨List.take_left, List.drop_left⟩

theorem postedBy_seen (posts : List Post) (flight : Flight) (attempt : Attempt) (userID : String) :
    (postedBy posts flight attempt).filter (Post.isOf userID) =
      if flight.isOf userID then postedBy (posts.filter (Post.isOf userID)) flight attempt
      else posts.filter (Post.isOf userID) := by
  unfold postedBy
  cases attempt.posts with
  | false => simp
  | true =>
      simp only [if_true, List.filter_append, List.filter_singleton, Post.isOf, Flight.isOf]
      cases ownedBy userID flight.hook <;> simp

/-- An attempt of a delivery is seen by the owner of its webhook. -/
theorem Engine.attempted_seen (inv : engine.Inv regions) {earlier later : List Flight}
    {flight : Flight} (split : engine.flights = earlier ++ flight :: later) (attempt : Attempt)
    (io : CallIO) (userID : String) :
    (engine.attempted earlier flight later attempt io).seenBy regions userID =
      if flight.isOf userID then
        (engine.seenBy regions userID).attempted (earlier.filter (Flight.isOf userID)) flight
          (later.filter (Flight.isOf userID)) attempt io
      else engine.seenBy regions userID := by
  have row := inv.flight_row (show flight ∈ engine.flights by rw [split]; simp)
  by_cases mine : flight.isOf userID = true
  · have owner : flight.hook.ownerUserID = userID := by simpa [Flight.isOf, ownedBy] using mine
    have recorded := recordDelivery_part (owner ▸ row) attempt.result io
    have stillMine : ({ flight with attempts := flight.attempts + 1 } : Flight).isOf userID = true :=
      mine
    rw [if_pos mine]
    unfold Engine.attempted
    split
    · simp only [Engine.seenBy, recorded, partOf, List.filter_append, postedBy_seen, mine, if_true]
    · simp only [Engine.seenBy, List.filter_append, postedBy_seen, mine, if_true,
        List.filter_cons_of_pos stillMine]
  · have different : flight.hook.ownerUserID ≠ userID := by simpa [Flight.isOf, ownedBy] using mine
    have change := recordDelivery_change row inv.registered.rows attempt.result io
    have notMine :
        ¬ ({ flight with attempts := flight.attempts + 1 } : Flight).isOf userID = true := mine
    rw [if_neg mine]
    unfold Engine.attempted
    split
    · simp only [Engine.seenBy, change.others different.symm, split, List.filter_append,
        postedBy_seen, if_neg mine, List.filter_cons_of_neg mine]
    · simp only [Engine.seenBy, split, List.filter_append, postedBy_seen, if_neg mine,
        List.filter_cons_of_neg mine, List.filter_cons_of_neg notMine]

/-- An emitted envelope is seen by the user it belongs to. -/
theorem Engine.seenBy_emit (pending : Pending) (raced : Bool)
    (room : engine.events.length < eventQueueSize) (userID : String) :
    Engine.seenBy regions userID { engine with events := emit engine.events pending raced } =
      if pending.isOf regions userID then
        { engine.seenBy regions userID with
          events := emit (engine.seenBy regions userID).events pending raced }
      else engine.seenBy regions userID := by
  simp only [Engine.seenBy, emit_seen pending raced room]
  split <;> rfl

/-- A request is a step of its user's own engine, and no step of the others'. -/
theorem exec_request {user : String} {request : Action} {after : Engine}
    (own : step library regions (engine.seenBy regions user) request =
      some (after.seenBy regions user))
    (unseen : user ≠ userID -> after.seenBy regions userID = engine.seenBy regions userID) :
    Transition.exec (step library regions) (engine.seenBy regions userID)
        (if user = userID then some request else none).toList =
      some (after.seenBy regions userID) := by
  by_cases mine : user = userID
  · subst mine
    rw [if_pos rfl, Option.toList_some, Transition.exec_single, own]
  · rw [if_neg mine, Option.toList_none, Transition.exec_nil, unseen mine]

/-- An envelope of the user's own, as the user and as the others see it. -/
theorem Engine.seenBy_emit_own {pending : Pending} {user : String}
    (subject : pending.subject regions = some user) (raced : Bool)
    (room : engine.events.length < eventQueueSize) (userID : String) :
    Engine.seenBy regions user { engine with events := emit engine.events pending raced } =
        { engine.seenBy regions user with
          events := emit (engine.seenBy regions user).events pending raced } ∧
      (user ≠ userID ->
        Engine.seenBy regions userID { engine with events := emit engine.events pending raced } =
          engine.seenBy regions userID) := by
  refine ⟨?_, ?_⟩
  · rw [Engine.seenBy_emit pending raced room, if_pos]
    simp [Pending.isOf, subject]
  · intro different
    rw [Engine.seenBy_emit pending raced room, if_neg]
    simp [Pending.isOf, subject, different]

theorem Engine.mint_seen {uuid : String}
    (minted : ¬ (engine.issued.any fun entry => decide (entry.2 = uuid)) = true) (user : String) :
    ¬ ((engine.seenBy regions user).issued.any fun entry => decide (entry.2 = uuid)) = true := by
  intro found
  rcases List.any_eq_true.mp found with ⟨entry, listed, same⟩
  exact minted (List.any_eq_true.mpr ⟨entry, List.mem_of_mem_filter listed, same⟩)

/-- A contained dispatch is seen by the user the envelope belongs to. -/
theorem dispatch_seen {pending : Pending} {rest : List Pending}
    (waiting : engine.events = pending :: rest)
    (stays : forall flight, flight ∈ dispatched engine.hooks pending ->
      pending.subject regions = some flight.hook.ownerUserID) (userID : String) :
    Transition.exec (step library regions) (engine.seenBy regions userID)
        (if pending.isOf regions userID then some Action.dispatch else none).toList =
      some (Engine.seenBy regions userID
        { engine with
          events := rest
          flights := engine.flights ++ dispatched engine.hooks pending }) := by
  by_cases mine : pending.isOf regions userID = true
  · rw [if_pos mine]
    simp only [Option.toList_some, Transition.exec_single, step, Engine.seenBy, waiting,
      List.filter_cons_of_pos mine, dispatched_part, List.filter_append]
  · have none_started : (dispatched engine.hooks pending).filter (Flight.isOf userID) = [] := by
      apply List.filter_eq_nil_iff.mpr
      intro flight started own
      have subject := stays flight started
      have owner : flight.hook.ownerUserID = userID := by
        simpa [Flight.isOf, ownedBy] using own
      exact mine (by simp [Pending.isOf, subject, owner])
    rw [if_neg mine]
    simp only [Option.toList_none, Transition.exec_nil, Engine.seenBy, waiting,
      List.filter_cons_of_neg mine, List.filter_append, none_started, List.append_nil]

/-- A step of the engine is a step of the user's own engine, or not seen there. -/
theorem step_seen {action : Action} (inv : engine.Inv regions)
    (contained : Contained regions engine action) (roomy : Roomy engine action)
    (taken : step library regions engine action = some next) (userID : String) :
    Transition.exec (step library regions) (engine.seenBy regions userID)
        (ownAction regions userID engine action).toList = some (next.seenBy regions userID) := by
  have rows := inv.registered.rows
  cases step_moved taken with
  | created user req io minted =>
      have absent := inv.registered.absent (fresh_issued minted)
      have change : OwnChange regions user (some io.uuid) engine.hooks
          (userCreateWebhook library regions engine.hooks user req io).2 :=
        userCreateWebhook_change absent
      apply exec_request
      · simp only [step, Engine.mint_seen minted]
        simp [Engine.seenBy, userCreateWebhook_part, partOf]
      · intro different
        simp [Engine.seenBy, change.others different.symm, different]
  | updated user id req io =>
      apply exec_request
      · simp only [step, Engine.seenBy, userUpdateWebhook_part library rows, partOf]
      · exact fun different => Engine.seenBy_changed (userUpdateWebhook_change rows) different
  | toggled user id enable io =>
      apply exec_request
      · simp only [step, Engine.seenBy, toggleWebhook_part rows, partOf]
      · exact fun different => Engine.seenBy_changed (toggleWebhook_change rows) different
  | removed user id io =>
      apply exec_request
      · simp only [step, Engine.seenBy, userDeleteWebhook_part rows, partOf]
      · exact fun different => Engine.seenBy_changed (userDeleteWebhook_change rows) different
  | tested user id eventID now raced reply emitted =>
      have asked : userTestWebhook (engine.seenBy regions user).hooks user id eventID now =
          userTestWebhook engine.hooks user id eventID now := userTestWebhook_part _ _ _ _ _
      have subject : Pending.subject regions ⟨reply.2, .test user⟩ = some user := rfl
      have seen := Engine.seenBy_emit_own subject raced roomy userID
      apply exec_request
      · simp only [step, asked, emitted, seen.1]
      · exact seen.2
  | testRefused user id eventID now raced refusal refused =>
      have asked : userTestWebhook (engine.seenBy regions user).hooks user id eventID now =
          userTestWebhook engine.hooks user id eventID now := userTestWebhook_part _ _ _ _ _
      apply exec_request
      · simp only [step, asked, refused]
      · exact fun _ => rfl
  | deleted user regionID bucket key deleted eventID now raced accepted =>
      have subject : Pending.subject regions
          ⟨deletedEnvelope regionID bucket key eventID now, .object⟩ = some user :=
        emitsDelete_owner accepted
      have seen := Engine.seenBy_emit_own subject raced roomy userID
      apply exec_request
      · simp only [step, accepted, if_true, seen.1]
      · exact seen.2
  | deleteRefused user regionID bucket key deleted eventID now raced refused =>
      apply exec_request
      · simp only [step, refused]
        rfl
      · exact fun _ => rfl
  | dispatched pending rest waiting =>
      simp only [ownAction, waiting]
      exact dispatch_seen waiting (inv.dispatched_stays waiting contained) userID
  | attempted index attempt io flight later dropped =>
      rw [Engine.attempted_seen inv (flights_split dropped)]
      simp only [ownAction, dropped]
      by_cases mine : flight.isOf userID = true
      · rcases Engine.flights_seen regions dropped mine with ⟨before, behind⟩
        rw [if_pos mine, if_pos mine]
        simp only [Option.toList_some, Transition.exec_single, step, before, behind]
      · rw [if_neg mine, if_neg mine]
        rfl
  | abandoned index flight later dropped =>
      simp only [ownAction, dropped]
      by_cases mine : flight.isOf userID = true
      · rcases Engine.flights_seen regions dropped mine with ⟨before, behind⟩
        rw [if_pos mine]
        simp only [Option.toList_some, Transition.exec_single, step, before, behind]
        simp only [Engine.seenBy, List.filter_append]
      · have split := congrArg (List.filter (Flight.isOf userID)) (flights_split dropped)
        rw [List.filter_append, List.filter_cons_of_neg mine] at split
        rw [if_neg mine]
        simp only [Option.toList_none, Transition.exec_nil, Engine.seenBy, List.filter_append, split]

/-- In a run whose dispatches are contained, every post stays with the owner of the event.
If besides no envelope meets a full queue, then what a user's webhooks receive is what they
receive when the engine is the user's alone. -/
theorem events_stay_with_owner (library : TargetLibrary) (regions : Regions)
    {actions : List Action} {final : Engine}
    (run : Transition.exec (step library regions) {} actions = some final)
    (contained : Transition.Meets (step library regions) (Contained regions) {} actions) :
    (forall post, post ∈ final.posts -> post.StaysWithOwner regions) ∧
      (Transition.Meets (step library regions) Roomy {} actions -> forall userID,
        Transition.exec (step library regions) {}
            (Transition.seen (step library regions) (ownAction regions userID) {} actions) =
          some (final.seenBy regions userID)) := by
  constructor
  · have inv : final.Inv regions := Transition.exec_invariant_of_meets
      (fun _ _ _ held met taken => step_inv held met taken) Engine.inv_start contained run
    intro post member
    exact Post.staysWithOwner_iff.mpr (inv.posts post member)
  · intro roomy userID
    exact Transition.exec_seen
      (fun _ _ _ held met taken =>
        ⟨step_inv held met.1 taken, step_seen held met.1 met.2 taken userID⟩)
      Engine.inv_start (Transition.meets_both contained roomy) run

/-! ## Two users -/

/-- Ada has the only region. -/
def sampleRegions : Regions where
  owner regionID :=
    if regionID = "7b0ce0ac-7a6e-4b8e-9d5d-3f1f4f6c2a10" then some "ada" else none
  minted owned := by
    split at owned
    · rename_i same
      rw [same]
      decide
    · cases owned

/-- A library for the one address that the samples use. -/
def sampleTargets : TargetLibrary where
  parse _ := some ⟨"https", "hooks.example", "hooks.example"⟩
  toLower host := host
  parseIP _ := none

def sampleRequest : WebhookCreateRequest where
  name := "audit"
  targetURL := "https://hooks.example/in"
  events := [.objectDeleted]

/-- A user subscribes to every event, then Ada deletes an object. -/
def deleteWatchedBy (userID : String) : List Action :=
  [.create userID sampleRequest { uuid := "hook-1", generated := .ok "0123456789abcdef" },
    .deleteObject "ada" "7b0ce0ac-7a6e-4b8e-9d5d-3f1f4f6c2a10" "photos" "diary.txt" true "event-1" 5
      false,
    .dispatch,
    .attempt 0 { outcome := .responded 200 } {}]

/-- The engine after these requests. -/
def sampleFinal (userID : String) : Engine :=
  (Transition.exec (step sampleTargets sampleRegions) {} (deleteWatchedBy userID)).getD {}

theorem events_stay_with_owner_sample :
    (forall post, post ∈ (sampleFinal "ada").posts -> post.StaysWithOwner sampleRegions) ∧
      forall userID, Transition.exec (step sampleTargets sampleRegions) {}
          (Transition.seen (step sampleTargets sampleRegions) (ownAction sampleRegions userID) {}
            (deleteWatchedBy "ada")) =
        some ((sampleFinal "ada").seenBy sampleRegions userID) := by
  have stays := events_stay_with_owner sampleTargets sampleRegions
    (show Transition.exec _ {} (deleteWatchedBy "ada") = some (sampleFinal "ada") from rfl) (by decide)
  exact ⟨stays.1, stays.2 (by decide)⟩

/-- Eve's webhook, which names no region, is told which object Ada deleted. -/
theorem unfiltered_webhook_gets_others_events :
    ¬ forall (actions : List Action) (final : Engine),
      Transition.exec (step sampleTargets sampleRegions) {} actions = some final ->
        forall post, post ∈ final.posts -> post.StaysWithOwner sampleRegions := by
  intro stated
  have stays := stated (deleteWatchedBy "eve") (sampleFinal "eve") rfl
  have posted : Exists fun post => post ∈ (sampleFinal "eve").posts ∧
      ¬ post.StaysWithOwner sampleRegions :=
    ⟨_, List.mem_cons_self, by simp [Post.StaysWithOwner]; decide⟩
  rcases posted with ⟨post, member, leaked⟩
  exact leaked (stays post member)

end Webhooks
end Basement
