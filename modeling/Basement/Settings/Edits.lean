import Basement.Library.Transition
import Basement.Settings.OrgCapabilities

namespace Basement
namespace Settings

open Library (Record Edit)
open Library.Edit (lastWritten lastWritten_append andThen_of_some andThen_of_none apply_of_some
  apply_of_none)
open Library.Transition

/-!
# Concurrent edits of the settings

A patch of the settings and the activation of a skin read the whole record, change some fields and
later store the whole record.  Dismissing the onboarding sets one field under the lock.  The memory
is changed under the lock, and written to the file under the lock again.  Requests of all three
kinds interleave at these points.

The store keeps no history.  The list of the committed edits is the model's own.
-/

/-! ## Requests -/

/-- `updateOrgCapabilitiesHandler`, `activateSkinHandler` and `dismissOnboardingHandler`. -/
inductive Request where
  | patch (body : OrgCapabilitiesPatch)
  | activate (name : String)
  | dismiss
  deriving DecidableEq, Repr

/-- The fields that a request sets. -/
def Request.mentions : Request -> OrgCapabilitiesPatch
  | .patch body => body
  | .activate name => { activeSkin := some name }
  | .dismiss => { onboardingCompleted := some true }

/-- What a request is to write to each field it mentions. -/
def Request.edit (request : Request) : Edit Field.Value :=
  fun field => (request.mentions.get field).map field.clamped

/-- How far a request is: what it read, or what it was answered with. -/
inductive Status where
  | waiting
  | holding (read : OrgCapabilities)
  | saving
  | done (succeeded : Bool)
  deriving DecidableEq, Repr

structure Call where
  request : Request
  status : Status
  deriving DecidableEq, Repr

/-- Whether the request goes on, when these skins are installed. -/
def Request.accepts (request : Request) (skins : List String) (read : OrgCapabilities) : Bool :=
  match request with
  | .patch body => (read.merge body).allowedUserSkins.all fun name => skins.contains name
  | .activate name => skins.contains name
  | .dismiss => false

/-! ## The store -/

/-- `OrgCapabilitiesStore` and its file, the requests, and the edits in the order of their
commits. -/
structure Server where
  memory : OrgCapabilities
  disk : Option OrgCapabilities
  calls : List Call
  committed : List (Edit Field.Value)

inductive Event where
  | arrive (request : Request)
  | read (call : Nat) (skins : List String)
  | commit (call : Nat)
  | save (call : Nat) (written : Bool)
  deriving DecidableEq, Repr

/-- The request at the index goes on. -/
def Server.proceed (server : Server) (call : Nat) (request : Request) (status : Status) : Server :=
  { server with calls := server.calls.set call ⟨request, status⟩ }

def step (server : Server) : Event -> Option Server
  | .arrive request => some { server with calls := server.calls ++ [⟨request, .waiting⟩] }
  | .read call skins =>
      match server.calls[call]? with
      | some ⟨request, .waiting⟩ =>
          if request = .dismiss then none
          else if request.accepts skins server.memory.read then
            some (server.proceed call request (.holding server.memory.read))
          else some (server.proceed call request (.done false))
      | _ => none
  | .commit call =>
      match server.calls[call]? with
      | some ⟨request, .holding read⟩ =>
          some { server.proceed call request .saving with
            memory := (read.merge request.mentions).clamped
            committed := server.committed ++ [request.edit] }
      | some ⟨.dismiss, .waiting⟩ =>
          if server.memory.onboardingCompleted then
            some { server.proceed call .dismiss (.done true) with
              committed := server.committed ++ [Request.dismiss.edit] }
          else
            some { server.proceed call .dismiss .saving with
              memory := { server.memory with onboardingCompleted := true }
              committed := server.committed ++ [Request.dismiss.edit] }
      | _ => none
  | .save call written =>
      match server.calls[call]? with
      | some ⟨request, .saving⟩ =>
          if written then
            some { server.proceed call request (.done true) with disk := some server.memory }
          else some (server.proceed call request (.done false))
      | _ => none

/-! ## What a step can do -/

/-- What a step does to the memory, the file, the request it is about and the edits. -/
inductive Moved (server : Server) : Event -> Server -> Prop where
  | arrived (request : Request) :
      Moved server (.arrive request)
        { server with calls := server.calls ++ [⟨request, .waiting⟩] }
  | read (call : Nat) (skins : List String) (request : Request) (status : Status)
      (current : server.calls[call]? = some ⟨request, .waiting⟩) :
      Moved server (.read call skins) (server.proceed call request status)
  | committed (call : Nat) (request : Request) (read : OrgCapabilities)
      (current : server.calls[call]? = some ⟨request, .holding read⟩) :
      Moved server (.commit call)
        { server.proceed call request .saving with
          memory := (read.merge request.mentions).clamped
          committed := server.committed ++ [request.edit] }
  | dismissedAgain (call : Nat) (current : server.calls[call]? = some ⟨.dismiss, .waiting⟩)
      (already : server.memory.onboardingCompleted = true) :
      Moved server (.commit call)
        { server.proceed call .dismiss (.done true) with
          committed := server.committed ++ [Request.dismiss.edit] }
  | dismissed (call : Nat) (current : server.calls[call]? = some ⟨.dismiss, .waiting⟩) :
      Moved server (.commit call)
        { server.proceed call .dismiss .saving with
          memory := { server.memory with onboardingCompleted := true }
          committed := server.committed ++ [Request.dismiss.edit] }
  | saved (call : Nat) (request : Request)
      (current : server.calls[call]? = some ⟨request, .saving⟩) :
      Moved server (.save call true)
        { server.proceed call request (.done true) with disk := some server.memory }
  | unsaved (call : Nat) (request : Request)
      (current : server.calls[call]? = some ⟨request, .saving⟩) :
      Moved server (.save call false) (server.proceed call request (.done false))

theorem step_moved {server next : Server} {event : Event} (taken : step server event = some next) :
    Moved server event next := by
  cases event with
  | arrive request =>
      cases Option.some.inj taken
      exact Moved.arrived request
  | read call skins =>
      simp only [step] at taken
      split at taken
      · rename_i request current
        split at taken
        · cases taken
        · split at taken
          · cases Option.some.inj taken
            exact Moved.read call skins request _ current
          · cases Option.some.inj taken
            exact Moved.read call skins request _ current
      · cases taken
  | commit call =>
      simp only [step] at taken
      split at taken
      · rename_i request read current
        cases Option.some.inj taken
        exact Moved.committed call request read current
      · rename_i current
        split at taken
        · rename_i already
          cases Option.some.inj taken
          exact Moved.dismissedAgain call current already
        · cases Option.some.inj taken
          exact Moved.dismissed call current
      · cases taken
  | save call written =>
      simp only [step] at taken
      split at taken
      · rename_i request current
        cases written with
        | true =>
            cases Option.some.inj taken
            exact Moved.saved call request current
        | false =>
            cases Option.some.inj taken
            exact Moved.unsaved call request current
      · cases taken

/-! ## Last writers -/

/-- Every field has the value that the last committed request mentioning it was to write; a field
that none mentioned has its first value, as a reader sees it. -/
def Settled (first : OrgCapabilities) (server : Server) : Prop :=
  forall field,
    match lastWritten server.committed field with
    | some value => server.memory.get field = value
    | none => field.clamped (server.memory.get field) = field.clamped (first.get field)

theorem settled_of_some {first : OrgCapabilities} {server : Server} (settled : Settled first server)
    {field : Field} {value : field.Value}
    (written : lastWritten server.committed field = some value) :
    server.memory.get field = value := by
  have here := settled field
  rw [written] at here
  exact here

theorem settled_of_none {first : OrgCapabilities} {server : Server} (settled : Settled first server)
    {field : Field} (unwritten : lastWritten server.committed field = none) :
    field.clamped (server.memory.get field) = field.clamped (first.get field) := by
  have here := settled field
  rw [unwritten] at here
  exact here

/-- What was written is what an update stores. -/
def WritesClamped (server : Server) : Prop :=
  forall field value, lastWritten server.committed field = some value -> field.clamped value = value

theorem edit_clamped {request : Request} {field : Field} {value : field.Value}
    (mentioned : request.edit field = some value) : field.clamped value = value := by
  rcases Option.map_eq_some_iff.mp mentioned with ⟨raw, _, rfl⟩
  exact field.clamped_idem raw

theorem edit_eq_none_iff {request : Request} {field : Field} :
    request.edit field = none ↔ request.mentions.get field = none := Option.map_eq_none_iff

theorem writesClamped_append {server : Server} {edits : List (Edit Field.Value)} {request : Request}
    (clamped : forall field value, lastWritten edits field = some value ->
      field.clamped value = value)
    (same : server.committed = edits ++ [request.edit]) : WritesClamped server := by
  intro field value written
  rw [same, lastWritten_append] at written
  cases mentioned : request.edit field with
  | none =>
      rw [andThen_of_none mentioned] at written
      exact clamped field value written
  | some other =>
      rw [andThen_of_some mentioned] at written
      cases Option.some.inj written
      exact edit_clamped mentioned

theorem WritesClamped.moved {server next : Server} {event : Event} (clamped : WritesClamped server)
    (moved : Moved server event next) : WritesClamped next := by
  cases moved with
  | arrived request => exact clamped
  | read call skins request status current => exact clamped
  | committed call request read current => exact writesClamped_append clamped rfl
  | dismissedAgain call current already => exact writesClamped_append clamped rfl
  | dismissed call current => exact writesClamped_append clamped rfl
  | saved call request current => exact clamped
  | unsaved call request current => exact clamped

/-- Nothing that the request leaves alone has changed since it read the settings. -/
def Undisturbed (server : Server) : Event -> Prop
  | .commit call =>
      forall request read, server.calls[call]? = some ⟨request, .holding read⟩ ->
        forall field, request.mentions.get field = none ->
          field.clamped (read.get field) = field.clamped (server.memory.get field)
  | _ => True

/-- A request is undisturbed if the settings are still those it read. -/
theorem undisturbed_of_current {server : Server} {call : Nat}
    (current : forall request read, server.calls[call]? = some ⟨request, .holding read⟩ ->
      read = server.memory.read) : Undisturbed server (.commit call) := by
  intro request read held field _
  rw [current request read held]
  exact clamped_get_read server.memory field

/-- The memory after a commit. -/
theorem get_committed (read : OrgCapabilities) (request : Request) (field : Field) :
    (read.merge request.mentions).clamped.get field =
      request.edit.apply (fun field => field.clamped (read.get field)) field := by
  rw [get_clamped, get_merge]
  cases mentioned : request.mentions.get field with
  | none => rw [apply_of_none mentioned, apply_of_none (edit_eq_none_iff.mpr mentioned)]
  | some value =>
      have written : request.edit field = some (field.clamped value) := by
        unfold Request.edit
        rw [mentioned]
        rfl
      rw [apply_of_some mentioned, apply_of_some written]

/-- A commit keeps the last writers exactly if it is undisturbed. -/
theorem committed_settled_iff {first : OrgCapabilities} {server next : Server} {request : Request}
    {read : OrgCapabilities} (settled : Settled first server) (clamped : WritesClamped server)
    (memory : next.memory = (read.merge request.mentions).clamped)
    (committed : next.committed = server.committed ++ [request.edit]) :
    Settled first next ↔ forall field, request.mentions.get field = none ->
      field.clamped (read.get field) = field.clamped (server.memory.get field) := by
  have fieldwise : forall field,
      (match lastWritten next.committed field with
        | some value => next.memory.get field = value
        | none => field.clamped (next.memory.get field) = field.clamped (first.get field)) ↔
      (request.mentions.get field = none ->
        field.clamped (read.get field) = field.clamped (server.memory.get field)) := by
    intro field
    rw [committed, lastWritten_append, memory, get_committed]
    cases mentioned : request.edit field with
    | some value =>
        rw [andThen_of_some mentioned, apply_of_some mentioned]
        refine iff_of_true rfl fun silent => ?_
        rw [edit_eq_none_iff.mpr silent] at mentioned
        cases mentioned
    | none =>
        have silent := edit_eq_none_iff.mp mentioned
        rw [andThen_of_none mentioned, apply_of_none mentioned]
        cases written : lastWritten server.committed field with
        | some value =>
            have current := settled_of_some settled written
            have same : field.clamped (server.memory.get field) = value := by
              rw [current]
              exact clamped field value written
            rw [same]
            exact ⟨fun equal _ => equal, fun undisturbed => undisturbed silent⟩
        | none =>
            have current := settled_of_none settled written
            dsimp only
            rw [current, field.clamped_idem]
            exact ⟨fun equal _ => equal, fun undisturbed => undisturbed silent⟩
  exact forall_congr' fieldwise

/-- Setting one field under the lock keeps the last writers. -/
theorem dismissed_settled {first : OrgCapabilities} {server next : Server}
    (settled : Settled first server)
    (memory : next.memory = { server.memory with onboardingCompleted := true })
    (committed : next.committed = server.committed ++ [Request.dismiss.edit]) :
    Settled first next := by
  intro field
  rw [committed, lastWritten_append, memory]
  by_cases own : field = .onboardingCompleted
  · subst own
    have written : (lastWritten server.committed).andThen Request.dismiss.edit
        .onboardingCompleted = some (true : Bool) := rfl
    rw [written]
    rfl
  · have silent : Request.dismiss.edit field = none := by
      cases field with
      | onboardingCompleted => exact absurd rfl own
      | _ => rfl
    have same : OrgCapabilities.get { server.memory with onboardingCompleted := true } field =
        server.memory.get field := by
      cases field with
      | onboardingCompleted => exact absurd rfl own
      | _ => rfl
    rw [andThen_of_none silent, same]
    exact settled field

theorem onboarded_eq {memory : OrgCapabilities} (already : memory.onboardingCompleted = true) :
    memory = { memory with onboardingCompleted := true } := by
  cases memory
  subst already
  rfl

/-- A step keeps the last writers exactly if it is undisturbed. -/
theorem step_settled_iff {first : OrgCapabilities} {server next : Server} {event : Event}
    (settled : Settled first server) (clamped : WritesClamped server)
    (moved : Moved server event next) : Settled first next ↔ Undisturbed server event := by
  cases moved with
  | arrived request => exact iff_of_true settled trivial
  | read call skins request status current => exact iff_of_true settled trivial
  | committed call request read current =>
      refine (committed_settled_iff settled clamped rfl rfl).trans ?_
      constructor
      · intro same other past held
        cases current.symm.trans held
        exact same
      · intro undisturbed
        exact undisturbed request read current
  | dismissedAgain call current already =>
      refine iff_of_true (dismissed_settled settled (onboarded_eq already) rfl) ?_
      intro request read held
      cases current.symm.trans held
  | dismissed call current =>
      refine iff_of_true (dismissed_settled settled rfl rfl) ?_
      intro request read held
      cases current.symm.trans held
  | saved call request current => exact iff_of_true settled trivial
  | unsaved call request current => exact iff_of_true settled trivial

/-! ## The file -/

/-- Some request still has to save, or failed. -/
def Unfinished (server : Server) : Prop :=
  Exists fun index : Nat => Exists fun call : Call => server.calls[index]? = some call ∧
    (call.status = .saving ∨ call.status = .done false)

/-- The file holds the memory, unless nothing was changed or a request has not saved. -/
def FileFollows (start server : Server) : Prop :=
  server.disk = some server.memory ∨ server.disk = start.disk ∧ server.memory = start.memory ∨
    Unfinished server

theorem unfinished_proceed {server next : Server} {index : Nat} {request old : Request}
    {before status : Status} (current : server.calls[index]? = some ⟨old, before⟩)
    (calls : next.calls = server.calls.set index ⟨request, status⟩)
    (unfinished : Unfinished server)
    (before' : before ≠ .saving ∧ before ≠ .done false) : Unfinished next := by
  rcases unfinished with ⟨other, call, found, pending⟩
  have different : index ≠ other := by
    rintro rfl
    cases current.symm.trans found
    rcases pending with saving | failed
    · exact before'.1 saving
    · exact before'.2 failed
  refine ⟨other, call, ?_, pending⟩
  rw [calls, List.getElem?_set_ne different]
  exact found

theorem unfinished_at {next : Server} {calls : List Call} {index : Nat} {call : Call}
    {request : Request} {status : Status} (current : calls[index]? = some call)
    (same : next.calls = calls.set index ⟨request, status⟩)
    (pending : status = .saving ∨ status = .done false) : Unfinished next := by
  refine ⟨index, ⟨request, status⟩, ?_, pending⟩
  rw [same, List.getElem?_set_self]
  rcases List.getElem?_eq_some_iff.mp current with ⟨bound, _⟩
  exact bound

theorem FileFollows.moved {start server next : Server} {event : Event}
    (follows : FileFollows start server) (moved : Moved server event next) :
    FileFollows start next := by
  cases moved with
  | arrived request =>
      rcases follows with holds | same | ⟨index, call, found, pending⟩
      · exact Or.inl holds
      · exact Or.inr (Or.inl same)
      · refine Or.inr (Or.inr ⟨index, call, ?_, pending⟩)
        rcases List.getElem?_eq_some_iff.mp found with ⟨bound, _⟩
        exact (List.getElem?_append_left bound).trans found
  | read call skins request status current =>
      rcases follows with holds | same | unfinished
      · exact Or.inl holds
      · exact Or.inr (Or.inl same)
      · exact Or.inr (Or.inr (unfinished_proceed current rfl unfinished
          ⟨Status.noConfusion, Status.noConfusion⟩))
  | committed call request read current =>
      exact Or.inr (Or.inr (unfinished_at current rfl (Or.inl rfl)))
  | dismissedAgain call current already =>
      rcases follows with holds | same | unfinished
      · exact Or.inl holds
      · exact Or.inr (Or.inl same)
      · exact Or.inr (Or.inr (unfinished_proceed current rfl unfinished
          ⟨Status.noConfusion, Status.noConfusion⟩))
  | dismissed call current =>
      exact Or.inr (Or.inr (unfinished_at current rfl (Or.inl rfl)))
  | saved call request current => exact Or.inl rfl
  | unsaved call request current =>
      exact Or.inr (Or.inr (unfinished_at current rfl (Or.inr rfl)))

/-- Throughout a run every field has the value of its last writer exactly if no commit overwrites a
field it does not mention; and once all requests were answered with success, the file holds the
memory or nothing was ever changed. -/
theorem settings_edits_kept_iff {start final : Server} {events : List Event}
    (first : start.committed = []) (run : exec step start events = some final) :
    (Throughout step (Settled start.memory) start events ↔ Meets step Undisturbed start events) ∧
      ((forall call, call ∈ final.calls -> call.status = .done true) ->
        final.disk = some final.memory ∨
          final.disk = start.disk ∧ final.memory = start.memory) := by
  constructor
  · refine @throughout_iff_meets _ _ step Undisturbed WritesClamped (Settled start.memory)
      ?_ ?_ events start final ?_ ?_ run
    · intro server event next clamped taken
      exact clamped.moved (step_moved taken)
    · intro server event next clamped settled taken
      exact step_settled_iff settled clamped (step_moved taken)
    · intro field value written
      rw [first] at written
      cases written
    · intro field
      rw [first]
      rfl
  · intro succeeded
    have follows : FileFollows start final := by
      refine @exec_invariant _ _ step (FileFollows start) ?_ events start final
        (Or.inr (Or.inl ⟨rfl, rfl⟩)) run
      intro server event next before taken
      exact before.moved (step_moved taken)
    rcases follows with holds | same | ⟨index, call, found, pending⟩
    · exact Or.inl holds
    · exact Or.inr same
    · have done := succeeded call (List.mem_of_getElem? found)
      rcases pending with saving | failed
      · cases done.symm.trans saving
      · cases done.symm.trans failed

/-- A deployment that runs on the defaults. -/
def defaultServer : Server := ⟨defaultOrgCapabilities, some defaultOrgCapabilities, [], []⟩

/-- The operator closes the signup and then activates a skin. -/
def inTurn : List Event :=
  [.arrive (.patch { signupMode := some "closed" }), .read 0 ["dark"], .commit 0, .save 0 true,
    .arrive (.activate "dark"), .read 1 ["dark"], .commit 1, .save 1 true]

/-- The activation reads the settings before the signup is closed. -/
def crossed : List Event :=
  [.arrive (.patch { signupMode := some "closed" }), .arrive (.activate "dark"),
    .read 0 ["dark"], .read 1 ["dark"], .commit 0, .commit 1, .save 0 true, .save 1 true]

theorem settings_edits_kept_iff_inTurn :
    Exists fun final => exec step defaultServer inTurn = some final ∧
      final.memory.signupMode = "closed" ∧ final.memory.activeSkin = "dark" ∧
      (Throughout step (Settled defaultServer.memory) defaultServer inTurn ↔
        Meets step Undisturbed defaultServer inTurn) ∧
      ((forall call, call ∈ final.calls -> call.status = .done true) ->
        final.disk = some final.memory ∨
          final.disk = defaultServer.disk ∧ final.memory = defaultServer.memory) :=
  ⟨_, rfl, rfl, rfl, @settings_edits_kept_iff defaultServer _ inTurn rfl rfl⟩

/-- The activation stores the signup mode it read, and the signup is open again. -/
theorem settings_edit_lost :
    ¬ forall (start final : Server) (events : List Event), start.committed = [] ->
      exec step start events = some final ->
      (forall call, call ∈ final.calls -> call.status = .done true) ->
      (forall field value, lastWritten final.committed field = some value ->
        final.memory.get field = value) ∧
        (final.disk = some final.memory ∨
          final.disk = start.disk ∧ final.memory = start.memory) := by
  intro kept
  have reverted : ("invite" : String) = "closed" :=
    (kept defaultServer _ crossed rfl rfl (by decide +kernel)).1 .signupMode ("closed" : String) rfl
  exact absurd reverted (by decide)

end Settings
end Basement
