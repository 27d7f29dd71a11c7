import Basement.Api.BackupSchedules
import Basement.ServiceAccounts.Identity
import Basement.Sessions.Server
import Basement.Store.Users

namespace Basement
namespace Api
namespace UserDeletion

open Backups (Backup)
open Library
open Library.Transition (exec exec_invariant exec_invariant_of_allowed)
open Schedules (Stage CronTable)
open ServiceAccounts
open Store (User Users)
open Store.Users (deleteUser userByID userByUsername)

/-!
# Deleting a user

The handler removes the user's row from the store of the users.  A session is a signed token, a
service account a row of its own store, and a backup a row of another one with an entry of the
cron library.  None of them refers to the row of the user, and neither the middleware nor the
scheduler reads it.  The elevations do.

A run has the users, the sessions, the service accounts, the policies and the backups of one
server side by side.
-/

/-! ## The handler -/

/-- The ID that a path parameter stands for, which is an ID or a username. -/
def resolveID (users : Users) (param : String) : String :=
  match userByID users param with
  | .ok _ => param
  | .error _ =>
      match userByUsername users param with
      | .ok u => u.id
      | .error _ => param

/-- `deleteUserHandler`, for an administrator. -/
def deleteUserHandler (users : Users) (param : String) (writeError : Option String) :
    Except Refusal Unit × Users :=
  if param = "" then (.error ⟨400, "INVALID_REQUEST", "User ID is required", []⟩, users)
  else
    match deleteUser users (resolveID users param) writeError with
    | (.ok _, left) => (.ok (), left)
    | (.error _, left) => (.error ⟨404, "USER_NOT_FOUND", "User not found", []⟩, left)

/-- The user that the parameter is about. -/
structure Names (param : String) (users : Users) (u : User) : Prop where
  listed : u ∈ users
  named : u.id = param ∨ u.username = param

theorem userByUsername_ok {users : Users} {name : String} {u : User}
    (found : userByUsername users name = .ok u) : u ∈ users ∧ u.username = name := by
  unfold userByUsername at found
  cases first : users.find? fun u => u.username = name with
  | none =>
      rw [first] at found
      cases found
  | some other =>
      rw [first] at found
      cases Except.ok.inj found
      exact ⟨List.mem_of_find?_eq_some first, by simpa using List.find?_some first⟩

theorem deleteUser_ok {users : Users} {id : String} {writeError : Option String}
    (deleted : (deleteUser users id writeError).1 = .ok ()) :
    (Exists fun u => u ∈ users ∧ u.id = id) ∧
      (deleteUser users id writeError).2 = users.eraseP fun u => u.id = id := by
  unfold deleteUser at deleted ⊢
  cases first : users.find? fun u => u.id = id with
  | none =>
      rw [first] at deleted
      cases deleted
  | some u =>
      refine ⟨⟨u, List.mem_of_find?_eq_some first, by simpa using List.find?_some first⟩, ?_⟩
      exact saving_memory

theorem resolveID_names {users : Users} {param : String} {u : User} (listed : u ∈ users)
    (same : u.id = resolveID users param) :
    Exists fun named => Names param users named ∧ named.id = u.id := by
  unfold resolveID at same
  cases byID : userByID users param with
  | ok other =>
      rw [byID] at same
      exact ⟨u, ⟨listed, Or.inl same⟩, rfl⟩
  | error _ =>
      cases byName : userByUsername users param with
      | ok other =>
          rw [byID, byName] at same
          rcases userByUsername_ok byName with ⟨member, name⟩
          exact ⟨other, ⟨member, Or.inr name⟩, same.symm⟩
      | error _ =>
          rw [byID, byName] at same
          exact ⟨u, ⟨listed, Or.inl same⟩, rfl⟩

/-- A deletion that succeeds takes the row of the user it names. -/
theorem deleteUserHandler_ok {users : Users} {param : String} {writeError : Option String}
    (deleted : (deleteUserHandler users param writeError).1 = .ok ()) :
    Exists fun u => Names param users u ∧
      (deleteUserHandler users param writeError).2 = users.eraseP fun other => other.id = u.id := by
  unfold deleteUserHandler at deleted ⊢
  by_cases given : param = ""
  · rw [if_pos given] at deleted
    cases deleted
  · rw [if_neg given] at deleted ⊢
    cases answer : deleteUser users (resolveID users param) writeError with
    | mk outcome left =>
        rw [answer] at deleted
        cases outcome with
        | error _ => cases deleted
        | ok _ =>
            have erased := @deleteUser_ok users (resolveID users param) writeError
              (by rw [answer])
            rcases erased with ⟨⟨u, listed, same⟩, left_eq⟩
            rcases resolveID_names listed same with ⟨named, names, ids⟩
            refine ⟨named, names, ?_⟩
            rw [answer] at left_eq
            rw [ids, same]
            exact left_eq

/-! ## The system -/

structure Site where
  users : Users
  sessions : Sessions.Server
  ledger : Identity.Ledger
  enforcer : Enforcer
  schedules : Schedules.Server
  /-- The backups that the scheduler has run. -/
  runs : List (String × Backup)

inductive Event where
  | createUser (u : User) (uuid : String) (now : Int) (writeError : Option String)
  | deleteUser (param : String) (writeError : Option String)
  | policies (enforcer : Enforcer)
  | session (event : Sessions.Event)
  | account (call : Identity.Call)
  | backup (action : Schedules.Action)
  | tick (backupID : String)

/-- What the elevations read of the users; `UserByID` finds the first of an ID. -/
def credentials (users : Users) : Elevation.Users :=
  users.foldr (fun u rest => rest.put u.id ⟨u.passwordHash, u.provider, u.subject⟩)
    SortedStore.empty

/-- A request of a session is answered with the policies and the users of its time. -/
def Site.answering (site : Site) : Sessions.Event -> Sessions.Event
  | .answer call world =>
      .answer call { world with enforcer := site.enforcer, users := credentials site.users }
  | event => event

/-- `runAndRecord`, when the cron library fires an entry of the backup. -/
def Site.tick (site : Site) (id : String) : Site :=
  match site.schedules.rows.get? id with
  | none => site
  | some b => if b.disabled then site else { site with runs := site.runs ++ [(id, b)] }

section

variable (cfg : Elevation.Config) (configured : Int) (parses : String -> Bool)

def step (site : Site) : Event -> Option Site
  | .createUser u uuid now writeError =>
      some { site with users := (Store.Users.createUser site.users u uuid now writeError).2 }
  | .deleteUser param writeError =>
      some { site with users := (deleteUserHandler site.users param writeError).2 }
  | .policies enforcer => some { site with enforcer }
  | .session event =>
      (Sessions.step cfg configured site.sessions (site.answering event)).map fun sessions =>
        { site with sessions }
  | .account call => (Identity.step site.ledger call).map fun ledger => { site with ledger }
  | .backup action =>
      (Schedules.step parses site.schedules action).map fun schedules => { site with schedules }
  | .tick id => if site.schedules.table.registered id = [] then none else some (site.tick id)

end

/-- The middleware's answer to a request. -/
def Site.authenticate (site : Site) (compare : String -> String -> Bool) (credential : Credential) :
    Except Refusal Claims :=
  ServiceAccounts.authenticate compare site.ledger.accounts site.sessions.now credential

/-- Nobody has logged in or owns anything but the backups that are stored. -/
def boot (parses : String -> Bool) (rows : SortedStore String Backup) (now adminTTL : Int) : Site where
  users := []
  sessions := ⟨now, adminTTL, SortedStore.empty, [], [], []⟩
  ledger := {}
  enforcer := ⟨[], []⟩
  schedules := Schedules.boot parses rows
  runs := []

/-! ## What every step keeps -/

variable {cfg : Elevation.Config} {configured : Int} {parses : String -> Bool} {site next : Site}

structure Site.Sound (parses : String -> Bool) (site : Site) : Prop where
  keyed : Keyed site.ledger.accounts
  schedules : site.schedules.Sound parses

theorem call_change {ledger later : Identity.Ledger} {call : Identity.Call}
    (taken : Identity.step ledger call = some later) :
    Change ledger.accounts later.accounts := by
  rcases Identity.step_eq taken with ⟨enabled, rfl⟩
  cases call with
  | create template io =>
      simp only [Identity.Call.Enabled, Identity.Call.after] at *
      rw [Identity.note_accounts]
      exact create_change template enabled
  | update id patch io =>
      simp only [Identity.Call.after]
      exact update_change ledger.accounts id patch io
  | rotate id io =>
      simp only [Identity.Call.after]
      rw [Identity.note_accounts]
      exact rotate_change ledger.accounts id io
  | delete id io =>
      simp only [Identity.Call.after]
      exact delete_change ledger.accounts id io
  | touchLastUsed id io =>
      simp only [Identity.Call.after]
      rcases touchLastUsed_cases ledger.accounts ledger.lastTouchPersist id io with
        same | ⟨cur, _, found, same⟩
      · rw [same]
        exact Change.keep
      · rw [same]
        exact Change.rewrite id cur _ found rfl rfl

/-- Each part of the site takes its own steps. -/
structure Parts (cfg : Elevation.Config) (configured : Int) (parses : String -> Bool) (site : Site)
    (event : Event) (next : Site) : Prop where
  sessions : next.sessions = site.sessions ∨ Exists fun shown =>
    Sessions.step cfg configured site.sessions shown = some next.sessions
  ledger : next.ledger = site.ledger ∨ Exists fun call => event = .account call ∧
    Identity.step site.ledger call = some next.ledger
  schedules : next.schedules = site.schedules ∨ Exists fun action => event = .backup action ∧
    Schedules.step parses site.schedules action = some next.schedules

theorem tick_eq (site : Site) (id : String) :
    Exists fun runs => site.tick id = { site with runs } := by
  unfold Site.tick
  cases site.schedules.rows.get? id with
  | none => exact ⟨site.runs, rfl⟩
  | some b =>
      cases off : b.disabled with
      | true => exact ⟨site.runs, by simp [off]⟩
      | false => exact ⟨site.runs ++ [(id, b)], by simp [off]⟩

theorem step_parts {event : Event} (taken : step cfg configured parses site event = some next) :
    Parts cfg configured parses site event next := by
  cases event with
  | createUser u uuid now writeError =>
      cases Option.some.inj taken
      exact ⟨Or.inl rfl, Or.inl rfl, Or.inl rfl⟩
  | deleteUser param writeError =>
      cases Option.some.inj taken
      exact ⟨Or.inl rfl, Or.inl rfl, Or.inl rfl⟩
  | policies enforcer =>
      cases Option.some.inj taken
      exact ⟨Or.inl rfl, Or.inl rfl, Or.inl rfl⟩
  | session event =>
      rcases Option.map_eq_some_iff.mp taken with ⟨sessions, moved, rfl⟩
      exact ⟨Or.inr ⟨_, moved⟩, Or.inl rfl, Or.inl rfl⟩
  | account call =>
      rcases Option.map_eq_some_iff.mp taken with ⟨ledger, moved, rfl⟩
      exact ⟨Or.inl rfl, Or.inr ⟨call, rfl, moved⟩, Or.inl rfl⟩
  | backup action =>
      rcases Option.map_eq_some_iff.mp taken with ⟨schedules, moved, rfl⟩
      exact ⟨Or.inl rfl, Or.inl rfl, Or.inr ⟨action, rfl, moved⟩⟩
  | tick id =>
      simp only [step] at taken
      split at taken
      · cases taken
      · rcases tick_eq site id with ⟨runs, same⟩
        cases same.symm.trans (Option.some.inj taken)
        exact ⟨Or.inl rfl, Or.inl rfl, Or.inl rfl⟩

theorem Site.Sound.step {event : Event} (sound : site.Sound parses)
    (taken : step cfg configured parses site event = some next) : next.Sound parses := by
  have parts := step_parts taken
  constructor
  · rcases parts.ledger with same | ⟨call, _, moved⟩
    · rw [same]
      exact sound.keyed
    · exact (call_change moved).keyed sound.keyed
  · rcases parts.schedules with same | ⟨action, _, moved⟩
    · rw [same]
      exact sound.schedules
    · exact sound.schedules.step moved

theorem boot_sound {rows : SortedStore String Backup} {now adminTTL : Int}
    (parsed : forall id b, rows.get? id = some b -> Schedules.Server.Parsed parses b) :
    (boot parses rows now adminTTL).Sound parses :=
  ⟨⟨by rintro _ _ ⟨⟩, by rintro _ _ _ _ ⟨⟩⟩, Schedules.Server.boot_sound parsed⟩

/-! ## What is not deleted -/

/-- The tokens that were issued stay so. -/
theorem tokens_kept {event : Event} {issued : Sessions.Issued}
    (known : issued ∈ site.sessions.tokens)
    (taken : step cfg configured parses site event = some next) :
    issued ∈ next.sessions.tokens := by
  rcases (step_parts taken).sessions with same | ⟨shown, moved⟩
  · rw [same]
    exact known
  · generalize next.sessions = later at moved ⊢
    cases Sessions.step_moved moved with
    | waited nanoseconds => exact known
    | set adminTTL => exact known
    | unchanged event => exact known
    | opened event userID role uiAdmin => exact List.mem_append_left _ known
    | arrived cookie endpoint known' live => exact known
    | answered call world known' => exact List.mem_append_left _ known

/-- The row is the account's but for the time of its last use. -/
def HasKey (accounts : Accounts) (sa : ServiceAccount) : Prop :=
  Exists fun lastUsedAt => accounts.get? sa.id = some { sa with lastUsedAt }

/-- No call but a use is about the account. -/
def SparesAccount (id : String) : Event -> Prop
  | .account (.update other _ _) => other ≠ id
  | .account (.rotate other _) => other ≠ id
  | .account (.delete other _) => other ≠ id
  | _ => True

theorem HasKey.put {accounts : Accounts} {sa row : ServiceAccount} (has : HasKey accounts sa)
    {id : String} (apart : id ≠ sa.id) : HasKey (accounts.put id row) sa := by
  rcases has with ⟨lastUsedAt, found⟩
  refine ⟨lastUsedAt, ?_⟩
  rw [SortedStore.get?_put_of_ne _ _ (Ne.symm apart)]
  exact found

theorem HasKey.step {ledger later : Identity.Ledger} {call : Identity.Call} {sa : ServiceAccount}
    (has : HasKey ledger.accounts sa) (spared : SparesAccount sa.id (.account call))
    (taken : Identity.step ledger call = some later) : HasKey later.accounts sa := by
  rcases Identity.step_eq taken with ⟨enabled, rfl⟩
  cases call with
  | create template io =>
      simp only [Identity.Call.Enabled, Identity.Call.after, Identity.note_accounts] at *
      rcases create_cases ledger.accounts template io with ⟨_, _, same⟩ | ⟨name, _, same⟩
      · rw [same enabled.1]
        exact has
      · rw [same]
        refine has.put ?_
        intro own
        rcases has with ⟨lastUsedAt, found⟩
        rw [← own, enabled.1] at found
        cases found
  | update id patch io =>
      simp only [SparesAccount, Identity.Call.after] at *
      rcases update_cases ledger.accounts id patch io with ⟨_, _, same⟩ | ⟨_, _, _, _, _, same⟩
      · rw [same]
        exact has
      · rw [same]
        exact has.put spared
  | rotate id io =>
      simp only [SparesAccount, Identity.Call.after, Identity.note_accounts] at *
      rcases rotate_cases ledger.accounts id io with same | ⟨_, _, _, _, same⟩
      · rw [same]
        exact has
      · rw [same]
        exact has.put spared
  | delete id io =>
      simp only [SparesAccount, Identity.Call.after] at *
      rcases delete_cases ledger.accounts id io with same | ⟨_, _, _, same⟩
      · rw [same]
        exact has
      · rw [same]
        exact has.put spared
  | touchLastUsed id io =>
      simp only [Identity.Call.after] at *
      rcases touchLastUsed_cases ledger.accounts ledger.lastTouchPersist id io with
        same | ⟨cur, _, found, same⟩
      · rw [same]
        exact has
      · rw [same]
        by_cases own : id = sa.id
        · rcases has with ⟨lastUsedAt, there⟩
          rw [own] at found ⊢
          cases found.symm.trans there
          exact ⟨some io.now, SortedStore.get?_put_self _ _ _⟩
        · exact has.put own

/-- The backup that a request in flight is about. -/
def about : Stage -> Option String
  | .idle => none
  | .adding id _ => some id
  | .reloading id => some id
  | .removing id _ => some id
  | .dropping id => some id

/-- The backup is stored and has entries, and no request is about it. -/
structure Rests (id : String) (b : Backup) (entries : List String) (server : Schedules.Server) :
    Prop where
  row : server.rows.get? id = some b
  entries : server.table.registered id = entries
  quiet : forall call, about (server.requests call) ≠ some id

/-- No update and no deletion of the backup is asked for. -/
def SparesBackup (id : String) : Event -> Prop
  | .backup (.update _ _ other _) => other ≠ id
  | .backup (.delete _ _ other) => other ≠ id
  | _ => True

theorem registered_add_elsewhere {table : CronTable} (sound : table.Sound) {other id : String}
    (b : Backup) (apart : id ≠ other) :
    (table.add parses other b).registered id = table.registered id := by
  by_cases schedulable : Schedules.isSchedulable b = true
  · by_cases parsed : parses b.schedule = true
    · rw [CronTable.registered_add sound other schedulable parsed, if_neg apart]
    · unfold CronTable.add
      rw [if_pos schedulable, if_neg parsed]
  · unfold CronTable.add
    rw [if_neg schedulable]

section

variable {server later : Schedules.Server} {id : String} {b : Backup} {entries : List String}

/-- A request about another backup goes on. -/
theorem Rests.quiet_update (rests : Rests id b entries server) {call : Nat} {stage : Stage}
    (apart : about stage ≠ some id) (other : Nat) :
    about (Function.update server.requests call stage other) ≠ some id := by
  by_cases same : other = call
  · rwa [same, Function.update_self]
  · rw [Function.update_of_ne same]
    exact rests.quiet other

theorem Rests.ne_of_stage (rests : Rests id b entries server) {call : Nat} {stage : Stage}
    {other : String} (here : server.requests call = stage) (named : about stage = some other) :
    other ≠ id := by
  rintro rfl
  apply rests.quiet call
  rw [here]
  exact named

theorem Rests.step {action : Schedules.Action} (rests : Rests id b entries server)
    (sound : server.Sound parses) (spared : SparesBackup id (.backup action))
    (taken : Schedules.step parses server action = some later) : Rests id b entries later := by
  have stored : id ∈ server.issued := (sound.rows id b rests.row).1
  have named : forall {other : String}, other ≠ id -> some other ≠ some id :=
    fun apart same => apart (Option.some.inj same)
  cases Schedules.Server.step_moves taken with
  | refused quiet => exact rests
  | created call uuid userID req idle fresh accepted =>
      have apart : uuid ≠ id := fun same => fresh (same ▸ stored)
      refine ⟨?_, rests.entries, rests.quiet_update (named apart)⟩
      exact (SortedStore.get?_put_of_ne _ _ (Ne.symm apart)).trans rests.row
  | updated call userID other req held idle found accepted =>
      refine ⟨?_, rests.entries, rests.quiet_update (named spared)⟩
      exact (SortedStore.get?_put_of_ne _ _ (Ne.symm spared)).trans rests.row
  | deleted call userID other held idle found =>
      refine ⟨?_, rests.entries, rests.quiet_update (named spared)⟩
      exact (SortedStore.get?_erase _ _ _).trans ((if_neg (Ne.symm spared)).trans rests.row)
  | reloaded call other held stage found =>
      exact ⟨rests.row, rests.entries, rests.quiet_update (named (rests.ne_of_stage stage rfl))⟩
  | vanished call other stage gone =>
      exact ⟨rests.row, rests.entries, rests.quiet_update (named (rests.ne_of_stage stage rfl))⟩
  | removed call other held stage =>
      have apart := rests.ne_of_stage stage rfl
      refine ⟨rests.row, ?_, rests.quiet_update (named apart)⟩
      exact (CronTable.registered_remove sound.table other id).trans
        ((if_neg (Ne.symm apart)).trans rests.entries)
  | dropped call other stage =>
      have apart := rests.ne_of_stage stage rfl
      refine ⟨rests.row, ?_, rests.quiet_update (by rintro ⟨⟩)⟩
      exact (CronTable.registered_remove sound.table other id).trans
        ((if_neg (Ne.symm apart)).trans rests.entries)
  | added call other held stage =>
      have apart := rests.ne_of_stage stage rfl
      refine ⟨rests.row, ?_, rests.quiet_update (by rintro ⟨⟩)⟩
      exact (registered_add_elsewhere sound.table held (Ne.symm apart)).trans rests.entries

end

/-! ## What the middleware and the scheduler do -/

theorem authenticate_cookie {compare : String -> String -> Bool} {token : Token}
    (live : token.live site.sessions.now = true) :
    site.authenticate compare { cookie := some token } = .ok token.claims := by
  unfold Site.authenticate ServiceAccounts.authenticate
  simp only [parseToken_eq_some.mpr ⟨live, rfl⟩]

/-- A bearer key passes if its account is neither revoked nor expired and the secret is right. -/
theorem authenticate_bearer {compare : String -> String -> Bool} {sa : ServiceAccount}
    {payload secret : String} (keyed : Keyed site.ledger.accounts)
    (has : HasKey site.ledger.accounts sa)
    (carried : splitBearerPayload payload = some (sa.accessKeyID, secret))
    (usable : sa.usable site.sessions.now = true)
    (matches' : compare sa.secretKeyHash secret = true) :
    site.authenticate compare { bearer := some payload } = .ok sa.claims := by
  rcases has with ⟨lastUsedAt, stored⟩
  have found : findByAccessKey site.ledger.accounts sa.accessKeyID = some { sa with lastUsedAt } :=
    findByAccessKey_eq keyed stored
  have verified : verifySecret compare site.ledger.accounts site.sessions.now sa.accessKeyID secret =
      .ok true := by
    have both : (sa.usable site.sessions.now && compare sa.secretKeyHash secret) = true := by
      rw [usable, matches']
      rfl
    unfold verifySecret
    rw [found]
    exact congrArg Except.ok both
  have parts : sa.isRevoked = false ∧ sa.isExpired site.sessions.now = false := by
    unfold ServiceAccount.usable at usable
    simp only [Bool.and_eq_true, Bool.not_eq_true'] at usable
    exact usable.1
  have revoked : ({ sa with lastUsedAt } : ServiceAccount).isRevoked = false := parts.1
  have expired : ({ sa with lastUsedAt } : ServiceAccount).isExpired site.sessions.now = false :=
    parts.2
  unfold Site.authenticate ServiceAccounts.authenticate handleBearer
  simp only [carried, found, revoked, expired, verified, Bool.false_eq_true, if_false, if_true]
  rfl

theorem tick_runs {id : String} {b : Backup} {entries : List String}
    (rests : Rests id b entries site.schedules) (scheduled : entries ≠ [])
    (enabled : b.disabled = false) :
    step cfg configured parses site (.tick id) =
      some { site with runs := site.runs ++ [(id, b)] } := by
  have fired : site.schedules.table.registered id ≠ [] := by
    rw [rests.entries]
    exact scheduled
  simp only [step, if_neg fired]
  unfold Site.tick
  rw [rests.row]
  simp [enabled]

/-! ## Elevations -/

theorem credentials_get? (users : Users) (id : String) :
    (credentials users).get? id = (users.find? fun u => u.id = id).map fun u =>
      ⟨u.passwordHash, u.provider, u.subject⟩ := by
  induction users with
  | nil => rfl
  | cons u rest ih =>
      have folded : credentials (u :: rest) =
          (credentials rest).put u.id ⟨u.passwordHash, u.provider, u.subject⟩ := rfl
      rw [folded, SortedStore.get?_put, List.find?_cons]
      by_cases own : u.id = id
      · rw [if_pos own.symm, decide_eq_true own]
        rfl
      · rw [if_neg (Ne.symm own), decide_eq_false own]
        exact ih

/-- A session whose user is not stored is not elevated with a password, unless it is the
environment admin's. -/
theorem elevate_needs_user {users : Users} {userID password targetMode : String} {session : Nat}
    (gone : forall u, u ∈ users -> u.id ≠ userID) (stored : userID ≠ cfg.adminUser) :
    (Elevation.elevate cfg (credentials users) session userID password targetMode).toOption =
      none := by
  have absent : (credentials users).get? userID = none := by
    rw [credentials_get?, Option.map_eq_none_iff, List.find?_eq_none]
    intro u listed
    simpa using gone u listed
  unfold Elevation.elevate
  cases Elevation.parseTargetMode targetMode with
  | none => rfl
  | some target =>
      have local' : Elevation.oidcOnly cfg (credentials users) userID = false := by
        unfold Elevation.oidcOnly
        rw [if_neg stored, absent]
      have refused : Elevation.verifyElevationPassword cfg (credentials users) userID password =
          none := by
        unfold Elevation.verifyElevationPassword Elevation.passwordHashOf
        rw [if_neg stored, absent]
        split
        · rfl
        · rfl
      simp only [local', refused, Bool.false_eq_true, if_false]
      rfl

/-! ## Runs with a deletion -/

section

variable {rows : SortedStore String Backup} {now adminTTL : Int} {before after : List Event}
  {final : Site} {param : String} {writeError : Option String}

theorem tokens_kept_run {issued : Sessions.Issued}
    (run : exec (step cfg configured parses) site after = some final)
    (known : issued ∈ site.sessions.tokens) : issued ∈ final.sessions.tokens :=
  @exec_invariant _ _ (step cfg configured parses) (fun site => issued ∈ site.sessions.tokens)
    (fun _ _ _ held taken => tokens_kept held taken) _ _ _ known run

theorem hasKey_run {sa : ServiceAccount}
    (run : exec (step cfg configured parses) site after = some final)
    (has : HasKey site.ledger.accounts sa)
    (spared : forall event, event ∈ after -> SparesAccount sa.id event) :
    HasKey final.ledger.accounts sa := by
  refine @exec_invariant_of_allowed _ _ (step cfg configured parses) (SparesAccount sa.id)
    (fun site => HasKey site.ledger.accounts sa) ?_ _ _ _ has spared run
  intro site event next held spares taken
  rcases (step_parts taken).ledger with same | ⟨call, rfl, moved⟩
  · rw [same]
    exact held
  · exact held.step spares moved

theorem rests_run {id : String} {b : Backup} {entries : List String}
    (run : exec (step cfg configured parses) site after = some final) (sound : site.Sound parses)
    (rests : Rests id b entries site.schedules)
    (spared : forall event, event ∈ after -> SparesBackup id event) :
    Rests id b entries final.schedules := by
  have both : final.Sound parses ∧ Rests id b entries final.schedules := by
    refine @exec_invariant_of_allowed _ _ (step cfg configured parses) (SparesBackup id)
      (fun site => site.Sound parses ∧ Rests id b entries site.schedules) ?_ _ _ _ ⟨sound, rests⟩
      spared run
    rintro site event next ⟨sound, held⟩ spares taken
    refine ⟨sound.step taken, ?_⟩
    rcases (step_parts taken).schedules with same | ⟨action, rfl, moved⟩
    · rw [same]
      exact held
    · exact held.step sound.schedules spares moved
  exact both.2

end

/-! ## A user whose access outlives her -/

def SessionsEnded (compare : String -> String -> Bool) (site final : Site) (u : User) : Prop :=
  forall issued, issued ∈ site.sessions.tokens -> issued.token.claims.userID = u.id ->
    forall claims, final.authenticate compare { cookie := some issued.token } ≠ .ok claims

def KeysEnded (compare : String -> String -> Bool) (site final : Site) (u : User) : Prop :=
  forall id sa, site.ledger.accounts.get? id = some sa -> sa.ownerUserID = u.id ->
    forall payload secret claims, splitBearerPayload payload = some (sa.accessKeyID, secret) ->
      final.authenticate compare { bearer := some payload } ≠ .ok claims

def BackupsEnded (site final : Site) (u : User) : Prop :=
  forall later, final.runs = site.runs ++ later ->
    forall entry, entry ∈ later -> entry.2.ownerUserID ≠ u.id

def aliceConfig : Elevation.Config := ⟨"admin", "hash", none, fun _ password => password = "secret"⟩

def alice : User := { id := "u-alice", username := "alice", role := "user", created := 1 }

/-- Alice redeems an invite, makes a service account and sets up a nightly backup. -/
def aliceMovesIn : List Event :=
  [.createUser alice "" 1 none, .session (.redeem "hunter2" true "u-alice"),
    .account (.create ⟨"u-alice", "ci-prod", [], [], none⟩ viewerIO),
    .backup (.create 0 "b1" "u-alice" (Schedules.Server.nightly "0 2 * * *")), .backup (.add 0)]

def aliceToken : Sessions.Issued :=
  ⟨Sessions.issueToken "u-alice" "user" false 0 (sessionTTL 0), 0⟩

def emptySite : Site := boot (fun _ => true) SortedStore.empty 0 900

def aliceSite : Site :=
  (exec (step aliceConfig 0 fun _ => true) emptySite aliceMovesIn).getD emptySite

/-- Alice is deleted, and her backup's time comes. -/
def aliceLeaves : List Event := [.deleteUser "alice" none, .tick "b1"]

def siteWithoutAlice : Site :=
  (exec (step aliceConfig 0 fun _ => true) aliceSite aliceLeaves).getD aliceSite

end UserDeletion
end Api
end Basement
