import Basement.Library.SortedStore
import Basement.Library.Transition
import Mathlib.Data.String.Basic

namespace Basement
namespace Api
namespace Elevation

open Library

/-!
# Stepping up to admin mode

A session is upgraded to admin mode by its user's password, or by a fresh login
at the identity provider.  The OIDC path takes two requests.  The start mints a
state and a nonce and remembers whose session asked; the callback takes the state
out of the map, exchanges the code and checks the ID token it gets.

The identity provider is the environment: a callback carries the answer of the
code exchange, which may be a token for any subject.  A token verifies when its
signature, audience and expiry are in order and its issuer is the configured one.
State and nonce come from `randomHex(16)`, so a start is enabled only with a state
that has not been minted before.  Password hashing is a parameter.
-/

/-! ## Configuration and requests -/

/-- The user record's credentials.  `provider` and `subject` identify the person
at the identity provider and are empty for a local account. -/
structure User where
  passwordHash : String := ""
  provider : String := ""
  subject : String := ""
  deriving DecidableEq, Repr

structure Config where
  adminUser : String
  adminHash : String
  /-- The configured issuer, absent when OIDC is not set up. -/
  oidc : Option String
  verifyPassword : String -> String -> Bool

abbrev Users := SortedStore String User

/-- Modes a session can be in; the upgrade target is always `admin`. -/
inductive Mode where
  | user
  | admin
  deriving DecidableEq, Repr

/-- The target mode of a request, with the legacy name accepted. -/
def parseTargetMode (requested : String) : Option Mode :=
  let target := if requested = "elevated" then "admin" else requested
  if target = "admin" then some .admin else none

structure IDToken where
  issuer : String
  subject : String
  nonce : String
  /-- The `auth_time` claim in Unix seconds, zero when absent. -/
  authTime : Int
  /-- Signature, audience and expiry are in order. -/
  signed : Bool
  deriving DecidableEq, Repr

/-- The answer to the code exchange. -/
inductive Exchange where
  | failed
  | withoutToken
  | token (idToken : IDToken)
  deriving DecidableEq, Repr

inductive ElevationError where
  | oidcNotConfigured
  | invalidTargetMode
  | stateMissing
  | stateInvalid
  | codeMissing
  | exchangeFailed
  | idTokenMissing
  | idTokenInvalid
  | authTimeStale
  | requiresOIDC
  | invalidPassword
  deriving DecidableEq, Repr

/-- What an upgrade was granted on. -/
inductive Evidence where
  | password (hash : String)
  | idToken (issuer subject : String)
  deriving DecidableEq, Repr

/-- A session of a user that was upgraded, with the OIDC state it used. -/
structure Upgrade where
  session : Nat
  userID : String
  mode : Mode
  evidence : Evidence
  state : Option String
  deriving DecidableEq, Repr

/-! ## The state store -/

/-- Nanoseconds in a second, and the lifetime of a state. -/
def second : Int := 1000000000

def oidcElevationStateTTL : Int := 5 * 60 * second

/-- How far `auth_time` may lie from the server's clock, in seconds. -/
def oidcElevationAuthTimeFreshness : Int := 60

structure StateEntry where
  targetMode : Mode
  userID : String
  nonce : String
  createdAt : Int
  deriving DecidableEq, Repr

abbrev StateStore := SortedStore String StateEntry

def StateEntry.live (now : Int) (entry : StateEntry) : Bool :=
  decide (now - entry.createdAt ≤ oidcElevationStateTTL)

/-- `oidcElevationStateStore.put`: sweep what has expired, then insert. -/
def StateStore.insert (store : StateStore) (now : Int) (state : String) (entry : StateEntry) :
    StateStore :=
  (store.filter (StateEntry.live now)).put state entry

/-- `oidcElevationStateStore.take`: a state is removed whether or not it is live. -/
def StateStore.take (store : StateStore) (now : Int) (state : String) :
    Option StateEntry × StateStore :=
  match store.get? state with
  | none => (none, store)
  | some entry => (if entry.live now then some entry else none, store.erase state)

/-! ## The handlers -/

/-- `VerifyIDTokenWithAuthTime`: the claims and `auth_time` of an accepted token. -/
def verifyIDTokenWithAuthTime (issuer : String) (token : IDToken) (expectedNonce : String) :
    Option ((String × String) × Int) :=
  if token.signed = true ∧ token.issuer = issuer then
    if expectedNonce = "" ∨ token.nonce ≠ expectedNonce then none
    else some ((token.issuer, token.subject), token.authTime)
  else none

/-- `auth_time` is present and within the freshness window on either side. -/
def freshAuthTime (now authTime : Int) : Bool :=
  let authDelta := now / second - authTime
  !(decide (authTime ≤ 0) || decide (authDelta > oidcElevationAuthTimeFreshness) ||
    decide (authDelta < -oidcElevationAuthTimeFreshness))

/-- `elevateOIDCStartHandler`, for an authenticated session of `userID`. -/
def elevateOIDCStart (cfg : Config) (store : StateStore) (now : Int) (userID targetMode : String)
    (state nonce : String) : Except ElevationError Unit × StateStore :=
  match cfg.oidc with
  | none => (.error .oidcNotConfigured, store)
  | some _ =>
      match parseTargetMode targetMode with
      | none => (.error .invalidTargetMode, store)
      | some target => (.ok (), store.insert now state ⟨target, userID, nonce, now⟩)

/-- `elevateOIDCCallbackHandler`, for an authenticated session of `userID`.  The
claims of the verified token are not looked at; the evidence records them. -/
def elevateOIDCCallback (cfg : Config) (store : StateStore) (now : Int) (session : Nat)
    (userID queryState code : String) (exchange : Exchange) :
    Except ElevationError Upgrade × StateStore :=
  match cfg.oidc with
  | none => (.error .oidcNotConfigured, store)
  | some issuer =>
      if queryState = "" then (.error .stateMissing, store)
      else
        match store.take now queryState with
        | (none, rest) => (.error .stateInvalid, rest)
        | (some entry, rest) =>
            if entry.userID ≠ userID then (.error .stateInvalid, rest)
            else if code = "" then (.error .codeMissing, rest)
            else
              match exchange with
              | .failed => (.error .exchangeFailed, rest)
              | .withoutToken => (.error .idTokenMissing, rest)
              | .token token =>
                  match verifyIDTokenWithAuthTime issuer token entry.nonce with
                  | none => (.error .idTokenInvalid, rest)
                  | some ((provider, subject), authTime) =>
                      if freshAuthTime now authTime then
                        (.ok ⟨session, userID, entry.targetMode, .idToken provider subject,
                          some queryState⟩, rest)
                      else (.error .authTimeStale, rest)

/-- The hash `verifyElevationPassword` checks for a user. -/
def passwordHashOf (cfg : Config) (users : Users) (userID : String) : Option String :=
  if userID = cfg.adminUser then some cfg.adminHash
  else
    match users.get? userID with
    | none => none
    | some user => if user.passwordHash = "" then none else some user.passwordHash

/-- `verifyElevationPassword`, answering with the hash that was matched. -/
def verifyElevationPassword (cfg : Config) (users : Users) (userID password : String) :
    Option String :=
  if password = "" then none
  else (passwordHashOf cfg users userID).filter fun hash => cfg.verifyPassword hash password

/-- An account that can only sign in through the identity provider. -/
def oidcOnly (cfg : Config) (users : Users) (userID : String) : Bool :=
  if userID = cfg.adminUser then false
  else
    match users.get? userID with
    | none => false
    | some user => user.passwordHash == "" && user.provider != ""

/-- `elevateHandler`, for an authenticated session of `userID`. -/
def elevate (cfg : Config) (users : Users) (session : Nat) (userID password targetMode : String) :
    Except ElevationError Upgrade :=
  match parseTargetMode targetMode with
  | none => .error .invalidTargetMode
  | some target =>
      if oidcOnly cfg users userID then
        match cfg.oidc with
        | none => .error .oidcNotConfigured
        | some _ => .error .requiresOIDC
      else
        match verifyElevationPassword cfg users userID password with
        | none => .error .invalidPassword
        | some hash => .ok ⟨session, userID, target, .password hash, none⟩

/-! ## The system -/

/-- The server's elevation state, the states it has minted and the upgrades it
has granted. -/
structure Server where
  clock : Int
  store : StateStore
  minted : List String
  upgrades : List Upgrade

/-- A request of a session, or the passing of time.  The session middleware has
authenticated `userID`. -/
inductive Request where
  | wait (nanoseconds : Nat)
  | start (userID targetMode state nonce : String)
  | callback (session : Nat) (userID queryState code : String) (exchange : Exchange)
  | password (session : Nat) (userID password targetMode : String)
  deriving DecidableEq, Repr

/-- Remember an upgrade when there is one. -/
def Server.grant (server : Server) (answer : Except ElevationError Upgrade) : Server :=
  match answer with
  | .ok upgrade => { server with upgrades := server.upgrades ++ [upgrade] }
  | .error _ => server

def step (cfg : Config) (users : Users) (server : Server) : Request -> Option Server
  | .wait nanoseconds => some { server with clock := server.clock + nanoseconds }
  | .start userID targetMode state nonce =>
      if state ∈ server.minted then none
      else
        some { server with
          store := (elevateOIDCStart cfg server.store server.clock userID targetMode state nonce).2
          minted := state :: server.minted }
  | .callback session userID queryState code exchange =>
      let answer := elevateOIDCCallback cfg server.store server.clock session userID queryState code
        exchange
      some (Server.grant { server with store := answer.2 } answer.1)
  | .password session userID password targetMode =>
      some (server.grant (elevate cfg users session userID password targetMode))

def Server.Fresh (server : Server) : Prop :=
  server.store = SortedStore.empty ∧ server.minted = [] ∧ server.upgrades = []

/-! ## Whose evidence an upgrade rests on -/

/-- The evidence is the user's own: the hash stored for the user, or the issuer
and subject stored for the user. -/
def Evidence.BelongsTo (cfg : Config) (users : Users) (userID : String) : Evidence -> Prop
  | .password hash => passwordHashOf cfg users userID = some hash
  | .idToken issuer subject =>
      Exists fun user => users.get? userID = some user ∧ user.provider = issuer ∧
        user.subject = subject

/-- The identity provider signs in the person the session belongs to: a token
that verifies names the issuer and subject stored for the session's user. -/
def SamePersonSignsIn (users : Users) (_server : Server) : Request -> Prop
  | .callback _ userID _ _ (.token token) => token.signed = true ->
      Exists fun user => users.get? userID = some user ∧ user.provider = token.issuer ∧
        user.subject = token.subject
  | _ => True

theorem elevate_belongs {cfg : Config} {users : Users} {session : Nat}
    {userID password targetMode : String} {upgrade : Upgrade}
    (granted : elevate cfg users session userID password targetMode = .ok upgrade) :
    upgrade.evidence.BelongsTo cfg users upgrade.userID ∧ upgrade.state = none := by
  unfold elevate at granted
  split at granted
  · cases granted
  · split at granted
    · split at granted <;> cases granted
    · split at granted
      · cases granted
      · rename_i hash verified
        cases Except.ok.inj granted
        refine ⟨?_, rfl⟩
        unfold verifyElevationPassword at verified
        split at verified
        · cases verified
        · exact (Option.filter_eq_some_iff.mp verified).1

theorem take_cases (store : StateStore) (now : Int) (state : String) :
    (store.take now state = (none, store)) ∨ (store.take now state = (none, store.erase state)) ∨
    Exists fun entry => store.get? state = some entry ∧
      store.take now state = (some entry, store.erase state) := by
  unfold StateStore.take
  cases found : store.get? state with
  | none => exact Or.inl rfl
  | some entry =>
      cases live : entry.live now with
      | true => exact Or.inr (Or.inr ⟨entry, rfl, by simp [live]⟩)
      | false => exact Or.inr (Or.inl (by simp [live]))

/-- An accepted token was signed, and its own issuer and subject are handed on. -/
theorem verifyIDTokenWithAuthTime_eq_some {issuer expectedNonce provider subject : String}
    {token : IDToken} {authTime : Int}
    (accepted : verifyIDTokenWithAuthTime issuer token expectedNonce =
      some ((provider, subject), authTime)) :
    token.signed = true ∧ provider = token.issuer ∧ subject = token.subject := by
  unfold verifyIDTokenWithAuthTime at accepted
  split at accepted
  · rename_i valid
    split at accepted
    · cases accepted
    · cases Option.some.inj accepted
      exact ⟨valid.1, rfl, rfl⟩
  · cases accepted

/-- What a callback does: the map loses at most the state, and an upgrade rests on
a signed token and on an entry of the same user that was in the map. -/
theorem elevateOIDCCallback_cases (cfg : Config) (store : StateStore) (now : Int) (session : Nat)
    (userID queryState code : String) (exchange : Exchange) :
    (Exists fun error => Exists fun rest => (rest = store ∨ rest = store.erase queryState) ∧
      elevateOIDCCallback cfg store now session userID queryState code exchange =
        (.error error, rest)) ∨
    Exists fun token => Exists fun entry => exchange = .token token ∧ token.signed = true ∧
      store.get? queryState = some entry ∧ entry.userID = userID ∧
      elevateOIDCCallback cfg store now session userID queryState code exchange =
        (.ok ⟨session, userID, entry.targetMode, .idToken token.issuer token.subject,
          some queryState⟩, store.erase queryState) := by
  unfold elevateOIDCCallback
  cases cfg.oidc with
  | none => exact Or.inl ⟨_, store, Or.inl rfl, rfl⟩
  | some issuer =>
      by_cases missing : queryState = ""
      · exact Or.inl ⟨.stateMissing, store, Or.inl rfl, by simp only [if_pos missing]⟩
      · simp only [if_neg missing]
        rcases take_cases store now queryState with absent | expired | ⟨entry, found, taken⟩
        · exact Or.inl ⟨.stateInvalid, store, Or.inl rfl, by simp only [absent]⟩
        · exact Or.inl ⟨.stateInvalid, _, Or.inr rfl, by simp only [expired]⟩
        · simp only [taken]
          by_cases other : entry.userID ≠ userID
          · exact Or.inl ⟨.stateInvalid, _, Or.inr rfl, by simp only [if_pos other]⟩
          · simp only [if_neg other]
            by_cases uncoded : code = ""
            · exact Or.inl ⟨.codeMissing, _, Or.inr rfl, by simp only [if_pos uncoded]⟩
            · simp only [if_neg uncoded]
              cases exchange with
              | failed => exact Or.inl ⟨_, _, Or.inr rfl, rfl⟩
              | withoutToken => exact Or.inl ⟨_, _, Or.inr rfl, rfl⟩
              | token token =>
                  cases accepted : verifyIDTokenWithAuthTime issuer token entry.nonce with
                  | none => exact Or.inl ⟨.idTokenInvalid, _, Or.inr rfl, by simp only [accepted]⟩
                  | some claims =>
                      rcases claims with ⟨⟨provider, subject⟩, authTime⟩
                      rcases verifyIDTokenWithAuthTime_eq_some accepted with ⟨signed, rfl, rfl⟩
                      cases recent : freshAuthTime now authTime with
                      | false => exact Or.inl ⟨.authTimeStale, _, Or.inr rfl, by simp [accepted, recent]⟩
                      | true =>
                          exact Or.inr ⟨token, entry, rfl, signed, found, not_not.mp other,
                            by simp [accepted, recent]⟩

/-- Upgrades rest on their users' evidence; a state is in the map only while it
has been minted and not used, and it is used once at most. -/
structure StepUpInv (cfg : Config) (users : Users) (server : Server) : Prop where
  evidence : forall upgrade, upgrade ∈ server.upgrades ->
    upgrade.evidence.BelongsTo cfg users upgrade.userID
  unused : forall state entry, server.store.get? state = some entry ->
    state ∈ server.minted ∧ forall upgrade, upgrade ∈ server.upgrades -> upgrade.state ≠ some state
  minted : forall upgrade state, upgrade ∈ server.upgrades -> upgrade.state = some state ->
    state ∈ server.minted
  once : forall state, server.upgrades.countP (fun upgrade => upgrade.state == some state) ≤ 1

variable {cfg : Config} {users : Users} {server next : Server} {request : Request}

/-- Losing entries of the map keeps the invariant. -/
theorem StepUpInv.of_fewer_entries (invariant : StepUpInv cfg users server) {rest : StateStore}
    (fewer : forall state entry, rest.get? state = some entry ->
      server.store.get? state = some entry) :
    StepUpInv cfg users { server with store := rest } :=
  ⟨invariant.evidence, fun state entry found => invariant.unused state entry (fewer _ _ found),
    invariant.minted, invariant.once⟩

/-- Granting an upgrade on the user's own evidence, with a state that has left the
map unused or with none, keeps the invariant. -/
theorem StepUpInv.grant (invariant : StepUpInv cfg users server) {upgrade : Upgrade}
    (own : upgrade.evidence.BelongsTo cfg users upgrade.userID)
    (spent : forall state, upgrade.state = some state -> state ∈ server.minted ∧
      server.store.get? state = none ∧
      forall earlier, earlier ∈ server.upgrades -> earlier.state ≠ some state) :
    StepUpInv cfg users { server with upgrades := server.upgrades ++ [upgrade] } := by
  refine ⟨?_, ?_, ?_, ?_⟩
  · intro listed member
    rcases List.mem_append.mp member with earlier | last
    · exact invariant.evidence listed earlier
    · exact List.mem_singleton.mp last ▸ own
  · intro state entry found
    have before := invariant.unused state entry found
    refine ⟨before.1, ?_⟩
    intro listed member
    rcases List.mem_append.mp member with earlier | last
    · exact before.2 listed earlier
    · intro used
      rw [List.mem_singleton.mp last] at used
      have gone := (spent state used).2.1
      exact absurd (gone.symm.trans found) (by simp)
  · intro listed state member used
    rcases List.mem_append.mp member with earlier | last
    · exact invariant.minted listed state earlier used
    · rw [List.mem_singleton.mp last] at used
      exact (spent state used).1
  · intro state
    rw [List.countP_append]
    by_cases used : upgrade.state = some state
    · have unused : server.upgrades.countP (fun upgrade => upgrade.state == some state) = 0 := by
        rw [List.countP_eq_zero]
        intro earlier member matching
        exact (spent state used).2.2 earlier member (beq_iff_eq.mp matching)
      simp [unused, used]
    · simpa [used] using invariant.once state

theorem StepUpInv.start (invariant : StepUpInv cfg users server) {userID targetMode state nonce : String}
    (unminted : state ∉ server.minted) :
    StepUpInv cfg users { server with
      store := (elevateOIDCStart cfg server.store server.clock userID targetMode state nonce).2
      minted := state :: server.minted } := by
  refine ⟨invariant.evidence, ?_, ?_, invariant.once⟩
  · intro other entry found
    have origin : other = state ∨ server.store.get? other = some entry := by
      unfold elevateOIDCStart at found
      split at found
      · exact Or.inr found
      · split at found
        · exact Or.inr found
        · simp only [StateStore.insert, SortedStore.get?_put] at found
          split at found
          · rename_i same
            exact Or.inl same
          · exact Or.inr (SortedStore.get?_filter.mp found).1
    rcases origin with rfl | earlier
    · refine ⟨List.mem_cons_self, ?_⟩
      intro upgrade member used
      exact unminted (invariant.minted upgrade other member used)
    · have before := invariant.unused other entry earlier
      exact ⟨List.mem_cons_of_mem _ before.1, before.2⟩
  · intro upgrade other member used
    exact List.mem_cons_of_mem _ (invariant.minted upgrade other member used)

theorem StepUpInv.step (invariant : StepUpInv cfg users server)
    (same : SamePersonSignsIn users server request)
    (taken : step cfg users server request = some next) : StepUpInv cfg users next := by
  cases request with
  | wait nanoseconds =>
      cases Option.some.inj taken
      exact ⟨invariant.evidence, invariant.unused, invariant.minted, invariant.once⟩
  | start userID targetMode state nonce =>
      simp only [Elevation.step] at taken
      split at taken
      · cases taken
      · rename_i unminted
        cases Option.some.inj taken
        exact invariant.start unminted
  | callback session userID queryState code exchange =>
      simp only [Elevation.step] at taken
      rcases elevateOIDCCallback_cases cfg server.store server.clock session userID queryState code
        exchange with ⟨error, rest, left, answer⟩ | ⟨token, entry, rfl, signed, found, _, answer⟩
      · rw [answer] at taken
        cases Option.some.inj taken
        apply invariant.of_fewer_entries
        intro state entry present
        rcases left with rfl | rfl
        · exact present
        · exact (SortedStore.get?_erase_eq_some.mp present).2
      · rw [answer] at taken
        cases Option.some.inj taken
        have before := invariant.unused queryState entry found
        refine (invariant.of_fewer_entries fun state other present =>
          (SortedStore.get?_erase_eq_some.mp present).2).grant (same signed) ?_
        intro state used
        cases Option.some.inj used
        exact ⟨before.1, by rw [SortedStore.get?_erase, if_pos rfl], before.2⟩
  | password session userID password targetMode =>
      simp only [Elevation.step] at taken
      cases answer : elevate cfg users session userID password targetMode with
      | error error =>
          rw [answer] at taken
          cases Option.some.inj taken
          exact invariant
      | ok upgrade =>
          rw [answer] at taken
          cases Option.some.inj taken
          have own := elevate_belongs answer
          apply invariant.grant own.1
          intro state used
          cases own.2.symm.trans used

/-- One OIDC account, and a server that trusts its provider. -/
def sampleConfig : Config := ⟨"admin", "hash", some "https://idp", fun _ _ => false⟩

def sampleUsers : Users := SortedStore.empty.put "ada" ⟨"", "https://idp", "sub-ada"⟩

def sampleServer : Server := ⟨100 * second, SortedStore.empty, [], []⟩

/-- A session of `ada` steps up while the provider signs the given subject in. -/
def stepUp (subject : String) : List Request :=
  [.start "ada" "admin" "state" "nonce",
    .callback 1 "ada" "state" "code" (.token ⟨"https://idp", subject, "nonce", 100, true⟩)]

end Elevation
end Api
end Basement
