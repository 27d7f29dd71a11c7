import Basement.ServiceAccounts.Gates
import Basement.ServiceAccounts.Lifetimes

namespace Basement
namespace ServiceAccounts

open Library
open Api (Refusal demand demand_eq_ok bind_eq_ok)

/-!
# Who may grant what

The handlers of `/admin/service-accounts`.  All of them ask for `host:manage_users`, and all but
the first only reach rows of their caller.  A request body that does not decode is `none`.

Creating an account takes each capability it is given at the capability's own scope.  An update
asks for the same, but only for the capabilities it brings: one that brings scopes alone is not
asked for anything, and a wider list of scopes lets the capabilities of the row through where
they were stopped before.
-/

/-! ## Checks of a body -/

/-- `strings.Split(scope, ":")`. -/
def scopeParts (scope : String) : List String := (scope.toList.splitOn ':').map String.ofList

/-- `validateServiceAccountScope`. -/
def validateServiceAccountScope (scope : String) : Except String Unit :=
  if scope = "" then .error "scope is required"
  else
    let domain := (scopeParts scope).headD ""
    let rest := (scopeParts scope).tail
    if domain = "host" then
      if rest = ["*"] then .ok () else .error "host scope must be host:*"
    else if domain = "cluster" then
      match rest with
      | [cid] =>
          if cid = "" then .error "cluster scope must be cluster:* or cluster:\x7bcid\x7d"
          else .ok ()
      | _ => .error "cluster scope must be cluster:* or cluster:\x7bcid\x7d"
    else if domain = "bucket" ∨ domain = "key" then
      match rest with
      | [cid, id] =>
          if cid = "" ∨ id = "" then .error (domain ++ " scope segments must be non-empty")
          else .ok ()
      | _ =>
          .error (domain ++ " scope must be " ++ domain ++ ":\x7bcid\x7d:* or " ++ domain ++
            ":\x7bcid\x7d:\x7bid\x7d")
    else .error ("unknown scope domain: " ++ domain)

/-- `validateServiceAccountCapabilities`. -/
def validateServiceAccountCapabilities (caps : List Capability) : Except String Unit :=
  caps.forM fun c => do
    validate c.id
    validateServiceAccountScope c.scope

/-- `validateServiceAccountScopes`. -/
def validateServiceAccountScopes (scopes : List String) : Except String Unit :=
  scopes.forM validateServiceAccountScope

/-- The capabilities that an expression is checked as: its leaves, or itself if it has none. -/
def grantedLeaves (capExpr : String) : List String :=
  if capExpr ≠ "" ∧ expand capExpr = [] then [capExpr] else expand capExpr

/-- `requireMinterAuthority`: the first capability that the minter does not hold. -/
def requireMinterAuthority (enforcer : Enforcer) (userID : String) (caps : List Capability) :
    Option (String × String) :=
  (caps.flatMap fun c => (grantedLeaves c.id).map fun leaf => (leaf, c.scope)).find? fun wanted =>
    !enforcer.can userID wanted.1 wanted.2

/-! ## The handlers -/

structure CreateServiceAccountRequest where
  name : String
  capabilities : List Capability
  scopes : List String
  expiresAt : Option Int := none
  deriving DecidableEq, Repr

/-- The body of an update; what is absent is left alone. -/
structure UpdateServiceAccountRequest where
  name : String := ""
  capabilities : Option (List Capability) := none
  scopes : Option (List String) := none
  expiresAt : Option Int := none
  deriving DecidableEq, Repr

def decoded {Body : Type} (body : Option Body) : Except Refusal Body :=
  body.elim (.error ⟨400, "INVALID_JSON", "Invalid JSON body", []⟩) .ok

/-- A failed check of the body, under its code. -/
def checked (code : String) (result : Except String Unit) : Except Refusal Unit :=
  result.mapError fun text => ⟨400, code, text, []⟩

/-- The refusal for a capability that the minter does not hold. -/
def withinAuthority (enforcer : Enforcer) (userID : String) (caps : List Capability) :
    Except Refusal Unit :=
  match requireMinterAuthority enforcer userID caps with
  | none => .ok ()
  | some wanted =>
      .error ⟨403, "INSUFFICIENT_PRIVILEGE",
        "A service account cannot be granted a capability the minter does not hold.",
        [("capability", wanted.1), ("scope", wanted.2)]⟩

def notFound : Refusal := ⟨404, "NOT_FOUND", "Service account not found", []⟩

/-- The response to an error of the store's `Create` and, but for a missing row, of `Update`. -/
def storeRefusal : StoreError -> Refusal
  | .duplicateName =>
      ⟨409, "DUPLICATE_NAME", "A service account with that name already exists for this owner.", []⟩
  | .invalidName => ⟨400, "INVALID_NAME", "Name must match ^[A-Za-z0-9_-]\x7b3,64\x7d$.", []⟩
  | error => ⟨400, "INVALID_REQUEST", error.text, []⟩

/-- `createServiceAccountHandler`, up to the account it asks the store for. -/
def admitCreate (enforcer : Enforcer) (accounts : Accounts) (claims : Option Claims)
    (body : Option CreateServiceAccountRequest) (now : Int) : Except Refusal Template := do
  let userID ← requireCapability enforcer accounts claims now "host:manage_users" "host:*"
  let req ← decoded body
  checked "INVALID_CAPABILITY" (validateServiceAccountCapabilities req.capabilities)
  checked "INVALID_SCOPE" (validateServiceAccountScopes req.scopes)
  withinAuthority enforcer userID req.capabilities
  return ⟨userID, req.name, req.capabilities, req.scopes, req.expiresAt⟩

/-- `createServiceAccountHandler`, with the secret of the response. -/
def createServiceAccount (enforcer : Enforcer) (accounts : Accounts) (claims : Option Claims)
    (body : Option CreateServiceAccountRequest) (io : CallIO) :
    Except Refusal (ServiceAccount × String) × Accounts :=
  match admitCreate enforcer accounts claims body io.now with
  | .error refusal => (.error refusal, accounts)
  | .ok template =>
      ((create accounts template io).1.mapError storeRefusal, (create accounts template io).2)

/-- What the handlers about one account ask first. -/
def requireOwn (enforcer : Enforcer) (accounts : Accounts) (claims : Option Claims) (id : String)
    (now : Int) : Except Refusal String := do
  let userID ← requireCapability enforcer accounts claims now "host:manage_users" "host:*"
  demand (id != "") ⟨400, "INVALID_REQUEST", "service account id required", []⟩
  demand ((accounts.get? id).any fun existing => existing.ownerUserID = userID) notFound
  return userID

/-- `updateServiceAccountHandler`, up to the patch it asks the store for. -/
def admitUpdate (enforcer : Enforcer) (accounts : Accounts) (claims : Option Claims) (id : String)
    (body : Option UpdateServiceAccountRequest) (now : Int) : Except Refusal Patch := do
  let userID ← requireOwn enforcer accounts claims id now
  let req ← decoded body
  checked "INVALID_CAPABILITY" (validateServiceAccountCapabilities (req.capabilities.getD []))
  checked "INVALID_SCOPE" (validateServiceAccountScopes (req.scopes.getD []))
  withinAuthority enforcer userID (req.capabilities.getD [])
  return ⟨req.name, req.capabilities, req.scopes, req.expiresAt⟩

/-- `updateServiceAccountHandler`. -/
def updateServiceAccount (enforcer : Enforcer) (accounts : Accounts) (claims : Option Claims)
    (id : String) (body : Option UpdateServiceAccountRequest) (io : CallIO) :
    Except Refusal ServiceAccount × Accounts :=
  match admitUpdate enforcer accounts claims id body io.now with
  | .error refusal => (.error refusal, accounts)
  | .ok patch =>
      ((update accounts id patch io).1.mapError fun error =>
          if error = .notFound then notFound else storeRefusal error,
        (update accounts id patch io).2)

/-- `deleteServiceAccountHandler`. -/
def deleteServiceAccount (enforcer : Enforcer) (accounts : Accounts) (claims : Option Claims)
    (id : String) (io : CallIO) : Except Refusal Unit × Accounts :=
  match requireOwn enforcer accounts claims id io.now with
  | .error refusal => (.error refusal, accounts)
  | .ok _ =>
      ((delete accounts id io).1.mapError fun error =>
          if error = .notFound then notFound
          else ⟨500, "INTERNAL_ERROR", "Failed to delete service account", []⟩,
        (delete accounts id io).2)

/-- `rotateServiceAccountHandler`, with the secret of the response. -/
def rotateServiceAccount (enforcer : Enforcer) (accounts : Accounts) (claims : Option Claims)
    (id : String) (io : CallIO) : Except Refusal (ServiceAccount × String) × Accounts :=
  match requireOwn enforcer accounts claims id io.now with
  | .error refusal => (.error refusal, accounts)
  | .ok _ =>
      ((rotate accounts id io).1.mapError fun error =>
          if error = .notFound then notFound else ⟨409, "ROTATE_FAILED", error.text, []⟩,
        (rotate accounts id io).2)

/-! ## What an admitted request has passed -/

theorem forM_ok {α : Type} {check : α -> Except String Unit} :
    forall {items : List α}, items.forM check = .ok () -> forall item, item ∈ items ->
      check item = .ok () := by
  intro items
  induction items with
  | nil => intro _ item member; cases member
  | cons head rest ih =>
      intro passed item member
      have steps : (check head >>= fun _ => rest.forM check) = .ok () := passed
      cases first : check head with
      | error text =>
          rw [first] at steps
          cases steps
      | ok _ =>
          rw [first] at steps
          rcases List.mem_cons.mp member with rfl | later
          · exact first
          · exact ih steps item later

theorem checked_ok {code : String} {result : Except String Unit} {u : Unit}
    (passed : checked code result = .ok u) : result = .ok () := by
  cases result with
  | error text => cases passed
  | ok _ => rfl

/-- The capabilities that pass the check are registered. -/
theorem validateServiceAccountCapabilities_ok {caps : List Capability}
    (valid : validateServiceAccountCapabilities caps = .ok ()) :
    forall c, c ∈ caps -> c.id ∈ registry := by
  intro c member
  have both := forM_ok valid c member
  cases first : validate c.id with
  | error text =>
      rw [first] at both
      cases both
  | ok _ => exact validate_ok first

/-- Whoever passes `requireMinterAuthority` holds each registered capability at its scope. -/
theorem withinAuthority_ok {enforcer : Enforcer} {userID : String}
    {caps : List Capability} {u : Unit} (within : withinAuthority enforcer userID caps = .ok u)
    {c : Capability} (member : c ∈ caps) (registered : c.id ∈ registry) :
    enforcer.can userID c.id c.scope = true := by
  unfold withinAuthority at within
  cases missing : requireMinterAuthority enforcer userID caps with
  | some wanted =>
      rw [missing] at within
      cases within
  | none =>
      have leaves : grantedLeaves c.id = [c.id] := by
        unfold grantedLeaves
        rw [expand_registered registered]
        exact if_neg fun both => List.cons_ne_nil _ _ both.2
      have listed : (c.id, c.scope) ∈ caps.flatMap fun c =>
          (grantedLeaves c.id).map fun leaf => (leaf, c.scope) := by
        refine List.mem_flatMap.mpr ⟨c, member, ?_⟩
        rw [leaves]
        exact List.mem_singleton.mpr rfl
      simpa using List.find?_eq_none.mp missing (c.id, c.scope) listed

/-- The user of a request. -/
def caller (claims : Option Claims) : String := claims.elim "" Claims.userID

theorem requireCapability_caller {enforcer : Enforcer} {accounts : Accounts}
    {claims : Option Claims} {now : Int} {capability scope userID : String}
    (passed : requireCapability enforcer accounts claims now capability scope = .ok userID) :
    userID = caller claims := by
  rcases requireCapability_ok passed with ⟨c, rfl, named, _⟩
  exact named.symm

theorem requireOwn_ok {enforcer : Enforcer} {accounts : Accounts} {claims : Option Claims}
    {id : String} {now : Int} {userID : String}
    (passed : requireOwn enforcer accounts claims id now = .ok userID) : userID = caller claims ∧
      Exists fun cur => accounts.get? id = some cur ∧ cur.ownerUserID = userID := by
  simp only [requireOwn, bind_eq_ok, demand_eq_ok, Option.any_eq_true_iff_get,
    decide_eq_true_eq] at passed
  rcases passed with ⟨user, gate, _, _, _, ⟨there, own⟩, same⟩
  cases same
  exact ⟨requireCapability_caller gate, _, (Option.some_get there).symm, own⟩

/-- What an admitted request to create an account gives the account. -/
theorem admitCreate_ok {enforcer : Enforcer} {accounts : Accounts} {claims : Option Claims}
    {body : Option CreateServiceAccountRequest} {now : Int} {template : Template}
    (admitted : admitCreate enforcer accounts claims body now = .ok template) :
    forall c, c ∈ template.capabilities ->
      c.id ∈ registry ∧ enforcer.can (caller claims) c.id c.scope = true := by
  simp only [admitCreate, bind_eq_ok] at admitted
  rcases admitted with ⟨userID, gate, req, _, _, capsValid, _, _, _, within, same⟩
  cases same
  intro c member
  have registered := validateServiceAccountCapabilities_ok (checked_ok capsValid) c member
  rw [← requireCapability_caller gate]
  exact ⟨registered, withinAuthority_ok within member registered⟩

/-- What an admitted update may bring. -/
theorem admitUpdate_ok {enforcer : Enforcer} {accounts : Accounts} {claims : Option Claims}
    {id : String} {body : Option UpdateServiceAccountRequest} {now : Int} {patch : Patch}
    (admitted : admitUpdate enforcer accounts claims id body now = .ok patch)
    {caps : List Capability} (brought : patch.capabilities = some caps) :
    forall c, c ∈ caps -> c.id ∈ registry ∧ enforcer.can (caller claims) c.id c.scope = true := by
  simp only [admitUpdate, bind_eq_ok] at admitted
  rcases admitted with ⟨userID, gate, req, _, _, capsValid, _, _, _, within, same⟩
  cases same
  simp only at brought
  rw [brought] at capsValid within
  intro c member
  have registered := validateServiceAccountCapabilities_ok (checked_ok capsValid) c member
  rw [← (requireOwn_ok gate).1]
  exact ⟨registered, withinAuthority_ok within member registered⟩

/-! ## Minting -/

/-- The capabilities of a row are registered. -/
def ServiceAccount.Registered (sa : ServiceAccount) : Prop :=
  forall c, c ∈ sa.capabilities -> c.id ∈ registry

/-- With registered capabilities an account allows what some capability of it names, where its
scopes and the capability's match. -/
theorem serviceAccountAllows_registered {sa : ServiceAccount} (registered : sa.Registered)
    {capability scope : String} :
    serviceAccountAllows sa capability scope = true ↔
      sa.isRevoked = false ∧ scopesCover sa.scopes scope = true ∧
        Exists fun c => c ∈ sa.capabilities ∧ c.id = capability ∧
          scopeMatches c.scope scope = true := by
  rw [serviceAccountAllows_iff]
  constructor
  · rintro ⟨_, revoked, covered, c, member, names, matched⟩
    have same := (capabilityMatches_registered (registered c member)).mp names
    exact ⟨revoked, covered, c, member, same, matched⟩
  · rintro ⟨revoked, covered, c, member, rfl, matched⟩
    have names := (capabilityMatches_registered (registered c member)).mpr rfl
    refine ⟨⟨?_, (ne_empty_of_scopeMatches matched).2⟩, revoked, covered, c, member, names, matched⟩
    have plain : forall id, id ∈ registry -> id ≠ "" := by decide +kernel
    exact plain c.id (registered c member)

/-- An account whose capabilities a user holds at their scopes allows nothing beyond that user. -/
theorem can_of_serviceAccountAllows {enforcer : Enforcer} {userID : String} {sa : ServiceAccount}
    (held : forall c, c ∈ sa.capabilities ->
      c.id ∈ registry ∧ enforcer.can userID c.id c.scope = true) {capability scope : String}
    (allows : serviceAccountAllows sa capability scope = true) :
    enforcer.can userID capability scope = true := by
  rcases (serviceAccountAllows_registered fun c member => (held c member).1).mp allows with
    ⟨_, _, c, member, rfl, matched⟩
  exact can_of_scopeMatches (held c member).2 matched

theorem createServiceAccount_ok {enforcer : Enforcer} {accounts : Accounts} {claims : Option Claims}
    {body : Option CreateServiceAccountRequest} {io : CallIO} {made : ServiceAccount × String}
    (created : (createServiceAccount enforcer accounts claims body io).1 = .ok made) :
    Exists fun template => admitCreate enforcer accounts claims body io.now = .ok template ∧
      (create accounts template io).1 = .ok made ∧
        (createServiceAccount enforcer accounts claims body io).2 =
        (create accounts template io).2 := by
  unfold createServiceAccount at created ⊢
  cases admitted : admitCreate enforcer accounts claims body io.now with
  | error refusal =>
      rw [admitted] at created
      cases created
  | ok template =>
      rw [admitted] at created
      simp only at created ⊢
      refine ⟨template, rfl, ?_, rfl⟩
      cases outcome : (create accounts template io).1 with
      | error error =>
          rw [outcome] at created
          cases created
      | ok other =>
          rw [outcome] at created
          cases created
          rfl

/-- `Create` returns the row that it stores. -/
theorem create_ok {accounts : Accounts} {template : Template} {io : CallIO}
    {made : ServiceAccount × String} (created : (create accounts template io).1 = .ok made) :
    Exists fun name => made = (template.created name io, io.secret) ∧
      (create accounts template io).2 = accounts.put io.uuid made.1 := by
  rcases create_cases accounts template io with ⟨error, failed, _⟩ | ⟨name, _, stored⟩
  · rw [failed] at created
    cases created
  · rw [stored] at created ⊢
    cases created
    exact ⟨name, rfl, rfl⟩

/-- Minting confers no authority that the minter lacks. -/
theorem minted_within_minter {enforcer : Enforcer} {accounts : Accounts} {claims : Option Claims}
    {body : Option CreateServiceAccountRequest} {io : CallIO} {sa : ServiceAccount}
    {secret : String}
    (created : (createServiceAccount enforcer accounts claims body io).1 = .ok (sa, secret)) :
    (createServiceAccount enforcer accounts claims body io).2.get? sa.id = some sa ∧
      forall capability scope, serviceAccountAllows sa capability scope = true ->
        enforcer.can (caller claims) capability scope = true := by
  rcases createServiceAccount_ok created with ⟨template, admitted, stored, rows⟩
  rcases create_ok stored with ⟨name, same, put⟩
  have row : sa = template.created name io := (Prod.mk.inj same).1
  constructor
  · rw [rows, put, row]
    exact SortedStore.get?_put_self _ _ _
  · intro capability scope allows
    rw [row] at allows
    exact can_of_serviceAccountAllows (admitCreate_ok admitted) allows

/-! ### An account for one scope -/

def userRoles : List Role :=
  [⟨"user_admin", ["host:manage_users"]⟩, ⟨"bucket_admin", ["bucket:*"]⟩]

/-- Alice manages the users, and the buckets of the cluster `c1`. -/
def trusted : Enforcer :=
  ⟨userRoles, [⟨"alice", "user_admin", "host:*"⟩, ⟨"alice", "bucket_admin", "bucket:c1:*"⟩]⟩

/-- Alice manages the users only. -/
def demoted : Enforcer := ⟨userRoles, [⟨"alice", "user_admin", "host:*"⟩]⟩

/-- An elevated session of Alice's. -/
def aliceSession : Option Claims := some ⟨"alice", "admin", false, "elevated", 900, "", none⟩

def cleanerRequest : CreateServiceAccountRequest where
  name := "cleaner"
  capabilities := [⟨"bucket:delete", "bucket:c1:*"⟩]
  scopes := ["bucket:c1:tmp"]

def cleanerIO : CallIO where
  uuid := "row-1"
  accessKeyID := "BMNT0123456789ABCDEF"
  secret := "s3cret"
  hash := "s3cret"
  now := 2

/-- The account, with its scopes. -/
def cleaner (scopes : List String) : ServiceAccount :=
  Template.created ⟨"alice", "cleaner", cleanerRequest.capabilities, scopes, none⟩
    "cleaner" cleanerIO

theorem minted_within_minter_cleaner : trusted.can "alice" "bucket:delete" "bucket:c1:tmp" = true :=
  (@minted_within_minter trusted SortedStore.empty aliceSession (some cleanerRequest) cleanerIO
    (cleaner ["bucket:c1:tmp"]) "s3cret" rfl).2 "bucket:delete" "bucket:c1:tmp" rfl

/-! ## Updating -/

/-- The policies and the rows of a deployment. -/
structure Site where
  enforcer : Enforcer
  accounts : Accounts

inductive AdminAction where
  | policies (enforcer : Enforcer)
  | create (claims : Option Claims) (body : Option CreateServiceAccountRequest) (io : CallIO)
  | update (claims : Option Claims) (id : String) (body : Option UpdateServiceAccountRequest)
    (io : CallIO)
  | rotate (claims : Option Claims) (id : String) (io : CallIO)
  | delete (claims : Option Claims) (id : String) (io : CallIO)
  deriving DecidableEq, Repr

/-- The rows after a request. -/
def AdminAction.rows (site : Site) : AdminAction -> Accounts
  | .policies _ => site.accounts
  | .create claims body io => (createServiceAccount site.enforcer site.accounts claims body io).2
  | .update claims id body io =>
      (updateServiceAccount site.enforcer site.accounts claims id body io).2
  | .rotate claims id io => (rotateServiceAccount site.enforcer site.accounts claims id io).2
  | .delete claims id io => (deleteServiceAccount site.enforcer site.accounts claims id io).2

def AdminAction.policy (site : Site) : AdminAction -> Enforcer
  | .policies enforcer => enforcer
  | _ => site.enforcer

/-- A request whose new row would get identifiers in use is left out. -/
def AdminAction.Enabled (site : Site) : AdminAction -> Prop
  | .create _ _ io => io.Fresh site.accounts
  | _ => True

instance (site : Site) (action : AdminAction) : Decidable (action.Enabled site) := by
  unfold AdminAction.Enabled
  cases action <;> infer_instance

def Site.step (site : Site) (action : AdminAction) : Option Site :=
  if action.Enabled site then some ⟨action.policy site, action.rows site⟩ else none

/-- No accounts, and any policies. -/
def Site.start (enforcer : Enforcer) : Site := ⟨enforcer, SortedStore.empty⟩

/-- The narrower of two scopes of which one covers the other. -/
def commonScope (first second : String) : Option String :=
  if scopeMatches first second then some second
  else if scopeMatches second first then some first
  else none

/-- The row and the new scopes of an update that is carried out on a row that is not revoked and
brings scopes and no capabilities. -/
def scopesAlone (site : Site) (claims : Option Claims) (id : String)
    (body : Option UpdateServiceAccountRequest) (io : CallIO) :
    Option (ServiceAccount × List String) :=
  match admitUpdate site.enforcer site.accounts claims id body io.now, site.accounts.get? id with
  | .ok patch, some cur =>
      if patch.capabilities = none ∧ cur.isRevoked = false ∧
          (checkPatch site.accounts cur id patch io.now).isOk = true ∧ io.writeError = none then
        patch.scopes.map fun scopes => (cur, scopes)
      else none
  | _, _ => none

/-- Where a stored capability and a new scope meet, the stored scopes reach already or the user
holds the capability. -/
def scopesWithin (enforcer : Enforcer) (userID : String) (cur : ServiceAccount)
    (scopes : List String) : Bool :=
  cur.capabilities.all fun c => scopes.all fun scope =>
    (commonScope c.scope scope).all fun common =>
      scopesCover cur.scopes common || enforcer.can userID c.id common

/-- The new scopes of an update that brings them alone stay within what its user holds. -/
def AdminAction.within (site : Site) : AdminAction -> Bool
  | .update claims id body io =>
      (scopesAlone site claims id body io).all fun change =>
        scopesWithin site.enforcer (caller claims) change.1 change.2
  | _ => true

/-- What an update lets any row do that it could not do before, its user could do. -/
def ConfersOwn (site : Site) : AdminAction -> Prop
  | .update claims id body io =>
      forall row before after, site.accounts.get? row = some before ->
        ((AdminAction.update claims id body io).rows site).get? row = some after ->
          forall capability scope, serviceAccountAllows before capability scope = false ->
            serviceAccountAllows after capability scope = true ->
              site.enforcer.can (caller claims) capability scope = true
  | _ => True

/-! ### The rows keep registered capabilities -/

def AllRegistered (accounts : Accounts) : Prop :=
  forall id sa, accounts.get? id = some sa -> sa.Registered

theorem AllRegistered.put {accounts : Accounts} (all : AllRegistered accounts) (id : String)
    {sa : ServiceAccount} (registered : sa.Registered) : AllRegistered (accounts.put id sa) := by
  intro other row found
  by_cases same : other = id
  · rw [same, SortedStore.get?_put_self] at found
    rw [← Option.some.inj found]
    exact registered
  · rw [SortedStore.get?_put_of_ne _ _ same] at found
    exact all other row found

/-- An update that is carried out was admitted and rewrites one row. -/
theorem updateServiceAccount_cases (enforcer : Enforcer) (accounts : Accounts)
    (claims : Option Claims) (id : String) (body : Option UpdateServiceAccountRequest)
    (io : CallIO) : (updateServiceAccount enforcer accounts claims id body io).2 = accounts ∨
      Exists fun patch => Exists fun cur => Exists fun name =>
        admitUpdate enforcer accounts claims id body io.now = .ok patch ∧
          accounts.get? id = some cur ∧ checkPatch accounts cur id patch io.now = .ok name ∧
            io.writeError = none ∧
              (updateServiceAccount enforcer accounts claims id body io).2 =
                accounts.put id (cur.patched name patch) := by
  unfold updateServiceAccount
  cases admitted : admitUpdate enforcer accounts claims id body io.now with
  | error refusal => exact Or.inl rfl
  | ok patch =>
      rcases update_cases accounts id patch io with
        ⟨_, _, kept⟩ | ⟨cur, name, found, passed, written, changed⟩
      · exact Or.inl kept
      · exact Or.inr ⟨patch, cur, name, rfl, found, passed, written, congrArg Prod.snd changed⟩

theorem AllRegistered.updateServiceAccount {enforcer : Enforcer} {accounts : Accounts}
    (all : AllRegistered accounts) (claims : Option Claims) (id : String)
    (body : Option UpdateServiceAccountRequest) (io : CallIO) :
    AllRegistered (updateServiceAccount enforcer accounts claims id body io).2 := by
  rcases updateServiceAccount_cases enforcer accounts claims id body io with
    kept | ⟨patch, cur, name, admitted, found, _, _, changed⟩
  · rw [kept]
    exact all
  · rw [changed]
    refine all.put id ?_
    intro c member
    cases brought : patch.capabilities with
    | none =>
        rw [ServiceAccount.patched, brought] at member
        exact all id cur found c member
    | some caps =>
        rw [ServiceAccount.patched, brought] at member
        exact (admitUpdate_ok admitted brought c member).1

theorem AllRegistered.createServiceAccount {enforcer : Enforcer} {accounts : Accounts}
    (all : AllRegistered accounts) (claims : Option Claims)
    (body : Option CreateServiceAccountRequest) {io : CallIO} (fresh : io.Fresh accounts) :
    AllRegistered (createServiceAccount enforcer accounts claims body io).2 := by
  unfold ServiceAccounts.createServiceAccount
  cases admitted : admitCreate enforcer accounts claims body io.now with
  | error refusal => exact all
  | ok template =>
      rcases create_cases accounts template io with ⟨_, _, kept⟩ | ⟨name, _, made⟩
      · simp only [kept fresh.1]
        exact all
      · simp only [made]
        exact all.put io.uuid fun c member => (admitCreate_ok admitted c member).1

theorem AllRegistered.rotateServiceAccount {enforcer : Enforcer} {accounts : Accounts}
    (all : AllRegistered accounts) (claims : Option Claims) (id : String) (io : CallIO) :
    AllRegistered (rotateServiceAccount enforcer accounts claims id io).2 := by
  unfold ServiceAccounts.rotateServiceAccount
  cases requireOwn enforcer accounts claims id io.now with
  | error refusal => exact all
  | ok _ =>
      rcases rotate_cases accounts id io with kept | ⟨cur, found, _, _, changed⟩
      · simp only [kept]
        exact all
      · simp only [changed]
        exact all.put id (all id cur found)

theorem AllRegistered.deleteServiceAccount {enforcer : Enforcer} {accounts : Accounts}
    (all : AllRegistered accounts) (claims : Option Claims) (id : String) (io : CallIO) :
    AllRegistered (deleteServiceAccount enforcer accounts claims id io).2 := by
  unfold ServiceAccounts.deleteServiceAccount
  cases requireOwn enforcer accounts claims id io.now with
  | error refusal => exact all
  | ok _ =>
      rcases delete_cases accounts id io with kept | ⟨cur, found, _, changed⟩
      · simp only [kept]
        exact all
      · simp only [changed]
        exact all.put id (all id cur found)

theorem Site.step_registered (site : Site) (action : AdminAction) (next : Site)
    (all : AllRegistered site.accounts) (taken : site.step action = some next) :
    AllRegistered next.accounts := by
  unfold Site.step at taken
  split at taken
  · rename_i enabled
    rw [← Option.some.inj taken]
    cases action with
    | policies enforcer => exact all
    | create claims body io => exact all.createServiceAccount claims body enabled
    | update claims id body io => exact all.updateServiceAccount claims id body io
    | rotate claims id io => exact all.rotateServiceAccount claims id io
    | delete claims id io => exact all.deleteServiceAccount claims id io
  · cases taken

/-! ### What new scopes let through -/

/-- The narrower scope lies in both. -/
theorem commonScope_matches {first second common : String}
    (meet : commonScope first second = some common) :
    scopeMatches first common = true ∧ scopeMatches second common = true := by
  unfold commonScope at meet
  split at meet
  · rename_i covers
    cases Option.some.inj meet
    exact ⟨covers, scopeMatches_refl (ne_empty_of_scopeMatches covers).2⟩
  · split at meet
    · rename_i covers
      cases Option.some.inj meet
      exact ⟨scopeMatches_refl (ne_empty_of_scopeMatches covers).2, covers⟩
    · cases meet

/-- What lies in two scopes lies in the narrower of them. -/
theorem commonScope_of_both {first second scope : String}
    (inFirst : scopeMatches first scope = true) (inSecond : scopeMatches second scope = true) :
    Exists fun common => commonScope first second = some common ∧
      scopeMatches common scope = true := by
  unfold commonScope
  by_cases covers : scopeMatches first second = true
  · exact ⟨second, if_pos covers, inSecond⟩
  · rcases scopeMatches_both_iff.mp ⟨inFirst, inSecond⟩ with ⟨above, _⟩ | ⟨above, _⟩
    · exact absurd above covers
    · exact ⟨first, by rw [if_neg covers, if_pos above], inFirst⟩

/-- Giving a row other scopes confers its user's own authority exactly if the new scopes stay
within it. -/
theorem scopesWithin_iff {enforcer : Enforcer} {userID : String} {cur next : ServiceAccount}
    (registered : cur.Registered) (valid : cur.isRevoked = false)
    (sameCaps : next.capabilities = cur.capabilities) (sameLife : next.isRevoked = cur.isRevoked) :
    scopesWithin enforcer userID cur next.scopes = true ↔
      forall capability scope, serviceAccountAllows cur capability scope = false ->
        serviceAccountAllows next capability scope = true ->
          enforcer.can userID capability scope = true := by
  have nextRegistered : next.Registered := by
    intro c member
    rw [sameCaps] at member
    exact registered c member
  simp only [scopesWithin, List.all_eq_true, Option.all_eq_true, Bool.or_eq_true]
  constructor
  · intro within capability scope refused allows
    rcases (serviceAccountAllows_registered nextRegistered).mp allows with
      ⟨_, covered, c, member, rfl, matched⟩
    rw [sameCaps] at member
    rcases scopesCover_iff.mp covered with ⟨wide, listed, wideMatched⟩
    rcases commonScope_of_both matched wideMatched with ⟨common, meet, below⟩
    rcases within c member wide listed common meet with stored | held
    · have before : serviceAccountAllows cur c.id scope = true :=
        (serviceAccountAllows_registered registered).mpr
          ⟨valid, scopesCover_of_scopeMatches stored below, c, member, rfl, matched⟩
      rw [before] at refused
      cases refused
    · exact can_of_scopeMatches held below
  · intro confers c member wide listed common meet
    rcases commonScope_matches meet with ⟨inCapability, inScope⟩
    cases stored : scopesCover cur.scopes common with
    | true => exact Or.inl rfl
    | false =>
        refine Or.inr (confers c.id common ?_ ?_)
        · rw [← Bool.not_eq_true, serviceAccountAllows_registered registered, stored]
          simp
        · rw [serviceAccountAllows_registered nextRegistered, sameLife, sameCaps]
          exact ⟨valid, scopesCover_iff.mpr ⟨wide, listed, inScope⟩, c, member, rfl, inCapability⟩

/-- An update that is admitted and passes the store's checks rewrites its row. -/
theorem updateServiceAccount_carried {enforcer : Enforcer} {accounts : Accounts}
    {claims : Option Claims} {id : String} {body : Option UpdateServiceAccountRequest} {io : CallIO}
    {patch : Patch} {cur : ServiceAccount} {name : Option String}
    (admitted : admitUpdate enforcer accounts claims id body io.now = .ok patch)
    (found : accounts.get? id = some cur)
    (passed : checkPatch accounts cur id patch io.now = .ok name) (written : io.writeError = none) :
    (updateServiceAccount enforcer accounts claims id body io).2 =
      accounts.put id (cur.patched name patch) := by
  unfold updateServiceAccount
  rw [admitted]
  simp only [update, found, passed, written]

/-- The updates that `scopesAlone` picks out. -/
theorem scopesAlone_eq_some {site : Site} {claims : Option Claims} {id : String}
    {body : Option UpdateServiceAccountRequest} {io : CallIO} {cur : ServiceAccount}
    {scopes : List String} : scopesAlone site claims id body io = some (cur, scopes) ↔
      Exists fun patch => Exists fun name =>
        admitUpdate site.enforcer site.accounts claims id body io.now = .ok patch ∧
          site.accounts.get? id = some cur ∧ patch.capabilities = none ∧
            patch.scopes = some scopes ∧
            cur.isRevoked = false ∧ checkPatch site.accounts cur id patch io.now = .ok name ∧
              io.writeError = none := by
  unfold scopesAlone
  cases admitUpdate site.enforcer site.accounts claims id body io.now with
  | error refusal => simp
  | ok patch =>
      cases site.accounts.get? id with
      | none => simp
      | some row =>
          simp only
          constructor
          · intro picked
            split at picked
            · rename_i holds
              rcases Option.map_eq_some_iff.mp picked with ⟨_, brought, same⟩
              cases same
              cases passed : checkPatch site.accounts cur id patch io.now with
              | error error =>
                  rw [passed] at holds
                  exact absurd holds.2.2.1 Bool.false_ne_true
              | ok name =>
                  exact ⟨patch, name, rfl, rfl, holds.1, brought, holds.2.1, passed, holds.2.2.2⟩
            · cases picked
          · rintro ⟨_, name, same, sameRow, alone, brought, valid, passed, written⟩
            cases same
            cases sameRow
            rw [if_pos ⟨alone, valid, by rw [passed]; rfl, written⟩, brought]
            rfl

/-- What a rewritten row newly allows is all that is newly allowed. -/
theorem newly_allowed_put {accounts : Accounts} {id : String} {cur next : ServiceAccount}
    (found : accounts.get? id = some cur) {permitted : String -> String -> Prop} :
    (forall row before after, accounts.get? row = some before ->
      (accounts.put id next).get? row = some after ->
        forall capability scope, serviceAccountAllows before capability scope = false ->
          serviceAccountAllows after capability scope = true -> permitted capability scope) ↔
      forall capability scope, serviceAccountAllows cur capability scope = false ->
        serviceAccountAllows next capability scope = true -> permitted capability scope := by
  constructor
  · intro all
    exact all id cur next found (SortedStore.get?_put_self _ _ _)
  · intro own row before after foundBefore foundAfter capability scope refused allows
    by_cases same : row = id
    · rw [same, SortedStore.get?_put_self] at foundAfter
      rw [same, found] at foundBefore
      cases foundBefore
      cases foundAfter
      exact own capability scope refused allows
    · rw [SortedStore.get?_put_of_ne _ _ same, foundBefore] at foundAfter
      cases foundAfter
      rw [allows] at refused
      cases refused

/-- A patch that brings neither capabilities nor scopes changes nothing that a row allows. -/
theorem serviceAccountAllows_patched {cur : ServiceAccount} {patch : Patch} (name : Option String)
    (noCaps : patch.capabilities = none) (noScopes : patch.scopes = none)
    (capability scope : String) : serviceAccountAllows (cur.patched name patch) capability scope =
      serviceAccountAllows cur capability scope := by
  unfold serviceAccountAllows ServiceAccount.patched ServiceAccount.isRevoked
  rw [noCaps, noScopes]
  rfl

theorem serviceAccountAllows_revoked {sa : ServiceAccount} (revoked : sa.isRevoked = true)
    (capability scope : String) : serviceAccountAllows sa capability scope = false := by
  rw [← Bool.not_eq_true, serviceAccountAllows_iff, revoked]
  simp

/-- An update that does not bring scopes alone keeps to its user's authority. -/
theorem confers_of_not_alone {site : Site} {claims : Option Claims} {id : String}
    {body : Option UpdateServiceAccountRequest} {io : CallIO} {patch : Patch} {cur : ServiceAccount}
    {name : Option String}
    (admitted : admitUpdate site.enforcer site.accounts claims id body io.now = .ok patch)
    (found : site.accounts.get? id = some cur)
    (passed : checkPatch site.accounts cur id patch io.now = .ok name)
    (written : io.writeError = none) (passedOver : scopesAlone site claims id body io = none)
    (capability scope : String) (refused : serviceAccountAllows cur capability scope = false)
    (allows : serviceAccountAllows (cur.patched name patch) capability scope = true) :
    site.enforcer.can (caller claims) capability scope = true := by
  cases brought : patch.capabilities with
  | some caps =>
      have given : (cur.patched name patch).capabilities = caps := by
        rw [ServiceAccount.patched, brought]
        rfl
      refine can_of_serviceAccountAllows ?_ allows
      rw [given]
      exact admitUpdate_ok admitted brought
  | none =>
      cases widened : patch.scopes with
      | none =>
          rw [serviceAccountAllows_patched name brought widened, refused] at allows
          cases allows
      | some scopes =>
          cases revoked : cur.isRevoked with
          | true =>
              have stopped : (cur.patched name patch).isRevoked = true := revoked
              rw [serviceAccountAllows_revoked stopped] at allows
              cases allows
          | false =>
              have picked := scopesAlone_eq_some.mpr
                ⟨patch, name, admitted, found, brought, widened, revoked, passed, written⟩
              rw [passedOver] at picked
              cases picked

/-- An update keeps to its user's authority exactly if the scopes it brings alone do. -/
theorem confersOwn_iff {site : Site} {action : AdminAction} (all : AllRegistered site.accounts) :
    ConfersOwn site action ↔ action.within site = true := by
  cases action with
  | policies enforcer => exact iff_of_true trivial rfl
  | create claims body io => exact iff_of_true trivial rfl
  | rotate claims id io => exact iff_of_true trivial rfl
  | delete claims id io => exact iff_of_true trivial rfl
  | update claims id body io =>
      simp only [ConfersOwn, AdminAction.rows, AdminAction.within]
      cases picked : scopesAlone site claims id body io with
      | some change =>
          rcases change with ⟨cur, scopes⟩
          rcases scopesAlone_eq_some.mp picked with
            ⟨patch, name, admitted, found, alone, brought, valid, passed, written⟩
          rw [updateServiceAccount_carried admitted found passed written, newly_allowed_put found,
            Option.all_some]
          have newScopes : (cur.patched name patch).scopes = scopes := by
            rw [ServiceAccount.patched, brought]
            rfl
          have sameCaps : (cur.patched name patch).capabilities = cur.capabilities := by
            rw [ServiceAccount.patched, alone]
            rfl
          have sameLife : (cur.patched name patch).isRevoked = cur.isRevoked := rfl
          have exactly := @scopesWithin_iff site.enforcer (caller claims) _ _
            (all id cur found) valid
            sameCaps sameLife
          rw [newScopes] at exactly
          exact exactly.symm
      | none =>
          refine iff_of_true ?_ rfl
          rcases updateServiceAccount_cases site.enforcer site.accounts claims id body io with
            kept | ⟨patch, cur, name, admitted, found, passed, written, changed⟩
          · rw [kept]
            intro row before after foundBefore foundAfter capability scope refused allows
            rw [foundBefore] at foundAfter
            cases foundAfter
            rw [allows] at refused
            cases refused
          · rw [changed, newly_allowed_put found]
            exact confers_of_not_alone admitted found passed written picked

/-- In a run of the handlers every update keeps to its user's authority exactly if the scopes
that updates bring alone do. -/
theorem updates_confer_own_iff (enforcer : Enforcer) (actions : List AdminAction) :
    Transition.Meets Site.step ConfersOwn (Site.start enforcer) actions ↔
      Transition.Meets Site.step (fun site action => action.within site = true)
        (Site.start enforcer)
        actions := by
  have initially : AllRegistered (Site.start enforcer).accounts := by
    intro id sa found
    cases found
  exact Transition.meets_congr
    (fun site action next all _ taken => Site.step_registered site action next all taken)
    (fun site action all => confersOwn_iff all) initially

/-! ### Wider scopes after a demotion -/

/-- An update that brings wider scopes alone. -/
def widen : AdminAction :=
  .update aliceSession "row-1" (some { scopes := some ["bucket:c1:*"] }) { now := 3 }

/-- Alice mints the account and loses her role over the buckets; the account keeps its own. -/
def mintAndDemote : List AdminAction :=
  [.create aliceSession (some cleanerRequest) cleanerIO, .policies demoted]

def demotedSite : Site :=
  (Transition.exec Site.step (Site.start trusted) mintAndDemote).getD (Site.start trusted)

/-- Scopes alone let a capability through that the user no longer holds. -/
theorem update_widens_beyond_user :
    ¬ forall (enforcer : Enforcer) (actions : List AdminAction),
      Transition.Meets Site.step ConfersOwn (Site.start enforcer) actions := by
  intro stated
  have run : Transition.exec Site.step (Site.start trusted) mintAndDemote = some demotedSite := rfl
  have last := (Transition.meets_append mintAndDemote [widen] (stated trusted _) run).2.1
  have held := last "row-1" (cleaner ["bucket:c1:tmp"]) (cleaner ["bucket:c1:*"]) rfl rfl
    "bucket:delete" "bucket:c1:data" rfl rfl
  exact Bool.false_ne_true held

end ServiceAccounts
end Basement
