import Basement.Federation.Types
import Basement.ServiceAccounts.Policy
import Basement.ServiceAccounts.Store

namespace Basement
namespace ServiceAccounts

open Library
open Api (Refusal demand)
open Federation (second)

/-!
# The capability gate

A request comes with claims, from a session cookie or from a service account's bearer key.
For a session the gate asks the enforcer and then the session's mode; for a service account it
asks what the account itself was given, and neither the owner's roles nor a mode.
-/

/-! ## What a service account allows -/

/-- `capabilityMatches`. -/
def capabilityMatches (granted requested : String) : Bool :=
  if granted = "" ∨ requested = "" then false
  else if granted = requested then true
  else if granted = "*:*" then true
  else (expand granted).contains requested

/-- `scopesCover`. -/
def scopesCover (scopes : List String) (requested : String) : Bool :=
  scopes.any fun s => scopeMatches s requested

/-- `ServiceAccountAllows`. -/
def serviceAccountAllows (sa : ServiceAccount) (capability scope : String) : Bool :=
  if capability = "" ∨ scope = "" then false
  else if sa.isRevoked then false
  else if !scopesCover sa.scopes scope then false
  else sa.capabilities.any fun c => capabilityMatches c.id capability && scopeMatches c.scope scope

theorem serviceAccountAllows_iff {sa : ServiceAccount} {capability scope : String} :
    serviceAccountAllows sa capability scope = true ↔
      (capability ≠ "" ∧ scope ≠ "") ∧ sa.isRevoked = false ∧ scopesCover sa.scopes scope = true ∧
        Exists fun c => c ∈ sa.capabilities ∧ capabilityMatches c.id capability = true ∧
          scopeMatches c.scope scope = true := by
  unfold serviceAccountAllows
  split
  · rename_i missing
    refine iff_of_false (by decide) ?_
    tauto
  · rename_i present
    push Not at present
    cases revoked : sa.isRevoked with
    | true => simp
    | false =>
        cases covered : scopesCover sa.scopes scope with
        | false => simp
        | true => simp [present]

/-- A registered capability matches itself alone. -/
theorem capabilityMatches_registered {granted requested : String}
    (registered : granted ∈ registry) :
    capabilityMatches granted requested = true ↔ granted = requested := by
  have plain : forall id, id ∈ registry -> id ≠ "" ∧ id ≠ "*:*" := by decide +kernel
  rcases plain granted registered with ⟨notEmpty, notAll⟩
  unfold capabilityMatches
  rw [expand_registered registered]
  split
  · rename_i missing
    refine iff_of_false (by decide) ?_
    rintro rfl
    tauto
  · split
    · tauto
    · simp only [List.contains_cons, List.contains_nil, Bool.or_false, beq_iff_eq]
      exact eq_comm

theorem scopesCover_iff {scopes : List String} {requested : String} :
    scopesCover scopes requested = true ↔
      Exists fun s => s ∈ scopes ∧ scopeMatches s requested = true := List.any_eq_true

/-- What is covered stays covered at narrower scopes. -/
theorem scopesCover_of_scopeMatches {scopes : List String} {wider scope : String}
    (covered : scopesCover scopes wider = true) (narrower : scopeMatches wider scope = true) :
    scopesCover scopes scope = true := by
  rcases scopesCover_iff.mp covered with ⟨s, listed, wide⟩
  exact scopesCover_iff.mpr ⟨s, listed, scopeMatches_trans wide narrower⟩

/-! ## Claims -/

structure ActiveRole where
  kind : String
  cluster : String := ""
  deriving DecidableEq, Repr

/-- `Claims`; `modeExpiresAt` is in Unix seconds. -/
structure Claims where
  userID : String
  role : String
  uiAdmin : Bool
  mode : String
  modeExpiresAt : Int
  serviceAccountID : String
  activeRole : Option ActiveRole
  deriving DecidableEq, Repr

/-- `now.Unix()`. -/
def unix (now : Int) : Int := now / second - 62135596800

/-- `preV12GraceUntil`, the first of January 2025. -/
def preV12GraceUntil : Int := (62135596800 + 1735689600) * second

/-- `currentMode`. -/
def currentMode (claims : Option Claims) (now : Int) : String :=
  match claims with
  | none => "user"
  | some claims =>
      if claims.mode = "" then if now < preV12GraceUntil then "admin" else "user"
      else if 0 < claims.modeExpiresAt ∧ claims.modeExpiresAt ≤ unix now ∧
          (claims.mode = "elevated" ∨ claims.mode = "admin") then "user"
      else if claims.mode = "elevated" then "admin"
      else claims.mode

/-- `MinModeFor`. -/
def minModeFor (capability : String) : String :=
  if capability ∈ ["objects:list", "objects:get", "objects:put", "objects:delete",
      "objects:share_create", "objects:share_revoke", "bucket:view"] then "user"
  else "admin"

/-- `Mode.Includes`. -/
def modeIncludes (mode other : String) : Bool :=
  if mode = "admin" then other = "admin" || other = "user"
  else if mode = "user" then other = "user"
  else false

/-- `requireCapabilityServiceAccount`. -/
def requireCapabilityServiceAccount (accounts : Accounts) (claims : Claims)
    (capability scope : String) : Except Refusal String :=
  match get accounts claims.serviceAccountID with
  | .error _ => .error ⟨401, "SERVICE_ACCOUNT_REVOKED", "Service account is no longer valid", []⟩
  | .ok sa =>
      if serviceAccountAllows sa capability scope then .ok claims.userID
      else
        .error ⟨403, "ELEVATION_NOT_AVAILABLE", "This service account cannot perform this action.",
          [("capability", capability), ("scope", scope), ("service_account_id", sa.id)]⟩

/-- `requireCapability`, which gives back the caller's user ID. -/
def requireCapability (enforcer : Enforcer) (accounts : Accounts)
    (claims : Option Claims) (now : Int) (capability scope : String) : Except Refusal String :=
  match claims with
  | none => .error ⟨401, "UNAUTHORIZED", "No active session", []⟩
  | some c =>
      if c.userID = "" then .error ⟨401, "UNAUTHORIZED", "No active session", []⟩
      else if c.serviceAccountID ≠ "" then requireCapabilityServiceAccount accounts c
        capability scope
      else if !enforcer.can c.userID capability scope then
        .error ⟨403, "FORBIDDEN", "Requires " ++ capability ++ " on " ++ scope, []⟩
      else if !modeIncludes (currentMode claims now) (minModeFor capability) then
        .error ⟨403, "ELEVATION_REQUIRED", "Re-authentication required to perform this action.",
          [("mode_required", minModeFor capability), ("current_mode", currentMode claims now),
            ("endpoint", "/api/v1/auth/elevate")]⟩
      else .ok c.userID

/-- Whom the gate lets through: a session whose user may, or a service account that may. -/
theorem requireCapability_ok {enforcer : Enforcer} {accounts : Accounts} {claims : Option Claims}
    {now : Int} {capability scope userID : String}
    (passed : requireCapability enforcer accounts claims now capability scope = .ok userID) :
    Exists fun c => claims = some c ∧ c.userID = userID ∧ userID ≠ "" ∧
      (c.serviceAccountID = "" ∧ enforcer.can userID capability scope = true ∨
        Exists fun sa => accounts.get? c.serviceAccountID = some sa ∧
          serviceAccountAllows sa capability scope = true) := by
  unfold requireCapability at passed
  cases claims with
  | none => cases passed
  | some c =>
      simp only at passed
      split at passed
      · cases passed
      · rename_i named
        split at passed
        · unfold requireCapabilityServiceAccount get at passed
          cases found : accounts.get? c.serviceAccountID with
          | none =>
              rw [found] at passed
              cases passed
          | some sa =>
              rw [found] at passed
              simp only at passed
              split at passed
              · rename_i allows
                cases passed
                exact ⟨c, rfl, rfl, named, Or.inr ⟨sa, found, allows⟩⟩
              · cases passed
        · rename_i session
          split at passed
          · cases passed
          · rename_i permitted
            split at passed
            · cases passed
            · cases passed
              refine ⟨c, rfl, rfl, named, Or.inl ⟨not_not.mp session, ?_⟩⟩
              simpa using permitted

end ServiceAccounts
end Basement
