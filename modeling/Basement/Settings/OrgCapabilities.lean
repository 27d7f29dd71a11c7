import Basement.Library.FieldEdits

namespace Basement
namespace Settings

open Library (Record Edit)

/-!
# The settings of a deployment

One record holds all settings that an operator can change at run time.  The store keeps it in
memory and writes it to `org_capabilities.json`.  Reading substitutes defaults, and an update
clamps what it is given.

`Field` names the fields of the record, so that "every field" can be said once.  A patch holds,
for some of the fields, the value to set.
-/

/-! ## The lifetime of admin mode -/

def adminSessionTTLDefaultSec : Int := 900
def adminSessionTTLMinSec : Int := 60
def adminSessionTTLMaxSec : Int := 86400

/-- `ClampAdminSessionTTL`. -/
def clampAdminSessionTTL (v : Int) : Int :=
  if v ≤ 0 then adminSessionTTLDefaultSec
  else if v < adminSessionTTLMinSec then adminSessionTTLMinSec
  else if adminSessionTTLMaxSec < v then adminSessionTTLMaxSec
  else v

theorem clampAdminSessionTTL_bounds (v : Int) :
    adminSessionTTLMinSec ≤ clampAdminSessionTTL v ∧
      clampAdminSessionTTL v ≤ adminSessionTTLMaxSec := by
  unfold clampAdminSessionTTL adminSessionTTLDefaultSec adminSessionTTLMinSec adminSessionTTLMaxSec
  split
  · omega
  · split
    · omega
    · split <;> omega

/-- A value within the bounds is kept. -/
theorem clampAdminSessionTTL_of_bounds {v : Int} (low : adminSessionTTLMinSec ≤ v)
    (high : v ≤ adminSessionTTLMaxSec) : clampAdminSessionTTL v = v := by
  unfold adminSessionTTLMinSec at low
  unfold clampAdminSessionTTL
  rw [if_neg (by omega), if_neg (by unfold adminSessionTTLMinSec; omega), if_neg (by omega)]

theorem clampAdminSessionTTL_idem (v : Int) :
    clampAdminSessionTTL (clampAdminSessionTTL v) = clampAdminSessionTTL v :=
  clampAdminSessionTTL_of_bounds (clampAdminSessionTTL_bounds v).1 (clampAdminSessionTTL_bounds v).2

/-! ## The record -/

/-- `GatewayConfig`. -/
structure GatewayConfig where
  enabled : Bool
  baseURL : String := ""
  options : List (String × String) := []
  deriving DecidableEq, Repr

/-- `GatewaySettings`: the configured gateways by name. -/
structure GatewaySettings where
  protocols : List (String × GatewayConfig)
  deriving DecidableEq, Repr

/-- `OrgCapabilities`. -/
structure OrgCapabilities where
  signupMode : String
  enabledDrivers : List String
  allowUserBackends : Bool
  userBackendDrivers : List String
  oidcOnly : Bool
  adminSessionTTLSec : Int
  gateways : GatewaySettings
  onboardingCompleted : Bool
  activeSkin : String
  userOverridableSkin : Bool
  allowedUserSkins : List String
  deriving DecidableEq, Repr

/-- `orgCapabilitiesPatch`. -/
structure OrgCapabilitiesPatch where
  signupMode : Option String := none
  enabledDrivers : Option (List String) := none
  allowUserBackends : Option Bool := none
  userBackendDrivers : Option (List String) := none
  oidcOnly : Option Bool := none
  adminSessionTTLSec : Option Int := none
  gateways : Option GatewaySettings := none
  onboardingCompleted : Option Bool := none
  activeSkin : Option String := none
  userOverridableSkin : Option Bool := none
  allowedUserSkins : Option (List String) := none
  deriving DecidableEq, Repr

def defaultActiveSkin : String := "basement-default"

/-- `DefaultOrgCapabilities`. -/
def defaultOrgCapabilities : OrgCapabilities where
  signupMode := "invite"
  enabledDrivers := ["garage", "garage-v1", "aws-s3", "minio"]
  allowUserBackends := false
  userBackendDrivers := []
  oidcOnly := false
  adminSessionTTLSec := adminSessionTTLDefaultSec
  gateways := ⟨[("webdav", { enabled := true })]⟩
  onboardingCompleted := false
  activeSkin := defaultActiveSkin
  userOverridableSkin := false
  allowedUserSkins := []

/-- An empty name stands for the built-in skin. -/
def skinOrDefault (skin : String) : String := if skin = "" then defaultActiveSkin else skin

theorem skinOrDefault_idem (skin : String) :
    skinOrDefault (skinOrDefault skin) = skinOrDefault skin := by
  unfold skinOrDefault
  by_cases empty : skin = ""
  · rw [if_pos empty]
    rfl
  · rw [if_neg empty, if_neg empty]

/-- Users may not choose, and no choice is listed. -/
def OrgCapabilities.noSkinChoice (data : OrgCapabilities) : Bool :=
  !data.userOverridableSkin && data.allowedUserSkins.length == 0

/-- What `Get` returns. -/
def OrgCapabilities.read (data : OrgCapabilities) : OrgCapabilities :=
  { data with
    adminSessionTTLSec :=
      if data.adminSessionTTLSec ≤ 0 then adminSessionTTLDefaultSec else data.adminSessionTTLSec
    activeSkin := skinOrDefault data.activeSkin
    userOverridableSkin := if data.noSkinChoice then false else data.userOverridableSkin
    allowedUserSkins := if data.noSkinChoice then [] else data.allowedUserSkins }

/-- What `Update` stores. -/
def OrgCapabilities.clamped (capabilities : OrgCapabilities) : OrgCapabilities :=
  { capabilities with
    adminSessionTTLSec := clampAdminSessionTTL capabilities.adminSessionTTLSec
    activeSkin := skinOrDefault capabilities.activeSkin }

/-- The merge in `updateOrgCapabilitiesHandler`. -/
def OrgCapabilities.merge (caps : OrgCapabilities) (patch : OrgCapabilitiesPatch) :
    OrgCapabilities where
  signupMode := patch.signupMode.getD caps.signupMode
  enabledDrivers := patch.enabledDrivers.getD caps.enabledDrivers
  allowUserBackends := patch.allowUserBackends.getD caps.allowUserBackends
  userBackendDrivers := patch.userBackendDrivers.getD caps.userBackendDrivers
  oidcOnly := patch.oidcOnly.getD caps.oidcOnly
  adminSessionTTLSec := patch.adminSessionTTLSec.getD caps.adminSessionTTLSec
  gateways := patch.gateways.getD caps.gateways
  onboardingCompleted := patch.onboardingCompleted.getD caps.onboardingCompleted
  activeSkin := patch.activeSkin.getD caps.activeSkin
  userOverridableSkin := patch.userOverridableSkin.getD caps.userOverridableSkin
  allowedUserSkins := patch.allowedUserSkins.getD caps.allowedUserSkins

/-! ## Field by field -/

inductive Field where
  | signupMode | enabledDrivers | allowUserBackends | userBackendDrivers | oidcOnly
  | adminSessionTTLSec | gateways | onboardingCompleted | activeSkin | userOverridableSkin
  | allowedUserSkins
  deriving DecidableEq, Repr

def Field.Value : Field -> Type
  | .signupMode => String
  | .enabledDrivers => List String
  | .allowUserBackends => Bool
  | .userBackendDrivers => List String
  | .oidcOnly => Bool
  | .adminSessionTTLSec => Int
  | .gateways => GatewaySettings
  | .onboardingCompleted => Bool
  | .activeSkin => String
  | .userOverridableSkin => Bool
  | .allowedUserSkins => List String

/-- The record as a value for every field. -/
def OrgCapabilities.get (caps : OrgCapabilities) : Record Field.Value
  | .signupMode => caps.signupMode
  | .enabledDrivers => caps.enabledDrivers
  | .allowUserBackends => caps.allowUserBackends
  | .userBackendDrivers => caps.userBackendDrivers
  | .oidcOnly => caps.oidcOnly
  | .adminSessionTTLSec => caps.adminSessionTTLSec
  | .gateways => caps.gateways
  | .onboardingCompleted => caps.onboardingCompleted
  | .activeSkin => caps.activeSkin
  | .userOverridableSkin => caps.userOverridableSkin
  | .allowedUserSkins => caps.allowedUserSkins

/-- The fields that a patch mentions. -/
def OrgCapabilitiesPatch.get (patch : OrgCapabilitiesPatch) : Edit Field.Value
  | .signupMode => patch.signupMode
  | .enabledDrivers => patch.enabledDrivers
  | .allowUserBackends => patch.allowUserBackends
  | .userBackendDrivers => patch.userBackendDrivers
  | .oidcOnly => patch.oidcOnly
  | .adminSessionTTLSec => patch.adminSessionTTLSec
  | .gateways => patch.gateways
  | .onboardingCompleted => patch.onboardingCompleted
  | .activeSkin => patch.activeSkin
  | .userOverridableSkin => patch.userOverridableSkin
  | .allowedUserSkins => patch.allowedUserSkins

/-- The value of a field as an update stores it. -/
def Field.clamped : (field : Field) -> field.Value -> field.Value
  | .adminSessionTTLSec => clampAdminSessionTTL
  | .activeSkin => skinOrDefault
  | .signupMode | .enabledDrivers | .allowUserBackends | .userBackendDrivers | .oidcOnly
  | .gateways | .onboardingCompleted | .userOverridableSkin
  | .allowedUserSkins => fun value => value

theorem Field.clamped_idem (field : Field) (value : field.Value) :
    field.clamped (field.clamped value) = field.clamped value := by
  cases field with
  | adminSessionTTLSec => exact clampAdminSessionTTL_idem value
  | activeSkin => exact skinOrDefault_idem value
  | _ => rfl

theorem get_clamped (caps : OrgCapabilities) (field : Field) :
    caps.clamped.get field = field.clamped (caps.get field) := by
  cases field <;> rfl

theorem get_merge (caps : OrgCapabilities) (patch : OrgCapabilitiesPatch) :
    (caps.merge patch).get = patch.get.apply caps.get := by
  funext field
  cases field <;> rfl

/-- The defaults that a reader sees are those an update would store. -/
theorem clamped_get_read (data : OrgCapabilities) (field : Field) :
    field.clamped (data.read.get field) = field.clamped (data.get field) := by
  cases field with
  | adminSessionTTLSec =>
      change clampAdminSessionTTL (if data.adminSessionTTLSec ≤ 0 then adminSessionTTLDefaultSec
        else data.adminSessionTTLSec) = clampAdminSessionTTL data.adminSessionTTLSec
      split
      · rename_i unset
        unfold clampAdminSessionTTL
        rw [if_pos unset]
        rfl
      · rfl
  | activeSkin => exact skinOrDefault_idem data.activeSkin
  | userOverridableSkin =>
      change (if data.noSkinChoice = true then false else data.userOverridableSkin) =
        data.userOverridableSkin
      split
      · rename_i none
        exact (Bool.not_eq_true' _ ▸ (Bool.and_eq_true_iff.mp none).1).symm
      · rfl
  | allowedUserSkins =>
      change (if data.noSkinChoice = true then [] else data.allowedUserSkins) =
        data.allowedUserSkins
      split
      · rename_i none
        have empty := (Bool.and_eq_true_iff.mp none).2
        exact (List.eq_nil_of_length_eq_zero (beq_iff_eq.mp empty)).symm
      · rfl
  | _ => rfl

end Settings
end Basement
