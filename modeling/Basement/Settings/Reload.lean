import Basement.Library.Json
import Basement.Library.Transition
import Basement.Settings.OrgCapabilities

namespace Basement
namespace Settings

open Library Library.Json

/-!
# The settings file

`org_capabilities.json` was written by three generations of the program.  The first did not know
gateways, the second had one object for WebDAV, and the current one has a map of protocols.
Opening the store decodes the file into the defaults and then migrates what looks like an older
file, and saving leaves out the fields that are empty.

A nil slice or map is not told apart from an empty one.
-/

/-! ## Gateways -/

def GatewaySettings.lookup (g : GatewaySettings) (name : String) : Option GatewayConfig :=
  Json.lookup g.protocols name

/-- `IsEnabled`. -/
def GatewaySettings.isEnabled (g : GatewaySettings) (name : String) : Bool :=
  match g.lookup name with
  | some cfg => cfg.enabled
  | none => false

/-- `BaseURL`. -/
def GatewaySettings.baseURL (g : GatewaySettings) (name : String) : String :=
  match g.lookup name with
  | some cfg => if cfg.baseURL ≠ "" then cfg.baseURL else ""
  | none => ""

/-- `normalizeGateways`. -/
def normalizeGateways (g : GatewaySettings) (hadField : Bool) : GatewaySettings :=
  if !hadField then ⟨[("webdav", { enabled := true })]⟩
  else
    match g.lookup "webdav" with
    | some _ => g
    | none => ⟨g.protocols ++ [("webdav", { enabled := true })]⟩

/-! ## Decoding -/

def configShape : Shape GatewayConfig where
  fields := [
    .of "enabled" decodeBool (·.enabled) fun v x => { v with enabled := x },
    .of "baseUrl" decodeString (·.baseURL) fun v x => { v with baseURL := x },
    .of "options" (decodeMap (decodeString "")) (·.options) fun v x => { v with options := x }]
  distinct := by decide +kernel

def decodeConfig (json : Json) :
    Option GatewayConfig := configShape.decode { enabled := false } json

def gatewaysShape : Shape GatewaySettings where
  fields := [.of "protocols" (decodeMap decodeConfig) (·.protocols) fun _ x => ⟨x⟩]
  distinct := by decide +kernel

def capabilitiesShape : Shape OrgCapabilities where
  fields := [
    .of "signupMode" decodeString (·.signupMode) fun v x => { v with signupMode := x },
    .of "enabledDrivers" decodeStrings (·.enabledDrivers) fun v x => { v with enabledDrivers := x },
    .of "allowUserBackends" decodeBool (·.allowUserBackends) fun v x =>
      { v with allowUserBackends := x },
    .of "userBackendDrivers" decodeStrings (·.userBackendDrivers) fun v x =>
      { v with userBackendDrivers := x },
    .of "oidcOnly" decodeBool (·.oidcOnly) fun v x => { v with oidcOnly := x },
    .of "adminSessionTtlSec" decodeInt (·.adminSessionTTLSec) fun v x =>
      { v with adminSessionTTLSec := x },
    .of "gateways" gatewaysShape.decode (·.gateways) fun v x => { v with gateways := x },
    .of "onboardingCompleted" decodeBool (·.onboardingCompleted) fun v x =>
      { v with onboardingCompleted := x },
    .of "activeSkin" decodeString (·.activeSkin) fun v x => { v with activeSkin := x },
    .of "userOverridableSkin" decodeBool (·.userOverridableSkin) fun v x =>
      { v with userOverridableSkin := x },
    .of "allowedUserSkins" decodeStrings (·.allowedUserSkins) fun v x =>
      { v with allowedUserSkins := x }]
  distinct := by decide +kernel

/-- The keys of the file, as the migrations look at them. -/
def rawEntries : Json -> List (String × Json)
  | .obj entries => entries
  | _ => []

/-- `checkRawSkinPolicy`. -/
def checkRawSkinPolicy (raw : List (String × Json)) : Option String :=
  (Json.lookup raw "skinPolicy").bind (decodeString "")

/-- The choice of skins after the migration of the former policy. -/
def OrgCapabilities.migrateSkinPolicy (data : OrgCapabilities) (raw : List (String × Json)) :
    OrgCapabilities :=
  match checkRawSkinPolicy raw with
  | some policy =>
      if policy = "user-choice" then
        { data with userOverridableSkin := true, allowedUserSkins := [] }
      else { data with userOverridableSkin := false, allowedUserSkins := [] }
  | none =>
      if data.noSkinChoice then
        { data with userOverridableSkin := false, allowedUserSkins := [] }
      else data

/-- An empty list of drivers stands for the default ones. -/
def driversOrDefault (drivers : List String) : List String :=
  if drivers = [] then ["garage", "garage-v1", "aws-s3", "minio"] else drivers

/-- The migrations of `load`. -/
def OrgCapabilities.migrate (data : OrgCapabilities) (raw : List (String × Json)) :
    OrgCapabilities :=
  { data with
    gateways := normalizeGateways data.gateways (Json.lookup raw "gateways").isSome
    onboardingCompleted :=
      if (Json.lookup raw "onboardingCompleted").isSome then data.onboardingCompleted else true
    enabledDrivers := driversOrDefault data.enabledDrivers
    activeSkin := skinOrDefault data.activeSkin : OrgCapabilities }.migrateSkinPolicy raw

/-- `load`.  There is no file, or it is empty, or it is a JSON value; a value that cannot be
decoded is an error. -/
def load : Option Json -> Option OrgCapabilities
  | none => some defaultOrgCapabilities
  | some json =>
      (capabilitiesShape.decode { defaultOrgCapabilities with gateways := ⟨[]⟩ } json).map fun data
      =>
        data.migrate (rawEntries json)

/-! ## Encoding -/

def encodeStrings (values : List String) : Json := .arr (values.map .str)

def encodeConfig (cfg : GatewayConfig) : Json :=
  .obj (("enabled", .bool cfg.enabled) ::
    (omitEmpty (cfg.baseURL != "") "baseUrl" (.str cfg.baseURL) ++
      (omitEmpty (!cfg.options.isEmpty) "options"
        (.obj (cfg.options.map fun option => (option.1, .str option.2))) ++ [])))

def encodeGateways (g : GatewaySettings) : Json :=
  .obj (omitEmpty (!g.protocols.isEmpty) "protocols"
    (.obj (g.protocols.map fun entry => (entry.1, encodeConfig entry.2))) ++ [])

/-- What `Save` writes. -/
def encode (data : OrgCapabilities) : Json :=
  .obj (("signupMode", .str data.signupMode) ::
    ("enabledDrivers", encodeStrings data.enabledDrivers) ::
    ("allowUserBackends", .bool data.allowUserBackends) ::
    ("userBackendDrivers", encodeStrings data.userBackendDrivers) ::
    ("oidcOnly", .bool data.oidcOnly) ::
    (omitEmpty (data.adminSessionTTLSec != 0) "adminSessionTtlSec" (.int data.adminSessionTTLSec) ++
      ("gateways", encodeGateways data.gateways) ::
      (omitEmpty data.onboardingCompleted "onboardingCompleted" (.bool data.onboardingCompleted) ++
        (omitEmpty (data.activeSkin != "") "activeSkin" (.str data.activeSkin) ++
          ("userOverridableSkin", .bool data.userOverridableSkin) ::
          (omitEmpty (!data.allowedUserSkins.isEmpty) "allowedUserSkins"
            (encodeStrings data.allowedUserSkins) ++ [])))))

/-! ## What was saved is read back -/

theorem decodeConfig_encoded (cfg : GatewayConfig) :
    decodeConfig (encodeConfig cfg) = some cfg := by
  have options : decodeMap (decodeString "") []
      (.obj (cfg.options.map fun option => (option.1, .str option.2))) = some cfg.options :=
    @decodeMapEntries_encoded _ (decodeString "") Json.str (fun _ => rfl) [] cfg.options
  rcases cfg with ⟨enabled, baseURL, stored⟩
  refine (Shape.decodeEntries_cons_of (List.mem_of_getElem? (i := 0) rfl) _ rfl _).trans ?_
  refine (Shape.decodeEntries_omitEmpty (List.mem_of_getElem? (i := 1) rfl) _ (fun _ => rfl)
    ?_ _).trans ?_
  · intro empty
    rw [show baseURL = "" by simpa using empty]
  refine (Shape.decodeEntries_omitEmpty (List.mem_of_getElem? (i := 2) rfl) _ (fun _ => options)
    ?_ _).trans rfl
  intro empty
  rw [show stored = [] by simpa using empty]

theorem decodeGateways_encoded (g : GatewaySettings) :
    gatewaysShape.decode ⟨[]⟩ (encodeGateways g) = some g := by
  have protocols : decodeMap decodeConfig []
      (.obj (g.protocols.map fun entry => (entry.1, encodeConfig entry.2))) = some g.protocols :=
    decodeMapEntries_encoded decodeConfig_encoded [] g.protocols
  refine (Shape.decodeEntries_omitEmpty (List.mem_of_getElem? (i := 0) rfl) _
    (fun _ => protocols) ?_ _).trans rfl
  intro empty
  rw [show g.protocols = [] by simpa using empty]

theorem onboarding_eq {data : OrgCapabilities} {x : Bool} (same : data.onboardingCompleted = x) :
    { data with onboardingCompleted := x } = data := by
  subst same
  rfl

theorem skin_eq {data : OrgCapabilities} {x : String} (same : data.activeSkin = x) :
    { data with activeSkin := x } = data := by
  subst same
  rfl

theorem skins_eq {data : OrgCapabilities} {x : List String} (same : data.allowedUserSkins = x) :
    { data with allowedUserSkins := x } = data := by
  subst same
  rfl

/-- The decoder reads back what was saved, with the default for an omitted skin. -/
theorem decode_encode {data : OrgCapabilities} (low : 0 < data.adminSessionTTLSec)
    (high : data.adminSessionTTLSec ≤ adminSessionTTLMaxSec) :
    capabilitiesShape.decode { defaultOrgCapabilities with gateways := ⟨[]⟩ } (encode data) =
      some { data with activeSkin := skinOrDefault data.activeSkin } := by
  have ttl : forall old, decodeInt old (.int data.adminSessionTTLSec) =
      some data.adminSessionTTLSec := by
    intro old
    unfold adminSessionTTLMaxSec at high
    exact if_pos (by omega)
  have skin : (data.activeSkin != "") = true -> forall old,
      decodeString old (.str data.activeSkin) = some (skinOrDefault data.activeSkin) := by
    intro named old
    rw [skinOrDefault, if_neg (by simpa using named)]
    rfl
  refine (Shape.decodeEntries_cons_of (List.mem_of_getElem? (i := 0) rfl) _ rfl _).trans ?_
  dsimp only
  refine (Shape.decodeEntries_cons_of (List.mem_of_getElem? (i := 1) rfl) _
    (decodeStrings_encoded _ data.enabledDrivers) _).trans ?_
  dsimp only
  refine (Shape.decodeEntries_cons_of (List.mem_of_getElem? (i := 2) rfl) _ rfl _).trans ?_
  dsimp only
  refine (Shape.decodeEntries_cons_of (List.mem_of_getElem? (i := 3) rfl) _
    (decodeStrings_encoded _ data.userBackendDrivers) _).trans ?_
  dsimp only
  refine (Shape.decodeEntries_cons_of (List.mem_of_getElem? (i := 4) rfl) _ rfl _).trans ?_
  dsimp only
  refine (Shape.decodeEntries_omitEmpty (List.mem_of_getElem? (i := 5) rfl) _ (fun _ => ttl _)
    ?_ _).trans ?_
  · intro zero
    have : data.adminSessionTTLSec = 0 := by simpa using zero
    omega
  dsimp only
  refine (Shape.decodeEntries_cons_of (List.mem_of_getElem? (i := 6) rfl) _
    (by exact decodeGateways_encoded data.gateways) _).trans ?_
  dsimp only
  refine (Shape.decodeEntries_omitEmpty (List.mem_of_getElem? (i := 7) rfl) _ (fun _ => rfl)
    ?_ _).trans ?_
  · exact fun pending => onboarding_eq pending.symm
  dsimp only
  refine (Shape.decodeEntries_omitEmpty (List.mem_of_getElem? (i := 8) rfl) _
    (fun named => skin named _) ?_ _).trans ?_
  · intro unnamed
    have empty : data.activeSkin = "" := by simpa using unnamed
    exact skin_eq (empty ▸ rfl)
  dsimp only
  refine (Shape.decodeEntries_cons_of (List.mem_of_getElem? (i := 9) rfl) _ rfl _).trans ?_
  dsimp only
  refine (Shape.decodeEntries_omitEmpty (List.mem_of_getElem? (i := 10) rfl) _
    (fun _ => decodeStrings_encoded _ data.allowedUserSkins) ?_ _).trans ?_
  · intro silent
    have empty : data.allowedUserSkins = [] := by simpa using silent
    exact skins_eq empty.symm
  dsimp only
  rfl

/-- The keys that the migrations look for in a file that was saved. -/
theorem lookup_encode (data : OrgCapabilities) :
    (Json.lookup (rawEntries (encode data)) "gateways").isSome = true ∧
      (Json.lookup (rawEntries (encode data)) "onboardingCompleted").isSome =
        data.onboardingCompleted ∧
      Json.lookup (rawEntries (encode data)) "skinPolicy" = none := by
  simp only [encode, rawEntries, lookup_cons, lookup_append, lookup_omitEmpty, lookup_nil]
  refine ⟨by simp, ?_, by simp⟩
  cases data.onboardingCompleted <;> simp

/-- Without the former policy the choice of skins is kept. -/
theorem migrateSkinPolicy_absent (data : OrgCapabilities) {raw : List (String × Json)}
    (absent : Json.lookup raw "skinPolicy" = none) : data.migrateSkinPolicy raw = data := by
  simp only [OrgCapabilities.migrateSkinPolicy, checkRawSkinPolicy, absent, Option.bind_none]
  split
  · rename_i closed
    rcases Bool.and_eq_true_iff.mp closed with ⟨fixed, none⟩
    have empty := List.eq_nil_of_length_eq_zero (beq_iff_eq.mp none)
    rcases data with ⟨_, _, _, _, _, _, _, _, _, overridable, skins⟩
    simp_all
  · rfl

/-- What opening the store makes of a file that was saved. -/
theorem load_encode {data : OrgCapabilities} (low : 0 < data.adminSessionTTLSec)
    (high : data.adminSessionTTLSec ≤ adminSessionTTLMaxSec) :
    load (some (encode data)) = some { data with
      gateways := normalizeGateways data.gateways true
      onboardingCompleted := true
      enabledDrivers := driversOrDefault data.enabledDrivers
      activeSkin := skinOrDefault data.activeSkin } := by
  rcases lookup_encode data with ⟨gateways, onboarding, policy⟩
  rw [load, decode_encode low high, Option.map_some, OrgCapabilities.migrate,
    migrateSkinPolicy_absent _ policy, gateways, onboarding, skinOrDefault_idem]
  cases data.onboardingCompleted <;> rfl

/-- What an update stores has a lifetime within the bounds. -/
theorem clamped_ttl (c : OrgCapabilities) : 0 < c.clamped.adminSessionTTLSec ∧
    c.clamped.adminSessionTTLSec ≤ adminSessionTTLMaxSec := by
  have bounds := clampAdminSessionTTL_bounds c.adminSessionTTLSec
  unfold adminSessionTTLMinSec at bounds
  exact ⟨Int.lt_of_lt_of_le (by decide) bounds.1, bounds.2⟩

/-- Equal values of all fields, and equal configurations of every gateway. -/
def OrgCapabilities.Same (a b : OrgCapabilities) : Prop :=
  { a with gateways := b.gateways } = b ∧
    forall name, a.gateways.lookup name = b.gateways.lookup name

theorem normalizeGateways_webdav (g : GatewaySettings) (hadField : Bool) :
    ((normalizeGateways g hadField).lookup "webdav").isSome = true := by
  unfold normalizeGateways
  split
  · rfl
  · split
    · rename_i found
      rw [found]
      rfl
    · rw [GatewaySettings.lookup, lookup_append]
      rfl

/-- The settings are the same after a restart exactly when none of the three that a migration
mistakes for a missing one was saved. -/
theorem settings_survive_iff (c : OrgCapabilities) :
    (Exists fun reopened => load (some (encode c.clamped)) = some reopened ∧
      reopened.read.Same c.clamped.read) ↔
    c.onboardingCompleted = true ∧ c.enabledDrivers ≠ [] ∧
      (c.gateways.lookup "webdav").isSome = true := by
  rcases clamped_ttl c with ⟨low, high⟩
  rw [load_encode low high]
  constructor
  · rintro ⟨reopened, opened, fields, gateways⟩
    cases Option.some.inj opened
    refine ⟨(congrArg OrgCapabilities.onboardingCompleted fields).symm, ?_, ?_⟩
    · intro empty
      have drivers : driversOrDefault c.enabledDrivers = c.enabledDrivers :=
        congrArg OrgCapabilities.enabledDrivers fields
      rw [empty] at drivers
      exact absurd drivers (by decide)
    · have webdav : (normalizeGateways c.gateways true).lookup "webdav" =
          c.gateways.lookup "webdav" := gateways "webdav"
      rw [← webdav]
      exact normalizeGateways_webdav c.gateways true
  · rintro ⟨onboarding, drivers, webdav⟩
    rcases Option.isSome_iff_exists.mp webdav with ⟨cfg, found⟩
    have kept : normalizeGateways c.gateways true = c.gateways := by
      simp [normalizeGateways, found]
    have listed : driversOrDefault c.enabledDrivers = c.enabledDrivers := if_neg drivers
    have skin : skinOrDefault c.clamped.activeSkin = c.clamped.activeSkin :=
      skinOrDefault_idem c.activeSkin
    refine ⟨c.clamped, ?_, rfl, fun name => rfl⟩
    rw [skin]
    change some { c.clamped with
      gateways := normalizeGateways c.gateways true
      onboardingCompleted := true
      enabledDrivers := driversOrDefault c.enabledDrivers } = some c.clamped
    rw [kept, listed, ← onboarding]
    rfl

/-- The first update of a fresh deployment, which has not dismissed the wizard. -/
theorem pending_onboarding_lost : ¬ forall c : OrgCapabilities,
    Exists fun reopened => load (some (encode c.clamped)) = some reopened ∧
      reopened.read.Same c.clamped.read := by
  intro survive
  rcases survive defaultOrgCapabilities with ⟨reopened, opened, fields, _⟩
  have loaded : (load (some (encode defaultOrgCapabilities.clamped))).map
      (·.onboardingCompleted) = some true := by decide +kernel
  rw [opened] at loaded
  have kept : reopened.onboardingCompleted = false :=
    congrArg OrgCapabilities.onboardingCompleted fields
  rw [Option.map_some, kept] at loaded
  exact absurd loaded (by decide)

/-! ## What a file says about WebDAV -/

/-- The configuration of a gateway in the file: the flag, and the address if there is one. -/
def StatesConfig (config : Json) (enabled : Bool) (baseURL : String) : Prop :=
  Exists fun entries => config = .obj entries ∧ Single "enabled" entries (.bool enabled) ∧
    (Single "baseUrl" entries (.str baseURL) ∨ Absent "baseUrl" entries ∧ baseURL = "")

/-- The generations of the file. -/
inductive Generation where
  | noGateways | webdavOnly | current
  deriving DecidableEq

/-- A file of the generation says that WebDAV is enabled or not, and at which address.  A file
that is silent about WebDAV says the default. -/
inductive States : Generation -> List (String × Json) -> Bool -> String -> Prop where
  | noGateways {entries : List (String × Json)} (gateways : Absent "gateways" entries) :
      States .noGateways entries true ""
  | webdavOnly {entries gw : List (String × Json)} {config : Json} {enabled : Bool}
      {baseURL : String} (gateways : Single "gateways" entries (.obj gw))
      (protocols : Absent "protocols" gw) (webdav : Single "webdav" gw config)
      (stated : StatesConfig config enabled baseURL) : States .webdavOnly entries enabled baseURL
  | silent {entries gw : List (String × Json)} (gateways : Single "gateways" entries (.obj gw))
      (protocols : Absent "protocols" gw) (webdav : Absent "webdav" gw) :
      States .current entries true ""
  | unlisted {entries gw map : List (String × Json)}
      (gateways : Single "gateways" entries (.obj gw))
      (protocols : Single "protocols" gw (.obj map)) (unlisted : Json.lookup map "webdav" = none)
      (webdav : Absent "webdav" gw) : States .current entries true ""
  | listed {entries gw map : List (String × Json)} {config : Json} {enabled : Bool}
      {baseURL : String} (gateways : Single "gateways" entries (.obj gw))
      (protocols : Single "protocols" gw (.obj map))
      (listed : Json.lookup map "webdav" = some config)
      (stated : StatesConfig config enabled baseURL) : States .current entries enabled baseURL

/-- The configuration that a gateway object is decoded into. -/
theorem decodeConfig_states {config : Json} {enabled : Bool} {baseURL : String}
    (stated : StatesConfig config enabled baseURL) {cfg : GatewayConfig}
    (decoded : decodeConfig config = some cfg) :
    cfg.enabled = enabled ∧ cfg.baseURL = baseURL := by
  rcases stated with ⟨entries, rfl, flag, address⟩
  constructor
  · have others : forall other, other ∈ configShape.fields -> other.name ≠ "enabled" ->
        forall value json next, other.set value json = some next ->
          next.enabled = value.enabled := by
      intro other listed different value json next set
      simp only [configShape, List.mem_cons, List.not_mem_nil, or_false] at listed
      rcases listed with rfl | rfl | rfl
      · exact absurd rfl different
      all_goals
        rcases Option.map_eq_some_iff.mp set with ⟨part, _, rfl⟩
        rfl
    rcases Shape.decode_get_single others (List.mem_of_getElem? (i := 0) rfl) flag decoded with
      ⟨middle, next, _, set, final⟩
    rw [final, ← Option.some.inj set]
  · have others : forall other, other ∈ configShape.fields -> other.name ≠ "baseUrl" ->
        forall value json next, other.set value json = some next ->
          next.baseURL = value.baseURL := by
      intro other listed different value json next set
      simp only [configShape, List.mem_cons, List.not_mem_nil, or_false] at listed
      rcases listed with rfl | rfl | rfl
      · rcases Option.map_eq_some_iff.mp set with ⟨part, _, rfl⟩
        rfl
      · exact absurd rfl different
      · rcases Option.map_eq_some_iff.mp set with ⟨part, _, rfl⟩
        rfl
    rcases address with given | ⟨absent, rfl⟩
    · rcases Shape.decode_get_single others (List.mem_of_getElem? (i := 1) rfl) given decoded with
        ⟨middle, next, _, set, final⟩
      rw [final, ← Option.some.inj set]
    · exact Shape.decode_get_absent others absent decoded

section Gateways

variable {gw : List (String × Json)} {g : GatewaySettings}

/-- Only the protocols of a gateways object are looked at. -/
theorem gateways_others : forall other, other ∈ gatewaysShape.fields -> other.name ≠ "protocols" ->
    forall value json next, other.set value json = some next -> id next = id value := by
  intro other listed different
  simp only [gatewaysShape, List.mem_cons, List.not_mem_nil, or_false] at listed
  exact absurd (congrArg Field.name listed) different

/-- Without protocols a gateways object says nothing. -/
theorem decodeGateways_absent (absent : Absent "protocols" gw)
    (decoded : gatewaysShape.decode ⟨[]⟩ (.obj gw) = some g) : g = ⟨[]⟩ :=
  Shape.decode_get_absent gateways_others absent decoded

section Protocols

variable {map : List (String × Json)} (protocols : Single "protocols" gw (.obj map))
  (decoded : gatewaysShape.decode ⟨[]⟩ (.obj gw) = some g)

include protocols decoded

theorem decodeGateways_single : decodeMapEntries decodeConfig [] map = some g.protocols := by
  rcases Shape.decode_get_single gateways_others (List.mem_of_getElem? (i := 0) rfl) protocols
    decoded with ⟨middle, next, same, set, final⟩
  rcases Option.map_eq_some_iff.mp set with ⟨part, entries, rfl⟩
  cases same
  cases final
  exact entries

/-- A gateway that the protocols do not list has no configuration. -/
theorem lookup_unlisted {name : String} (unlisted : Json.lookup map name = none) :
    g.lookup name = none := by
  have found := lookup_decodeMapEntries name (decodeGateways_single protocols decoded)
  rw [unlisted] at found
  exact found

/-- A gateway has the configuration that the protocols list for it. -/
theorem lookup_listed {name : String} {config : Json}
    (listed : Json.lookup map name = some config) : Exists fun cfg =>
      decodeConfig config = some cfg ∧ g.lookup name = some cfg := by
  have entries := decodeGateways_single protocols decoded
  rcases exists_element entries _ (mem_of_lookup listed) with ⟨cfg, one⟩
  have found := lookup_decodeMapEntries name entries
  rw [listed] at found
  exact ⟨cfg, one, found.trans one⟩

end Protocols

end Gateways

/-- Decoding sets the gateways from their entry alone. -/
theorem capabilities_others : forall other, other ∈ capabilitiesShape.fields ->
    other.name ≠ "gateways" -> forall value json next, other.set value json = some next ->
      next.gateways = value.gateways := by
  intro other listed different value json next set
  simp only [capabilitiesShape, List.mem_cons, List.not_mem_nil, or_false] at listed
  rcases listed with rfl | rfl | rfl | rfl | rfl | rfl | rfl | rfl | rfl | rfl | rfl
  case inr.inr.inr.inr.inr.inr.inl => exact absurd rfl different
  all_goals
    rcases Option.map_eq_some_iff.mp set with ⟨part, _, rfl⟩
    rfl

theorem migrateSkinPolicy_gateways (data : OrgCapabilities) (raw : List (String × Json)) :
    (data.migrateSkinPolicy raw).gateways = data.gateways := by
  unfold OrgCapabilities.migrateSkinPolicy
  split
  · split <;> rfl
  · split <;> rfl

/-- A file without gateways loads with the default. -/
theorem load_noGateways {entries : List (String × Json)} (absent : Absent "gateways" entries)
    {data : OrgCapabilities} (loaded : load (some (.obj entries)) = some data) :
    data.gateways = normalizeGateways ⟨[]⟩ false := by
  rcases Option.map_eq_some_iff.mp loaded with ⟨decoded, _, rfl⟩
  rw [OrgCapabilities.migrate, migrateSkinPolicy_gateways]
  change normalizeGateways _ (Json.lookup entries "gateways").isSome = _
  rw [lookup_of_absent absent]
  rfl

/-- A file with gateways loads with what they are decoded into. -/
theorem load_gateways {entries gw : List (String × Json)}
    (gateways : Single "gateways" entries (.obj gw)) {data : OrgCapabilities}
    (loaded : load (some (.obj entries)) = some data) : Exists fun g =>
      gatewaysShape.decode ⟨[]⟩ (.obj gw) = some g ∧ data.gateways = normalizeGateways g true := by
  rcases Option.map_eq_some_iff.mp loaded with ⟨decoded, entered, rfl⟩
  rcases Shape.decode_get_single capabilities_others (List.mem_of_getElem? (i := 6) rfl) gateways
    entered with ⟨middle, next, same, set, final⟩
  rcases Option.map_eq_some_iff.mp set with ⟨g, fromEntry, rfl⟩
  have empty : middle.gateways = ⟨[]⟩ := same
  have fromEmpty : gatewaysShape.decode middle.gateways (.obj gw) = some g := fromEntry
  refine ⟨g, by rw [← fromEmpty, empty], ?_⟩
  rw [OrgCapabilities.migrate, migrateSkinPolicy_gateways]
  change normalizeGateways decoded.gateways (Json.lookup entries "gateways").isSome = _
  rw [lookup_of_single gateways, final]
  rfl

/-! ## The kill switch -/

/-- What the settings answer about WebDAV. -/
def OrgCapabilities.Answers (data : OrgCapabilities) (enabled : Bool) (baseURL : String) : Prop :=
  data.read.gateways.isEnabled "webdav" = enabled ∧ data.read.gateways.baseURL "webdav" = baseURL

theorem answers_of_lookup {data : OrgCapabilities} {cfg : GatewayConfig}
    (found : data.gateways.lookup "webdav" = some cfg) (enabled : Bool) (baseURL : String) :
    data.Answers enabled baseURL ↔ cfg.enabled = enabled ∧ cfg.baseURL = baseURL := by
  have same : data.read.gateways.lookup "webdav" = some cfg := found
  unfold OrgCapabilities.Answers GatewaySettings.isEnabled GatewaySettings.baseURL
  rw [same]
  by_cases empty : cfg.baseURL = "" <;> simp [empty]

/-- The settings of a file that is silent about WebDAV, or of a former generation. -/
theorem lookup_normalize_silent {g : GatewaySettings} (silent : g.lookup "webdav" = none)
    (hadField : Bool) :
    (normalizeGateways g hadField).lookup "webdav" = some { enabled := true } := by
  cases hadField with
  | false => rfl
  | true =>
      rw [normalizeGateways, if_neg (by simp), silent]
      exact (lookup_append g.protocols _ "webdav").trans rfl

/-- What opening a file answers: what the file says, but the default for the generation with one
object for WebDAV. -/
theorem load_webdav {generation : Generation} {entries : List (String × Json)} {enabled : Bool}
    {baseURL : String} (states : States generation entries enabled baseURL)
    {data : OrgCapabilities} (loaded : load (some (.obj entries)) = some data) :
    Exists fun cfg => data.gateways.lookup "webdav" = some cfg ∧
      (generation = .webdavOnly -> cfg = { enabled := true }) ∧
      (generation ≠ .webdavOnly -> cfg.enabled = enabled ∧ cfg.baseURL = baseURL) := by
  cases states with
  | noGateways gateways =>
      refine ⟨{ enabled := true }, ?_, fun _ => rfl, fun _ => ⟨rfl, rfl⟩⟩
      rw [load_noGateways gateways loaded]
      rfl
  | webdavOnly gateways protocols webdav stated =>
      rcases load_gateways gateways loaded with ⟨g, decoded, same⟩
      refine ⟨{ enabled := true }, ?_, fun _ => rfl, fun other => absurd rfl other⟩
      rw [same, decodeGateways_absent protocols decoded]
      exact lookup_normalize_silent rfl true
  | silent gateways protocols webdav =>
      rcases load_gateways gateways loaded with ⟨g, decoded, same⟩
      refine ⟨{ enabled := true }, ?_, fun _ => rfl, fun _ => ⟨rfl, rfl⟩⟩
      rw [same, decodeGateways_absent protocols decoded]
      exact lookup_normalize_silent rfl true
  | unlisted gateways protocols unlisted webdav =>
      rcases load_gateways gateways loaded with ⟨g, decoded, same⟩
      refine ⟨{ enabled := true }, ?_, fun _ => rfl, fun _ => ⟨rfl, rfl⟩⟩
      rw [same]
      exact lookup_normalize_silent (lookup_unlisted protocols decoded unlisted) true
  | listed gateways protocols listed stated =>
      rcases load_gateways gateways loaded with ⟨g, decoded, same⟩
      rcases lookup_listed protocols decoded listed with ⟨cfg, config, found⟩
      refine ⟨cfg, ?_, nofun, fun _ => decodeConfig_states stated config⟩
      rw [same]
      simp [normalizeGateways, found]

/-! ## Runs -/

/-- The store in memory and its file. -/
structure OrgCapabilitiesStore where
  data : OrgCapabilities
  file : Option Json

/-- An update of the settings that were read, which leaves the gateway's configuration alone, or
a restart. -/
inductive StoreAction where
  | update (edit : { edit : OrgCapabilities -> OrgCapabilities //
      forall c, (edit c).gateways.lookup "webdav" = c.gateways.lookup "webdav" })
  | reload

def OrgCapabilitiesStore.step (s : OrgCapabilitiesStore) :
    StoreAction -> Option OrgCapabilitiesStore
  | .update edit => some ⟨(edit.1 s.data.read).clamped, some (encode (edit.1 s.data.read).clamped)⟩
  | .reload => (load s.file).map fun data => { s with data := data }

/-- Memory and file have the configuration for WebDAV. -/
def Configured (cfg : GatewayConfig) (s : OrgCapabilitiesStore) : Prop :=
  s.data.gateways.lookup "webdav" = some cfg ∧
    forall data, load s.file = some data -> data.gateways.lookup "webdav" = some cfg

theorem configured_step {cfg : GatewayConfig} {s next : OrgCapabilitiesStore} {action : StoreAction}
    (configured : Configured cfg s) (taken : s.step action = some next) : Configured cfg next := by
  cases action with
  | reload =>
      rcases Option.map_eq_some_iff.mp taken with ⟨data, loaded, rfl⟩
      exact ⟨configured.2 data loaded, configured.2⟩
  | update edit =>
      cases Option.some.inj taken
      have kept : (edit.1 s.data.read).clamped.gateways.lookup "webdav" = some cfg :=
        (edit.2 s.data.read).trans configured.1
      refine ⟨kept, ?_⟩
      intro data loaded
      rcases clamped_ttl (edit.1 s.data.read) with ⟨low, high⟩
      rw [load_encode low high] at loaded
      cases loaded
      have whole : normalizeGateways (edit.1 s.data.read).clamped.gateways true =
          (edit.1 s.data.read).clamped.gateways := by
        simp [normalizeGateways, kept]
      rw [whole]
      exact kept

/-- Every run from a file answers as the file says, exactly unless the file is of the generation
with one object for WebDAV and says something other than the default. -/
theorem kill_switch_honoured_iff {generation : Generation} {entries : List (String × Json)}
    {enabled : Bool} {baseURL : String} (states : States generation entries enabled baseURL)
    {data : OrgCapabilities} (loaded : load (some (.obj entries)) = some data) :
    (forall actions final, Transition.exec OrgCapabilitiesStore.step
        ⟨data, some (.obj entries)⟩ actions = some final -> final.data.Answers enabled baseURL) ↔
      ¬ (generation = .webdavOnly ∧ (enabled = false ∨ baseURL ≠ "")) := by
  rcases load_webdav states loaded with ⟨cfg, found, legacy, other⟩
  constructor
  · rintro honoured ⟨isLegacy, switched⟩
    have answers := (answers_of_lookup found enabled baseURL).mp (honoured [] _ rfl)
    rw [legacy isLegacy] at answers
    rcases switched with off | pinned
    · exact absurd (answers.1.trans off) (by decide)
    · exact pinned answers.2.symm
  · intro allowed actions final run
    have stated : cfg.enabled = enabled ∧ cfg.baseURL = baseURL := by
      by_cases isLegacy : generation = .webdavOnly
      · have plain := fun switched => allowed ⟨isLegacy, switched⟩
        rw [legacy isLegacy]
        cases enabled with
        | false => exact absurd (Or.inl rfl) plain
        | true =>
            refine ⟨rfl, ?_⟩
            by_contra pinned
            exact plain (Or.inr (Ne.symm pinned))
      · exact other isLegacy
    have initially : Configured cfg ⟨data, some (.obj entries)⟩ := by
      refine ⟨found, ?_⟩
      intro again same
      rw [Option.some.inj (same.symm.trans loaded)]
      exact found
    have configured := Transition.exec_invariant
      (fun _ _ _ configured taken => configured_step configured taken) initially run
    exact (answers_of_lookup configured.1 enabled baseURL).mpr stated

/-- A file of the current generation in which an operator switched WebDAV off. -/
def protocolsOff : List (String × Json) :=
  [("gateways", .obj [("protocols", .obj [("webdav", .obj [("enabled", .bool false)])])])]

theorem protocolsOff_states : States .current protocolsOff false "" :=
  .listed (single_singleton _ _) (single_singleton _ _) rfl
    ⟨_, rfl, single_singleton _ _, Or.inr ⟨by decide +kernel, rfl⟩⟩

/-- It stays off. -/
theorem kill_switch_honoured_iff_protocols :
    (forall actions final, Transition.exec OrgCapabilitiesStore.step
        ⟨(load (some (.obj protocolsOff))).get (by decide +kernel), some (.obj protocolsOff)⟩
        actions = some final -> final.data.Answers false "") ↔
      ¬ (Generation.current = .webdavOnly ∧ (false = false ∨ "" ≠ "")) :=
  kill_switch_honoured_iff protocolsOff_states (Option.some_get _).symm

/-- A file of the second generation in which an operator switched WebDAV off. -/
def webdavOff : List (String × Json) :=
  [("gateways", .obj [("webdav", .obj [("enabled", .bool false)])])]

theorem webdavOff_states : States .webdavOnly webdavOff false "" :=
  .webdavOnly (single_singleton _ _) (by decide +kernel) (single_singleton _ _)
    ⟨_, rfl, single_singleton _ _, Or.inr ⟨by decide +kernel, rfl⟩⟩

/-- It is loaded as switched on. -/
theorem kill_switch_ignored : ¬ forall {generation : Generation} {entries : List (String × Json)}
    {enabled : Bool} {baseURL : String}, States generation entries enabled baseURL ->
      forall {data : OrgCapabilities}, load (some (.obj entries)) = some data ->
        data.Answers enabled baseURL := by
  intro honoured
  rcases honoured webdavOff_states (Option.some_get (by decide +kernel)).symm with ⟨off, _⟩
  exact absurd off (by decide +kernel)

end Settings
end Basement
