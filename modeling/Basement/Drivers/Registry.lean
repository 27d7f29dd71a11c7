import Basement.Library.SortedStore
import Mathlib.Data.String.Basic

namespace Basement
namespace Drivers

open Library

/-!
# The driver registry

The registry keeps the drivers it has built in three caches: one per connection, one
for the grants of a connection, and one for the regions of users.  A region's driver is
filed under the endpoint and the access key ID.

The factory and what it makes of a config are parameters; a driver is bound to the config
it was built from.  The answer of the connection store to a lookup is an argument of the
call.
-/

/-! ## Drivers -/

abbrev DriverConfig := SortedStore String String

/-- `Open` on a driver type; a driver remembers the config it is bound to. -/
structure Factory (Driver : Type) where
  opens : String -> DriverConfig -> Except String Driver
  config : Driver -> DriverConfig
  bound : forall {name cfg drv}, opens name cfg = .ok drv -> config drv = cfg

/-- The arguments of `ForUserRegion`. -/
structure RegionArgs where
  endpoint : String
  accessKeyID : String
  secretKey : String
  region : String
  addressingStyle : String
  deriving DecidableEq, Repr

/-- The config of a region's driver. -/
def regionConfig (args : RegionArgs) : DriverConfig :=
  [("s3_endpoint", args.endpoint), ("access_key_id", args.accessKeyID),
    ("secret_key", args.secretKey), ("region", args.region),
    ("addressing_style", args.addressingStyle), ("s3_access_key", args.accessKeyID),
    ("s3_secret_key", args.secretKey), ("ssrf_guard", "user-region")].foldl
      (fun cfg entry => cfg.put entry.1 entry.2) SortedStore.empty

/-- `cfg[key]`, with the empty string for an absent key. -/
def configValue (cfg : DriverConfig) (key : String) : String := (cfg.get? key).getD ""

/-- What a Garage driver that is bound to a config signs with. -/
def signing (cfg : DriverConfig) : RegionArgs where
  endpoint := configValue cfg "s3_endpoint"
  accessKeyID := configValue cfg "access_key_id"
  secretKey := configValue cfg "secret_key"
  region := configValue cfg "region"
  addressingStyle := configValue cfg "addressing_style"

theorem signing_regionConfig (args : RegionArgs) : signing (regionConfig args) = args := by
  simp [signing, configValue, regionConfig, SortedStore.get?_put]

/-! ## The registry -/

structure Registry (Driver : Type) where
  cache : SortedStore String Driver
  userCache : SortedStore String Driver
  regionCache : SortedStore String Driver
  regionsWired : Bool

/-- `NewRegistry`, after `SetUserRegionsStore` or without it. -/
def Registry.new (Driver : Type) (wired : Bool) : Registry Driver :=
  ⟨SortedStore.empty, SortedStore.empty, SortedStore.empty, wired⟩

/-- A connection as `conns.Get` returns it: its driver type and its config. -/
abbrev FoundConnection := Except String (String × DriverConfig)

def errUnsupported : String := "driver: operation not supported by this driver"

/-- The two parts of a cache key with a bar between them. -/
def joinKey (first second : String) : String := first ++ "|" ++ second

variable {Driver : Type} (factory : Factory Driver)

/-- `Registry.For`. -/
def Registry.forConnection (registry : Registry Driver) (connID : String) (found : FoundConnection) :
    Except String Driver × Registry Driver :=
  match registry.cache.get? connID with
  | some cached => (.ok cached, registry)
  | none =>
      match found with
      | .error error => (.error ("getting connection " ++ connID ++ ": " ++ error), registry)
      | .ok conn =>
          match factory.opens conn.1 conn.2 with
          | .error error =>
              (.error ("building driver for connection " ++ connID ++ ": " ++ error), registry)
          | .ok drv => (.ok drv, { registry with cache := registry.cache.put connID drv })

/-- `Registry.Invalidate`: the connection's own entry and those of its grants. -/
def Registry.invalidate (registry : Registry Driver) (connID : String) : Registry Driver :=
  { registry with
    cache := registry.cache.erase connID
    userCache := registry.userCache.restrict fun key =>
      !(connID ++ "|").toList.isPrefixOf key.toList }

/-- The config of a grant's driver: the user's key under every name it may be read by. -/
def grantConfig (cfg : DriverConfig) (accessKeyID secretKey : String) : DriverConfig :=
  [("access_key_id", accessKeyID), ("secret_key", secretKey), ("access_key", accessKeyID),
    ("s3_access_key", accessKeyID), ("s3_secret_key", secretKey)].foldl
      (fun cfg entry => cfg.put entry.1 entry.2) cfg

/-- `Registry.ForUserGrant`. -/
def Registry.forUserGrant (registry : Registry Driver) (connID accessKeyID secretKey : String)
    (found : FoundConnection) : Except String Driver × Registry Driver :=
  if connID = "" then (.error "ForUserGrant: empty connID", registry)
  else if accessKeyID = "" then (.error "ForUserGrant: empty accessKeyID", registry)
  else if secretKey = "" then (.error "ForUserGrant: empty secretKey", registry)
  else
    match registry.userCache.get? (joinKey connID accessKeyID) with
    | some cached => (.ok cached, registry)
    | none =>
        match found with
        | .error error => (.error ("getting connection " ++ connID ++ ": " ++ error), registry)
        | .ok conn =>
            match factory.opens conn.1 (grantConfig conn.2 accessKeyID secretKey) with
            | .error error =>
                (.error ("building per-user driver for connection " ++ connID ++ ": " ++ error),
                  registry)
            | .ok drv =>
                (.ok drv, { registry with
                  userCache := registry.userCache.put (joinKey connID accessKeyID) drv })

/-- `Registry.ForUserRegion`. -/
def Registry.forUserRegion (registry : Registry Driver) (args : RegionArgs) :
    Except String Driver × Registry Driver :=
  if args.endpoint = "" then (.error "ForUserRegion: empty endpoint", registry)
  else if args.accessKeyID = "" then (.error "ForUserRegion: empty accessKeyID", registry)
  else if args.secretKey = "" then (.error "ForUserRegion: empty secretKey", registry)
  else if registry.regionsWired = false then (.error errUnsupported, registry)
  else
    match registry.regionCache.get? (joinKey args.endpoint args.accessKeyID) with
    | some cached => (.ok cached, registry)
    | none =>
        match factory.opens "garage-v1" (regionConfig args) with
        | .error error =>
            (.error ("building per-region driver for " ++ args.endpoint ++ ": " ++ error), registry)
        | .ok drv =>
            (.ok drv, { registry with
              regionCache := registry.regionCache.put (joinKey args.endpoint args.accessKeyID) drv })

/-- `Registry.InvalidateUserRegion`. -/
def Registry.invalidateUserRegion (registry : Registry Driver) (endpoint accessKeyID : String) :
    Registry Driver :=
  { registry with regionCache := registry.regionCache.erase (joinKey endpoint accessKeyID) }

/-! ## Histories -/

/-- A call on behalf of anybody. -/
inductive RegistryCall where
  | forConnection (connID : String) (found : FoundConnection)
  | invalidate (connID : String)
  | forUserGrant (connID accessKeyID secretKey : String) (found : FoundConnection)
  | forUserRegion (args : RegionArgs)
  | invalidateUserRegion (endpoint accessKeyID : String)

/-- The registry after a call. -/
def Registry.serve (registry : Registry Driver) : RegistryCall -> Registry Driver
  | .forConnection connID found => (registry.forConnection factory connID found).2
  | .invalidate connID => registry.invalidate connID
  | .forUserGrant connID accessKeyID secretKey found =>
      (registry.forUserGrant factory connID accessKeyID secretKey found).2
  | .forUserRegion args => (registry.forUserRegion factory args).2
  | .invalidateUserRegion endpoint accessKeyID => registry.invalidateUserRegion endpoint accessKeyID

/-- The registry after a history of calls. -/
def Registry.after (wired : Bool) (history : List RegistryCall) : Registry Driver :=
  history.foldl (Registry.serve factory) (Registry.new Driver wired)

/-- A call that a driver can be built for. -/
def RegionArgs.Complete (args : RegionArgs) : Prop :=
  args.endpoint ≠ "" ∧ args.accessKeyID ≠ "" ∧ args.secretKey ≠ ""

instance (args : RegionArgs) : Decidable args.Complete := by
  unfold RegionArgs.Complete
  infer_instance

def Factory.builds (args : RegionArgs) : Bool :=
  match factory.opens "garage-v1" (regionConfig args) with
  | .ok _ => true
  | .error _ => false

/-- Which call a cache entry goes back to: the first one that built a driver under the
key since the last eviction. -/
def settle (wired : Bool) (key : String) (first : Option RegionArgs) : RegistryCall -> Option RegionArgs
  | .forUserRegion args =>
      if first = none ∧ wired = true ∧ joinKey args.endpoint args.accessKeyID = key ∧
          args.Complete ∧ factory.builds args = true then some args
      else first
  | .invalidateUserRegion endpoint accessKeyID =>
      if joinKey endpoint accessKeyID = key then none else first
  | _ => first

/-- The call of a history that a cache entry goes back to. -/
def firstBuild (wired : Bool) (history : List RegistryCall) (key : String) : Option RegionArgs :=
  history.foldl (settle factory wired key) none

/-! ## What a cache entry is -/

/-- The entry at a key is a driver built for the call it goes back to. -/
def Files (registry : Registry Driver) (key : String) : Option RegionArgs -> Prop
  | none => registry.regionCache.get? key = none
  | some args =>
      Exists fun drv => registry.regionCache.get? key = some drv ∧
        factory.opens "garage-v1" (regionConfig args) = .ok drv

variable {factory} {wired : Bool}

/-- A call that lacks a part, or a registry without the region store, is refused. -/
theorem Registry.forUserRegion_refused (factory : Factory Driver) {registry : Registry Driver} {args : RegionArgs}
    (refused : ¬ (args.Complete ∧ registry.regionsWired = true)) :
    Exists fun error => registry.forUserRegion factory args = (.error error, registry) := by
  unfold Registry.forUserRegion
  by_cases noEndpoint : args.endpoint = ""
  · exact ⟨_, if_pos noEndpoint⟩
  · by_cases noKey : args.accessKeyID = ""
    · exact ⟨_, by rw [if_neg noEndpoint, if_pos noKey]⟩
    · by_cases noSecret : args.secretKey = ""
      · exact ⟨_, by rw [if_neg noEndpoint, if_neg noKey, if_pos noSecret]⟩
      · have unwired : registry.regionsWired = false := by
          simpa [RegionArgs.Complete, noEndpoint, noKey, noSecret] using refused
        exact ⟨_, by rw [if_neg noEndpoint, if_neg noKey, if_neg noSecret, if_pos unwired]⟩

/-- Any other call hands out the entry, or builds a driver and files it. -/
theorem Registry.forUserRegion_served (factory : Factory Driver) {registry : Registry Driver} {args : RegionArgs}
    (complete : args.Complete) (ready : registry.regionsWired = true) :
    registry.forUserRegion factory args =
      match registry.regionCache.get? (joinKey args.endpoint args.accessKeyID) with
      | some cached => (.ok cached, registry)
      | none =>
          match factory.opens "garage-v1" (regionConfig args) with
          | .error error =>
              (.error ("building per-region driver for " ++ args.endpoint ++ ": " ++ error), registry)
          | .ok drv =>
              (.ok drv, { registry with
                regionCache :=
                  registry.regionCache.put (joinKey args.endpoint args.accessKeyID) drv }) := by
  rcases complete with ⟨endpoint, key, secret⟩
  unfold Registry.forUserRegion
  rw [if_neg endpoint, if_neg key, if_neg secret, if_neg (by simp [ready])]

/-- The calls about connections leave the regions' part of the registry alone. -/
theorem Registry.forConnection_frame (registry : Registry Driver) (factory : Factory Driver)
    (connID : String) (found : FoundConnection) :
    (registry.forConnection factory connID found).2.regionCache = registry.regionCache ∧
      (registry.forConnection factory connID found).2.regionsWired = registry.regionsWired := by
  unfold Registry.forConnection
  split
  · exact ⟨rfl, rfl⟩
  · split
    · exact ⟨rfl, rfl⟩
    · split <;> exact ⟨rfl, rfl⟩

theorem Registry.forUserGrant_frame (registry : Registry Driver) (factory : Factory Driver)
    (connID accessKeyID secretKey : String) (found : FoundConnection) :
    (registry.forUserGrant factory connID accessKeyID secretKey found).2.regionCache =
        registry.regionCache ∧
      (registry.forUserGrant factory connID accessKeyID secretKey found).2.regionsWired =
        registry.regionsWired := by
  unfold Registry.forUserGrant
  split
  · exact ⟨rfl, rfl⟩
  · split
    · exact ⟨rfl, rfl⟩
    · split
      · exact ⟨rfl, rfl⟩
      · split
        · exact ⟨rfl, rfl⟩
        · split
          · exact ⟨rfl, rfl⟩
          · split <;> exact ⟨rfl, rfl⟩

/-- The registry is wired as it started, and each entry goes back to its call. -/
def Traced (factory : Factory Driver) (wired : Bool) (registry : Registry Driver)
    (first : String -> Option RegionArgs) : Prop :=
  registry.regionsWired = wired ∧ forall key, Files factory registry key (first key)

/-- An entry that goes back to no call is empty. -/
theorem Files.get?_eq_none_iff {registry : Registry Driver} {key : String}
    {first : Option RegionArgs} (files : Files factory registry key first) :
    registry.regionCache.get? key = none ↔ first = none := by
  cases first with
  | none => exact iff_of_true files rfl
  | some args =>
      rcases files with ⟨drv, found, _⟩
      simp [found]

theorem forUserRegion_traced {registry : Registry Driver} {first : String -> Option RegionArgs}
    (traced : Traced factory wired registry first) (args : RegionArgs) :
    Traced factory wired (registry.serve factory (.forUserRegion args))
      fun key => settle factory wired key (first key) (.forUserRegion args) := by
  rcases traced with ⟨ready, files⟩
  have unchanged : registry.serve factory (.forUserRegion args) = registry ->
      (forall key, settle factory wired key (first key) (.forUserRegion args) = first key) ->
        Traced factory wired (registry.serve factory (.forUserRegion args))
          fun key => settle factory wired key (first key) (.forUserRegion args) := by
    intro same kept
    simp only [same, kept]
    exact ⟨ready, files⟩
  by_cases served : args.Complete ∧ registry.regionsWired = true
  · have own := files (joinKey args.endpoint args.accessKeyID)
    have answer := Registry.forUserRegion_served factory served.1 served.2
    cases hit : registry.regionCache.get? (joinKey args.endpoint args.accessKeyID) with
    | some cached =>
        rw [hit] at answer
        apply unchanged (congrArg Prod.snd answer)
        intro key
        apply if_neg
        rintro ⟨fresh, _, same, _⟩
        rw [← same] at fresh
        have empty := own.get?_eq_none_iff.mpr fresh
        rw [hit] at empty
        cases empty
    | none =>
        have fresh := own.get?_eq_none_iff.mp hit
        rw [hit] at answer
        cases built : factory.opens "garage-v1" (regionConfig args) with
        | error error =>
            rw [built] at answer
            apply unchanged (congrArg Prod.snd answer)
            intro key
            apply if_neg
            simp [Factory.builds, built]
        | ok drv =>
            rw [built] at answer
            have next : registry.serve factory (.forUserRegion args) = _ := congrArg Prod.snd answer
            rw [next]
            refine ⟨ready, fun key => ?_⟩
            beta_reduce
            by_cases same : joinKey args.endpoint args.accessKeyID = key
            · subst same
              have settled : settle factory wired (joinKey args.endpoint args.accessKeyID)
                  (first (joinKey args.endpoint args.accessKeyID)) (.forUserRegion args) =
                    some args :=
                if_pos ⟨fresh, ready.symm.trans served.2, rfl, served.1, by simp [Factory.builds, built]⟩
              rw [settled]
              exact ⟨drv, SortedStore.get?_put_self _ _ _, built⟩
            · have settled : settle factory wired key (first key) (.forUserRegion args) = first key :=
                if_neg fun all => same all.2.2.1
              rw [settled]
              have held := files key
              have kept := registry.regionCache.get?_put_of_ne drv (Ne.symm same)
              cases goes : first key with
              | none =>
                  rw [goes] at held
                  exact kept.trans held
              | some earlier =>
                  rw [goes] at held
                  rcases held with ⟨cached, found, opened⟩
                  exact ⟨cached, kept.trans found, opened⟩
  · rcases Registry.forUserRegion_refused factory served with ⟨error, answer⟩
    apply unchanged (congrArg Prod.snd answer)
    intro key
    apply if_neg
    rintro ⟨_, wiring, _, complete, _⟩
    exact served ⟨complete, ready.trans wiring⟩

/-- One call keeps the entries and their calls in step. -/
theorem Registry.serve_traced {registry : Registry Driver} {first : String -> Option RegionArgs}
    (traced : Traced factory wired registry first) (call : RegistryCall) :
    Traced factory wired (registry.serve factory call)
      fun key => settle factory wired key (first key) call := by
  rcases traced with ⟨ready, files⟩
  cases call with
  | forConnection connID found =>
      rcases registry.forConnection_frame factory connID found with ⟨regions, wiring⟩
      refine ⟨wiring.trans ready, fun key => ?_⟩
      simpa only [Files, Registry.serve, regions, settle] using files key
  | invalidate connID => exact ⟨ready, files⟩
  | forUserGrant connID accessKeyID secretKey found =>
      rcases registry.forUserGrant_frame factory connID accessKeyID secretKey found with
        ⟨regions, wiring⟩
      refine ⟨wiring.trans ready, fun key => ?_⟩
      simpa only [Files, Registry.serve, regions, settle] using files key
  | forUserRegion args => exact forUserRegion_traced ⟨ready, files⟩ args
  | invalidateUserRegion endpoint accessKeyID =>
      refine ⟨ready, fun key => ?_⟩
      have held := files key
      simp only [Registry.serve, Registry.invalidateUserRegion, settle]
      by_cases same : joinKey endpoint accessKeyID = key
      · simp [Files, SortedStore.get?_erase, same]
      · rw [if_neg same]
        cases goes : first key with
        | none =>
            rw [goes] at held
            simpa [Files, SortedStore.get?_erase, Ne.symm same] using held
        | some args =>
            rw [goes] at held
            simpa [Files, SortedStore.get?_erase, Ne.symm same] using held

theorem Registry.after_traced (factory : Factory Driver) (wired : Bool) (history : List RegistryCall) :
    Traced factory wired (Registry.after factory wired history) (firstBuild factory wired history) := by
  have along : forall (calls : List RegistryCall) (registry : Registry Driver)
      (first : String -> Option RegionArgs), Traced factory wired registry first ->
        Traced factory wired (calls.foldl (Registry.serve factory) registry)
          fun key => calls.foldl (settle factory wired key) (first key) := by
    intro calls
    induction calls with
    | nil => exact fun _ _ traced => traced
    | cons call rest ih => exact fun registry first traced => ih _ _ (registry.serve_traced traced call)
  exact along history (Registry.new Driver wired) (fun _ => none) ⟨rfl, fun _ => rfl⟩

/-- A registry without the region store builds nothing. -/
theorem firstBuild_unwired (history : List RegistryCall) (key : String) :
    firstBuild factory false history key = none := by
  induction history with
  | nil => rfl
  | cons call rest ih =>
      have kept : settle factory false key none call = none := by
        cases call <;> simp [settle]
      unfold firstBuild at ih ⊢
      rw [List.foldl_cons, kept, ih]

/-- After any history of calls, the driver that a call obtains signs with exactly the
arguments of this call if and only if the cache entry under its endpoint and access key
goes back to no call with other arguments. -/
theorem region_driver_is_own_iff (factory : Factory Driver) (wired : Bool)
    (history : List RegistryCall) (args : RegionArgs) :
    (forall drv, ((Registry.after factory wired history).forUserRegion factory args).1 = .ok drv ->
        signing (factory.config drv) = args) ↔
      (args.Complete -> forall earlier,
        firstBuild factory wired history (joinKey args.endpoint args.accessKeyID) = some earlier ->
          earlier = args) := by
  rcases Registry.after_traced factory wired history with ⟨ready, files⟩
  have own := files (joinKey args.endpoint args.accessKeyID)
  have signs : forall {built : RegionArgs} {drv : Driver},
      factory.opens "garage-v1" (regionConfig built) = .ok drv ->
        signing (factory.config drv) = built := by
    intro built drv opened
    rw [factory.bound opened, signing_regionConfig]
  by_cases served : args.Complete ∧ (Registry.after factory wired history).regionsWired = true
  · have answer := Registry.forUserRegion_served factory served.1 served.2
    cases goes : firstBuild factory wired history (joinKey args.endpoint args.accessKeyID) with
    | none =>
        rw [goes] at own
        rw [show (Registry.after factory wired history).regionCache.get? _ = none from own] at answer
        apply iff_of_true
        · intro drv obtained
          rw [answer] at obtained
          cases built : factory.opens "garage-v1" (regionConfig args) with
          | error error =>
              rw [built] at obtained
              cases obtained
          | ok made =>
              rw [built] at obtained
              cases obtained
              exact signs built
        · intro _ earlier other
          cases other
    | some earlier =>
        rw [goes] at own
        rcases own with ⟨drv, found, opened⟩
        rw [found] at answer
        constructor
        · intro exact_signing _ other same
          cases same
          rw [← signs opened]
          exact exact_signing drv (by rw [answer])
        · intro settled other obtained
          rw [answer] at obtained
          cases obtained
          rw [signs opened]
          exact settled served.1 earlier rfl
  · rcases Registry.forUserRegion_refused factory served with ⟨error, answer⟩
    apply iff_of_true
    · intro drv obtained
      rw [answer] at obtained
      cases obtained
    · intro complete earlier goes
      have unwired : wired = false := by
        rw [← ready]
        simpa [complete] using served
      rw [unwired, firstBuild_unwired] at goes
      cases goes

/-- A factory whose drivers are their configs. -/
def sampleFactory : Factory DriverConfig where
  opens _ cfg := .ok cfg
  config drv := drv
  bound opened := (Except.ok.inj opened).symm

/-- Two requests for one endpoint and one access key ID, by users with different secrets. -/
def sampleArgs (secretKey : String) : RegionArgs :=
  ⟨"https://s3.local", "GK1", secretKey, "garage", "path"⟩

/-- The user who guesses the secret is served with the driver of the one who knows it. -/
theorem second_user_signs_with_first_secret :
    ¬ forall (history : List RegistryCall) (args : RegionArgs) (drv : DriverConfig),
      ((Registry.after sampleFactory true history).forUserRegion sampleFactory args).1 = .ok drv ->
        signing (sampleFactory.config drv) = args := by
  intro stated
  have signed := stated [.forUserRegion (sampleArgs "right")] (sampleArgs "guess")
    (regionConfig (sampleArgs "right")) rfl
  have own : signing (sampleFactory.config (regionConfig (sampleArgs "right"))) =
      sampleArgs "right" := signing_regionConfig _
  rw [own] at signed
  exact absurd signed (by decide)

end Drivers
end Basement
