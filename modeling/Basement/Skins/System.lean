import Basement.Settings.Edits
import Basement.Skins.Catalogue
import Basement.Store.Users

namespace Basement
namespace Skins

open Library Library.Transition
open Settings (OrgCapabilities defaultOrgCapabilities)
open Store (UserSkins)

/-!
# The server and its skins

The catalogue, the settings and the choices of the users change by requests of their own.  The
settings requests look up the skins that the registry has when they read.  A restart reads the
settings and the choices back from their files, whatever these hold.
-/

variable {Look : Type*}

structure System (Look : Type*) where
  catalogue : Catalogue Look
  settings : Settings.Server
  userSkins : UserSkins

/-! ## Choosing a skin -/

inductive ChoiceError where
  | missingSkinName
  | overrideDisabled
  | notAllowed (name : String)
  | notInstalled (name : String)
  | internal (error : String)

/-- `DetermineAllowedUserSkins`.  The empty list stands for all installed skins. -/
def determineAllowedUserSkins (userOverridable : Bool) (allowed : List String) : List String :=
  if userOverridable then allowed else []

/-- The checks of `setUserSkinHandler`. -/
def checkChoice (caps : OrgCapabilities) (registry : Registry Look) (skinName : String) :
    Except ChoiceError Unit :=
  let allowed := determineAllowedUserSkins caps.userOverridableSkin caps.allowedUserSkins
  if skinName = "" then .error .missingSkinName
  else if !caps.userOverridableSkin then .error .overrideDisabled
  else if allowed ≠ [] then
    if skinName ∈ allowed then .ok () else .error (.notAllowed skinName)
  else if (registry.get? skinName).isSome then .ok ()
  else .error (.notInstalled skinName)

/-- `setUserSkinHandler`. -/
def setUserSkin (caps : OrgCapabilities) (registry : Registry Look) (userSkins : UserSkins)
    (userID skinName : String) (writeError : Option String) :
    Except ChoiceError Unit × UserSkins :=
  match checkChoice caps registry skinName with
  | .error error => (.error error, userSkins)
  | .ok () =>
      match userSkins.set userID skinName writeError with
      | (.error error, memory) => (.error (.internal error), memory)
      | (.ok (), memory) => (.ok (), memory)

/-! ## Steps -/

inductive Event where
  | catalogue (event : CatalogueEvent)
  | settings (event : Settings.Event)
  | choose (userID skinName : String) (writeError : Option String)
  | active (userID : String)
  | restart (settings : OrgCapabilities) (userSkins : UserSkins)

/-- A settings request that reads sees these skins. -/
def seeing (skins : List String) : Settings.Event -> Settings.Event
  | .read call _ => .read call skins
  | event => event

def System.step (format : Format Look) (system : System Look) : Event -> Option (System Look)
  | .catalogue .restart => none
  | .catalogue event =>
      (system.catalogue.step format event).map fun catalogue => { system with catalogue }
  | .settings event =>
      (Settings.step system.settings (seeing system.catalogue.registry.names event)).map
        fun settings => { system with settings }
  | .choose userID skinName writeError =>
      some { system with
        userSkins := (setUserSkin system.settings.memory.read system.catalogue.registry
          system.userSkins userID skinName writeError).2 }
  | .active _ => some system
  | .restart memory userSkins =>
      (system.catalogue.step format .restart).map fun catalogue =>
        { catalogue, settings := ⟨memory, some memory, [], []⟩, userSkins }

/-- A first start, with any settings and choices. -/
def System.start (format : Format Look) (memory : OrgCapabilities) (userSkins : UserSkins) :
    System Look :=
  ⟨.start format, ⟨memory, some memory, [], []⟩, userSkins⟩

/-- What the step is to the catalogue. -/
def Event.onCatalogue : Event -> Option CatalogueEvent
  | .catalogue event => some event
  | .restart _ _ => some .restart
  | _ => none

variable {format : Format Look} {system next : System Look}

/-- The other steps leave the catalogue alone. -/
theorem step_catalogue {event : Event} (taken : system.step format event = some next) :
    match event.onCatalogue with
    | some own => system.catalogue.step format own = some next.catalogue
    | none => next.catalogue = system.catalogue := by
  cases event with
  | catalogue own =>
      cases own with
      | restart => cases taken
      | _ =>
          rcases Option.map_eq_some_iff.mp taken with ⟨catalogue, moved, rfl⟩
          exact moved
  | settings own =>
      rcases Option.map_eq_some_iff.mp taken with ⟨settings, _, rfl⟩
      rfl
  | choose userID skinName writeError =>
      cases taken
      rfl
  | active userID =>
      cases taken
      rfl
  | restart memory userSkins =>
      cases taken
      rfl

theorem sound_step {event : Event} (sound : system.catalogue.Sound format)
    (taken : system.step format event = some next) : next.catalogue.Sound format := by
  have moved := step_catalogue taken
  cases own : event.onCatalogue with
  | none =>
      rw [own] at moved
      exact moved ▸ sound
  | some event =>
      rw [own] at moved
      exact sound.step moved

/-! ## Whole runs -/

/-- The step leaves uploaded skins alone, or reports what is so. -/
def Undisturbed (system : System Look) (event : Event) : Prop :=
  forall own, own ∈ event.onCatalogue -> system.catalogue.Undisturbed own

instance (system : System Look) : DecidablePred (Undisturbed system) := fun event =>
  inferInstanceAs (Decidable (forall own, own ∈ event.onCatalogue -> _))

section Runs

variable {memory : OrgCapabilities} {userSkins : UserSkins} {events : List Event}
  {final : System Look}

theorem throughout_sound : Throughout (System.step format)
    (fun system => system.catalogue.Sound format) (.start format memory userSkins) events := by
  intro first second middle split ran
  refine @exec_invariant _ _ _ (fun system : System Look => system.catalogue.Sound format) ?_ _ _ _
    Catalogue.sound_start ran
  exact fun _ _ _ sound taken => sound_step sound taken

theorem asUploaded_throughout_iff
    (run : exec (System.step format) (.start format memory userSkins) events = some final) :
    Throughout (System.step format) (fun system => system.catalogue.AsUploaded format)
        (.start format memory userSkins) events ↔
      Meets (System.step format) Undisturbed (.start format memory userSkins) events := by
  refine @throughout_iff_meets _ _ _ _ (fun system : System Look => system.catalogue.Sound format) _
    (fun _ _ _ sound taken => sound_step sound taken) ?_ _ _ _ Catalogue.sound_start
    Catalogue.asUploaded_start run
  intro before event after sound asUploaded taken
  have moved := step_catalogue taken
  unfold Undisturbed
  cases own : event.onCatalogue with
  | none =>
      rw [own] at moved
      have same : after.catalogue = before.catalogue := moved
      rw [same]
      refine iff_of_true asUploaded ?_
      intro _ impossible
      cases impossible
  | some catalogueEvent =>
      rw [own] at moved
      refine (Catalogue.asUploaded_step_iff sound asUploaded moved).trans ?_
      simp

/-- No run alters a built-in skin, and the registry has what was uploaded in every state of those
runs, and only those, whose steps leave uploaded skins alone. -/
theorem skins_are_the_uploaded_iff
    (run : exec (System.step format) (.start format memory userSkins) events = some final) :
    Throughout (System.step format) (fun system => forall name skin,
        (boot format).get? name = some skin -> system.catalogue.registry.get? name = some skin)
      (.start format memory userSkins) events ∧
    (Throughout (System.step format) (fun system => system.catalogue.AsUploaded format)
        (.start format memory userSkins) events ↔
      Meets (System.step format) Undisturbed (.start format memory userSkins) events) :=
  ⟨throughout_sound.imp fun _ sound => sound.builtIn, asUploaded_throughout_iff run⟩

end Runs

/-! ## Two versions of a skin -/

namespace Sample

def skinText (version : String) : String :=
  "\x7b\"name\":\"acme\",\"displayName\":\"ACME\",\"version\":\"" ++ version ++
    "\",\"density\":\"compact\",\"palette\":\x7b\"light\":\x7b\"primary\":\"210 100% 30%\"\x7d," ++
    "\"dark\":\x7b\"primary\":\"210 100% 70%\"\x7d\x7d\x7d"

def payload (version : String) : List UInt8 := (skinText version).toUTF8.data.toList

/-- Of a look only the primary colours are kept. -/
def skinFormat : Format (String × String) where
  decode data :=
    (["1.0.0", "2.0.0"].find? fun version => decide (payload version = data)).map fun version =>
      ⟨"acme", "ACME", version, "210 100% 30%", "210 100% 70%"⟩
  acceptable skin := skin.look.1 ≠ "" && skin.look.2 ≠ ""
  toLower name := String.ofList (name.toList.map Char.toLower)
  title name := name.capitalize
  builtInLook _ := ("240 5.9% 10%", "0 0% 98%")

def start : System (String × String) := .start skinFormat defaultOrgCapabilities .empty

def upload (version : String) : Event :=
  .catalogue (.upload "Acme.basement-skin.json" (payload version))

/-- A skin is uploaded. -/
def uploading : List Event :=
  [upload "1.0.0", .catalogue (.write 0), .catalogue (.register 0)]

/-- A second upload of the name is refused, the skin is activated, and a deletion of an unknown
skin finds no file. -/
def quiet : List Event :=
  uploading ++ [upload "2.0.0", .settings (.arrive (.activate "acme")), .settings (.read 0 []),
    .settings (.commit 0), .settings (.save 0 true), .catalogue (.delete "beta")]

def restarted : List Event := uploading ++ [.restart defaultOrgCapabilities .empty]

def deleted : List Event :=
  uploading ++ [.catalogue (.delete "acme"), .catalogue (.remove 0 true)]

/-- Two uploads of one name pass the check before either registers. -/
def raced : List Event :=
  [upload "1.0.0", upload "2.0.0", .catalogue (.write 0), .catalogue (.write 1),
    .catalogue (.register 0), .catalogue (.register 0)]

/-- Where a run ends. -/
def final (events : List Event) (runs : (exec (System.step skinFormat) start events).isSome = true) :
    System (String × String) :=
  (exec (System.step skinFormat) start events).get runs

theorem run_final (events : List Event)
    (runs : (exec (System.step skinFormat) start events).isSome = true) :
    exec (System.step skinFormat) start events = some (final events runs) :=
  (Option.some_get runs).symm

theorem quiet_runs : (exec (System.step skinFormat) start quiet).isSome = true := by
  decide +kernel

end Sample

theorem skins_are_the_uploaded_iff_quiet :
    Throughout (System.step Sample.skinFormat)
      (fun system => system.catalogue.AsUploaded Sample.skinFormat) Sample.start Sample.quiet :=
  (skins_are_the_uploaded_iff (Sample.run_final Sample.quiet Sample.quiet_runs)).2.mpr
    (by decide +kernel)

/-- A restart loses the skin, a deletion leaves it in the registry, and of two uploads at a time
both report success. -/
theorem registry_diverges :
    ¬ Throughout (System.step Sample.skinFormat)
        (fun system => system.catalogue.AsUploaded Sample.skinFormat) Sample.start Sample.restarted ∧
      ¬ Throughout (System.step Sample.skinFormat)
        (fun system => system.catalogue.AsUploaded Sample.skinFormat) Sample.start Sample.deleted ∧
      ¬ Throughout (System.step Sample.skinFormat)
        (fun system => system.catalogue.AsUploaded Sample.skinFormat) Sample.start Sample.raced := by
  refine ⟨?_, ?_, ?_⟩
  · exact (asUploaded_throughout_iff
      (Sample.run_final Sample.restarted (by decide +kernel))).not.mpr (by decide +kernel)
  · exact (asUploaded_throughout_iff
      (Sample.run_final Sample.deleted (by decide +kernel))).not.mpr (by decide +kernel)
  · exact (asUploaded_throughout_iff
      (Sample.run_final Sample.raced (by decide +kernel))).not.mpr (by decide +kernel)

end Skins
end Basement
