import Basement.Skins.System

namespace Basement
namespace Skins

open Library Library.Transition
open Settings (OrgCapabilities defaultOrgCapabilities skinOrDefault)
open Store (UserSkins)

/-!
# The skin that a user sees

A choice is checked against the policy when it is stored.  When the active skin is asked for, the
stored choice is taken as it is, and a name that is not in the registry is answered as a bare name.
`promised` says what the policy of that moment gives: the choice if it is permitted, else the
organisation's skin, else the built-in default.  Installed is what the registry has.
`answers_promised_iff` says which answers are the promised ones.
-/

variable {Look : Type*}

inductive ActiveSkin (Look : Type*) where
  | full (skin : Skin Look)
  | minimal (name displayName version : String)

/-- The stored choice of the user. -/
def choiceOf (userSkins : UserSkins) (userID : String) : Option String :=
  if userID = "" then none else userSkins.get? userID

/-- `getActiveSkinHandler`. -/
def getActiveSkin (format : Format Look) (caps : OrgCapabilities) (userSkins : UserSkins)
    (registry : Registry Look) (userID : String) : ActiveSkin Look :=
  let skinName := (choiceOf userSkins userID).getD (skinOrDefault caps.activeSkin)
  match registry.get? skinName with
  | some skin => .full skin
  | none => .minimal skinName (format.title skinName) "1.0.0"

/-! ## What the policy gives -/

section Policy

variable (format : Format Look) (caps : OrgCapabilities) (registry : Registry Look)

/-- Overriding is enabled, and the skin is installed and allowed. -/
def Permitted (choice : String) : Prop :=
  caps.userOverridableSkin = true ∧ registry.get? choice ≠ none ∧
    (caps.allowedUserSkins = [] ∨ choice ∈ caps.allowedUserSkins)

instance : DecidablePred (Permitted caps registry) := fun _ =>
  inferInstanceAs (Decidable (_ ∧ _ ∧ _))

/-- The organisation's skin, or the default when it is not installed. -/
def fallback : Skin Look :=
  (registry.get? (skinOrDefault caps.activeSkin)).getD (builtInDefault format)

/-- The skin that the user is to see. -/
def promised (choice : Option String) : Skin Look :=
  match choice with
  | none => fallback format caps registry
  | some name =>
      if Permitted caps registry name then
        (registry.get? name).getD (fallback format caps registry)
      else fallback format caps registry

/-- The choice is permitted, or is what the policy gives without it; or there is no choice and the
organisation's skin is installed. -/
def Kept (choice : Option String) : Prop :=
  match choice with
  | none => registry.get? (skinOrDefault caps.activeSkin) ≠ none
  | some name => Permitted caps registry name ∨ name = (fallback format caps registry).name

instance : DecidablePred (Kept format caps registry)
  | none => inferInstanceAs (Decidable (_ ≠ _))
  | some _ => inferInstanceAs (Decidable (_ ∨ _))

end Policy

variable {format : Format Look} {caps : OrgCapabilities} {registry : Registry Look}

/-- The fallback is a skin of the registry, under its name. -/
theorem get?_fallback (named : registry.Named)
    (default : registry.get? builtInDefaultName = some (builtInDefault format)) :
    registry.get? (fallback format caps registry).name = some (fallback format caps registry) := by
  unfold fallback
  cases found : registry.get? (skinOrDefault caps.activeSkin) with
  | none => exact default
  | some skin =>
      rw [Option.getD_some, named _ skin found]
      exact found

/-- An answer is the promised one when the choice is kept. -/
theorem getActiveSkin_eq_iff (named : registry.Named)
    (default : registry.get? builtInDefaultName = some (builtInDefault format))
    (userSkins : UserSkins) (userID : String) :
    getActiveSkin format caps userSkins registry userID =
        .full (promised format caps registry (choiceOf userSkins userID)) ↔
      Kept format caps registry (choiceOf userSkins userID) := by
  have there := @get?_fallback _ format caps registry named default
  unfold getActiveSkin
  cases choiceOf userSkins userID with
  | none =>
      simp only [Option.getD_none, promised, Kept]
      cases found : registry.get? (skinOrDefault caps.activeSkin) with
      | none => simp
      | some skin => simp [fallback, found]
  | some name =>
      simp only [Option.getD_some, promised, Kept]
      by_cases permitted : Permitted caps registry name
      · rw [if_pos permitted]
        refine iff_of_true ?_ (Or.inl permitted)
        rcases Option.ne_none_iff_exists'.mp permitted.2.1 with ⟨skin, found⟩
        simp [found]
      · rw [if_neg permitted]
        constructor
        · intro same
          refine Or.inr ?_
          cases found : registry.get? name with
          | none => simp [found] at same
          | some skin =>
              simp only [found, ActiveSkin.full.injEq] at same
              rw [← same, named name skin found]
        · rintro (impossible | rfl)
          · exact absurd impossible permitted
          · simp only [there]

/-! ## Whole runs -/

/-- A user who asks is answered with the promised skin. -/
def Promised (format : Format Look) (system : System Look) : Event -> Prop
  | .active userID =>
      let caps := system.settings.memory.read
      let registry := system.catalogue.registry
      getActiveSkin format caps system.userSkins registry userID =
        .full (promised format caps registry (choiceOf system.userSkins userID))
  | _ => True

/-- A user who asks has no choice that the policy of this moment sets aside. -/
def InPolicy (format : Format Look) (system : System Look) : Event -> Prop
  | .active userID => Kept format system.settings.memory.read system.catalogue.registry
      (choiceOf system.userSkins userID)
  | _ => True

instance (format : Format Look) (system : System Look) : DecidablePred (InPolicy format system)
  | .active _ => inferInstanceAs (Decidable (Kept ..))
  | .catalogue _ | .settings _ | .choose .. | .restart .. => isTrue trivial

theorem meets_promised_iff {system : System Look} (sound : system.catalogue.Sound format)
    (events : List Event) :
    Meets (System.step format) (Promised format) system events ↔
      Meets (System.step format) (InPolicy format) system events := by
  refine @meets_congr _ _ (System.step format) _ _
    (fun system : System Look => system.catalogue.Sound format) ?_ ?_ _ _ sound
  · intro _ _ _ sound _ taken
    exact sound_step sound taken
  · intro system event sound
    cases event with
    | active userID =>
        exact getActiveSkin_eq_iff sound.named (sound.builtIn _ _ (boot_default format)) _ _
    | _ => exact Iff.rfl

/-- The answers of a run are the promised ones when each user who asks has no choice that is set
aside. -/
theorem answers_promised_iff (format : Format Look) (memory : OrgCapabilities)
    (userSkins : UserSkins) (events : List Event) :
    Meets (System.step format) (Promised format) (.start format memory userSkins) events ↔
      Meets (System.step format) (InPolicy format) (.start format memory userSkins) events :=
  meets_promised_iff Catalogue.sound_start events

/-! ## A choice that outlives its permission -/

namespace Sample

/-- One settings request, from its arrival to its end. -/
def edit (body : Settings.OrgCapabilitiesPatch) : List Event :=
  [.settings (.arrive (.patch body)), .settings (.read 0 []), .settings (.commit 0),
    .settings (.save 0 true)]

def overridable : System (String × String) :=
  .start skinFormat { defaultOrgCapabilities with userOverridableSkin := true } .empty

def revoked : List Event :=
  .choose "alice" "basement-95" none :: edit { userOverridableSkin := some false } ++
    [.active "alice"]

def missing : List Event := edit { activeSkin := some "gone" } ++ [.active "alice"]

end Sample

/-- The choice is answered after overriding was switched off, and an unknown skin is answered by
its name. -/
theorem choice_outlives_policy :
    ¬ Meets (System.step Sample.skinFormat) (Promised Sample.skinFormat) Sample.overridable
        Sample.revoked ∧
      ¬ Meets (System.step Sample.skinFormat) (Promised Sample.skinFormat) Sample.overridable
        Sample.missing :=
  ⟨(meets_promised_iff Catalogue.sound_start Sample.revoked).not.mpr (by decide +kernel),
    (meets_promised_iff Catalogue.sound_start Sample.missing).not.mpr (by decide +kernel)⟩

end Skins
end Basement
