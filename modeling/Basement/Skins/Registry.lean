import Basement.Library.SortedStore
import Mathlib.Data.String.Basic

namespace Basement
namespace Skins

open Library

/-!
# Skins and their registry

A skin is a name and what it looks like.  The registry has one skin for each name, in the order of
the names, and boots with the five built-in ones.

What the bytes of a skin file say is read by `Format.decode`, and the checks of colours, fonts,
images and links are `Format.acceptable`; both are parameters, and nothing is assumed of them.  The
check of the name and the fields that are filled in are the code's.
-/

variable {Look : Type*}

structure Skin (Look : Type*) where
  name : String
  displayName : String
  version : String
  look : Look

/-- What skin files may say, what the built-in skins look like, and the letter cases of names. -/
structure Format (Look : Type*) where
  decode : List UInt8 -> Option (Skin Look)
  acceptable : Skin Look -> Bool
  toLower : String -> String
  title : String -> String
  builtInLook : String -> Look

/-! ## Skin files -/

def isNameChar (c : Char) : Bool := ('a' ≤ c && c ≤ 'z') || ('0' ≤ c && c ≤ '9')

/-- `skinNameRegex`. -/
def validSkinName (name : String) : Bool :=
  match name.toList with
  | [] => false
  | first :: rest =>
      isNameChar first && (rest.getLast?.elim false isNameChar) && rest.length ≤ 63 &&
        rest.all fun c => isNameChar c || c = '-'

/-- The fields that an upload may leave out. -/
def Skin.filled (s : Skin Look) : Skin Look :=
  { s with
    displayName := if s.displayName = "" then s.name else s.displayName
    version := if s.version = "" then "1.0.0" else s.version }

/-- `validateSkinJSON`. -/
def validateSkinJSON (format : Format Look) (data : List UInt8) : Option (Skin Look) :=
  match format.decode data with
  | none => none
  | some s =>
      if !validSkinName s.name then none
      else if format.acceptable s.filled then some s.filled else none

theorem validSkinName_of_validate {format : Format Look} {data : List UInt8} {skin : Skin Look}
    (valid : validateSkinJSON format data = some skin) : validSkinName skin.name = true := by
  unfold validateSkinJSON at valid
  cases decoded : format.decode data with
  | none => simp [decoded] at valid
  | some s =>
      by_cases named : validSkinName s.name = true
      · simp only [decoded, named, Bool.not_true, Bool.false_eq_true, if_false] at valid
        split_ifs at valid
        cases valid
        exact named
      · simp [decoded, named] at valid

theorem name_ne_empty_of_validate {format : Format Look} {data : List UInt8} {skin : Skin Look}
    (valid : validateSkinJSON format data = some skin) : skin.name ≠ "" := by
  intro empty
  have named := validSkinName_of_validate valid
  rw [empty] at named
  exact absurd named (by decide)

/-! ## The registry -/

abbrev Registry (Look : Type*) := SortedStore String (Skin Look)

inductive RegisterError where
  | emptyName
  | duplicateSkin (name : String)

namespace Registry

def register (registry : Registry Look) (s : Skin Look) :
    Except RegisterError (Registry Look) :=
  if s.name = "" then .error .emptyName
  else
    match registry.get? s.name with
    | some _ => .error (.duplicateSkin s.name)
    | none => .ok (registry.put s.name s)

/-- A registration whose error is dropped. -/
def add (registry : Registry Look) (s : Skin Look) : Registry Look :=
  match registry.register s with
  | .ok next => next
  | .error _ => registry

/-- The names of `All`. -/
def names (registry : Registry Look) : List String := registry.entries.map Prod.fst

end Registry

def builtInDefaultName : String := "basement-default"

def builtIn (format : Format Look) (name displayName : String) : Skin Look :=
  ⟨name, displayName, "1.0.0", format.builtInLook name⟩

/-- `BuiltInDefault`. -/
def builtInDefault (format : Format Look) : Skin Look :=
  builtIn format builtInDefaultName "Basement Default"

def builtIns (format : Format Look) : List (Skin Look) :=
  [builtInDefault format, builtIn format "basement-high-contrast" "High Contrast",
    builtIn format "basement-minimal" "Minimal", builtIn format "basement-95" "Windows 95",
    builtIn format "basement-terminal" "Terminal"]

/-- `RegisterBuiltInSkins`. -/
def registerBuiltInSkins (format : Format Look) (registry : Registry Look) : Registry Look :=
  (builtIns format).foldl Registry.add registry

/-- The registry that `main` builds. -/
def boot (format : Format Look) : Registry Look := registerBuiltInSkins format .empty

section Registration

variable {registry : Registry Look} {s : Skin Look}

theorem register_of_fresh (named : s.name ≠ "") (fresh : registry.get? s.name = none) :
    registry.register s = .ok (registry.put s.name s) := by
  rw [Registry.register, if_neg named, fresh]

theorem register_ne_emptyName (named : s.name ≠ "") :
    registry.register s ≠ .error .emptyName := by
  intro refused
  rw [Registry.register, if_neg named] at refused
  split at refused
  · cases refused
  · cases refused

/-- What is registered stays. -/
theorem get?_add_of_some {name : String} {old : Skin Look}
    (registered : registry.get? name = some old) : (registry.add s).get? name = some old := by
  unfold Registry.add Registry.register
  by_cases empty : s.name = ""
  · simpa only [if_pos empty] using registered
  · simp only [if_neg empty]
    cases taken : registry.get? s.name with
    | some _ => exact registered
    | none =>
        have different : name ≠ s.name := by
          rintro rfl
          rw [registered] at taken
          cases taken
        exact (SortedStore.get?_put_of_ne registry s different).trans registered

theorem get?_foldl_add_of_some {name : String} {old : Skin Look} (skins : List (Skin Look)) :
    forall {registry : Registry Look}, registry.get? name = some old ->
      (skins.foldl Registry.add registry).get? name = some old := by
  induction skins with
  | nil => exact fun registered => registered
  | cons skin rest ih => exact fun registered => ih (get?_add_of_some registered)

/-- The default is there after booting. -/
theorem boot_default (format : Format Look) :
    (boot format).get? builtInDefaultName = some (builtInDefault format) := by
  have named : (builtInDefault format).name ≠ "" := by
    change builtInDefaultName ≠ ""
    decide
  have first : (Registry.add .empty (builtInDefault format)).get? builtInDefaultName =
      some (builtInDefault format) := by
    rw [Registry.add, register_of_fresh named rfl]
    exact SortedStore.get?_put_self _ builtInDefaultName _
  rw [boot, registerBuiltInSkins, builtIns, List.foldl_cons]
  exact get?_foldl_add_of_some _ first

/-- Every skin is registered under its name. -/
def Registry.Named (registry : Registry Look) : Prop :=
  forall name skin, registry.get? name = some skin -> skin.name = name

theorem Registry.Named.add (named : registry.Named) (s : Skin Look) : (registry.add s).Named := by
  intro name skin found
  unfold Registry.add Registry.register at found
  by_cases empty : s.name = ""
  · simp only [if_pos empty] at found
    exact named name skin found
  · simp only [if_neg empty] at found
    cases taken : registry.get? s.name with
    | some _ =>
        simp only [taken] at found
        exact named name skin found
    | none =>
        simp only [taken, SortedStore.get?_put] at found
        by_cases here : name = s.name
        · rw [if_pos here] at found
          cases found
          exact here.symm
        · rw [if_neg here] at found
          exact named name skin found

theorem named_boot (format : Format Look) : (boot format).Named := by
  have all : forall (skins : List (Skin Look)) (registry : Registry Look), registry.Named ->
      (skins.foldl Registry.add registry).Named := by
    intro skins
    induction skins with
    | nil => exact fun _ named => named
    | cons skin rest ih => exact fun _ named => ih _ (named.add skin)
  refine all _ _ ?_
  intro _ _ impossible
  cases impossible

end Registration

attribute [irreducible] boot

end Skins
end Basement
