import Mathlib.Algebra.Group.Int.Defs
import Mathlib.Data.List.Basic
import Mathlib.Data.List.Nodup

namespace Basement
namespace Library

/-!
# Decoding JSON into values

A JSON value is decoded into a value that exists already.  `null` leaves it as it is, an object
sets the fields that it names, and anything of another type is an error.  Keys are matched with
field names up to the case of the letters, and unknown keys are dropped.

A `Shape` lists the fields of a record; that no two of them match the same key is a field of the
structure.  What decoding does to one part of a record depends on the entries for that part
alone: `decode_get_single` and `decode_get_absent`.

The text of a JSON value is not modelled.  A number is an integer literal or some other literal.
-/

inductive Json where
  | null
  | bool (value : Bool)
  | int (value : Int)
  | num (literal : String)
  | str (value : String)
  | arr (items : List Json)
  | obj (entries : List (String × Json))

namespace Json

/-! ## Scalars and slices -/

def decodeBool (old : Bool) : Json -> Option Bool
  | .null => some old
  | .bool value => some value
  | _ => none

def decodeString (old : String) : Json -> Option String
  | .null => some old
  | .str value => some value
  | _ => none

/-- Sixty-four bits. -/
def decodeInt (old : Int) : Json -> Option Int
  | .null => some old
  | .int value => if -2 ^ 63 ≤ value ∧ value < 2 ^ 63 then some value else none
  | _ => none

/-- The items are decoded into the elements that are there. -/
def decodeItems : List String -> List Json -> Option (List String)
  | _, [] => some []
  | old, item :: rest =>
      (decodeString (old.headD "") item).bind fun value =>
        (decodeItems old.tail rest).map (value :: ·)

def decodeStrings (old : List String) : Json -> Option (List String)
  | .null => some []
  | .arr items => decodeItems old items
  | _ => none

theorem decodeStrings_encoded (old values : List String) :
    decodeStrings old (.arr (values.map .str)) = some values := by
  change decodeItems old (values.map .str) = some values
  induction values generalizing old with
  | nil => rfl
  | cons value rest ih =>
      rw [List.map_cons, decodeItems, ih old.tail]
      rfl

/-! ## Maps -/

section Maps

variable {ν : Type*} (element : Json -> Option ν)

/-- Set the entries of a map one after the other. -/
def decodeMapEntries : List (String × ν) -> List (String × Json) -> Option (List (String × ν))
  | map, [] => some map
  | map, entry :: rest =>
      (element entry.2).bind fun value => decodeMapEntries (map ++ [(entry.1, value)]) rest

/-- Every element starts from its zero value. -/
def decodeMap (old : List (String × ν)) : Json -> Option (List (String × ν))
  | .null => some []
  | .obj entries => decodeMapEntries element old entries
  | _ => none

/-- The value of a key is the one set last. -/
def lookup (map : List (String × ν)) (key : String) : Option ν :=
  (map.findRev? fun entry => decide (entry.1 = key)).map Prod.snd

theorem lookup_nil (key : String) : lookup ([] : List (String × ν)) key = none := rfl

theorem lookup_cons (entry : String × ν) (rest : List (String × ν)) (key : String) :
    lookup (entry :: rest) key =
      (lookup rest key).or (if entry.1 = key then some entry.2 else none) := by
  simp only [lookup, List.findRev?_eq_find?_reverse, List.reverse_cons, List.find?_append]
  cases rest.reverse.find? fun entry => decide (entry.1 = key) with
  | some _ => rfl
  | none => by_cases same : entry.1 = key <;> simp [same]

theorem lookup_append (first second : List (String × ν)) (key : String) :
    lookup (first ++ second) key = (lookup second key).or (lookup first key) := by
  simp only [lookup, List.findRev?_eq_find?_reverse, List.reverse_append, List.find?_append]
  cases second.reverse.find? fun entry => decide (entry.1 = key) <;> rfl

variable {element}

/-- What was encoded is decoded behind what was there. -/
theorem decodeMapEntries_encoded {encode : ν -> Json}
    (inverse : forall value, element (encode value) = some value) (map values : List (String × ν)) :
    decodeMapEntries element map (values.map fun entry => (entry.1, encode entry.2)) =
      some (map ++ values) := by
  induction values generalizing map with
  | nil => rw [List.map_nil, decodeMapEntries, List.append_nil]
  | cons entry rest ih =>
      rw [List.map_cons, decodeMapEntries, inverse, Option.bind_some, ih, List.append_assoc,
        List.singleton_append]

/-- A key has the element of the last entry for it. -/
theorem lookup_decodeMapEntries (key : String) {entries : List (String × Json)} :
    forall {map result : List (String × ν)}, decodeMapEntries element map entries = some result ->
      lookup result key =
        match lookup entries key with
        | some json => element json
        | none => lookup map key := by
  induction entries with
  | nil =>
      intro map result decoded
      rw [Option.some.inj decoded]
      rfl
  | cons entry rest ih =>
      intro map result decoded
      rcases Option.bind_eq_some_iff.mp decoded with ⟨value, first, later⟩
      rw [ih later, lookup_cons, lookup_append, lookup_cons, lookup_nil, Option.none_or]
      cases lookup rest key with
      | some _ => rfl
      | none =>
          by_cases same : entry.1 = key
          · simp [same, first]
          · simp [same]

theorem mem_of_lookup {map : List (String × ν)} {key : String} {value : ν}
    (found : lookup map key = some value) : (key, value) ∈ map := by
  rcases Option.map_eq_some_iff.mp found with ⟨entry, listed, rfl⟩
  rw [List.findRev?_eq_find?_reverse] at listed
  have same : entry.1 = key := by simpa using List.find?_some listed
  subst same
  exact List.mem_reverse.mp (List.mem_of_find?_eq_some listed)

/-- A map is only decoded when all its elements are. -/
theorem exists_element {entries : List (String × Json)} :
    forall {map result : List (String × ν)}, decodeMapEntries element map entries = some result ->
      forall entry, entry ∈ entries -> Exists fun value => element entry.2 = some value := by
  induction entries with
  | nil => intro map result _ entry listed; exact absurd listed List.not_mem_nil
  | cons head rest ih =>
      intro map result decoded entry listed
      rcases Option.bind_eq_some_iff.mp decoded with ⟨value, first, later⟩
      rcases List.mem_cons.mp listed with same | member
      · exact same ▸ ⟨value, first⟩
      · exact ih later entry member

end Maps

/-! ## Records -/

/-- `foldRune`, on the runes that fold to an ASCII letter. -/
def foldRune (r : Char) : Char :=
  if 'a' ≤ r ∧ r ≤ 'z' then Char.ofNat (r.toNat - 32)
  else if r = '\u017f' then 'S'
  else if r = '\u212a' then 'K'
  else r

/-- `foldName`. -/
def foldName (name : String) : List Char := name.toList.map foldRune

/-- A field of a record and how it is decoded. -/
structure Field (σ : Type*) where
  name : String
  set : σ -> Json -> Option σ

/-- A field that is decoded into its old value. -/
def Field.of {σ β : Type*} (name : String) (decode : β -> Json -> Option β) (get : σ -> β)
    (put : σ -> β -> σ) : Field σ :=
  ⟨name, fun value json => (decode (get value) json).map (put value)⟩

/-- An entry that is written when it says something. -/
def omitEmpty (present : Bool) (name : String) (json : Json) : List (String × Json) :=
  if present then [(name, json)] else []

theorem lookup_omitEmpty (present : Bool) (name : String) (json : Json) (key : String) :
    lookup (omitEmpty present name json) key =
      if present = true ∧ name = key then some json else none := by
  cases present with
  | false => rfl
  | true => by_cases same : name = key <;> simp [omitEmpty, lookup_cons, lookup_nil, same]

/-- The fields of a record. -/
structure Shape (σ : Type*) where
  fields : List (Field σ)
  distinct : (fields.map fun field => foldName field.name).Nodup

namespace Shape

variable {σ : Type*} (shape : Shape σ)

/-- Set the field that the key of the entry names. -/
def setField (value : σ) (entry : String × Json) : Option σ :=
  match shape.fields.find? fun field => decide (foldName field.name = foldName entry.1) with
  | some field => field.set value entry.2
  | none => some value

def decodeEntries : σ -> List (String × Json) -> Option σ
  | value, [] => some value
  | value, entry :: rest => (shape.setField value entry).bind fun next => decodeEntries next rest

def decode (old : σ) : Json -> Option σ
  | .null => some old
  | .obj entries => shape.decodeEntries old entries
  | _ => none

variable {shape}

theorem setField_of_mem {field : Field σ} (listed : field ∈ shape.fields) (value : σ)
    (json : Json) : shape.setField value (field.name, json) = field.set value json := by
  have found : shape.fields.find? (fun other => decide (foldName other.name = foldName field.name))
    =
      some field := by
    rcases List.append_of_mem listed with ⟨before, after, split⟩
    have distinct := shape.distinct
    rw [split, List.map_append, List.nodup_append] at distinct
    rw [split, List.find?_append, List.find?_eq_none.mpr, List.find?_cons_of_pos (by simp)]
    · rfl
    · intro other member
      have different := distinct.2.2 _ (List.mem_map_of_mem member) (foldName field.name) (by simp)
      simpa using different
  rw [setField, found]

theorem decodeEntries_append (value : σ) (first second : List (String × Json)) :
    shape.decodeEntries value (first ++ second) =
      (shape.decodeEntries value first).bind fun next => shape.decodeEntries next second := by
  induction first generalizing value with
  | nil => rfl
  | cons entry rest ih =>
      simp only [List.cons_append, decodeEntries, Option.bind_assoc]
      congr 1
      funext next
      exact ih next

theorem decodeEntries_cons_of_mem {field : Field σ} (listed : field ∈ shape.fields) (value : σ)
    (json : Json) (rest : List (String × Json)) :
    shape.decodeEntries value ((field.name, json) :: rest) =
      (field.set value json).bind fun next => shape.decodeEntries next rest := by
  rw [decodeEntries, setField_of_mem listed]

/-- A field that was written is set to what was written. -/
theorem decodeEntries_cons_of {β : Type*} {name : String} {decodeField : β -> Json -> Option β}
    {get : σ -> β} {put : σ -> β -> σ} (listed : Field.of name decodeField get put ∈ shape.fields)
    (value : σ) {json : Json} {part : β} (decoded : decodeField (get value) json = some part)
    (rest : List (String × Json)) :
    shape.decodeEntries value ((name, json) :: rest) =
      shape.decodeEntries (put value part) rest := by
  refine (decodeEntries_cons_of_mem listed value json rest).trans ?_
  change ((decodeField (get value) json).map (put value)).bind _ = _
  rw [decoded]
  rfl

/-- A field is set by an entry that is only written when the field does not have its value. -/
theorem decodeEntries_omitEmpty {β : Type*} {name : String}
    {decodeField : β -> Json -> Option β} {get : σ -> β} {put : σ -> β -> σ}
    (listed : Field.of name decodeField get put ∈ shape.fields) (value : σ) {present : Bool}
    {json : Json} {part : β} (decoded : present = true -> decodeField (get value) json = some part)
    (silent : present = false -> put value part = value) (rest : List (String × Json)) :
    shape.decodeEntries value (omitEmpty present name json ++ rest) =
      shape.decodeEntries (put value part) rest := by
  cases present with
  | false => rw [silent rfl, omitEmpty, if_neg Bool.false_ne_true, List.nil_append]
  | true => exact decodeEntries_cons_of listed value (decoded rfl) rest

end Shape

/-! ## One part of a record -/

/-- No key matches the name. -/
def Absent (name : String) (entries : List (String × Json)) : Prop :=
  forall entry, entry ∈ entries -> foldName entry.1 ≠ foldName name

instance (name : String) (entries : List (String × Json)) : Decidable (Absent name entries) :=
  inferInstanceAs (Decidable (forall entry, entry ∈ entries -> foldName entry.1 ≠ foldName name))

/-- One key matches the name, and it is spelled like it. -/
def Single (name : String) (entries : List (String × Json)) (json : Json) : Prop :=
  Exists fun before => Exists fun after => entries = before ++ (name, json) :: after ∧
    Absent name before ∧ Absent name after

theorem absent_nil (name : String) :
    Absent name [] := fun _ listed => absurd listed List.not_mem_nil

theorem single_singleton (name : String) (json : Json) : Single name [(name, json)] json :=
  ⟨[], [], rfl, absent_nil name, absent_nil name⟩

theorem lookup_of_absent {name : String} {entries : List (String × Json)}
    (absent : Absent name entries) : lookup entries name = none := by
  induction entries with
  | nil => rfl
  | cons entry rest ih =>
      have different : entry.1 ≠ name := fun same =>
        absent entry List.mem_cons_self (congrArg foldName same)
      rw [lookup_cons, ih fun other listed => absent other (List.mem_cons_of_mem _ listed),
        if_neg different]
      rfl

theorem lookup_of_single {name : String} {entries : List (String × Json)} {json : Json}
    (single : Single name entries json) : lookup entries name = some json := by
  rcases single with ⟨before, after, split, _, absent⟩
  rw [split, lookup_append, lookup_cons, lookup_of_absent absent, if_pos rfl]
  rfl

namespace Shape

variable {σ β : Type*} {shape : Shape σ} {name : String} {get : σ -> β}
  (others : forall other, other ∈ shape.fields -> other.name ≠ name ->
    forall value json next, other.set value json = some next -> get next = get value)

include others

/-- The part is left alone by entries that do not name it. -/
theorem decode_get_absent {entries : List (String × Json)} (absent : Absent name entries) :
    forall {value final : σ}, shape.decodeEntries value entries = some final ->
      get final = get value := by
  induction entries with
  | nil =>
      intro value final decoded
      rw [Option.some.inj decoded]
  | cons entry rest ih =>
      intro value final decoded
      rcases Option.bind_eq_some_iff.mp decoded with ⟨next, set, later⟩
      have kept : get next = get value := by
        unfold setField at set
        split at set
        · rename_i other found
          refine others other (List.mem_of_find?_eq_some found) ?_ value entry.2 next set
          intro same
          have matches_ := List.find?_some found
          rw [decide_eq_true_eq, same] at matches_
          exact absent entry List.mem_cons_self matches_.symm
        · rw [Option.some.inj set]
      exact (ih (fun other member => absent other (List.mem_cons_of_mem _ member)) later).trans kept

/-- The part is set by the one entry that names it. -/
theorem decode_get_single {set : σ -> Json -> Option σ} (listed : ⟨name, set⟩ ∈ shape.fields)
    {entries : List (String × Json)} {json : Json} (single : Single name entries json)
    {value final : σ} (decoded : shape.decodeEntries value entries = some final) :
    Exists fun middle => Exists fun next =>
      get middle = get value ∧ set middle json = some next ∧ get final = get next := by
  rcases single with ⟨before, after, split, absentBefore, absentAfter⟩
  rw [split, decodeEntries_append] at decoded
  rcases Option.bind_eq_some_iff.mp decoded with ⟨middle, first, second⟩
  have one := decodeEntries_cons_of_mem listed middle json after
  rw [one] at second
  rcases Option.bind_eq_some_iff.mp second with ⟨next, decodedPart, rest⟩
  exact ⟨middle, next, decode_get_absent others absentBefore first, decodedPart,
    decode_get_absent others absentAfter rest⟩

end Shape

end Json

end Library
end Basement
