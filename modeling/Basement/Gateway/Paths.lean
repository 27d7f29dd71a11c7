import Basement.Gateway.Backend

namespace Basement
namespace Gateway

open Drivers

/-!
# The paths of the WebDAV tree

A path is cleaned, so that many spellings are one path, and then read as a region, a bucket and
a key.  Only a slash at its end is remembered, on the key.
-/

structure Region where
  id : String
  regionAlias : String
  deriving DecidableEq, Repr

/-! ## Cleaning -/

abbrev Segment := List Char

/-- One segment in `path.Clean` of a rooted path. -/
def cleanStep (stack : List Segment) (segment : Segment) : List Segment :=
  if segment = [] ∨ segment = ['.'] then stack
  else if segment = ['.', '.'] then stack.dropLast
  else stack ++ [segment]

def cleanSegments (name : String) : List Segment :=
  (name.toList.splitOn '/').foldl cleanStep []

/-- `path.Clean("/" + name)`. -/
def cleanRooted (name : String) : List Char := '/' :: ['/'].intercalate (cleanSegments name)

/-- `strings.Trim` of slashes. -/
def trimSlashes (path : List Char) : List Char :=
  ((path.dropWhile (· == '/')).reverse.dropWhile (· == '/')).reverse

/-- `strings.SplitN` at slashes. -/
def splitN : Nat -> List Char -> List (List Char)
  | 0, _ => []
  | 1, path => [path]
  | n + 2, path =>
      match path.dropWhile (· != '/') with
      | [] => [path]
      | _ :: rest => path.takeWhile (· != '/') :: splitN (n + 1) rest

/-- `strings.HasSuffix(s, "/")`. -/
def endsWithSlash (s : String) : Bool := s.toList.getLast? == some '/'

/-- `strings.TrimSuffix(s, "/")`. -/
def trimSuffixSlash (s : String) : String :=
  if endsWithSlash s then String.ofList s.toList.dropLast else s

/-! ## Resolving -/

/-- What a path stands for. -/
inductive Resolved where
  | root
  | region (region : Region)
  | bucket (region : Region) (bucket : String)
  | object (region : Region) (bucket objectKey : String)
  deriving DecidableEq, Repr

/-- `resolveRegion`: the first region with the alias. -/
def resolveRegion (regions : Except FsError (List Region)) (label : String) :
    Except FsError Region :=
  match regions with
  | .error error => .error error
  | .ok listed =>
      match listed.find? fun region => region.regionAlias == label with
      | some region => .ok region
      | none => .error .notExist

/-- A key with the slash of its path. -/
def keepSlash (name key : String) : String :=
  if endsWithSlash name && !endsWithSlash key then key ++ "/" else key

/-- `parsePath`, with the regions that `listRegions` has for the user. -/
def parsePath (regions : Except FsError (List Region)) (name : String) :
    Except FsError Resolved :=
  let clean := trimSlashes (cleanRooted name)
  if clean = [] ∨ clean = ['.'] then .ok .root
  else
    match splitN 3 clean with
    | [] => .ok .root
    | label :: rest =>
        match resolveRegion regions (String.ofList label) with
        | .error error => .error error
        | .ok region =>
            match rest with
            | [] => .ok (.region region)
            | [bucket] => .ok (.bucket region (String.ofList bucket))
            | bucket :: key :: _ =>
                .ok (.object region (String.ofList bucket)
                  (keepSlash name (String.ofList key)))

/-- The location that a path names. -/
def Names (site : Site) (regions : Except FsError (List Region)) (name : String)
    (location : Location) : Prop :=
  Exists fun region => Exists fun bucket => Exists fun key => Exists fun endpoint =>
    parsePath regions name = .ok (.object region bucket key) ∧
      site.driverForRegion region.id = .ok endpoint ∧ location = site.location endpoint bucket key

theorem names_iff {site : Site} {regions : Except FsError (List Region)} {name : String}
    {region : Region} {bucket key : String} {location : Location}
    (parsed : parsePath regions name = .ok (.object region bucket key)) :
    Names site regions name location ↔ Exists fun endpoint =>
      site.driverForRegion region.id = .ok endpoint ∧
        location = site.location endpoint bucket key := by
  constructor
  · rintro ⟨other, otherBucket, otherKey, endpoint, again, driver, named⟩
    rw [parsed] at again
    cases again
    exact ⟨endpoint, driver, named⟩
  · rintro ⟨endpoint, driver, named⟩
    exact ⟨region, bucket, key, endpoint, parsed, driver, named⟩

theorem Names.unique {site : Site} {regions : Except FsError (List Region)} {name : String}
    {first second : Location}
    (one : Names site regions name first) (two : Names site regions name second) :
    first = second := by
  rcases one with ⟨region, bucket, key, endpoint, parsed, driver, rfl⟩
  rcases (names_iff parsed).mp two with ⟨other, otherDriver, rfl⟩
  rw [driver] at otherDriver
  cases otherDriver
  rfl

theorem trimSuffixSlash_of_slash {key : String} (slash : endsWithSlash key = true) :
    key = trimSuffixSlash key ++ "/" := by
  have last : key.toList.getLast? = some '/' := eq_of_beq slash
  rw [trimSuffixSlash, if_pos slash, ← String.toList_inj, String.toList_append, String.toList_ofList]
  rcases List.getLast?_eq_some_iff.mp last with ⟨front, split⟩
  rw [split, List.dropLast_concat]
  rfl

/-! ## Spellings of one path -/

theorem cleanSegments_append (first rest : String) :
    cleanSegments (first ++ "/" ++ rest) =
      (rest.toList.splitOn '/').foldl cleanStep (cleanSegments first) := by
  have text : (first ++ "/" ++ rest).toList = first.toList ++ '/' :: rest.toList := by
    rw [String.toList_append, String.toList_append, List.append_assoc]
    rfl
  rw [cleanSegments, text, List.splitOn_append_cons_self, List.foldl_append, ← cleanSegments]

/-- A doubled slash is one slash. -/
theorem cleanSegments_doubled (first rest : String) :
    cleanSegments (first ++ "/" ++ ("/" ++ rest)) = cleanSegments (first ++ "/" ++ rest) := by
  have text : ("/" ++ rest).toList = [] ++ '/' :: rest.toList := String.toList_append
  have skipped : ([] : List Char).splitOn '/' = [[]] := List.splitOn_nil '/'
  rw [cleanSegments_append, cleanSegments_append, text, List.splitOn_append_cons_self, skipped,
    List.foldl_append, List.foldl_cons, List.foldl_nil, cleanStep, if_pos (Or.inl rfl)]

theorem endsWithSlash_doubled (first rest : String) :
    endsWithSlash (first ++ "/" ++ ("/" ++ rest)) = endsWithSlash (first ++ "/" ++ rest) := by
  have last (front : List Char) : (front ++ '/' :: rest.toList).getLast? =
      ('/' :: rest.toList).getLast? := by
    rw [List.getLast?_append_of_ne_nil _ (List.cons_ne_nil _ _)]
  have one : (first ++ "/" ++ rest).toList = first.toList ++ '/' :: rest.toList := by
    rw [String.toList_append, String.toList_append, List.append_assoc]
    rfl
  have two : (first ++ "/" ++ ("/" ++ rest)).toList =
      (first.toList ++ ['/']) ++ '/' :: rest.toList := by
    rw [String.toList_append, String.toList_append, String.toList_append]
    rfl
  rw [endsWithSlash, endsWithSlash, one, two, last, last]

/-- Two paths that differ in a doubled slash stand for the same thing. -/
theorem parsePath_doubled (regions : Except FsError (List Region)) (first rest : String) :
    parsePath regions (first ++ "/" ++ ("/" ++ rest)) =
      parsePath regions (first ++ "/" ++ rest) := by
  have keys (key : String) : keepSlash (first ++ "/" ++ ("/" ++ rest)) key =
      keepSlash (first ++ "/" ++ rest) key := by
    rw [keepSlash, keepSlash, endsWithSlash_doubled]
  rw [parsePath, parsePath, cleanRooted, cleanRooted, cleanSegments_doubled]
  simp only [keys]

/-- One region, called `home`, of an endpoint whose buckets have one name each. -/
def homeSite : Site where
  driverForRegion _ := .ok "s3.example"
  bucketOf _ bucket := bucket

def homeRegions : Except FsError (List Region) := .ok [⟨"r1", "home"⟩]

end Gateway
end Basement
