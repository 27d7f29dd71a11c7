import Basement.Drivers.Copy
import Basement.Library.PercentEncoding

namespace Basement
namespace Drivers

open Library
open PercentEncoding (Bytes decode percent unreserved encodeByte decode_cons decode_escape
  decode_of_plain decode_ne_self decode_separated)

/-!
# The name of a copy's source

`ServerSideCopy` of every driver names its source in one text, the bucket, a slash and the key in
the escaping of form queries.  The service reads the text with percent-decoding, to which a plus
is a plus.  The two differ on the space alone, which a form query writes as a plus; the bucket is
sent as it is.
-/

def space : UInt8 := 32

def plus : UInt8 := 43

def slash : UInt8 := 47

/-- One byte in `url.QueryEscape`. -/
def queryEscapeByte (byte : UInt8) : Bytes :=
  if byte = space then [plus] else encodeByte unreserved byte

/-- `url.QueryEscape`. -/
def queryEscape (text : Bytes) : Bytes := text.flatMap queryEscapeByte

/-- A bucket and a key in one text. -/
def objectPath (bucket key : Bytes) : Bytes := bucket ++ slash :: key

/-- The `CopySource` that `ServerSideCopy` sends. -/
def copySource (srcBucket srcKey : Bytes) : Bytes := objectPath srcBucket (queryEscape srcKey)

/-- What is left of a key when the service has read it: its spaces are pluses. -/
def plusForSpace (byte : UInt8) : UInt8 := if byte = space then plus else byte

/-! ## What the service reads -/

theorem decode_queryEscape (key : Bytes) :
    decode (queryEscape key) = some (key.map plusForSpace) := by
  induction key with
  | nil => rfl
  | cons byte rest ih =>
      rw [queryEscape, List.flatMap_cons, ← queryEscape, List.map_cons, queryEscapeByte,
        plusForSpace]
      by_cases blank : byte = space
      · rw [if_pos blank, if_pos blank, List.singleton_append, decode_cons (by decide), ih,
          Option.map_some]
      · rw [if_neg blank, if_neg blank, encodeByte]
        by_cases kept : unreserved byte = true
        · have plain : byte ≠ percent := by
            rintro rfl
            exact absurd kept (by decide)
          rw [if_pos kept, List.singleton_append, decode_cons plain, ih, Option.map_some]
        · rw [if_neg kept, List.cons_append, List.cons_append, List.cons_append, List.nil_append,
            decode_escape, ih, Option.map_some]

/-- The service reads the bucket with its own escapes, and the key without its spaces. -/
theorem decode_copySource (srcBucket srcKey : Bytes) :
    decode (copySource srcBucket srcKey) =
      (decode srcBucket).map fun bucket => objectPath bucket (srcKey.map plusForSpace) := by
  rw [copySource, objectPath, decode_separated (by decide) (by decide), decode_queryEscape]
  cases decode srcBucket <;> rfl

theorem decode_eq_self_iff (text : Bytes) : decode text = some text ↔ percent ∉ text := by
  constructor
  · intro read listed
    exact decode_ne_self read listed rfl
  · exact decode_of_plain

theorem map_plusForSpace_eq_self_iff (key : Bytes) :
    key.map plusForSpace = key ↔ space ∉ key := by
  have each : key.map plusForSpace = key.map id ↔
      forall byte, byte ∈ key -> plusForSpace byte = byte := List.map_inj_left
  rw [List.map_id] at each
  rw [each]
  constructor
  · intro same listed
    exact absurd (same space listed) (by decide)
  · intro plain byte listed
    apply if_neg
    rintro rfl
    exact plain listed

/-- The service reads the bucket, a slash and the key exactly if the bucket has no percent sign
and the key no space. -/
theorem copySource_names_iff (srcBucket srcKey : Bytes) :
    decode (copySource srcBucket srcKey) = some (objectPath srcBucket srcKey) ↔
      percent ∉ srcBucket ∧ space ∉ srcKey := by
  rw [decode_copySource, Option.map_eq_some_iff, ← decode_eq_self_iff,
    ← map_plusForSpace_eq_self_iff]
  constructor
  · rintro ⟨bucket, read, same⟩
    have lengths : (slash :: srcKey.map plusForSpace).length = (slash :: srcKey).length := by
      rw [List.length_cons, List.length_cons, List.length_map]
    rcases List.append_inj' same lengths with ⟨sameBucket, sameRest⟩
    exact ⟨sameBucket ▸ read, (List.cons.inj sameRest).2⟩
  · rintro ⟨bucketRead, keyRead⟩
    exact ⟨srcBucket, bucketRead, by rw [keyRead]⟩

/-- Two keys of one bucket name one object exactly if they differ in spaces and pluses only. -/
theorem copySource_shared_iff (srcBucket first second : Bytes) :
    (Exists fun object => decode (copySource srcBucket first) = some object ∧
      decode (copySource srcBucket second) = some object) ↔
      (decode srcBucket).isSome = true ∧ first.map plusForSpace = second.map plusForSpace := by
  rw [decode_copySource, decode_copySource]
  cases decode srcBucket with
  | none => simp
  | some bucket =>
      simp only [Option.map_some, Option.some.injEq, exists_eq_left', Option.isSome_some, true_and]
      constructor
      · intro same
        exact (List.cons.inj (List.append_cancel_left same)).2.symm
      · intro same
        rw [same]

/-- A source names its object exactly if the bucket has no percent sign and the key no space, and
two keys name one object exactly if they differ in spaces and pluses only. -/
theorem copySource_names_object_iff (srcBucket srcKey other : Bytes) :
    (decode (copySource srcBucket srcKey) = some (objectPath srcBucket srcKey) ↔
      percent ∉ srcBucket ∧ space ∉ srcKey) ∧
    ((Exists fun object => decode (copySource srcBucket srcKey) = some object ∧
        decode (copySource srcBucket other) = some object) ↔
      (decode srcBucket).isSome = true ∧
        srcKey.map plusForSpace = other.map plusForSpace) := by
  exact ⟨copySource_names_iff srcBucket srcKey, copySource_shared_iff srcBucket srcKey other⟩

/-- The keys `a b` and `a+b` are two objects with one source, the one of `a+b`. -/
theorem copySource_of_space_names_plus :
    ¬ forall srcBucket first second : Bytes,
      decode (copySource srcBucket first) = some (objectPath srcBucket first) ∧
        (first ≠ second ->
          decode (copySource srcBucket first) ≠ decode (copySource srcBucket second)) := by
  intro stated
  have same : decode (copySource [100] [97, 32, 98]) = decode (copySource [100] [97, 43, 98]) := by
    decide
  exact (stated [100] [97, 32, 98] [97, 43, 98]).2 (by decide) same

/-! ## The copy that is made -/

/-- The bytes of a text. -/
def utf8 (text : String) : Bytes := text.toByteArray.data.toList

/-- The text of some bytes, if they are one. -/
def ofUtf8 (bytes : Bytes) : Option String := String.fromUTF8? ⟨bytes.toArray⟩

theorem ofUtf8_utf8 (text : String) : ofUtf8 (utf8 text) = some text := by
  rw [ofUtf8, utf8, String.fromUTF8?, dif_pos text.isValidUTF8]
  rfl

/-- The service takes the text up to the first slash for the bucket and the rest for the key. -/
def splitPath (path : Bytes) : Option ObjectName :=
  match path.dropWhile (fun byte => byte ≠ slash) with
  | [] => none
  | _ :: key =>
      (ofUtf8 (path.takeWhile fun byte => byte ≠ slash)).bind fun bucket =>
        (ofUtf8 key).map fun key => ⟨bucket, key⟩

/-- The object that the service reads for a source. -/
def requestedObject (src : ObjectName) : Option ObjectName :=
  (decode (copySource (utf8 src.bucket) (utf8 src.key))).bind splitPath

/-- `ServerSideCopy` with the source's name as it is sent. -/
def Driver.serverSideCopySent (driver : Driver) (src dst : ObjectName) (fault : Option String)
    (world : World) : Except String World :=
  match requestedObject src with
  | none => .error "InvalidArgument"
  | some read => driver.serverSideCopy read dst fault world

theorem splitPath_objectPath (name : ObjectName) (flat : slash ∉ utf8 name.bucket) :
    splitPath (objectPath (utf8 name.bucket) (utf8 name.key)) = some name := by
  have before : forall byte, byte ∈ utf8 name.bucket -> decide (byte ≠ slash) = true := by
    intro byte listed
    apply decide_eq_true
    rintro rfl
    exact flat listed
  have rest : (objectPath (utf8 name.bucket) (utf8 name.key)).dropWhile
      (fun byte => byte ≠ slash) = slash :: utf8 name.key := by
    rw [objectPath, List.dropWhile_append_of_pos before, List.dropWhile_cons_of_neg (by decide)]
  have bucket : (objectPath (utf8 name.bucket) (utf8 name.key)).takeWhile
      (fun byte => byte ≠ slash) = utf8 name.bucket := by
    rw [objectPath, List.takeWhile_append_of_pos before, List.takeWhile_cons_of_neg (by decide),
      List.append_nil]
  rw [splitPath, rest, bucket]
  simp only [ofUtf8_utf8]
  rfl

/-- A copy whose source has neither character is the copy of the named object. -/
theorem Driver.serverSideCopySent_eq (driver : Driver) (src dst : ObjectName)
    (fault : Option String) (world : World) (flat : slash ∉ utf8 src.bucket)
    (plain : percent ∉ utf8 src.bucket) (solid : space ∉ utf8 src.key) :
    driver.serverSideCopySent src dst fault world = driver.serverSideCopy src dst fault world := by
  have read : requestedObject src = some src := by
    rw [requestedObject, (copySource_names_iff _ _).mpr ⟨plain, solid⟩, Option.bind_some,
      splitPath_objectPath src flat]
  rw [Driver.serverSideCopySent, read]

end Drivers
end Basement
