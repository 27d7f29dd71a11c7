import Basement.Federation.Types
import Basement.Library.SortedStore

namespace Basement
namespace Federation

open Library

/-!
# The difference between a primary and a replica

`computeDiff` lists the primary page by page, asks the replica about each object
that the watermark does not exclude, and queues the ones that are missing or differ.
Here are its decisions on one object and at the end of one page.  The polling pass
takes them one at a time, with other requests in between; the quiet pass runs them
in a row.

The drivers list a bucket flat, so no listed object is a directory.
-/

/-- `MaxBatchPerTick`. -/
def maxBatchPerTick : Nat := 100

/-- `listPageSize`. -/
def listPageSize : Nat := 1000

/-- `scanCap`. -/
def scanCap : Nat := 4 * maxBatchPerTick

/-- `LastSyncSlack`. -/
def lastSyncSlack : Int := 2 * second

/-! ## Objects -/

abbrev Body := List UInt8

/-- `trimQuotes`. -/
def trimQuotes (s : String) : String :=
  if 2 ≤ s.toList.length ∧ s.toList.head? = some '"' ∧ s.toList.getLast? = some '"' then
    String.ofList s.toList.tail.dropLast
  else s

/-- A version of an object.  An ETag other than the empty one names the contents,
which is what the backends promise of it. -/
structure Version (contentOf : String -> Body) where
  etag : String
  body : Body
  named : trimQuotes etag ≠ "" -> contentOf (trimQuotes etag) = body

/-- A stored object; listings report its mtime in whole seconds. -/
structure Object (contentOf : String -> Body) extends Version contentOf where
  mtime : Int

abbrev Contents (contentOf : String -> Body) := SortedStore String (Object contentOf)

variable {contentOf : String -> Body}

def Object.size (object : Object contentOf) : Int := object.body.length

/-- The replica has the object at a key in the primary's version, when the primary
has one. -/
def Same (onPrimary onReplica : Option (Object contentOf)) : Prop :=
  forall object, onPrimary = some object ->
    Exists fun held => onReplica = some held ∧ held.body = object.body

/-- Contents that spell their ETag, which the sample objects have. -/
def tagBody (tag : String) : Body := tag.toList.map fun c => UInt8.ofNat c.toNat

def sampleVersion (tag : String) : Version tagBody where
  etag := tag
  body := tagBody (trimQuotes tag)
  named := fun _ => rfl

/-! ## One object -/

/-- `etagsDiffer`. -/
def etagsDiffer (a b : String) : Bool :=
  if trimQuotes a = "" ∨ trimQuotes b = "" then true else trimQuotes a != trimQuotes b

/-- Objects whose ETags do not differ have the same contents. -/
theorem body_eq_of_etagsDiffer_eq_false {first second : Version contentOf}
    (equal : etagsDiffer first.etag second.etag = false) : second.body = first.body := by
  unfold etagsDiffer at equal
  split at equal
  · cases equal
  · rename_i filled
    rcases not_or.mp filled with ⟨firstFilled, secondFilled⟩
    have same : trimQuotes first.etag = trimQuotes second.etag := by simpa using equal
    rw [← second.named secondFilled, ← first.named firstFilled, same]

/-- The watermark filter: the object is skipped without a HEAD. -/
def filtered (lastSync mtime : Int) : Bool :=
  lastSync ≠ 0 && mtime ≤ lastSync - lastSyncSlack

/-- Whether an object is queued, given the answer of the HEAD.  Every error counts as
a missing object. -/
def needsCopy (listed : Object contentOf) : Option (Object contentOf) -> Bool
  | none => true
  | some head => etagsDiffer listed.etag head.etag || head.mtime < listed.mtime

/-- A replica that needs no copy has the listed version. -/
theorem same_of_needsCopy_eq_false {listed : Object contentOf} {head : Option (Object contentOf)}
    (equal : needsCopy listed head = false) : Same (some listed) head := by
  intro object found
  cases found
  cases head with
  | none => cases equal
  | some held =>
      rcases Bool.or_eq_false_iff.mp equal with ⟨tags, _⟩
      exact ⟨held, rfl, body_eq_of_etagsDiffer_eq_false tags⟩

/-- `diffEntry`. -/
structure DiffEntry where
  key : String
  size : Int
  deriving DecidableEq, Repr

/-- `diffResult`. -/
structure DiffResult where
  entries : List DiffEntry := []
  scanned : Nat := 0
  headed : Nat := 0
  truncated : Bool := false
  deriving DecidableEq, Repr

/-- Append an entry.  The full batch ends the scan, which is the error case. -/
def DiffResult.queue (dr : DiffResult) (entry : DiffEntry) : Except DiffResult DiffResult :=
  if maxBatchPerTick ≤ (dr.entries ++ [entry]).length then
    .error { dr with entries := dr.entries ++ [entry], truncated := true }
  else .ok { dr with entries := dr.entries ++ [entry] }

/-- The body of the scan loop. -/
def scanObject (lastSync : Int) (head : Option (Object contentOf))
    (listed : String × Object contentOf) (dr : DiffResult) : Except DiffResult DiffResult :=
  if filtered lastSync listed.2.mtime then .ok { dr with scanned := dr.scanned + 1 }
  else if needsCopy listed.2 head then
    { dr with scanned := dr.scanned + 1, headed := dr.headed + 1 }.queue
      ⟨listed.1, listed.2.size⟩
  else .ok { dr with scanned := dr.scanned + 1, headed := dr.headed + 1 }

/-! ## One page -/

/-- What happens after the last object of a page: `error` ends the scan. -/
def pageEnd (more : Bool) (dr : DiffResult) : Except DiffResult DiffResult :=
  if more = false then .error dr
  else if scanCap ≤ dr.scanned then .error { dr with truncated := true }
  else .ok dr

/-! ## What the scan does to the result -/

/-- The keys queued so far. -/
def DiffResult.keys (dr : DiffResult) : List String := dr.entries.map DiffEntry.key

/-- An object is passed over by the filter, found equal, or queued. -/
theorem scanObject_cases (lastSync : Int) (head : Option (Object contentOf))
    (listed : String × Object contentOf) (dr : DiffResult) :
    (filtered lastSync listed.2.mtime = true ∧ scanObject lastSync head listed dr =
      .ok { dr with scanned := dr.scanned + 1 }) ∨
    (filtered lastSync listed.2.mtime = false ∧ needsCopy listed.2 head = false ∧
      scanObject lastSync head listed dr =
        .ok { dr with scanned := dr.scanned + 1, headed := dr.headed + 1 }) ∨
    (filtered lastSync listed.2.mtime = false ∧ needsCopy listed.2 head = true ∧
      scanObject lastSync head listed dr =
        { dr with scanned := dr.scanned + 1, headed := dr.headed + 1 }.queue
          ⟨listed.1, listed.2.size⟩) := by
  unfold scanObject
  cases filtered lastSync listed.2.mtime with
  | true => exact Or.inl ⟨rfl, rfl⟩
  | false =>
      cases needsCopy listed.2 head with
      | true => exact Or.inr (Or.inr ⟨rfl, rfl, rfl⟩)
      | false => exact Or.inr (Or.inl ⟨rfl, rfl, rfl⟩)

/-- The scan goes on only below a full batch. -/
theorem queue_ok {dr next : DiffResult} {entry : DiffEntry} (queued : dr.queue entry = .ok next) :
    next = { dr with entries := dr.entries ++ [entry] } ∧
      next.entries.length < maxBatchPerTick := by
  unfold DiffResult.queue at queued
  split at queued
  · cases queued
  · rename_i below
    rw [← Except.ok.inj queued]
    exact ⟨rfl, not_le.mp below⟩

theorem queue_error {dr stopped : DiffResult} {entry : DiffEntry}
    (queued : dr.queue entry = .error stopped) :
    stopped = { dr with entries := dr.entries ++ [entry], truncated := true } ∧
      maxBatchPerTick ≤ stopped.entries.length := by
  unfold DiffResult.queue at queued
  split at queued
  · rename_i full
    rw [← Except.error.inj queued]
    exact ⟨rfl, full⟩
  · cases queued

/-- After a scan that goes on, the object is filtered, equal or queued, and nothing
queued is lost. -/
theorem scanObject_ok {lastSync : Int} {head : Option (Object contentOf)}
    {listed : String × Object contentOf} {dr after : DiffResult}
    (result : scanObject lastSync head listed dr = .ok after) :
    (filtered lastSync listed.2.mtime = true ∨ needsCopy listed.2 head = false ∨
      listed.1 ∈ after.keys) ∧
    (forall key, key ∈ dr.keys -> key ∈ after.keys) ∧
    (dr.entries.length < maxBatchPerTick -> after.entries.length < maxBatchPerTick) := by
  rcases scanObject_cases lastSync head listed dr with
    ⟨old, same⟩ | ⟨_, equal, same⟩ | ⟨_, _, same⟩
  · rw [same] at result
    cases Except.ok.inj result
    exact ⟨Or.inl old, fun _ => id, id⟩
  · rw [same] at result
    cases Except.ok.inj result
    exact ⟨Or.inr (Or.inl equal), fun _ => id, id⟩
  · rw [same] at result
    rcases queue_ok result with ⟨appended, below⟩
    have keys : after.keys = dr.keys ++ [listed.1] := by
      rw [appended]
      simp [DiffResult.keys]
    refine ⟨Or.inr (Or.inr ?_), ?_, fun _ => below⟩
    · rw [keys]
      exact List.mem_append_right _ List.mem_cons_self
    · intro key queued
      rw [keys]
      exact List.mem_append_left _ queued

/-- A scan that ends at an object has a full batch and says so. -/
theorem scanObject_error {lastSync : Int} {head : Option (Object contentOf)}
    {listed : String × Object contentOf} {dr stopped : DiffResult}
    (result : scanObject lastSync head listed dr = .error stopped) :
    stopped.truncated = true := by
  rcases scanObject_cases lastSync head listed dr with ⟨_, same⟩ | ⟨_, _, same⟩ | ⟨_, _, same⟩
  · rw [same] at result
    cases result
  · rw [same] at result
    cases result
  · rw [same] at result
    rw [(queue_error result).1]

/-- The scan ends with the listing, or with `scanCap` objects, or goes on. -/
theorem pageEnd_cases (more : Bool) (dr : DiffResult) :
    (more = false ∧ pageEnd more dr = .error dr) ∨
    (more = true ∧ scanCap ≤ dr.scanned ∧ pageEnd more dr = .error { dr with truncated := true }) ∨
    (more = true ∧ dr.scanned < scanCap ∧ pageEnd more dr = .ok dr) := by
  unfold pageEnd
  cases more with
  | false => exact Or.inl ⟨rfl, rfl⟩
  | true =>
      by_cases full : scanCap ≤ dr.scanned
      · exact Or.inr (Or.inl ⟨rfl, full, by simp [full]⟩)
      · exact Or.inr (Or.inr ⟨rfl, not_le.mp full, by simp [full]⟩)

theorem pageEnd_ok {more : Bool} {dr after : DiffResult} (result : pageEnd more dr = .ok after) :
    more = true ∧ after = dr := by
  rcases pageEnd_cases more dr with ⟨_, same⟩ | ⟨_, _, same⟩ | ⟨notLast, _, same⟩
  · rw [same] at result
    cases result
  · rw [same] at result
    cases result
  · rw [same] at result
    exact ⟨notLast, (Except.ok.inj result).symm⟩

theorem pageEnd_error {more : Bool} {dr stopped : DiffResult}
    (result : pageEnd more dr = .error stopped) :
    (more = false ∧ stopped = dr) ∨ stopped.truncated = true := by
  rcases pageEnd_cases more dr with ⟨last, same⟩ | ⟨_, _, same⟩ | ⟨_, _, same⟩
  · rw [same] at result
    exact Or.inl ⟨last, (Except.error.inj result).symm⟩
  · rw [same] at result
    rw [← Except.error.inj result]
    exact Or.inr rfl
  · rw [same] at result
    cases result

end Federation
end Basement
