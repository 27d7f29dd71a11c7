import Basement.Api.Syncs

namespace Basement
namespace Drivers
namespace Lifecycle

open Api (trimSpace Refusal)

/-!
# Bucket lifecycle rules

The S3 drivers translate the lifecycle rules of a bucket into a small wire type and back.
The wire type has a prefix, a number of days for each of four actions and one storage
class.  What else an S3 rule can say is lost on the way: tags, sizes and conjunctions in its
filter, dates, delete markers, further transitions and counts of newer versions.

The first part is the S3 rule language with its meaning, as a relation between items, days
and actions.  The second part is the code.  The last part says when reading the rules and
putting them back keeps the meaning.
-/

/-! ## The rules of S3 -/

/-- `types.LifecycleRuleAndOperator`. -/
structure LifecycleRuleAndOperator where
  keyPrefix : Option String := none
  tags : List (String × String) := []
  objectSizeGreaterThan : Option Int := none
  objectSizeLessThan : Option Int := none
  deriving DecidableEq, Repr

/-- `types.LifecycleRuleFilter`. -/
structure LifecycleRuleFilter where
  andOperator : Option LifecycleRuleAndOperator := none
  keyPrefix : Option String := none
  tag : Option (String × String) := none
  objectSizeGreaterThan : Option Int := none
  objectSizeLessThan : Option Int := none
  deriving DecidableEq, Repr

/-- `types.LifecycleExpiration`; a date is the number of its day. -/
structure LifecycleExpiration where
  date : Option Int := none
  days : Option Int32 := none
  expiredObjectDeleteMarker : Option Bool := none
  deriving DecidableEq, Repr

/-- `types.Transition`. -/
structure Transition where
  date : Option Int := none
  days : Option Int32 := none
  storageClass : String := ""
  deriving DecidableEq, Repr

/-- `types.NoncurrentVersionExpiration`. -/
structure NoncurrentVersionExpiration where
  newerNoncurrentVersions : Option Int32 := none
  noncurrentDays : Option Int32 := none
  deriving DecidableEq, Repr

/-- `types.NoncurrentVersionTransition`. -/
structure NoncurrentVersionTransition where
  newerNoncurrentVersions : Option Int32 := none
  noncurrentDays : Option Int32 := none
  storageClass : String := ""
  deriving DecidableEq, Repr

/-- `types.LifecycleRule`.  `keyPrefix` is the deprecated prefix of a rule without a filter,
and `abortDays` is `AbortIncompleteMultipartUpload.DaysAfterInitiation`. -/
structure SDKRule where
  id : Option String := none
  status : String
  filter : Option LifecycleRuleFilter := none
  keyPrefix : Option String := none
  expiration : Option LifecycleExpiration := none
  transitions : List Transition := []
  noncurrentVersionExpiration : Option NoncurrentVersionExpiration := none
  noncurrentVersionTransitions : List NoncurrentVersionTransition := []
  abortDays : Option (Option Int32) := none
  deriving DecidableEq, Repr

/-- The two statuses that S3 knows. -/
def knownStatus (status : String) : Bool :=
  status = "Enabled" || status = "Disabled"

/-- The lifecycle configuration that S3 stores for a bucket. -/
structure Configuration where
  rules : List SDKRule
  statuses : forall rule, rule ∈ rules -> knownStatus rule.status = true

/-! ## Their meaning -/

/-- What a rule can act on: the current version of an object, a delete marker without older
versions, a version with the number of newer noncurrent ones, or an unfinished upload. -/
inductive ItemKind where
  | current
  | deleteMarker
  | noncurrent (newer : Nat)
  | upload
  deriving DecidableEq, Repr

/-- `since` is the day the item came into the state that it is in. -/
structure Item where
  kind : ItemKind
  key : String
  tags : List (String × String) := []
  size : Int := 0
  since : Int := 0
  deriving DecidableEq, Repr

inductive LifecycleAction where
  | expire
  | removeDeleteMarker
  | transition (storageClass : String)
  | expireNoncurrent
  | transitionNoncurrent (storageClass : String)
  | abortUpload
  deriving DecidableEq, Repr

def hasPrefix (keyPrefix key : String) : Bool := keyPrefix.toList.isPrefixOf key.toList

def sizeWithin (greater less : Option Int) (size : Int) : Bool :=
  (greater.all fun bound => decide (bound < size)) && less.all fun bound => decide (size < bound)

def LifecycleRuleAndOperator.applies (all : LifecycleRuleAndOperator) (item : Item) : Bool :=
  (all.keyPrefix.all fun keyPrefix => hasPrefix keyPrefix item.key) &&
    (all.tags.all fun tag => item.tags.contains tag) &&
    sizeWithin all.objectSizeGreaterThan all.objectSizeLessThan item.size

def LifecycleRuleFilter.applies (filter : LifecycleRuleFilter) (item : Item) : Bool :=
  (filter.keyPrefix.all fun keyPrefix => hasPrefix keyPrefix item.key) &&
    (filter.tag.all fun tag => item.tags.contains tag) &&
    sizeWithin filter.objectSizeGreaterThan filter.objectSizeLessThan item.size &&
    filter.andOperator.all fun all => all.applies item

/-- The rule selects the item. -/
def SDKRule.applies (rule : SDKRule) (item : Item) : Bool :=
  match rule.filter with
  | some filter => filter.applies item
  | none => rule.keyPrefix.all fun keyPrefix => hasPrefix keyPrefix item.key

/-- So many days after the item came into its state. -/
def daysPassed (days : Option Int32) (item : Item) (day : Int) : Bool :=
  days.any fun count => decide (item.since + count.toInt ≤ day)

def datePassed (date : Option Int) (day : Int) : Bool :=
  date.any fun start => decide (start ≤ day)

/-- As many newer noncurrent versions as the rule wants to keep. -/
def newerKept (count : Option Int32) (newer : Nat) : Bool :=
  count.all fun kept => decide (kept.toInt ≤ (newer : Int))

/-- On this day the rule asks for the action on an item that it selects. -/
def SDKRule.asks (rule : SDKRule) (item : Item) (day : Int) : LifecycleAction -> Bool
  | .expire =>
      decide (item.kind = .current) && rule.expiration.any fun expiration =>
        daysPassed expiration.days item day || datePassed expiration.date day
  | .removeDeleteMarker =>
      decide (item.kind = .deleteMarker) && rule.expiration.any fun expiration =>
        expiration.expiredObjectDeleteMarker = some true
  | .transition storageClass =>
      decide (item.kind = .current) && rule.transitions.any fun transition =>
        decide (transition.storageClass = storageClass) &&
          (daysPassed transition.days item day || datePassed transition.date day)
  | .expireNoncurrent =>
      match item.kind with
      | .noncurrent newer =>
          rule.noncurrentVersionExpiration.any fun expiration =>
            daysPassed expiration.noncurrentDays item day &&
              newerKept expiration.newerNoncurrentVersions newer
      | _ => false
  | .transitionNoncurrent storageClass =>
      match item.kind with
      | .noncurrent newer =>
          rule.noncurrentVersionTransitions.any fun transition =>
            decide (transition.storageClass = storageClass) &&
              daysPassed transition.noncurrentDays item day &&
                newerKept transition.newerNoncurrentVersions newer
      | _ => false
  | .abortUpload =>
      decide (item.kind = .upload) && rule.abortDays.any fun days => daysPassed days item day

/-- Some enabled rule acts on the item on this day. -/
def covers (rules : List SDKRule) (item : Item) (day : Int) (action : LifecycleAction) : Bool :=
  rules.any fun rule =>
    decide (rule.status = "Enabled") && rule.applies item && rule.asks item day action

/-! ## The drivers -/

/-- `driver.LifecycleRule`. -/
structure LifecycleRule where
  id : String := ""
  status : String := ""
  keyPrefix : String := ""
  expirationDays : Option Int := none
  transitionDays : Option Int := none
  transitionTier : String := ""
  noncurrentDays : Option Int := none
  abortMultipartDays : Option Int := none
  deriving DecidableEq, Repr

/-- `driver.LifecycleCapabilities`. -/
structure LifecycleCapabilities where
  supported : Bool
  expiration : Bool
  transition : Bool
  transitionTiers : List String
  noncurrentDays : Bool
  abortMultipartDays : Bool
  deriving DecidableEq, Repr

/-- The flattening that both S3 drivers do. -/
def ruleToDriver (r : SDKRule) : LifecycleRule where
  id := r.id.getD ""
  status := r.status
  keyPrefix := ((r.filter.bind fun filter => filter.keyPrefix).or r.keyPrefix).getD ""
  expirationDays := (r.expiration.bind fun expiration => expiration.days).map Int32.toInt
  transitionDays := (r.transitions.head?.bind fun transition => transition.days).map Int32.toInt
  transitionTier := (r.transitions.head?.map fun transition => transition.storageClass).getD ""
  noncurrentDays :=
    (r.noncurrentVersionExpiration.bind fun expiration => expiration.noncurrentDays).map Int32.toInt
  abortMultipartDays := r.abortDays.join.map Int32.toInt

/-- The inflation that both S3 drivers do. -/
def driverRuleToSDK (r : LifecycleRule) : SDKRule where
  id := if r.id = "" then none else some r.id
  status := r.status
  filter := some { keyPrefix := some r.keyPrefix }
  expiration := r.expirationDays.map fun days => { days := some (Int32.ofInt days) }
  transitions :=
    if r.transitionDays.isSome ∨ r.transitionTier ≠ "" then
      [{ days := r.transitionDays.map Int32.ofInt, storageClass := r.transitionTier }]
    else []
  noncurrentVersionExpiration :=
    r.noncurrentDays.map fun days => { noncurrentDays := some (Int32.ofInt days) }
  abortDays := r.abortMultipartDays.map fun days => some (Int32.ofInt days)

/-- `awsRuleToDriver`. -/
def awsRuleToDriver (r : SDKRule) : LifecycleRule := ruleToDriver r

/-- `driverRuleToAWS`. -/
def driverRuleToAWS (r : LifecycleRule) : SDKRule := driverRuleToSDK r

/-- `minioRuleToDriver`. -/
def minioRuleToDriver (r : SDKRule) : LifecycleRule := ruleToDriver r

/-- `driverRuleToMinIO`. -/
def driverRuleToMinIO (r : LifecycleRule) : SDKRule := driverRuleToSDK r

/-- `awsLifecycleTiers`. -/
def awsLifecycleTiers : List String := ["STANDARD_IA", "GLACIER", "DEEP_ARCHIVE"]

/-- `minioLifecycleTiers`. -/
def minioLifecycleTiers : List String := ["STANDARD_IA", "GLACIER", "DEEP_ARCHIVE"]

/-- The drivers that speak S3's lifecycle API. -/
inductive S3Driver where
  | awsS3
  | minio
  deriving DecidableEq, Repr

def S3Driver.tiers : S3Driver -> List String
  | .awsS3 => awsLifecycleTiers
  | .minio => minioLifecycleTiers

/-- `LifecycleSupport`. -/
def S3Driver.lifecycleSupport (drv : S3Driver) : LifecycleCapabilities where
  supported := true
  expiration := true
  transition := true
  transitionTiers := drv.tiers
  noncurrentDays := true
  abortMultipartDays := true

/-- `GetLifecycle`.  A bucket without a configuration has no rules. -/
def S3Driver.getLifecycle (drv : S3Driver) (rules : List SDKRule) : List LifecycleRule :=
  match drv with
  | .awsS3 => rules.map awsRuleToDriver
  | .minio => rules.map minioRuleToDriver

/-- `PutLifecycle`: what is stored afterwards.  No rules delete the configuration. -/
def S3Driver.putLifecycle (drv : S3Driver) (rules : List LifecycleRule) : List SDKRule :=
  match drv with
  | .awsS3 => rules.map driverRuleToAWS
  | .minio => rules.map driverRuleToMinIO

/-! ## The handler -/

/-- The rule with its texts trimmed. -/
def LifecycleRule.normalized (rule : LifecycleRule) : LifecycleRule :=
  { rule with
    id := trimSpace rule.id
    status := trimSpace rule.status
    keyPrefix := trimSpace rule.keyPrefix
    transitionTier := trimSpace rule.transitionTier }

def indexDetail (index : Nat) : List (String × String) := [("index", toString index)]

/-- The first objection to a normalized rule. -/
def ruleObjection (caps : LifecycleCapabilities) (index : Nat) (rule : LifecycleRule) :
    Option Refusal :=
  if rule.status ≠ "Enabled" ∧ rule.status ≠ "Disabled" then
    some ⟨400, "INVALID_RULE_STATUS", "rule.status must be \"Enabled\" or \"Disabled\"", indexDetail index⟩
  else if rule.transitionDays.isSome ∧ caps.transition = false then
    some ⟨400, "TRANSITION_UNSUPPORTED", "This driver does not support tier transitions.", indexDetail index⟩
  else if rule.noncurrentDays.isSome ∧ caps.noncurrentDays = false then
    some ⟨400, "NONCURRENT_UNSUPPORTED",
      "This driver does not support noncurrent-version expiration.", indexDetail index⟩
  else if rule.abortMultipartDays.isSome ∧ caps.abortMultipartDays = false then
    some ⟨400, "ABORT_MPU_UNSUPPORTED",
      "This driver does not support aborting incomplete multipart uploads via lifecycle.", indexDetail index⟩
  else if rule.expirationDays.isSome ∧ caps.expiration = false then
    some ⟨400, "EXPIRATION_UNSUPPORTED", "This driver does not support object expiration.", indexDetail index⟩
  else if rule.transitionTier ≠ "" ∧ rule.transitionTier ∉ caps.transitionTiers then
    some ⟨400, "TRANSITION_TIER_INVALID", "transitionTier is not in the driver's supported list",
      indexDetail index ++ [("tier", rule.transitionTier)] ++
        caps.transitionTiers.map fun tier => ("validTiers", tier)⟩
  else none

/-- The validation loop, with the rules it leaves in the request. -/
def validateRules (caps : LifecycleCapabilities) (index : Nat) :
    List LifecycleRule -> Except Refusal (List LifecycleRule)
  | [] => .ok []
  | rule :: rest =>
      match ruleObjection caps index rule.normalized with
      | some refusal => .error refusal
      | none => (validateRules caps (index + 1) rest).map fun rules => rule.normalized :: rules

/-- `putBucketLifecycleHandler`, up to the call of the driver. -/
def putBucketLifecycle (caps : LifecycleCapabilities) (rules : List LifecycleRule) :
    Except Refusal (List LifecycleRule) :=
  if caps.supported = false then
    .error ⟨409, "LIFECYCLE_UNSUPPORTED", "This driver does not support lifecycle policies.", []⟩
  else validateRules caps 0 rules

/-- The rules of the bucket after the answer of a GET is PUT back unchanged. -/
def readModifyWrite (drv : S3Driver) (rules : List SDKRule) : List SDKRule :=
  match putBucketLifecycle drv.lifecycleSupport (drv.getLifecycle rules) with
  | .error _ => rules
  | .ok submitted => drv.putLifecycle submitted

/-! ## What the translation keeps -/

/-- The prefix that the wire type carries. -/
def SDKRule.flatPrefix (rule : SDKRule) : String :=
  trimSpace (((rule.filter.bind fun filter => filter.keyPrefix).or rule.keyPrefix).getD "")

/-- What the parts of a rule that the wire type can carry ask for. -/
def SDKRule.keeps (rule : SDKRule) (item : Item) (day : Int) : LifecycleAction -> Bool
  | .expire =>
      decide (item.kind = .current) && rule.expiration.any fun expiration =>
        daysPassed expiration.days item day
  | .transition storageClass =>
      decide (item.kind = .current) && rule.transitions.head?.any fun transition =>
        decide (trimSpace transition.storageClass = storageClass) &&
          daysPassed transition.days item day
  | .expireNoncurrent =>
      match item.kind with
      | .noncurrent _ =>
          rule.noncurrentVersionExpiration.any fun expiration =>
            daysPassed expiration.noncurrentDays item day
      | _ => false
  | .abortUpload =>
      decide (item.kind = .upload) && rule.abortDays.any fun days => daysPassed days item day
  | .removeDeleteMarker => false
  | .transitionNoncurrent _ => false

/-- A rule as it comes back. -/
def SDKRule.reencoded (rule : SDKRule) : SDKRule :=
  driverRuleToSDK (ruleToDriver rule).normalized

theorem reencoded_applies (rule : SDKRule) (item : Item) :
    rule.reencoded.applies item = hasPrefix rule.flatPrefix item.key := by
  simp [SDKRule.reencoded, driverRuleToSDK, ruleToDriver, LifecycleRule.normalized,
    SDKRule.applies, LifecycleRuleFilter.applies, SDKRule.flatPrefix, sizeWithin]

theorem reencoded_asks (rule : SDKRule) (item : Item) (day : Int) (action : LifecycleAction) :
    rule.reencoded.asks item day action = rule.keeps item day action := by
  cases action with
  | expire =>
      unfold SDKRule.asks SDKRule.keeps SDKRule.reencoded driverRuleToSDK LifecycleRule.normalized
        ruleToDriver
      cases rule.expiration with
      | none => rfl
      | some expiration => cases days : expiration.days <;> simp [days, daysPassed, datePassed]
  | removeDeleteMarker =>
      unfold SDKRule.asks SDKRule.keeps SDKRule.reencoded driverRuleToSDK LifecycleRule.normalized
        ruleToDriver
      cases rule.expiration with
      | none => simp
      | some expiration => cases days : expiration.days <;> simp [days]
  | transition storageClass =>
      unfold SDKRule.asks SDKRule.keeps SDKRule.reencoded driverRuleToSDK LifecycleRule.normalized
        ruleToDriver
      cases rule.transitions.head? with
      | none => simp [show trimSpace "" = "" by decide]
      | some transition =>
          cases days : transition.days with
          | none =>
              by_cases untitled : trimSpace transition.storageClass = "" <;>
                simp [days, untitled, daysPassed, datePassed]
          | some count => simp [days, daysPassed, datePassed]
  | expireNoncurrent =>
      unfold SDKRule.asks SDKRule.keeps SDKRule.reencoded driverRuleToSDK LifecycleRule.normalized
        ruleToDriver
      cases item.kind <;> try rfl
      cases rule.noncurrentVersionExpiration with
      | none => rfl
      | some expiration =>
          cases days : expiration.noncurrentDays <;> simp [days, daysPassed, newerKept]
  | transitionNoncurrent storageClass =>
      unfold SDKRule.asks SDKRule.keeps SDKRule.reencoded driverRuleToSDK
      cases item.kind <;> rfl
  | abortUpload =>
      unfold SDKRule.asks SDKRule.keeps SDKRule.reencoded driverRuleToSDK LifecycleRule.normalized
        ruleToDriver
      cases rule.abortDays with
      | none => rfl
      | some days => cases days <;> simp [daysPassed]

theorem trimSpace_status {status : String} (known : knownStatus status = true) :
    trimSpace status = status := by
  simp only [knownStatus, Bool.or_eq_true, decide_eq_true_eq] at known
  rcases known with rfl | rfl <;> decide

theorem reencoded_status {rule : SDKRule} (known : knownStatus rule.status = true) :
    rule.reencoded.status = rule.status :=
  trimSpace_status known

/-! ## Reading the rules and putting them back -/

/-- The handler refuses the storage class of a rule's first transition. -/
def TierRefused (drv : S3Driver) (rules : List SDKRule) : Prop :=
  Exists fun rule => Exists fun transition => rule ∈ rules ∧
    rule.transitions.head? = some transition ∧ trimSpace transition.storageClass ≠ "" ∧
      trimSpace transition.storageClass ∉ drv.tiers

/-- The rule is enabled, and so it acts on the item, or its kept parts do below its prefix. -/
def SDKRule.actsOn (rule : SDKRule) (item : Item) (day : Int) (action : LifecycleAction) : Bool :=
  decide (rule.status = "Enabled") && rule.applies item && rule.asks item day action

def SDKRule.keptActsOn (rule : SDKRule) (item : Item) (day : Int) (action : LifecycleAction) : Bool :=
  decide (rule.status = "Enabled") && hasPrefix rule.flatPrefix item.key &&
    rule.keeps item day action

/-- Where the kept parts of a rule act and the rule does not, another rule does. -/
def NothingGained (rules : List SDKRule) : Prop :=
  forall rule, rule ∈ rules -> forall item day action, rule.keptActsOn item day action = true ->
    rule.actsOn item day action = false ->
      Exists fun other => other ∈ rules ∧ other.actsOn item day action = true

/-- Where a rule acts and its kept parts do not, those of another rule do. -/
def NothingLost (rules : List SDKRule) : Prop :=
  forall rule, rule ∈ rules -> forall item day action, rule.actsOn item day action = true ->
    rule.keptActsOn item day action = false ->
      Exists fun other => other ∈ rules ∧ other.keptActsOn item day action = true

theorem covers_iff {rules : List SDKRule} {item : Item} {day : Int} {action : LifecycleAction} :
    covers rules item day action = true ↔
      Exists fun rule => rule ∈ rules ∧ rule.actsOn item day action = true := by
  unfold covers
  rw [List.any_eq_true]
  rfl

theorem covers_reencoded_iff (config : Configuration) {item : Item} {day : Int}
    {action : LifecycleAction} :
    covers (config.rules.map SDKRule.reencoded) item day action = true ↔
      Exists fun rule => rule ∈ config.rules ∧ rule.keptActsOn item day action = true := by
  rw [covers_iff]
  have same : forall rule, rule ∈ config.rules ->
      rule.reencoded.actsOn item day action = rule.keptActsOn item day action := by
    intro rule listed
    unfold SDKRule.actsOn SDKRule.keptActsOn
    rw [reencoded_status (config.statuses rule listed), reencoded_applies, reencoded_asks]
  constructor
  · rintro ⟨_, listed, acts⟩
    rcases List.mem_map.mp listed with ⟨rule, member, rfl⟩
    exact ⟨rule, member, same rule member ▸ acts⟩
  · rintro ⟨rule, member, acts⟩
    exact ⟨rule.reencoded, List.mem_map_of_mem member, (same rule member).trans acts⟩

/-- The validation stops at a rule, or leaves the rules normalized. -/
theorem validateRules_cases (caps : LifecycleCapabilities) (rules : List LifecycleRule) :
    forall index, (Exists fun refusal => validateRules caps index rules = .error refusal ∧
        Exists fun rule => Exists fun position => rule ∈ rules ∧
          ruleObjection caps position rule.normalized ≠ none) ∨
      (validateRules caps index rules = .ok (rules.map LifecycleRule.normalized) ∧
        forall rule, rule ∈ rules -> Exists fun position =>
          ruleObjection caps position rule.normalized = none) := by
  induction rules with
  | nil => exact fun _ => Or.inr ⟨rfl, fun _ member => nomatch member⟩
  | cons rule rest ih =>
      intro index
      unfold validateRules
      cases objection : ruleObjection caps index rule.normalized with
      | some refusal =>
          exact Or.inl ⟨refusal, rfl, rule, index, List.mem_cons_self, by simp [objection]⟩
      | none =>
          rcases ih (index + 1) with ⟨refusal, stopped, other, position, member, reason⟩ | ⟨passed, fine⟩
          · exact Or.inl ⟨refusal, by simp [stopped, Except.map], other, position,
              List.mem_cons_of_mem _ member, reason⟩
          · refine Or.inr ⟨by simp [passed, Except.map], ?_⟩
            intro other member
            rcases List.mem_cons.mp member with rfl | later
            · exact ⟨index, objection⟩
            · exact fine other later

/-- A rule that S3 stores can only be refused for its storage class. -/
theorem ruleObjection_stored (drv : S3Driver) (position : Nat) {rule : SDKRule}
    (known : knownStatus rule.status = true) :
    ruleObjection drv.lifecycleSupport position (ruleToDriver rule).normalized = none ↔
      forall transition, rule.transitions.head? = some transition ->
        trimSpace transition.storageClass = "" ∨ trimSpace transition.storageClass ∈ drv.tiers := by
  have status : (ruleToDriver rule).normalized.status = rule.status := trimSpace_status known
  have tier : (ruleToDriver rule).normalized.transitionTier =
      trimSpace ((rule.transitions.head?.map fun transition => transition.storageClass).getD "") := rfl
  have enabled : ¬ (rule.status ≠ "Enabled" ∧ rule.status ≠ "Disabled") := by
    simp only [knownStatus, Bool.or_eq_true, decide_eq_true_eq] at known
    tauto
  unfold ruleObjection
  rw [status, if_neg enabled, if_neg (by simp [S3Driver.lifecycleSupport]),
    if_neg (by simp [S3Driver.lifecycleSupport]), if_neg (by simp [S3Driver.lifecycleSupport]),
    if_neg (by simp [S3Driver.lifecycleSupport]), tier]
  cases rule.transitions.head? with
  | none => simp [show trimSpace "" = "" by decide]
  | some transition =>
      by_cases untitled : trimSpace transition.storageClass = ""
      · simp [untitled]
      · by_cases listed : trimSpace transition.storageClass ∈ drv.tiers <;>
          simp [untitled, listed, S3Driver.lifecycleSupport]

/-- The rules after a read and a write: the old ones if a class is refused. -/
theorem readModifyWrite_cases (drv : S3Driver) (config : Configuration) :
    (TierRefused drv config.rules ∧ readModifyWrite drv config.rules = config.rules) ∨
      (¬ TierRefused drv config.rules ∧
        readModifyWrite drv config.rules = config.rules.map SDKRule.reencoded) := by
  have read : drv.getLifecycle config.rules = config.rules.map ruleToDriver := by
    cases drv <;> rfl
  have wrote : forall rules, drv.putLifecycle rules = rules.map driverRuleToSDK := by
    intro rules
    cases drv <;> rfl
  unfold readModifyWrite putBucketLifecycle
  rw [read, if_neg (by simp [S3Driver.lifecycleSupport])]
  rcases validateRules_cases drv.lifecycleSupport (config.rules.map ruleToDriver) 0 with
    ⟨refusal, stopped, other, position, member, reason⟩ | ⟨passed, fine⟩
  · rcases List.mem_map.mp member with ⟨rule, listed, rfl⟩
    rw [Ne, ruleObjection_stored drv position (config.statuses rule listed)] at reason
    push Not at reason
    rcases reason with ⟨transition, first, titled, unknown⟩
    exact Or.inl ⟨⟨rule, transition, listed, first, titled, unknown⟩, by rw [stopped]⟩
  · refine Or.inr ⟨?_, ?_⟩
    · rintro ⟨rule, transition, listed, first, titled, unknown⟩
      rcases fine (ruleToDriver rule) (List.mem_map_of_mem listed) with ⟨position, silent⟩
      rcases (ruleObjection_stored drv position (config.statuses rule listed)).mp silent transition
        first with empty | known
      · exact titled empty
      · exact unknown known
    · rw [passed]
      simp only [wrote, List.map_map]
      rfl

/-- Reading the rules of a bucket and putting them back leaves the covered items, days and
actions as they are exactly if the handler refuses a storage class, or what the translation
adds and drops makes no difference beside the rest of the old configuration. -/
theorem read_modify_write_covers_iff (drv : S3Driver) (config : Configuration) :
    (forall item day action, covers (readModifyWrite drv config.rules) item day action =
        covers config.rules item day action) ↔
      TierRefused drv config.rules ∨ (NothingGained config.rules ∧ NothingLost config.rules) := by
  rcases readModifyWrite_cases drv config with ⟨refused, same⟩ | ⟨accepted, rewritten⟩
  · exact iff_of_true (fun _ _ _ => by rw [same]) (Or.inl refused)
  · rw [rewritten]
    constructor
    · intro unchanged
      refine Or.inr ⟨?_, ?_⟩
      · intro rule listed item day action kept _
        rw [← covers_iff, ← unchanged]
        exact (covers_reencoded_iff config).mpr ⟨rule, listed, kept⟩
      · intro rule listed item day action acts _
        rw [← covers_reencoded_iff, unchanged]
        exact covers_iff.mpr ⟨rule, listed, acts⟩
    · rintro (refused | ⟨gained, lost⟩) item day action
      · exact absurd refused accepted
      · rw [Bool.eq_iff_iff, covers_reencoded_iff, covers_iff]
        constructor
        · rintro ⟨rule, listed, kept⟩
          cases own : rule.actsOn item day action with
          | true => exact ⟨rule, listed, own⟩
          | false => exact gained rule listed item day action kept own
        · rintro ⟨rule, listed, acts⟩
          cases own : rule.keptActsOn item day action with
          | true => exact ⟨rule, listed, own⟩
          | false => exact lost rule listed item day action acts own

/-! ## Rules that survive -/

/-- The rule says nothing that the wire type cannot carry: it selects by a prefix without
space around it, counts days, and has one transition at most. -/
structure SDKRule.Plain (rule : SDKRule) : Prop where
  selects : Exists fun keyPrefix => trimSpace keyPrefix = keyPrefix ∧
    (rule.filter = some { keyPrefix := some keyPrefix } ∨
      (rule.filter = none ∧ rule.keyPrefix = some keyPrefix))
  expiration : forall expiration, rule.expiration = some expiration ->
    expiration.date = none ∧ expiration.expiredObjectDeleteMarker ≠ some true
  transitions : forall first rest, rule.transitions = first :: rest ->
    rest = [] ∧ first.date = none ∧ trimSpace first.storageClass = first.storageClass
  noncurrent : forall expiration, rule.noncurrentVersionExpiration = some expiration ->
    expiration.newerNoncurrentVersions = none
  noncurrentTransitions : rule.noncurrentVersionTransitions = []

theorem SDKRule.Plain.applies_eq {rule : SDKRule} (plain : rule.Plain) (item : Item) :
    rule.applies item = hasPrefix rule.flatPrefix item.key := by
  rcases plain.selects with ⟨keyPrefix, trimmed, filtered | ⟨unfiltered, legacy⟩⟩
  · simp [SDKRule.applies, SDKRule.flatPrefix, filtered, trimmed, LifecycleRuleFilter.applies,
      sizeWithin]
  · simp [SDKRule.applies, SDKRule.flatPrefix, unfiltered, legacy, trimmed]

theorem SDKRule.Plain.asks_eq {rule : SDKRule} (plain : rule.Plain) (item : Item) (day : Int)
    (action : LifecycleAction) : rule.asks item day action = rule.keeps item day action := by
  cases action with
  | expire =>
      unfold SDKRule.asks SDKRule.keeps
      cases expires : rule.expiration with
      | none => rfl
      | some expiration => simp [(plain.expiration expiration expires).1, datePassed]
  | removeDeleteMarker =>
      unfold SDKRule.asks SDKRule.keeps
      cases expires : rule.expiration with
      | none => simp
      | some expiration => simp [(plain.expiration expiration expires).2]
  | transition storageClass =>
      unfold SDKRule.asks SDKRule.keeps
      cases moves : rule.transitions with
      | nil => rfl
      | cons first rest =>
          rcases plain.transitions first rest moves with ⟨rfl, undated, trimmed⟩
          simp [undated, trimmed, datePassed]
  | expireNoncurrent =>
      unfold SDKRule.asks SDKRule.keeps
      cases expires : rule.noncurrentVersionExpiration with
      | none => rfl
      | some expiration => simp [plain.noncurrent expiration expires, newerKept]
  | transitionNoncurrent storageClass =>
      unfold SDKRule.asks SDKRule.keeps
      rw [plain.noncurrentTransitions]
      cases item.kind <;> rfl
  | abortUpload => rfl

/-- A configuration whose enabled rules are all plain keeps its meaning. -/
theorem read_modify_write_plain (drv : S3Driver) {config : Configuration}
    (plain : forall rule, rule ∈ config.rules -> rule.status = "Enabled" -> rule.Plain)
    (item : Item) (day : Int) (action : LifecycleAction) :
    covers (readModifyWrite drv config.rules) item day action =
      covers config.rules item day action := by
  have agree : forall rule, rule ∈ config.rules -> forall item day action,
      rule.keptActsOn item day action = rule.actsOn item day action := by
    intro rule listed item day action
    unfold SDKRule.keptActsOn SDKRule.actsOn
    by_cases enabled : rule.status = "Enabled"
    · rw [(plain rule listed enabled).applies_eq, (plain rule listed enabled).asks_eq]
    · simp [enabled]
  have gained : NothingGained config.rules := by
    intro rule listed item day action kept own
    rw [agree rule listed, own] at kept
    cases kept
  have lost : NothingLost config.rules := by
    intro rule listed item day action acts kept
    rw [agree rule listed, acts] at kept
    cases kept
  exact (read_modify_write_covers_iff drv config).mpr (Or.inr ⟨gained, lost⟩) item day action

/-- One rule that expires objects with a tag after a day. -/
def sampleConfiguration : Configuration where
  rules := [{ status := "Enabled", filter := some { tag := some ("class", "scratch") }
              expiration := some { days := some 1 } }]
  statuses := by decide

/-- After a read and a write the rule expires every object of the bucket. -/
theorem tag_filtered_rule_becomes_bucket_wide :
    ¬ forall (drv : S3Driver) (config : Configuration) (item : Item) (day : Int)
      (action : LifecycleAction),
      covers (readModifyWrite drv config.rules) item day action =
        covers config.rules item day action := by
  intro stated
  have same := stated .awsS3 sampleConfiguration { kind := .current, key := "report.pdf" } 1 .expire
  exact absurd same (by decide)

end Lifecycle
end Drivers
end Basement
