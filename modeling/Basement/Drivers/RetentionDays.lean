import Mathlib.Data.Rat.Floor
import Mathlib.Order.Bounds.Defs

namespace Basement
namespace Drivers
namespace RetentionDays

/-!
# The default retention of an object lock

A bucket keeps its default retention as a number of days, the API as a date.  Saving turns the
date into days from the clock, and reading turns the days into a date from the clock.

Instants and durations are counted in nanoseconds, and instants from the zero time, so a clock
shows a natural number.  A `time.Duration` is an `int64`: the distance to a date stops at its
ends, and a product of durations wraps around.  The `float64` of the days is taken as an exact
rational.
-/

/-! ## Clock and durations -/

def hour : Int := 3600000000000

def day : Int := 86400000000000

/-- `time.Until`, which stops at the ends of an `int64`. -/
def timeUntil (now : Nat) (date : Int) : Int := max (-2 ^ 63) (min (2 ^ 63 - 1) (date - now))

/-- A product of durations. -/
def wrapped (duration : Int) : Int := duration.bmod (2 ^ 64)

/-! ## Configurations -/

structure ObjectLockRetention where
  mode : String
  retainUntilDate : Int := 0

structure ObjectLockConfig where
  enabled : Bool
  defaultRetention : Option ObjectLockRetention := none

/-- `types.DefaultRetention`. -/
structure DefaultRetention where
  mode : String
  days : Option Int := none
  years : Option Int := none
  deriving DecidableEq

/-- `types.ObjectLockConfiguration`, as it is sent and as the service has it. -/
structure ObjectLockConfiguration where
  objectLockEnabled : Bool
  rule : Option DefaultRetention := none
  deriving DecidableEq

structure DriverError where
  op : String
  driver : String
  message : String
  deriving DecidableEq

/-! ## Reading and saving -/

/-- The date that a default retention stands for when it is read. -/
def retainUntil (now : Nat) (retention : DefaultRetention) : Int :=
  match retention.days with
  | some days =>
      if 0 < days then now + wrapped (wrapped (days * 24) * hour) else years
  | none => years
where
  years : Int :=
    match retention.years with
    | some years => if 0 < years then now + wrapped (wrapped (wrapped (years * 365) * 24) * hour) else 0
    | none => 0

def getObjectLockConfig (now : Nat) (stored : Option ObjectLockConfiguration) : ObjectLockConfig :=
  match stored with
  | none => { enabled := false }
  | some configuration =>
      { enabled := configuration.objectLockEnabled
        defaultRetention := configuration.rule.map fun retention =>
          { mode := retention.mode, retainUntilDate := retainUntil now retention } }

/-- The days to a date, rounded up, and one at least. -/
def retentionDays (now : Nat) (date : Int) : Int :=
  let days :=
    if date = 0 then 0
    else
      let daysF : Rat := timeUntil now date / hour / 24
      if 0 < daysF then ⌊daysF + 999 / 1000⌋ else 0
  if days < 1 then 1 else days

def putObjectLockConfig (driverName : String) (now : Nat) (cfg : ObjectLockConfig) :
    Except DriverError ObjectLockConfiguration :=
  if ¬ cfg.enabled then
    .error ⟨"PutObjectLockConfig", driverName,
      "Object Lock cannot be disabled on a bucket once enabled (S3 contract)"⟩
  else
    match cfg.defaultRetention with
    | none => .ok { objectLockEnabled := true }
    | some retention =>
        if retention.mode ≠ "GOVERNANCE" ∧ retention.mode ≠ "COMPLIANCE" then
          .error ⟨"PutObjectLockConfig", driverName,
            "default retention mode must be GOVERNANCE or COMPLIANCE"⟩
        else
          .ok {
            objectLockEnabled := true
            rule := some {
              mode := retention.mode
              days := some (retentionDays now retention.retainUntilDate) } }

namespace AwsS3

def putObjectLockConfig := RetentionDays.putObjectLockConfig "aws-s3"

def getObjectLockConfig := RetentionDays.getObjectLockConfig

end AwsS3

namespace Minio

def putObjectLockConfig := RetentionDays.putObjectLockConfig "minio"

def getObjectLockConfig := RetentionDays.getObjectLockConfig

end Minio

/-! ## The days in whole numbers -/

theorem daysF_eq (duration : Int) :
    (duration : Rat) / hour / 24 + 999 / 1000 =
      ((1000 * duration + 999 * day : Int) : Rat) / ((86400000000000000 : Nat) : Rat) := by
  have hourEq : ((hour : Int) : Rat) = 3600000000000 := by norm_num [hour]
  have dayEq : ((day : Int) : Rat) = 86400000000000 := by norm_num [day]
  rw [Int.cast_add, Int.cast_mul, Int.cast_mul, hourEq, dayEq]
  push_cast
  ring

theorem retentionDays_of_pos {now : Nat} {date : Int} (ahead : now < date) :
    retentionDays now date =
      max 1 ((1000 * timeUntil now date + 999 * day) / (1000 * day)) := by
  have nonzero : date ≠ 0 := by omega
  have positive : 0 < timeUntil now date := by
    rw [timeUntil]
    omega
  have positiveF : (0 : Rat) < timeUntil now date / hour / 24 := by
    have cast : (0 : Rat) < timeUntil now date := Int.cast_pos.mpr positive
    have hours : (0 : Rat) < (hour : Int) := by norm_num [hour]
    positivity
  rw [retentionDays, if_neg nonzero]
  simp only [if_pos positiveF]
  rw [daysF_eq, Rat.floor_intCast_div_natCast]
  simp only [day]
  omega

/-- The days sent are the whole days before the date, and one more unless less than a
thousandth of a day is left. -/
theorem retentionDays_eq {now : Nat} {date whole rest : Int} (ahead : now < date)
    (near : date - now ≤ 106752 * day) (parts : date - now = whole * day + rest)
    (low : 0 ≤ rest) (high : rest < day) :
    retentionDays now date = if 1000 * rest < day then max 1 whole else whole + 1 := by
  rw [retentionDays_of_pos ahead, timeUntil]
  by_cases short : 1000 * rest < day
  · rw [if_pos short]
    simp only [day] at *
    omega
  · rw [if_neg short]
    simp only [day] at *
    omega

/-- Farther ahead the distance to the date is cut off. -/
theorem retentionDays_far {now : Nat} {date : Int} (far : 106752 * day < date - now) :
    retentionDays now date = 106752 := by
  have ahead : now < date := by
    simp only [day] at far
    omega
  rw [retentionDays_of_pos ahead, timeUntil]
  simp only [day] at *
  omega

/-- An `int32` holds the days. -/
theorem retentionDays_bounds {now : Nat} {date : Int} (ahead : now < date) :
    1 ≤ retentionDays now date ∧ retentionDays now date ≤ 106752 := by
  rw [retentionDays_of_pos ahead, timeUntil]
  simp only [day]
  omega

theorem retentionDays_past {now : Nat} {date : Int} (past : date ≤ now) :
    retentionDays now date = 1 := by
  have behind : ¬ (0 : Rat) < timeUntil now date / hour / 24 := by
    have negative : timeUntil now date ≤ 0 := by
      rw [timeUntil]
      omega
    have cast : (timeUntil now date : Rat) ≤ 0 := Int.cast_nonpos.mpr negative
    have hours : (0 : Rat) < (hour : Int) := by norm_num [hour]
    rw [not_lt]
    exact div_nonpos_of_nonpos_of_nonneg (div_nonpos_of_nonpos_of_nonneg cast hours.le)
      (by norm_num)
  rw [retentionDays]
  simp only [if_neg behind, ite_self]
  rfl

/-! ## Reading and saving again -/

theorem retainUntil_days {now : Nat} {mode : String} {days : Int} (positive : 1 ≤ days)
    (near : days ≤ 106751) :
    retainUntil now { mode := mode, days := some days } = now + days * day := by
  have hours : wrapped (days * 24) = days * 24 := Int.bmod_eq_of_le (by omega) (by omega)
  have whole : wrapped (days * 24 * hour) = days * 24 * hour := by
    simp only [hour]
    exact Int.bmod_eq_of_le (by omega) (by omega)
  have ahead : 0 < days := positive
  simp only [retainUntil, if_pos ahead]
  rw [hours, whole]
  simp only [hour, day]
  omega

/-- One day more wraps around and is read as a date long ago. -/
theorem retainUntil_wraps (now : Nat) (mode : String) :
    retainUntil now { mode := mode, days := some 106752 } ≤ now := by
  have back : wrapped (wrapped (106752 * 24) * hour) ≤ 0 := by decide +kernel
  have ahead : (0 : Int) < 106752 := by decide
  simp only [retainUntil, if_pos ahead]
  omega

/-- A number of days that was read is saved as it was, unless more than 0.999 of a day has
gone by, or the date could not be told. -/
theorem retentionDays_retainUntil_iff {readAt savedAt : Nat} {mode : String} {days : Int}
    (positive : 1 ≤ days) (bounded : days ≤ 106752) (later : readAt ≤ savedAt)
    (sameDay : savedAt < readAt + day) :
    retentionDays savedAt (retainUntil readAt { mode := mode, days := some days }) = days ↔
      days ≤ 106751 ∧ (days = 1 ∨ 1000 * ((savedAt : Int) - readAt) ≤ 999 * day) := by
  rcases Int.lt_or_le 106751 days with wrapping | near
  · obtain rfl : days = 106752 := by omega
    have past := (retainUntil_wraps readAt mode).trans (Int.ofNat_le.mpr later)
    rw [retentionDays_past past]
    omega
  · rw [retainUntil_days positive near]
    have ahead : (savedAt : Int) < readAt + days * day := by
      simp only [day] at *
      omega
    rw [retentionDays_of_pos ahead, timeUntil]
    simp only [day] at *
    omega

/-! ## When the days cover the date -/

/-- What saving a default retention is to do: the least number of days that reach the date is
sent, and a save of what is then read leaves it as it was. -/
def CoversDate (put : Nat -> ObjectLockConfig -> Except DriverError ObjectLockConfiguration)
    (get : Nat -> Option ObjectLockConfiguration -> ObjectLockConfig)
    (mode : String) (now : Nat) (date : Int) (readAt savedAt : Nat) : Prop :=
  Exists fun days : Nat =>
    put now { enabled := true, defaultRetention := some { mode := mode, retainUntilDate := date } } =
      .ok { objectLockEnabled := true, rule := some { mode := mode, days := some (days : Int) } } ∧
    IsLeast { whole : Nat | date ≤ now + whole * day } days ∧
    put savedAt (get readAt (some
      { objectLockEnabled := true, rule := some { mode := mode, days := some (days : Int) } })) =
      .ok { objectLockEnabled := true, rule := some { mode := mode, days := some (days : Int) } }

theorem putObjectLockConfig_retention (driverName : String) (now : Nat) {mode : String}
    (known : mode = "GOVERNANCE" ∨ mode = "COMPLIANCE") (date : Int) :
    putObjectLockConfig driverName now
        { enabled := true, defaultRetention := some { mode := mode, retainUntilDate := date } } =
      .ok {
        objectLockEnabled := true
        rule := some { mode := mode, days := some (retentionDays now date) } } := by
  have accepted : ¬ (mode ≠ "GOVERNANCE" ∧ mode ≠ "COMPLIANCE") := by
    rintro ⟨first, second⟩
    exact known.elim first second
  rw [putObjectLockConfig, if_neg (not_not_intro rfl)]
  exact if_neg accepted

theorem sent_days_inj {mode : String} {first second : Int}
    (same : ({ objectLockEnabled := true, rule := some { mode := mode, days := some first } } :
      ObjectLockConfiguration) =
        { objectLockEnabled := true, rule := some { mode := mode, days := some second } }) :
    first = second := by
  injection same with enabled rule
  injection rule with retention
  injection retention with modeEq daysEq
  exact Option.some.inj daysEq

theorem coversDate_iff_days (driverName : String) {mode : String} {now : Nat} {date : Int}
    {readAt savedAt : Nat} (known : mode = "GOVERNANCE" ∨ mode = "COMPLIANCE")
    (ahead : now < date) :
    CoversDate (putObjectLockConfig driverName) getObjectLockConfig mode now date readAt savedAt ↔
      IsLeast { whole : Nat | date ≤ now + whole * day } (retentionDays now date).toNat ∧
      retentionDays savedAt (retainUntil readAt
        { mode := mode, days := some (retentionDays now date) }) = retentionDays now date := by
  have bounds := retentionDays_bounds ahead
  have natural : ((retentionDays now date).toNat : Int) = retentionDays now date :=
    Int.toNat_of_nonneg (by omega)
  have again (days : Int) :
      putObjectLockConfig driverName savedAt (getObjectLockConfig readAt (some
        { objectLockEnabled := true, rule := some { mode := mode, days := some days } })) =
      .ok {
        objectLockEnabled := true
        rule := some {
          mode := mode
          days := some (retentionDays savedAt
            (retainUntil readAt { mode := mode, days := some days })) } } :=
    putObjectLockConfig_retention driverName savedAt known _
  constructor
  · rintro ⟨days, sent, least, resent⟩
    rw [putObjectLockConfig_retention driverName now known date, Except.ok.injEq] at sent
    have same : retentionDays now date = days := sent_days_inj sent
    rw [again, Except.ok.injEq] at resent
    have kept : retentionDays savedAt (retainUntil readAt
        { mode := mode, days := some (days : Int) }) = days := sent_days_inj resent
    rw [same, Int.toNat_natCast]
    exact ⟨least, kept⟩
  · rintro ⟨least, kept⟩
    refine ⟨(retentionDays now date).toNat, ?_, least, ?_⟩
    · rw [putObjectLockConfig_retention driverName now known date, natural]
    · rw [again, natural, kept]

theorem isLeast_days_iff (now : Nat) (date : Int) {days : Int} (positive : 1 ≤ days) :
    IsLeast { whole : Nat | date ≤ now + whole * day } days.toNat ↔
      date ≤ now + days * day ∧ now + (days - 1) * day < date := by
  have natural : (days.toNat : Int) = days := Int.toNat_of_nonneg (by omega)
  constructor
  · rintro ⟨reaches, least⟩
    have covered : date ≤ now + (days.toNat : Int) * day := reaches
    rw [natural] at covered
    refine ⟨covered, ?_⟩
    apply Int.lt_of_not_ge
    intro earlier
    have fewer : ((days - 1).toNat : Int) = days - 1 := Int.toNat_of_nonneg (by omega)
    have member : (days - 1).toNat ∈ { whole : Nat | date ≤ now + whole * day } := by
      rw [Set.mem_ofPred_eq, fewer]
      exact earlier
    have below := least member
    omega
  · rintro ⟨covered, short⟩
    refine ⟨?_, ?_⟩
    · rw [Set.mem_ofPred_eq, natural]
      exact covered
    · intro whole reaches
      have reached : date ≤ now + whole * day := reaches
      simp only [day] at *
      omega

/-- The days sent are the least ones exactly when the date is not too far, and what it is ahead
of whole days is nothing or at least a thousandth of a day. -/
theorem retentionDays_isLeast_iff {now : Nat} {date : Int} (ahead : now < date) :
    IsLeast { whole : Nat | date ≤ now + whole * day } (retentionDays now date).toNat ↔
      date - now ≤ 106752 * day ∧
        (date - now ≤ day ∨ (date - now) % day = 0 ∨ day ≤ 1000 * ((date - now) % day)) := by
  rw [isLeast_days_iff now date (retentionDays_bounds ahead).1]
  rcases Int.lt_or_le (106752 * day) (date - now) with far | near
  · rw [retentionDays_far far]
    simp only [day] at *
    omega
  · have parts : date - now = (date - now) / day * day + (date - now) % day :=
      (Int.ediv_mul_add_emod (date - now) day).symm
    have low : 0 ≤ (date - now) % day := Int.emod_nonneg _ (by decide)
    have high : (date - now) % day < day := Int.emod_lt_of_pos _ (by decide)
    rw [retentionDays_eq ahead near parts low high]
    by_cases short : 1000 * ((date - now) % day) < day
    · rw [if_pos short]
      simp only [day] at *
      omega
    · rw [if_neg short]
      simp only [day] at *
      omega

/-- In both drivers the days cover the date and stay as they are exactly when they can be read
back, and either one day is enough, or the date is ahead of whole days by nothing or at least a
thousandth of a day, and not more than 0.999 of a day lies between the read and the save. -/
theorem coversDate_iff {mode : String} {now : Nat} {date : Int} {readAt savedAt : Nat}
    (known : mode = "GOVERNANCE" ∨ mode = "COMPLIANCE") (ahead : now < date)
    (later : readAt ≤ savedAt) (sameDay : savedAt < readAt + day) :
    CoversDate AwsS3.putObjectLockConfig AwsS3.getObjectLockConfig mode now date readAt savedAt ∧
      CoversDate Minio.putObjectLockConfig Minio.getObjectLockConfig mode now date readAt savedAt ↔
      date - now ≤ 106751 * day ∧
        (date - now ≤ day ∨
          ((date - now) % day = 0 ∨ day ≤ 1000 * ((date - now) % day)) ∧
            1000 * ((savedAt : Int) - readAt) ≤ 999 * day) := by
  have bounds := retentionDays_bounds ahead
  have leastIff := retentionDays_isLeast_iff ahead
  rw [show AwsS3.putObjectLockConfig = putObjectLockConfig "aws-s3" from rfl,
    show Minio.putObjectLockConfig = putObjectLockConfig "minio" from rfl,
    show AwsS3.getObjectLockConfig = getObjectLockConfig from rfl,
    show Minio.getObjectLockConfig = getObjectLockConfig from rfl,
    coversDate_iff_days "aws-s3" known ahead, coversDate_iff_days "minio" known ahead, and_self,
    retentionDays_retainUntil_iff bounds.1 bounds.2 later sameDay]
  constructor
  · rintro ⟨least, readable, kept⟩
    have within := (isLeast_days_iff now date bounds.1).mp least
    have shape := leastIff.mp least
    simp only [day] at *
    omega
  · rintro ⟨near, rounded⟩
    have least : IsLeast { whole : Nat | date ≤ now + whole * day }
        (retentionDays now date).toNat := by
      apply leastIff.mpr
      simp only [day] at *
      omega
    have within := (isLeast_days_iff now date bounds.1).mp least
    refine ⟨least, ?_⟩
    simp only [day] at *
    omega

theorem coversDate_iff_week :
    CoversDate AwsS3.putObjectLockConfig AwsS3.getObjectLockConfig "COMPLIANCE" 0 (7 * day) 5 9 ∧
      CoversDate Minio.putObjectLockConfig Minio.getObjectLockConfig "COMPLIANCE" 0 (7 * day) 5 9 :=
  (coversDate_iff (Or.inr rfl) (by decide) (by decide) (by decide)).mpr (by decide)

/-- For a date a minute after two whole days, two days are sent. -/
theorem minute_after_two_days_left_out :
    ¬ CoversDate AwsS3.putObjectLockConfig AwsS3.getObjectLockConfig "COMPLIANCE" 0
      (2 * day + 60000000000) 0 0 := by
  intro covers
  have days := (coversDate_iff_days "aws-s3" (Or.inr rfl) (by decide)).mp covers
  exact absurd ((retentionDays_isLeast_iff (by decide)).mp days.1) (by decide)

end RetentionDays
end Drivers
end Basement
