import Basement.Api.Regions
import Basement.Federation.Types
import Basement.Library.Calendar
import Basement.Library.Layout
import Mathlib.Data.List.Dedup
import Mathlib.Data.List.TakeWhile
import Mathlib.Tactic.IntervalCases
import Mathlib.Tactic.Tauto

namespace Basement
namespace Snapshots

open Library Library.Layout Api Federation

/-!
# The names of snapshots

A snapshot run writes below the slug of the backup's name and the second at which the run
started.  Retention, listing and restore find the snapshots again by parsing these folder
names.

A time is the number of nanoseconds since Go's zero time, the first of January of the year 1
in UTC.
-/

/-! ## Slugs -/

/-- `unicode.ToLower` on the runes it maps into the slug's alphabet.  The others stay outside
it, so their mapping does not show. -/
def lowerRune (r : Char) : Char :=
  if 'A' ≤ r ∧ r ≤ 'Z' then Char.ofNat (r.toNat + 32)
  else if r = '\u0130' then 'i'
  else if r = '\u212a' then 'k'
  else r

/-- The runes a slug keeps. -/
def keepsRune (r : Char) : Bool :=
  ('a' ≤ r && r ≤ 'z') || ('0' ≤ r && r ≤ '9')

/-- The loop of `SlugifyName`. -/
def slugRunes : Bool -> List Char -> List Char
  | _, [] => []
  | prevDash, r :: rest =>
      if keepsRune r = true then r :: slugRunes false rest
      else if prevDash then slugRunes true rest
      else '-' :: slugRunes true rest

/-- `strings.TrimRight(s, "-")`. -/
def trimDashes (runes : List Char) : List Char :=
  (runes.reverse.dropWhile (· == '-')).reverse

/-- A slug is never empty. -/
def slugOf (out : List Char) : String :=
  if out = [] then "backup" else String.ofList out

/-- `SlugifyName`. -/
def slugifyName (name : String) : String :=
  slugOf (trimDashes (slugRunes true ((trimSpace name).toList.map lowerRune)))

/-! ## Timestamps -/

/-- The day of a time. -/
def dayOf (t : Int) : Int := t / second / 86400

theorem dayOf_le_of_le {ts later : Int} (order : ts ≤ later) : dayOf ts ≤ dayOf later := by
  unfold dayOf second
  omega

/-- The second of the day. -/
def clockOf (t : Int) : Int := t / second % 86400

/-- `time.Date` in UTC. -/
def dateTime (date : Calendar.Date) (hour minute sec : Int) : Int :=
  (86400 * Calendar.dayNumber date + 3600 * hour + 60 * minute + sec) * second

/-- The four digits of a year; a negative year has a sign in front. -/
def renderYear (year : Int) : List Char :=
  if 0 ≤ year then padded 4 year.toNat else '-' :: padded 4 (-year).toNat

/-- What `SnapshotTimestampLayout` has behind the year. -/
def monthLayout : List Piece :=
  [.literal '-', .number 2, .literal '-', .number 2, .literal '_', .number 2, .literal ':', .number 2,
    .literal ':', .number 2]

/-- `SnapshotTimestampLayout`, which is also the shape of `SnapshotTimestampPattern`. -/
def timestampLayout : List Piece := .number 4 :: monthLayout

/-- What a timestamp shows behind the year. -/
def monthFields (t : Int) : List Nat :=
  [(Calendar.date (dayOf t)).month.toNat, (Calendar.date (dayOf t)).day.toNat,
    (clockOf t / 3600).toNat, (clockOf t / 60 % 60).toNat, (clockOf t % 60).toNat]

/-- `t.UTC().Format(SnapshotTimestampLayout)`. -/
def formatTimestamp (t : Int) : String :=
  String.ofList
    (renderYear (Calendar.date (dayOf t)).year ++ render monthLayout (monthFields t))

/-- The ranges `time.Parse` checks. -/
def timeInRange (date : Calendar.Date) (hour minute sec : Nat) : Bool :=
  decide date.Valid && decide (hour < 24) && decide (minute < 60) && decide (sec < 60)

/-- `time.ParseInLocation(SnapshotTimestampLayout, s, time.UTC)` behind the pattern check. -/
def parseTimestamp (s : List Char) : Option Int :=
  match parse timestampLayout s with
  | some [year, month, day, hour, minute, sec] =>
      if timeInRange ⟨year, month, day⟩ hour minute sec = true then
        some (dateTime ⟨year, month, day⟩ hour minute sec)
      else none
  | _ => none

/-! ## Snapshot folders -/

/-- `SnapshotRoot`. -/
def snapshotRoot (name : String) : String := slugifyName name ++ "/"

/-- `SnapshotPrefix`. -/
def snapshotPrefix (name : String) (t : Int) : String :=
  slugifyName name ++ "/" ++ formatTimestamp t ++ "/"

/-- What stands behind the last slash. -/
def lastSegment (s : List Char) : List Char :=
  (s.reverse.takeWhile (· != '/')).reverse

/-- `ParseSnapshotTimestamp`. -/
def parseSnapshotTimestamp (s : String) : Option Int :=
  parseTimestamp (lastSegment (trimSuffix s "/").toList)

/-- The common prefix a listing with the delimiter `/` reports for a key below the root. -/
def commonPrefix (root key : String) : Option String :=
  if root.toList.isPrefixOf key.toList = true ∧ '/' ∈ key.toList.drop root.toList.length then
    some (root ++ String.ofList ((key.toList.drop root.toList.length).takeWhile (· != '/')) ++ "/")
  else none

/-- The common prefixes of a listing, each once. -/
def commonPrefixes (root : String) (keys : List String) : List String :=
  (keys.filterMap (commonPrefix root)).dedup

/-- `listSnapshotTimestamps`, from the keys of the bucket. -/
def listSnapshotTimestamps (root : String) (keys : List String) : List Int :=
  (commonPrefixes root keys).filterMap parseSnapshotTimestamp

/-! ## What a timestamp gives back -/

theorem daysIn_le (year : Int) {month : Int} (starts : 1 ≤ month) (ends : month ≤ 12) :
    Calendar.daysIn year month ≤ 31 := by
  unfold Calendar.daysIn Calendar.daysBefore
  interval_cases month <;> cases leap : Calendar.isLeap year <;> simp

/-- A timestamp is its whole seconds taken apart. -/
theorem dateTime_date (t : Int) :
    dateTime (Calendar.date (dayOf t)) (clockOf t / 3600) (clockOf t / 60 % 60) (clockOf t % 60) =
      wholeSecond t := by
  rw [dateTime, Calendar.dayNumber_date, wholeSecond]
  congr 1
  unfold dayOf clockOf
  omega

/-- The fields behind the year fit their two digits. -/
theorem monthFields_fit (t : Int) : Fits monthLayout (monthFields t) := by
  have date := Calendar.date_valid (dayOf t)
  have days := daysIn_le (Calendar.date (dayOf t)).year date.1 date.2.1
  have clock : 0 ≤ clockOf t ∧ clockOf t < 86400 := by
    unfold clockOf
    omega
  simp only [monthLayout, monthFields, Fits, and_true]
  rcases date with ⟨monthStarts, monthEnds, dayStarts, dayEnds⟩
  omega

/-- The fields of a timestamp pass the checks of the parser. -/
theorem timeInRange_fields (t : Int) :
    timeInRange (Calendar.date (dayOf t)) (clockOf t / 3600).toNat (clockOf t / 60 % 60).toNat
      (clockOf t % 60).toNat = true := by
  have clock : 0 ≤ clockOf t ∧ clockOf t < 86400 := by
    unfold clockOf
    omega
  simp only [timeInRange, Bool.and_eq_true, decide_eq_true_eq]
  exact ⟨⟨⟨Calendar.date_valid _, by omega⟩, by omega⟩, by omega⟩

/-- The years a timestamp has four digits for. -/
def FourDigitYear (t : Int) : Prop :=
  0 ≤ (Calendar.date (dayOf t)).year ∧ (Calendar.date (dayOf t)).year < 10000

instance (t : Int) : Decidable (FourDigitYear t) := inferInstanceAs (Decidable (_ ∧ _))

/-- A timestamp with a four-digit year is read back, to the second. -/
theorem parseTimestamp_format {t : Int} (year : FourDigitYear t) :
    parseTimestamp (formatTimestamp t).toList = some (wholeSecond t) := by
  have date := Calendar.date_valid (dayOf t)
  have text : (formatTimestamp t).toList =
      render timestampLayout ((Calendar.date (dayOf t)).year.toNat :: monthFields t) := by
    rw [formatTimestamp, String.toList_ofList, renderYear, if_pos year.1]
    rfl
  have fits : Fits timestampLayout ((Calendar.date (dayOf t)).year.toNat :: monthFields t) :=
    ⟨by decide, by have := year.2; omega, monthFields_fit t⟩
  have clock : 0 ≤ clockOf t ∧ clockOf t < 86400 := by
    unfold clockOf
    omega
  have sameDate : (⟨((Calendar.date (dayOf t)).year.toNat : Int),
      ((Calendar.date (dayOf t)).month.toNat : Int),
      ((Calendar.date (dayOf t)).day.toNat : Int)⟩ : Calendar.Date) = Calendar.date (dayOf t) := by
    rw [Int.toNat_of_nonneg year.1, Int.toNat_of_nonneg (by have := date.1; omega),
      Int.toNat_of_nonneg (by have := date.2.2.1; omega)]
  rw [parseTimestamp, text, parse_render _ fits]
  simp only [monthFields, sameDate, timeInRange_fields, if_true]
  rw [Int.toNat_of_nonneg (by omega), Int.toNat_of_nonneg (by omega),
    Int.toNat_of_nonneg (by omega), dateTime_date]

/-- A timestamp with any other year is not read. -/
theorem parseTimestamp_format_none {t : Int} (year : ¬ FourDigitYear t) :
    parseTimestamp (formatTimestamp t).toList = none := by
  have unread : parse timestampLayout (formatTimestamp t).toList = none := by
    rw [formatTimestamp, String.toList_ofList, renderYear]
    by_cases negative : 0 ≤ (Calendar.date (dayOf t)).year
    · rw [if_pos negative]
      have long : 10 ^ 4 ≤ (Calendar.date (dayOf t)).year.toNat := by
        unfold FourDigitYear at year
        omega
      exact parse_long (by decide) long (by decide)
    · rw [if_neg negative]
      exact parse_number_of_head (by decide) (by decide)
  rw [parseTimestamp, unread]

/-! ## What a folder name gives back -/

theorem formatTimestamp_wholeSecond (t : Int) : formatTimestamp (wholeSecond t) = formatTimestamp t := by
  have same : wholeSecond t / second = t / second := by
    unfold wholeSecond second
    omega
  simp only [formatTimestamp, monthFields, dayOf, clockOf, same]

theorem snapshotPrefix_wholeSecond (name : String) (t : Int) :
    snapshotPrefix name (wholeSecond t) = snapshotPrefix name t := by
  rw [snapshotPrefix, formatTimestamp_wholeSecond, snapshotPrefix]

/-- A timestamp consists of digits and of three kinds of separators. -/
theorem mem_formatTimestamp {t : Int} {char : Char} (member : char ∈ (formatTimestamp t).toList) :
    char.isDigit = true ∨ char = '-' ∨ char = '_' ∨ char = ':' := by
  rw [formatTimestamp, String.toList_ofList, List.mem_append, renderYear] at member
  rcases member with year | month
  · split at year
    · exact Or.inl (padded_isDigit year)
    · rcases List.mem_cons.mp year with sign | digit
      · exact Or.inr (Or.inl sign)
      · exact Or.inl (padded_isDigit digit)
  · rcases mem_render monthLayout month with digit | literal
    · exact Or.inl digit
    · refine Or.inr ?_
      simp only [monthLayout, List.mem_cons, Piece.literal.injEq, reduceCtorEq, List.not_mem_nil] at literal
      tauto

theorem slash_not_mem_formatTimestamp (t : Int) : '/' ∉ (formatTimestamp t).toList := by
  intro member
  rcases mem_formatTimestamp member with digit | same | same | same
  · exact absurd digit (by decide)
  all_goals exact absurd same (by decide)

theorem all_ne_slash {s : List Char} (plain : '/' ∉ s) :
    forall char, char ∈ s -> (char != '/') = true := by
  intro char member
  have differs : char ≠ '/' := fun same => plain (same ▸ member)
  simpa using differs

theorem lastSegment_of_not_mem {s : List Char} (plain : '/' ∉ s) : lastSegment s = s := by
  have reversed : '/' ∉ s.reverse := fun member => plain (List.mem_reverse.mp member)
  rw [lastSegment, List.takeWhile_eq_self_iff.mpr (all_ne_slash reversed), List.reverse_reverse]

theorem lastSegment_append {front back : List Char} (plain : '/' ∉ back) :
    lastSegment (front ++ '/' :: back) = back := by
  have reversed : '/' ∉ back.reverse := fun member => plain (List.mem_reverse.mp member)
  rw [lastSegment, List.reverse_append, List.reverse_cons, List.append_assoc,
    List.takeWhile_append_of_pos (all_ne_slash reversed)]
  simp

/-- A snapshot folder is parsed by its timestamp. -/
theorem parseSnapshotTimestamp_folder (name : String) (t : Int) :
    parseSnapshotTimestamp (snapshotPrefix name t) = parseTimestamp (formatTimestamp t).toList := by
  have last : lastSegment ((slugifyName name).toList ++ '/' :: (formatTimestamp t).toList) =
      (formatTimestamp t).toList := lastSegment_append (slash_not_mem_formatTimestamp t)
  rw [parseSnapshotTimestamp, snapshotPrefix, trimSuffix_append, String.toList_append,
    String.toList_append, List.append_assoc]
  exact congrArg parseTimestamp last

/-- So is the timestamp alone, as a request names it. -/
theorem parseSnapshotTimestamp_format (t : Int) :
    parseSnapshotTimestamp (formatTimestamp t) = parseTimestamp (formatTimestamp t).toList := by
  have plain := slash_not_mem_formatTimestamp t
  have kept : trimSuffix (formatTimestamp t) "/" = formatTimestamp t := by
    unfold trimSuffix
    rw [if_neg]
    intro ends
    exact plain ((List.isSuffixOf_iff_suffix.mp ends).subset List.mem_cons_self)
  rw [parseSnapshotTimestamp, kept, lastSegment_of_not_mem plain]

/-- Listing the root reports the folder of every key in it. -/
theorem commonPrefix_folder (name : String) (t : Int) (rest : String) :
    commonPrefix (snapshotRoot name) (snapshotPrefix name t ++ rest) = some (snapshotPrefix name t) := by
  have all := all_ne_slash (slash_not_mem_formatTimestamp t)
  have key : (snapshotPrefix name t ++ rest).toList =
      (snapshotRoot name).toList ++ ((formatTimestamp t).toList ++ '/' :: rest.toList) := by
    simp [snapshotPrefix, snapshotRoot, List.append_assoc]
  unfold commonPrefix
  rw [key, List.drop_left, if_pos ⟨by simp, by simp⟩, List.takeWhile_append_of_pos all]
  simp [snapshotPrefix, snapshotRoot, String.append_assoc]

/-- A snapshot with an object is listed. -/
theorem mem_listSnapshotTimestamps {name rest : String} {t : Int} {keys : List String}
    (year : FourDigitYear t) (listed : snapshotPrefix name t ++ rest ∈ keys) :
    wholeSecond t ∈ listSnapshotTimestamps (snapshotRoot name) keys := by
  unfold listSnapshotTimestamps commonPrefixes
  refine List.mem_filterMap.mpr ⟨snapshotPrefix name t, ?_, ?_⟩
  · exact List.mem_dedup.mpr (List.mem_filterMap.mpr ⟨_, listed, commonPrefix_folder name t rest⟩)
  · rw [parseSnapshotTimestamp_folder, parseTimestamp_format year]

end Snapshots
end Basement
