import Basement.Snapshots.Naming

namespace Basement
namespace Snapshots

open Library Library.Layout Api Federation

/-!
# The names of snapshots, back and forth

A slug has no room for anything that the path of a snapshot uses.  A timestamp is read back from
every path that ends with it, and nothing else is read as one.  As every field of a timestamp has
its width, the names of a backup's snapshots are ordered like their times.
-/

/-! ## Slugs -/

/-- Runes that a slug keeps, with single dashes between some of them. -/
inductive Slug : List Char -> Prop
  | last {r : Char} (keeps : keepsRune r = true) : Slug [r]
  | next {r : Char} {rest : List Char} (keeps : keepsRune r = true) (slug : Slug rest) :
      Slug (r :: rest)
  | dashed {r : Char} {rest : List Char} (keeps : keepsRune r = true) (slug : Slug rest) :
      Slug (r :: '-' :: rest)

theorem Slug.ne_nil {runes : List Char} (slug : Slug runes) : runes ≠ [] := by
  cases slug <;> exact List.cons_ne_nil _ _

theorem Slug.mem {runes : List Char} (slug : Slug runes) {r : Char} (member : r ∈ runes) :
    keepsRune r = true ∨ r = '-' := by
  induction slug with
  | last keeps =>
      rw [List.mem_singleton.mp member]
      exact Or.inl keeps
  | next keeps _ ih =>
      rcases List.mem_cons.mp member with rfl | later
      · exact Or.inl keeps
      · exact ih later
  | dashed keeps _ ih =>
      rcases List.mem_cons.mp member with rfl | later
      · exact Or.inl keeps
      · rcases List.mem_cons.mp later with dash | rest
        · exact Or.inr dash
        · exact ih rest

theorem ne_dash_of_keeps {r : Char} (keeps : keepsRune r = true) : r ≠ '-' := by
  rintro rfl
  exact absurd keeps (by decide)

/-- A dash goes if nothing is left behind it. -/
theorem trimDashes_cons (r : Char) (rest : List Char) :
    trimDashes (r :: rest) =
      if trimDashes rest = [] ∧ r = '-' then [] else r :: trimDashes rest := by
  unfold trimDashes
  rw [List.reverse_cons, List.dropWhile_append]
  cases trimmed : rest.reverse.dropWhile (· == '-') with
  | nil => by_cases dash : r = '-' <;> simp [dash]
  | cons head tail => simp

theorem trimDashes_keeps {r : Char} (keeps : keepsRune r = true) (rest : List Char) :
    trimDashes (r :: rest) = r :: trimDashes rest := by
  rw [trimDashes_cons, if_neg fun both => ne_dash_of_keeps keeps both.2]

/-- What the loop writes, without the dashes at its end, is a slug or nothing; behind a rune that
was kept a dash may stand in front. -/
theorem slug_trimDashes (runes : List Char) :
    (trimDashes (slugRunes true runes) = [] ∨ Slug (trimDashes (slugRunes true runes))) ∧
      (trimDashes (slugRunes false runes) = [] ∨ Slug (trimDashes (slugRunes false runes)) ∨
        Exists fun rest => trimDashes (slugRunes false runes) = '-' :: rest ∧ Slug rest) := by
  induction runes with
  | nil => exact ⟨Or.inl rfl, Or.inl rfl⟩
  | cons r rest ih =>
      by_cases keeps : keepsRune r = true
      · have slug : Slug (trimDashes (r :: slugRunes false rest)) := by
          rw [trimDashes_keeps keeps]
          rcases ih.2 with empty | slug | ⟨tail, dashed, slug⟩
          · rw [empty]
            exact .last keeps
          · exact .next keeps slug
          · rw [dashed]
            exact .dashed keeps slug
        simp only [slugRunes, if_pos keeps]
        exact ⟨Or.inr slug, Or.inr (Or.inl slug)⟩
      · simp only [slugRunes, if_neg keeps, if_true, Bool.false_eq_true, if_false]
        refine ⟨ih.1, ?_⟩
        rw [trimDashes_cons]
        rcases ih.1 with empty | slug
        · rw [if_pos ⟨empty, rfl⟩]
          exact Or.inl rfl
        · rw [if_neg fun both => slug.ne_nil both.1]
          exact Or.inr (Or.inr ⟨_, rfl, slug⟩)

theorem slug_slugifyName (name : String) : Slug (slugifyName name).toList := by
  unfold slugifyName slugOf
  split
  · exact .next (by decide) (.next (by decide) (.next (by decide) (.next (by decide)
      (.next (by decide) (.last (by decide))))))
  · rename_i filled
    rw [String.toList_ofList]
    exact (slug_trimDashes _).1.resolve_left filled

/-- The loop copies a slug. -/
theorem Slug.slugRunes {runes : List Char} (slug : Slug runes) :
    forall prevDash, Snapshots.slugRunes prevDash runes = runes := by
  induction slug with
  | last keeps => simp [Snapshots.slugRunes, keeps]
  | next keeps _ ih => simp [Snapshots.slugRunes, keeps, ih]
  | dashed keeps _ ih =>
      have dash : keepsRune '-' = false := by decide
      simp [Snapshots.slugRunes, keeps, dash, ih]

theorem Slug.trimDashes {runes : List Char} (slug : Slug runes) :
    Snapshots.trimDashes runes = runes := by
  induction slug with
  | last keeps => exact trimDashes_keeps keeps []
  | next keeps _ ih => rw [trimDashes_keeps keeps, ih]
  | dashed keeps slug ih =>
      rw [trimDashes_keeps keeps, trimDashes_cons, ih, if_neg fun both => slug.ne_nil both.1]

/-- Nothing of a slug is a space or a capital letter. -/
theorem slug_rune {r : Char} (kept : keepsRune r = true ∨ r = '-') :
    isSpace r = false ∧ lowerRune r = r := by
  rcases kept with keeps | rfl
  · have ascii : r.toNat < 128 := by
      simp only [keepsRune, Bool.or_eq_true, Bool.and_eq_true, decide_eq_true_eq] at keeps
      rcases keeps with ⟨_, high⟩ | ⟨_, high⟩
      · exact Nat.lt_of_le_of_lt (show r.toNat ≤ 122 from high) (by decide)
      · exact Nat.lt_of_le_of_lt (show r.toNat ≤ 57 from high) (by decide)
    have all : forall number : Fin 128, keepsRune (Char.ofNat number) = true ->
        isSpace (Char.ofNat number) = false ∧
          lowerRune (Char.ofNat number) = Char.ofNat number := by decide
    have here := all ⟨r.toNat, ascii⟩
    rw [Char.ofNat_toNat] at here
    exact here keeps
  · exact ⟨by decide, by decide⟩

theorem trimSpace_of_slug {name : String} (slug : Slug name.toList) : trimSpace name = name := by
  have front : name.toList.dropWhile isSpace = name.toList := by
    apply List.dropWhile_eq_self_iff.mpr
    intro filled
    rw [(slug_rune (slug.mem (List.getElem_mem filled))).1]
    exact Bool.false_ne_true
  have back : name.toList.reverse.dropWhile isSpace = name.toList.reverse := by
    apply List.dropWhile_eq_self_iff.mpr
    intro filled
    rw [(slug_rune (slug.mem (List.mem_reverse.mp (List.getElem_mem filled)))).1]
    exact Bool.false_ne_true
  rw [trimSpace, front, back, List.reverse_reverse, String.ofList_toList]

/-- A slug is its own slug. -/
theorem slugifyName_of_slug {name : String} (slug : Slug name.toList) : slugifyName name = name := by
  have lower : name.toList.map lowerRune = name.toList := by
    refine (List.map_congr_left fun r member => ?_).trans (List.map_id _)
    exact (slug_rune (slug.mem member)).2
  rw [slugifyName, trimSpace_of_slug slug, lower, slug.slugRunes, slug.trimDashes, slugOf,
    if_neg slug.ne_nil, String.ofList_toList]

theorem slash_not_mem_slug {runes : List Char} (slug : Slug runes) : '/' ∉ runes := by
  intro member
  exact absurd (slug.mem member) (by decide)

/-! ## Timestamps -/

theorem timestampLayout_positive (width : Nat) (listed : .number width ∈ timestampLayout) :
    0 < width := by
  simp only [timestampLayout, monthLayout, List.mem_cons, Piece.number.injEq, reduceCtorEq,
    false_or, List.not_mem_nil, or_false] at listed
  omega

/-- The fields of a timestamp with a year of four digits, the year first. -/
def timestampFields (t : Int) : List Nat :=
  (Calendar.date (dayOf t)).year.toNat :: monthFields t

theorem timestampFields_fit {t : Int} (year : FourDigitYear t) :
    Fits timestampLayout (timestampFields t) :=
  ⟨by decide, by have := year.2; omega, monthFields_fit t⟩

theorem formatTimestamp_toList {t : Int} (year : FourDigitYear t) :
    (formatTimestamp t).toList = render timestampLayout (timestampFields t) := by
  rw [formatTimestamp, String.toList_ofList, renderYear, if_pos year.1]
  rfl

theorem dayOf_dateTime {date : Calendar.Date} {hour minute sec : Nat}
    (range : timeInRange date hour minute sec = true) :
    dayOf (dateTime date hour minute sec) = Calendar.dayNumber date := by
  simp only [timeInRange, Bool.and_eq_true, decide_eq_true_eq] at range
  unfold dayOf dateTime second
  omega

/-- The parts of a time that was put together. -/
theorem timestampFields_dateTime {year month day hour minute sec : Nat}
    (range : timeInRange ⟨year, month, day⟩ hour minute sec = true) :
    timestampFields (dateTime ⟨year, month, day⟩ hour minute sec) =
      [year, month, day, hour, minute, sec] := by
  have onDay := dayOf_dateTime range
  simp only [timeInRange, Bool.and_eq_true, decide_eq_true_eq] at range
  rcases range with ⟨⟨⟨valid, hours⟩, minutes⟩, seconds⟩
  have clock : clockOf (dateTime ⟨year, month, day⟩ hour minute sec) =
      3600 * hour + 60 * minute + sec := by
    unfold clockOf dateTime second
    omega
  rw [timestampFields, monthFields, onDay, Calendar.date_dayNumber valid, clock]
  simp only [Int.toNat_natCast, List.cons.injEq, true_and, and_true]
  omega

/-- What is read as a timestamp is the timestamp of what is read. -/
theorem formatTimestamp_of_parse {s : List Char} {t : Int} (read : parseTimestamp s = some t) :
    wholeSecond t = t ∧ FourDigitYear t ∧ (formatTimestamp t).toList = s := by
  unfold parseTimestamp at read
  split at read
  · rename_i year month day hour minute sec fields
    split at read
    · rename_i range
      cases Option.some.inj read
      rcases render_of_parse timestampLayout timestampLayout_positive fields with ⟨fits, rendered⟩
      have small : year < 10 ^ 4 := fits.2.1
      have valid : Calendar.Date.Valid ⟨year, month, day⟩ := by
        simp only [timeInRange, Bool.and_eq_true, decide_eq_true_eq] at range
        exact range.1.1.1
      have fourDigits : FourDigitYear (dateTime ⟨year, month, day⟩ hour minute sec) := by
        rw [FourDigitYear, dayOf_dateTime range, Calendar.date_dayNumber valid]
        simp only
        omega
      refine ⟨?_, fourDigits, ?_⟩
      · unfold wholeSecond dateTime second
        omega
      · rw [formatTimestamp_toList fourDigits, timestampFields_dateTime range, rendered]
    · cases read
  · cases read

/-! ## Order -/

/-- A time of day is ordered like its hour, minute and second. -/
private theorem clock_lt_iff (now soon : Int) : now < soon ↔
    now / 3600 < soon / 3600 ∨ now / 3600 = soon / 3600 ∧
      (now / 60 % 60 < soon / 60 % 60 ∨ now / 60 % 60 = soon / 60 % 60 ∧
        now % 60 < soon % 60) := by
  omega

/-- Lists of natural numbers that stand for whole numbers are compared field by field. -/
private theorem toNat_cons_lt_iff {head otherHead : Int} (rest otherRest : List Nat)
    (nonneg : 0 ≤ head) (otherNonneg : 0 ≤ otherHead) :
    head.toNat :: rest < otherHead.toNat :: otherRest ↔
      head < otherHead ∨ head = otherHead ∧ rest < otherRest := by
  rw [List.cons_lt_cons_iff]
  have less : head.toNat < otherHead.toNat ↔ head < otherHead := by omega
  have equal : head.toNat = otherHead.toNat ↔ head = otherHead := by omega
  rw [less, equal]

/-- Dates are equal field by field. -/
private theorem date_eq_iff (first other : Calendar.Date) : first = other ↔
    first.year = other.year ∧ first.month = other.month ∧ first.day = other.day := by
  cases first
  cases other
  simp only [Calendar.Date.mk.injEq]

/-- The fields of two timestamps are ordered like their whole seconds. -/
theorem timestampFields_lt_iff {t later : Int} (year : FourDigitYear t)
    (laterYear : FourDigitYear later) :
    timestampFields t < timestampFields later ↔ wholeSecond t < wholeSecond later := by
  have date := Calendar.date_valid (dayOf t)
  have laterDate := Calendar.date_valid (dayOf later)
  have days : (Calendar.date (dayOf t)).Before (Calendar.date (dayOf later)) ↔
      dayOf t < dayOf later := Calendar.before_iff _ _
  have sameDay : Calendar.date (dayOf t) = Calendar.date (dayOf later) ↔ dayOf t = dayOf later :=
    Calendar.date_inj
  have clock : 0 ≤ clockOf t := by
    unfold clockOf
    omega
  have laterClock : 0 ≤ clockOf later := by
    unfold clockOf
    omega
  have order : wholeSecond t < wholeSecond later ↔
      dayOf t < dayOf later ∨ dayOf t = dayOf later ∧ clockOf t < clockOf later := by
    unfold wholeSecond dayOf clockOf second
    omega
  rw [order, ← days, ← sameDay, clock_lt_iff]
  unfold timestampFields monthFields
  rcases date with ⟨month, _, day, _⟩
  rcases laterDate with ⟨laterMonth, _, laterDay, _⟩
  rw [toNat_cons_lt_iff _ _ year.1 laterYear.1,
    toNat_cons_lt_iff _ _ (by omega) (by omega), toNat_cons_lt_iff _ _ (by omega) (by omega),
    toNat_cons_lt_iff _ _ (by omega) (by omega), toNat_cons_lt_iff _ _ (by omega) (by omega),
    toNat_cons_lt_iff _ _ (by omega) (by omega), Calendar.Date.Before, date_eq_iff]
  simp only [List.lt_irrefl, and_false, or_false, and_or_left, and_assoc, or_assoc]

theorem formatTimestamp_lt_iff {t later : Int} (year : FourDigitYear t)
    (laterYear : FourDigitYear later) :
    (formatTimestamp t).toList < (formatTimestamp later).toList ↔
      wholeSecond t < wholeSecond later := by
  rw [formatTimestamp_toList year, formatTimestamp_toList laterYear,
    render_lt_iff timestampLayout (timestampFields_fit year) (timestampFields_fit laterYear),
    timestampFields_lt_iff year laterYear]

/-- The names of one backup's snapshots are ordered like their whole seconds. -/
theorem snapshotPrefix_lt_iff (name : String) {t later : Int} (year : FourDigitYear t)
    (laterYear : FourDigitYear later) :
    snapshotPrefix name t < snapshotPrefix name later ↔ wholeSecond t < wholeSecond later := by
  have length : (formatTimestamp t).toList.length = (formatTimestamp later).toList.length := by
    rw [formatTimestamp_toList year, formatTimestamp_toList laterYear]
    exact length_render timestampLayout (timestampFields_fit year) (timestampFields_fit laterYear)
  rw [String.lt_iff_toList_lt, snapshotPrefix, snapshotPrefix]
  simp only [String.toList_append, List.append_assoc]
  rw [append_lt_append_iff rfl, append_lt_append_iff rfl, append_lt_append_iff length,
    formatTimestamp_lt_iff year laterYear]
  simp

/-- A path that is read as a snapshot ends in the timestamp of what is read. -/
theorem formatTimestamp_of_parseSnapshotTimestamp {s : String} {t : Int}
    (read : parseSnapshotTimestamp s = some t) :
    wholeSecond t = t ∧ FourDigitYear t ∧
      (formatTimestamp t).toList = lastSegment (trimSuffix s "/").toList :=
  formatTimestamp_of_parse read

/-! ## The round trip -/

/-- A snapshot's path is read back to the second, and nothing is read that is not the timestamp of
what is read.  A slug has no slash, is not empty and is its own slug, and the paths of one backup
are ordered like the seconds they were named at. -/
theorem snapshot_names_round_trip (name : String) :
    (forall t, FourDigitYear t ->
      parseSnapshotTimestamp (snapshotPrefix name t) = some (wholeSecond t)) ∧
    (forall s t, parseSnapshotTimestamp s = some t ->
      wholeSecond t = t ∧ FourDigitYear t ∧
        (formatTimestamp t).toList = lastSegment (trimSuffix s "/").toList) ∧
    ('/' ∉ (slugifyName name).toList ∧ slugifyName name ≠ "" ∧
      slugifyName (slugifyName name) = slugifyName name) ∧
    (forall t later, FourDigitYear t -> FourDigitYear later ->
      (snapshotPrefix name t < snapshotPrefix name later ↔
        wholeSecond t < wholeSecond later)) := by
  have slug := slug_slugifyName name
  refine ⟨fun t year => ?_, fun s t => formatTimestamp_of_parseSnapshotTimestamp,
    ⟨slash_not_mem_slug slug, fun empty => slug.ne_nil ?_, slugifyName_of_slug slug⟩,
    fun t later => snapshotPrefix_lt_iff name⟩
  · rw [parseSnapshotTimestamp_folder, parseTimestamp_format year]
  · rw [empty]
    rfl

/-- The third of March of the year 2026, one second after midnight and some. -/
def marchNight : Int := dateTime ⟨2026, 3, 3⟩ 0 0 1 + 5

theorem snapshot_names_round_trip_march :
    parseSnapshotTimestamp (snapshotPrefix "Photos & Films" marchNight) =
        some (wholeSecond marchNight) ∧
      snapshotPrefix "Photos & Films" marchNight = "photos-films/2026-03-03_00:00:01/" :=
  ⟨(snapshot_names_round_trip "Photos & Films").1 marchNight (by decide), by decide +kernel⟩

end Snapshots
end Basement
