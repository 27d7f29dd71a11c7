import Basement.Frontend.BulkKeyTables

namespace Basement
namespace Frontend
namespace BulkKeys

open Library.TrimmedText

/-!
# Reading the files back

A credentials file is read section by section, and a table row by row.  Whether all rows of a file
come back, whatever its comments say and however its lines end, depends on the names of the
sections, on the first cells of the rows and on the comments with a semicolon only.
-/

/-! ## Credentials files -/

theorem sectionName_eq_some_iff {line name : Text} :
    sectionName line = some name ↔ line = '[' :: (name ++ [']']) ∧ name ≠ [] ∧ ']' ∉ name := by
  have taken : forall name : Text, ']' ∉ name ->
      (name ++ [']']).takeWhile (fun c => c ≠ ']') = name := by
    intro name plain
    have passes : forall c, c ∈ name -> decide (c ≠ ']') = true :=
      fun c member => decide_eq_true (ne_of_mem_of_not_mem member plain)
    rw [List.takeWhile_append_of_pos passes]
    exact List.append_nil name
  simp only [sectionName]
  constructor
  · intro found
    split at found
    · rename_i filled
      cases found
      refine ⟨filled.2, filled.1, fun member => ?_⟩
      have passes := List.mem_takeWhile_imp member
      revert passes
      decide
    · cases found
  · rintro ⟨rfl, some, plain⟩
    rw [List.tail_cons, taken name plain, if_pos ⟨some, rfl⟩]

def SectionNamed (row : KeyRow) : Prop := row.aliasName ≠ [] ∧ ']' ∉ row.aliasName

instance (row : KeyRow) : Decidable (SectionNamed row) := inferInstanceAs (Decidable (_ ∧ _))

theorem sectionName_isSome_iff (row : KeyRow) :
    (sectionName ('[' :: (row.aliasName ++ [']']))).isSome = true ↔ SectionNamed row := by
  rw [Option.isSome_iff_exists]
  constructor
  · rintro ⟨name, found⟩
    have parts := sectionName_eq_some_iff.mp found
    have same := (List.append_left_inj _).mp (List.cons.inj parts.1).2
    rw [SectionNamed, same]
    exact parts.2
  · intro named
    exact ⟨row.aliasName, sectionName_eq_some_iff.mpr ⟨rfl, named⟩⟩

/-- A line that begins like a name opens no section. -/
theorem sectionName_of_isNameChar {c : Char} (isName : isNameChar c = true) (rest : Text) :
    sectionName (c :: rest) = none := by
  refine Option.eq_none_iff_forall_ne_some.mpr fun name found => ?_
  rw [(List.cons.inj (sectionName_eq_some_iff.mp found).1).1] at isName
  revert isName
  decide

/-- A section that is recognized begins a row. -/
theorem length_step (s : AwsState) (line : Text) :
    (s.step line).flush.length =
      s.flush.length + if (sectionName line).isSome = true then 1 else 0 := by
  unfold AwsState.step
  cases sectionName line with
  | some name => simp [AwsState.flush, Nat.add_assoc]
  | none =>
      rcases s with ⟨out, current⟩
      cases current with
      | none => rfl
      | some current =>
          cases keyValue line with
          | none => rfl
          | some pair =>
              cases found : awsField pair.1 <;> simp [AwsState.flush, found]

theorem length_foldl_step (lines : List Text) (s : AwsState) :
    (lines.foldl AwsState.step s).flush.length =
      s.flush.length + lines.countP fun line => (sectionName line).isSome := by
  induction lines generalizing s with
  | nil => rfl
  | cons line lines ih =>
      rw [List.foldl_cons, ih, length_step, List.countP_cons, Nat.add_assoc]
      exact congrArg (_ + ·) (Nat.add_comm _ _)

section keys

variable {row : KeyRow} {column : Column} (named : awsField column.name = some column.field)
  (trimmed : Trimmed isBlank (row.cell column.field))
include named

theorem exists_trim_keyLine : Exists fun c => Exists fun rest =>
    trim isBlank (keyLine row column) = c :: rest ∧ isNameChar c = true := by
  rcases (isName_of_key named).exists_cons with ⟨c, rest, same, isName⟩
  have head := head?_trim (isBlank_of_isNameChar isName)
    (rest ++ ' ' :: '=' :: ' ' :: row.cell column.field)
  rcases List.head?_eq_some_iff.mp head with ⟨tail, whole⟩
  refine ⟨c, tail, ?_, isName⟩
  rw [keyLine, same, List.cons_append, whole]

theorem sectionName_keyLine : sectionName (trim isBlank (keyLine row column)) = none := by
  rcases exists_trim_keyLine named with ⟨c, rest, same, isName⟩
  rw [same, sectionName_of_isNameChar isName]

theorem significant_keyLine : Significant ['#', ';'] (trim isBlank (keyLine row column)) := by
  rcases exists_trim_keyLine named with ⟨c, rest, same, isName⟩
  exact (significant_iff_of_head? (congrArg List.head? same)).mpr
    (notMem_of_isNameChar (by decide) isName)

include trimmed

theorem keyValue_keyLine :
    keyValue (trim isBlank (keyLine row column)) = some (column.name, row.cell column.field) := by
  have isName := isName_of_key named
  have first : forall c, (column.name ++ [' ']).head? = some c -> isBlank c = false := by
    intro c head
    rcases isName.exists_cons with ⟨d, rest, same, isNameChar⟩
    rw [same] at head
    exact Option.some.inj head ▸ isBlank_of_isNameChar isNameChar
  have noEquals : forall c, c ∈ column.name ++ [' '] -> decide (c ≠ '=') = true := by
    intro c member
    refine decide_eq_true fun same => ?_
    rcases List.mem_append.mp member with inName | isSpace
    · exact isName.notMem (by decide) (same ▸ inName)
    · rw [List.mem_singleton.mp isSpace] at same
      revert same
      decide
  have line : trim isBlank (keyLine row column) =
      (column.name ++ [' ']) ++ '=' :: (' ' :: row.cell column.field).rdropWhile isBlank := by
    rw [keyLine, List.append_cons, trim_append_cons first (by decide)]
  have value : trim isBlank ((' ' :: row.cell column.field).rdropWhile isBlank) =
      row.cell column.field := by
    rw [trim_rdropWhile, ← List.singleton_append, trim_blanks_append (by simp [blanks, isBlank]), trimmed]
  have key : trim isBlank (column.name ++ [' ']) = column.name := by
    rw [trim_concat (by decide), isName.trimmed]
  rw [keyValue, line, List.dropWhile_append_of_pos noEquals, List.takeWhile_append_of_pos noEquals]
  simp [value, key]

theorem step_keyLine (out : List Assignments) (current : Assignments) :
    AwsState.step ⟨out, some current⟩ (trim isBlank (keyLine row column)) =
      ⟨out, some (current ++ [(column.field, row.cell column.field)])⟩ := by
  simp only [AwsState.step, sectionName_keyLine named, keyValue_keyLine named trimmed, named]

end keys

section profiles

variable {columns : List Column} {rows : List KeyRow}

theorem foldl_keyLines {row : KeyRow} (out : List Assignments) (current : Assignments)
    (named : forall column, column ∈ columns -> awsField column.name = some column.field)
    (trimmed : forall field, Trimmed isBlank (row.cell field)) :
    ((columns.map (keyLine row)).map (trim isBlank)).foldl AwsState.step ⟨out, some current⟩ =
      ⟨out, some (current ++ row.inOrder (columns.map Column.field))⟩ := by
  induction columns generalizing current with
  | nil => simp [KeyRow.inOrder]
  | cons column columns ih =>
      rw [List.map_cons, List.map_cons, List.foldl_cons,
        step_keyLine (named column List.mem_cons_self) (trimmed _),
        ih _ fun column member => named column (List.mem_cons_of_mem _ member), List.append_assoc]
      rfl

theorem trim_section (row : KeyRow) :
    trim isBlank ('[' :: (row.aliasName ++ [']'])) = '[' :: (row.aliasName ++ [']']) := by
  apply trimmed_of_ends
  · intro c head
    exact Option.some.inj head ▸ (by decide)
  · intro c ends
    rw [← List.cons_append, List.getLast?_concat] at ends
    exact Option.some.inj ends ▸ (by decide)

theorem foldl_profile {row : KeyRow} (s : AwsState)
    (named : forall column, column ∈ columns -> awsField column.name = some column.field)
    (trimmed : forall field, Trimmed isBlank (row.cell field)) (isNamed : SectionNamed row) :
    ((profile columns row).map (trim isBlank)).foldl AwsState.step s =
      ⟨s.flush, some (row.inOrder (.aliasName :: columns.map Column.field))⟩ := by
  have opened : AwsState.step s ('[' :: (row.aliasName ++ [']'])) =
      ⟨s.flush, some [(.aliasName, row.aliasName)]⟩ := by
    simp only [AwsState.step, sectionName_eq_some_iff.mpr ⟨rfl, isNamed⟩,
      show trim isBlank row.aliasName = row.aliasName from trimmed .aliasName]
  rw [profile, List.map_cons, List.foldl_cons, trim_section, opened,
    foldl_keyLines _ _ named trimmed]
  rfl

theorem flush_foldl_profiles (s : AwsState)
    (named : forall column, column ∈ columns -> awsField column.name = some column.field)
    (trimmed : forall row, row ∈ rows -> forall field, Trimmed isBlank (row.cell field))
    (isNamed : forall row, row ∈ rows -> SectionNamed row) :
    (((rows.flatMap (profile columns)).map (trim isBlank)).foldl AwsState.step s).flush =
      s.flush ++ rows.map fun row => row.inOrder (.aliasName :: columns.map Column.field) := by
  induction rows generalizing s with
  | nil => exact (List.append_nil _).symm
  | cons row rows ih =>
      rw [List.flatMap_cons, List.map_append, List.foldl_append,
        foldl_profile s named (trimmed row List.mem_cons_self) (isNamed row List.mem_cons_self),
        ih _ (fun row member => trimmed row (List.mem_cons_of_mem _ member))
          fun row member => isNamed row (List.mem_cons_of_mem _ member)]
      simp [AwsState.flush]

theorem countP_profile (row : KeyRow)
    (named : forall column, column ∈ columns -> awsField column.name = some column.field) :
    ((profile columns row).map (trim isBlank)).countP (fun line => (sectionName line).isSome) =
      if SectionNamed row then 1 else 0 := by
  have none : ((columns.map (keyLine row)).map (trim isBlank)).countP
      (fun line => (sectionName line).isSome) = 0 := by
    refine List.countP_eq_zero.mpr fun line member => ?_
    rw [List.map_map] at member
    rcases List.mem_map.mp member with ⟨column, inColumns, rfl⟩
    rw [Function.comp_apply, sectionName_keyLine (named column inColumns)]
    exact Bool.false_ne_true
  rw [profile, List.map_cons, List.countP_cons, none, trim_section, Nat.zero_add]
  simp only [sectionName_isSome_iff]

theorem countP_profiles (rows : List KeyRow)
    (named : forall column, column ∈ columns -> awsField column.name = some column.field) :
    ((rows.flatMap (profile columns)).map (trim isBlank)).countP
      (fun line => (sectionName line).isSome) = rows.countP fun row => SectionNamed row := by
  induction rows with
  | nil => rfl
  | cons row rows ih =>
      rw [List.flatMap_cons, List.map_append, List.countP_append, ih, countP_profile row named,
        List.countP_cons, Nat.add_comm]
      simp only [decide_eq_true_eq]

variable (fits : FitsProfiles columns rows)
include fits

theorem FitsProfiles.newline_notMem {text : Text}
    (member : text ∈ rows.flatMap (profile columns)) : '\n' ∉ text := by
  rcases List.mem_flatMap.mp member with ⟨row, inRows, inProfile⟩
  have plain : forall field, '\n' ∉ row.cell field := fun field => (fits.plain row inRows field).2
  rcases List.mem_cons.mp inProfile with rfl | isKey
  · have plainName : '\n' ∉ row.aliasName := plain .aliasName
    simpa using plainName
  · rcases List.mem_map.mp isKey with ⟨column, inColumns, rfl⟩
    have name := (isName_of_key (fits.named column inColumns)).notMem
      (show isNameChar '\n' = false by decide)
    simpa [keyLine] using ⟨name, plain column.field⟩

theorem FitsProfiles.all (field : Field) : field ∈ Field.aliasName :: columns.map Column.field := by
  rw [List.mem_cons, fits.order.mem_iff]
  cases field <;> decide

variable {layout : List (Mark ⊕ Text)}
  (lined : layout.filterMap Sum.getRight? = rows.flatMap (profile columns)) (ending : Ending)
  {lines : List Line} (shaped : lines.map Line.shape = layout)
  (single : forall line, line ∈ lines -> '\n' ∉ line.text)
include lined shaped single

/-- All lines of the profiles are seen. -/
theorem FitsProfiles.significantLines_written :
    significantLines ['#', ';'] (written ending lines) =
      (rows.flatMap (profile columns)).map (trim isBlank) := by
  rw [significantLines_contents (by decide) ending single fun _ => by decide, shaped, lined]
  refine List.filter_eq_self.mpr fun line member => ?_
  rcases List.mem_map.mp member with ⟨text, inProfiles, rfl⟩
  rcases List.mem_flatMap.mp inProfiles with ⟨row, _, inProfile⟩
  refine decide_eq_true ?_
  rcases List.mem_cons.mp inProfile with rfl | isKey
  · rw [trim_section]
    exact (significant_iff_of_head? rfl).mpr (by decide)
  · rcases List.mem_map.mp isKey with ⟨column, inColumns, rfl⟩
    exact significant_keyLine (fits.named column inColumns)

theorem FitsProfiles.assigned (isNamed : forall row, row ∈ rows -> SectionNamed row) :
    parseAwsCredentials (written ending lines) =
      rows.map fun row => row.inOrder (.aliasName :: columns.map Column.field) := by
  rw [parseAwsCredentials, fits.significantLines_written lined ending shaped single]
  exact flush_foldl_profiles _ fits.named (fun row member field => (fits.plain row member field).1)
    isNamed

/-- If as many rows come back as there are, all sections have names. -/
theorem FitsProfiles.isNamed
    (count : (parseAwsCredentials (written ending lines)).length = rows.length) :
    forall row, row ∈ rows -> SectionNamed row := by
  rw [parseAwsCredentials, fits.significantLines_written lined ending shaped single,
    length_foldl_step, countP_profiles rows fits.named] at count
  intro row member
  exact of_decide_eq_true (List.countP_eq_length.mp ((Nat.zero_add _).symm.trans count) row member)

end profiles

/-! ## Detection -/

/-- The first line of a table names its columns. -/
theorem FitsTable.exists_significantLines {delimiter : Char} {columns : List Column}
    {rows : List KeyRow} (fits : FitsTable delimiter columns rows) {layout : List (Mark ⊕ Text)}
    (lined : layout.filterMap Sum.getRight? =
      headerLine delimiter columns :: rows.map (rowLine delimiter columns))
    (ending : Ending) {lines : List Line} (shaped : lines.map Line.shape = layout)
    (single : forall line, line ∈ lines -> '\n' ∉ line.text) :
    Exists fun rest => significantLines ['#', ';'] (written ending lines) =
      headerLine delimiter columns :: rest := by
  have seen : Significant ['#', ';'] (headerLine delimiter columns) :=
    fits.significant_header (by decide)
  rw [significantLines_contents (by decide) ending single fun _ => by decide, shaped, lined,
    List.map_cons, fits.trimmed_header, List.filter_cons_of_pos (by simpa using seen)]
  exact ⟨_, rfl⟩

theorem FitsTable.mem_header {delimiter : Char} {columns : List Column} {rows : List KeyRow}
    (fits : FitsTable delimiter columns rows) {c : Char} (other : isNameChar c = false) :
    c ∈ headerLine delimiter columns ↔ c = delimiter := by
  constructor
  · intro member
    rcases mem_join delimiter member with same | ⟨name, inNames, inName⟩
    · exact same
    · exact absurd inName ((fits.isName inNames).notMem other)
  · rintro rfl
    rcases fits.exists_columns with ⟨first, second, rest, rfl⟩
    rw [headerLine, List.map_cons, List.map_cons, join_cons_cons]
    exact List.mem_append_right _ List.mem_cons_self

theorem FitsTable.sectionName_header {delimiter : Char} {columns : List Column}
    {rows : List KeyRow} (fits : FitsTable delimiter columns rows) :
    sectionName (headerLine delimiter columns) = none := by
  rcases fits.exists_header with ⟨c, rest, same, isName⟩
  rw [same, sectionName_of_isNameChar isName]

/-- The format is detected, except that of a file without lines. -/
theorem detectFormat_written {format : BulkKeyFormat} {columns : List Column} {rows : List KeyRow}
    (fits : Fits format columns rows) {layout : List (Mark ⊕ Text)}
    (lined : layout.filterMap Sum.getRight? = contents format columns rows)
    (named : format = .awsCredentials -> forall row, row ∈ rows -> SectionNamed row)
    (ending : Ending) {lines : List Line} (shaped : lines.map Line.shape = layout)
    (single : forall line, line ∈ lines -> '\n' ∉ line.text) :
    detectFormat (written ending lines) = format ∨ format = .awsCredentials ∧ rows = [] ∧
      detectFormat (written ending lines) = .unknown := by
  cases format with
  | awsCredentials =>
      have seen := FitsProfiles.significantLines_written fits lined ending shaped single
      cases rows with
      | nil => exact Or.inr ⟨rfl, rfl, by rw [detectFormat, seen]; rfl⟩
      | cons row rows =>
          have isSome := (sectionName_isSome_iff row).mpr (named rfl row List.mem_cons_self)
          refine Or.inl ?_
          rw [detectFormat, seen, List.flatMap_cons, profile, List.cons_append, List.map_cons,
            trim_section]
          exact if_pos isSome
  | csv =>
      rcases FitsTable.exists_significantLines fits lined ending shaped single with ⟨rest, seen⟩
      have fits : FitsTable ',' columns rows := fits
      refine Or.inl ?_
      simp only [detectFormat, seen, fits.sectionName_header,
        fits.mem_header (show isNameChar '\t' = false by decide),
        fits.mem_header (show isNameChar ',' = false by decide)]
      rfl
  | tsv =>
      rcases FitsTable.exists_significantLines fits lined ending shaped single with ⟨rest, seen⟩
      have fits : FitsTable '\t' columns rows := fits
      refine Or.inl ?_
      simp only [detectFormat, seen, fits.sectionName_header,
        fits.mem_header (show isNameChar '\t' = false by decide)]
      rfl
  | unknown => exact fits.elim

/-! ## Reading back -/

/-- The properties in the order in which a row of the file has them. -/
def fieldOrder (format : BulkKeyFormat) (columns : List Column) : List Field :=
  if format = .awsCredentials then .aliasName :: columns.map Column.field
  else columns.map Column.field

/-- An empty region is the default one. -/
def KeyRow.withRegion (row : KeyRow) : KeyRow :=
  { row with region := if row.region = [] then "us-east-1".toList else row.region }

/-- Whatever the comments say, however the lines end, and whether the format is forced or detected,
the rows come back in their order, and each cell is assigned to its own property. -/
def ReadsBack (isFullURL : Text -> Bool) (format : BulkKeyFormat) (columns : List Column)
    (rows : List KeyRow) (layout : List (Mark ⊕ Text)) : Prop :=
  forall (ending : Ending) (lines : List Line) (forceFormat : Option BulkKeyFormat),
    lines.map Line.shape = layout -> (forall line, line ∈ lines -> '\n' ∉ line.text) ->
    forceFormat = none ∨ forceFormat = some format ->
      let parsed := parseBulkKeys isFullURL (written ending lines) forceFormat
      parsed.2.map ParsedKeyRow.toKeyRow = rows.map KeyRow.withRegion ∧
        assignments (written ending lines) parsed.1 =
          rows.map fun row => row.inOrder (fieldOrder format columns)

/-- The row is seen, and its cells do not move. -/
def Readable : BulkKeyFormat -> List Column -> KeyRow -> Prop
  | .awsCredentials, _, row => row.aliasName ≠ [] ∧ ']' ∉ row.aliasName
  | .csv, columns, row => (firstCell columns row).head? ≠ some '#'
  | .tsv, columns, row => (firstCell columns row).head? ≠ some '#' ∧ firstCell columns row ≠ []
  | .unknown, _, _ => True

/-- All rows are readable, and only a credentials file has comments with a semicolon. -/
def Clear (format : BulkKeyFormat) (columns : List Column) (rows : List KeyRow)
    (layout : List (Mark ⊕ Text)) : Prop :=
  (forall row, row ∈ rows -> Readable format columns row) ∧
    (format = .awsCredentials ∨ .inl .semicolon ∉ layout)

theorem Fits.all {format : BulkKeyFormat} {columns : List Column} {rows : List KeyRow}
    (fits : Fits format columns rows) (field : Field) : field ∈ fieldOrder format columns := by
  cases format with
  | awsCredentials => exact FitsProfiles.all fits field
  | csv => exact FitsTable.all fits field
  | tsv => exact FitsTable.all fits field
  | unknown => exact fits.elim

theorem Fits.newline_notMem {format : BulkKeyFormat} {columns : List Column} {rows : List KeyRow}
    (fits : Fits format columns rows) {text : Text}
    (member : text ∈ contents format columns rows) : '\n' ∉ text := by
  cases format with
  | awsCredentials => exact FitsProfiles.newline_notMem fits member
  | csv => exact FitsTable.newline_notMem fits (Or.inl rfl) member
  | tsv => exact FitsTable.newline_notMem fits (Or.inr rfl) member
  | unknown => exact fits.elim

section files

variable {format : BulkKeyFormat} {columns : List Column} {rows : List KeyRow}
  (fits : Fits format columns rows) {layout : List (Mark ⊕ Text)}
  (lined : layout.filterMap Sum.getRight? = contents format columns rows)
include fits lined

/-- A clear file is read as it was written. -/
theorem assignments_of_clear (clear : Clear format columns rows layout) (ending : Ending)
    {lines : List Line} (shaped : lines.map Line.shape = layout)
    (single : forall line, line ∈ lines -> '\n' ∉ line.text) :
    assignments (written ending lines) format =
      rows.map fun row => row.inOrder (fieldOrder format columns) := by
  rcases clear with ⟨readable, semicolons⟩
  cases format with
  | awsCredentials => exact FitsProfiles.assigned fits lined ending shaped single readable
  | csv =>
      rcases semicolons with other | semicolons
      · cases other
      · refine FitsTable.assigned fits lined (Or.inl rfl) (fun row member => ?_) semicolons ending
          shaped single
        exact ⟨readable row member, fun same => absurd same (by decide)⟩
  | tsv =>
      rcases semicolons with other | semicolons
      · cases other
      · refine FitsTable.assigned fits lined (Or.inr rfl) (fun row member => ?_) semicolons ending
          shaped single
        exact ⟨(readable row member).1, fun _ => (readable row member).2⟩
  | unknown => exact fits.elim

theorem clear_of_assignments (reads : forall words, '\n' ∉ words ->
    assignments (written .lf (layout.map (fill words))) format =
      rows.map fun row => row.inOrder (fieldOrder format columns)) :
    Clear format columns rows layout := by
  cases format with
  | awsCredentials =>
      have single := newline_notMem_fill List.not_mem_nil fun text member =>
        fits.newline_notMem (lined ▸ member)
      have count := (congrArg List.length (reads [] List.not_mem_nil)).trans (List.length_map _)
      exact ⟨FitsProfiles.isNamed fits lined .lf (shape_fill [] layout) single count, Or.inl rfl⟩
  | csv =>
      have clear := FitsTable.clear fits (Or.inl rfl) lined reads
      exact ⟨fun row member => (clear.1 row member).1, Or.inr clear.2⟩
  | tsv =>
      have clear := FitsTable.clear fits (Or.inr rfl) lined reads
      refine ⟨fun row member => ?_, Or.inr clear.2⟩
      exact ⟨(clear.1 row member).1, (clear.1 row member).2 rfl⟩
  | unknown => exact fits.elim

/-- A written file is read back, whatever its comments say, exactly if it is clear. -/
theorem reads_back_iff (isFullURL : Text -> Bool) :
    ReadsBack isFullURL format columns rows layout ↔ Clear format columns rows layout := by
  constructor
  · intro reads
    refine clear_of_assignments fits lined fun words plain => ?_
    have single := newline_notMem_fill plain fun text member => fits.newline_notMem (lined ▸ member)
    exact (reads .lf _ (some format) (shape_fill words layout) single (Or.inr rfl)).2
  · intro clear ending lines forceFormat shaped single forced
    have read := assignments_of_clear fits lined clear ending shaped single
    have named : format = .awsCredentials -> forall row, row ∈ rows -> SectionNamed row := by
      rintro rfl
      exact clear.1
    have assigned : assignments (written ending lines)
        (forceFormat.getD (detectFormat (written ending lines))) =
          rows.map fun row => row.inOrder (fieldOrder format columns) := by
      rcases forced with rfl | rfl
      · rcases detectFormat_written fits lined named ending shaped single with
          detected | ⟨_, rfl, unknown⟩
        · rw [Option.getD_none, detected, read]
        · rw [Option.getD_none, unknown]
          rfl
      · exact read
    refine ⟨?_, assigned⟩
    rw [parseBulkKeys, assigned, List.map_map, List.map_map]
    refine List.map_congr_left fun row _ => ?_
    rw [Function.comp_apply, Function.comp_apply, rowOf_inOrder row fits.all]
    rfl

end files

/-! ## Two files -/

/-- The columns that the documentation lists, the region first. -/
def regionFirst : List Column :=
  [⟨"region".toList, .region⟩, ⟨"access_key_id".toList, .accessKeyId⟩,
    ⟨"secret_key".toList, .secretKey⟩, ⟨"alias".toList, .aliasName⟩,
    ⟨"endpoint".toList, .endpoint⟩, ⟨"addressing_style".toList, .addressingStyle⟩]

def homeRow : KeyRow :=
  ⟨"home".toList, "https://s3.example.com".toList, "GK1".toList, "secret".toList, [], some .path⟩

theorem fits_homeRow {delimiter : Char} (isDelimiter : IsDelimiter delimiter) :
    FitsTable delimiter regionFirst [homeRow] := by
  constructor
  · decide +kernel
  · decide +kernel
  · intro row member field
    rw [List.mem_singleton.mp member]
    unfold Plain
    cases field <;> decide +kernel
  · intro row member field
    rw [List.mem_singleton.mp member]
    rcases isDelimiter with rfl | rfl <;> cases field <;> decide +kernel

/-- With commas, the empty region before the other cells does no harm. -/
theorem reads_back_iff_home : ReadsBack (fun _ => true) .csv regionFirst [homeRow]
    [.inl .hash, .inr (headerLine ',' regionFirst), .inr (rowLine ',' regionFirst homeRow)] := by
  have fits : Fits .csv regionFirst [homeRow] := fits_homeRow (Or.inl rfl)
  refine (reads_back_iff fits rfl _).mpr ⟨fun row member => ?_, Or.inr (by simp)⟩
  rw [List.mem_singleton.mp member]
  exact Option.some_ne_none _ ∘ Eq.symm

/-- With tabs, the secret is imported as the access key. -/
example : ((parseBulkKeys (fun _ => true)
    (headerLine '\t' regionFirst ++ '\n' :: rowLine '\t' regionFirst homeRow) none).2.map
      fun row => (row.accessKeyId, row.secretKey)) = [("secret".toList, "home".toList)] := by
  decide +kernel

theorem leading_tab_shifts : ¬ forall (isFullURL : Text -> Bool) (format : BulkKeyFormat)
    (columns : List Column) (rows : List KeyRow) (layout : List (Mark ⊕ Text)),
    Fits format columns rows ->
    layout.filterMap Sum.getRight? = contents format columns rows ->
      ReadsBack isFullURL format columns rows layout := by
  intro claimed
  have fits : Fits .tsv regionFirst [homeRow] := fits_homeRow (Or.inr rfl)
  have reads := (claimed (fun _ => true) .tsv regionFirst [homeRow]
    [.inr (headerLine '\t' regionFirst), .inr (rowLine '\t' regionFirst homeRow)] fits rfl .lf
    [.content (headerLine '\t' regionFirst), .content (rowLine '\t' regionFirst homeRow)] none rfl
    (by decide +kernel) (Or.inl rfl)).1
  revert reads
  decide +kernel

end BulkKeys
end Frontend
end Basement
