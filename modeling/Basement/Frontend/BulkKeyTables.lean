import Basement.Frontend.BulkKeyFiles

namespace Basement
namespace Frontend
namespace BulkKeys

open Library.TrimmedText

/-!
# Tables with keys

Each significant line of a table is trimmed before it is taken apart.  With commas this changes
nothing.  With tabs it takes away the empty cells at both ends: those at the end are read as empty
cells again, but without those at the start all others move.

Only the number sign marks a comment here.  A line with a semicolon is the header if it is the
first one, and a row otherwise.
-/

/-! ## One line -/

def IsDelimiter (delimiter : Char) : Prop := delimiter = ',' ∨ delimiter = '\t'

/-- The line that begins with the cell is seen, and keeps the cell. -/
def ReadableCell (delimiter : Char) (cell : Text) : Prop :=
  cell.head? ≠ some '#' ∧ (delimiter = '\t' -> cell ≠ [])

def firstCell (columns : List Column) (row : KeyRow) : Text :=
  (columns.head?.map fun column => row.cell column.field).getD []

section delimiters

variable {delimiter : Char} (isDelimiter : IsDelimiter delimiter)
include isDelimiter

theorem IsDelimiter.notName : isNameChar delimiter = false := by
  rcases isDelimiter with rfl | rfl <;> decide

theorem IsDelimiter.ne_hash : delimiter ≠ '#' := by
  rcases isDelimiter with rfl | rfl <;> decide

theorem IsDelimiter.ne_newline : delimiter ≠ '\n' := by
  rcases isDelimiter with rfl | rfl <;> decide

theorem IsDelimiter.eq_tab (blank : isBlank delimiter = true) : delimiter = '\t' := by
  revert blank
  rcases isDelimiter with rfl | rfl <;> decide

end delimiters

theorem cells_join {delimiter : Char} {values : List Text} (some : values ≠ [])
    (trimmed : forall cell, cell ∈ values -> Trimmed isBlank cell)
    (apart : forall cell, cell ∈ values -> delimiter ∉ cell) :
    cells delimiter (join delimiter values) = values := by
  rw [cells, join, List.splitOn_intercalate _ apart some]
  exact (List.map_congr_left (g := id) trimmed).trans (List.map_id values)

/-- The first cell of a trimmed line begins as the line does. -/
theorem head?_cells {delimiter c : Char} (plain : isBlank c = false) (other : c ≠ delimiter)
    (rest : Text) : ((cells delimiter (c :: rest)).headD []).head? = some c := by
  rw [cells, List.splitOn_cons_eq_if_modifyHead, if_neg (by simpa using other)]
  cases pieces : rest.splitOn delimiter with
  | nil => exact absurd pieces (List.splitOn_ne_nil _ _)
  | cons piece pieces => exact head?_trim plain piece

theorem cells_of_delimiter (delimiter : Char) (rest : Text) :
    (cells delimiter (delimiter :: rest)).headD [] = [] := by
  rw [cells, List.splitOn_cons_eq_if_modifyHead, if_pos (by simp)]
  rfl

/-- Empty cells at the end are as good as missing ones. -/
theorem assign_append_empty (header : List (Option Field)) (values : List Text) (count : Nat) :
    assign header (values ++ List.replicate count []) = assign header values := by
  induction header generalizing values count with
  | nil => rfl
  | cons column header ih =>
      cases values with
      | cons value values =>
          cases column with
          | none => exact ih values count
          | some field => exact congrArg ((field, value) :: ·) (ih values count)
      | nil =>
          cases count with
          | zero => rfl
          | succ count =>
              cases column with
              | none => exact ih [] count
              | some field => exact congrArg ((field, []) :: ·) (ih [] count)

theorem assign_fields (row : KeyRow) (columns : List Column) :
    assign (columns.map fun column => some column.field)
      (columns.map fun column => row.cell column.field) =
        row.inOrder (columns.map Column.field) := by
  induction columns with
  | nil => rfl
  | cons column columns ih =>
      exact congrArg ((column.field, row.cell column.field) :: ·) ih

section line

variable {delimiter : Char} {first : Text} {rest : List Text}
  (trimmed : forall cell, cell ∈ first :: rest -> Trimmed isBlank cell)
include trimmed

/-- A line with a readable first cell is read as its cells. -/
theorem assign_trim_join (isDelimiter : IsDelimiter delimiter)
    (apart : forall cell, cell ∈ first :: rest -> delimiter ∉ cell)
    (readable : ReadableCell delimiter first) (header : List (Option Field)) :
    assign header (cells delimiter (trim isBlank (join delimiter (first :: rest)))) =
      assign header (first :: rest) := by
  by_cases blank : isBlank delimiter = true
  · have some := readable.2 (isDelimiter.eq_tab blank)
    rcases exists_trim_join blank some trimmed with ⟨kept, count, rfl, same⟩
    have inRest : forall cell, cell ∈ first :: kept ->
        cell ∈ first :: (kept ++ List.replicate count []) :=
      fun cell member => List.cons_append ▸ List.mem_append_left _ member
    rw [same, cells_join (List.cons_ne_nil _ _)
      (fun cell member => trimmed cell (inRest cell member))
      fun cell member => apart cell (inRest cell member), ← List.cons_append, assign_append_empty]
  · rw [Bool.not_eq_true] at blank
    have whole : trim isBlank (join delimiter (first :: rest)) = join delimiter (first :: rest) :=
      trimmed_join blank trimmed
    rw [whole, cells_join (List.cons_ne_nil _ _) trimmed apart]

/-- A line of several cells with a readable first one is seen. -/
theorem significant_trim_join (isDelimiter : IsDelimiter delimiter) (several : rest ≠ [])
    (readable : ReadableCell delimiter first) :
    Significant ['#'] (trim isBlank (join delimiter (first :: rest))) := by
  rcases List.exists_cons_of_ne_nil several with ⟨next, rest, rfl⟩
  cases first with
  | nil =>
      have plain : isBlank delimiter = false := by
        by_contra blank
        rw [Bool.not_eq_false] at blank
        exact readable.2 (isDelimiter.eq_tab blank) rfl
      rw [join_cons_cons, List.nil_append]
      refine (significant_iff_of_head? (head?_trim plain _)).mpr ?_
      exact fun member => isDelimiter.ne_hash (List.mem_singleton.mp member)
  | cons c tail =>
      have plain : isBlank c = false := (trimmed _ List.mem_cons_self).head rfl
      rw [join_cons_cons, List.cons_append]
      refine (significant_iff_of_head? (head?_trim plain _)).mpr ?_
      exact fun member => readable.1 (congrArg some (List.mem_singleton.mp member))

end line

/-- The first cell of a line that is seen is readable. -/
theorem readable_of_significant {delimiter : Char} (isDelimiter : IsDelimiter delimiter)
    {line : Text} (significant : Significant ['#'] (trim isBlank line)) :
    ReadableCell delimiter ((cells delimiter (trim isBlank line)).headD []) := by
  rcases List.exists_cons_of_ne_nil significant.1 with ⟨c, rest, same⟩
  have plain : isBlank c = false := by
    rw [trim] at same
    have first : (line.dropWhile isBlank).head? = some c := by
      rcases List.rdropWhile_prefix isBlank (line.dropWhile isBlank) with ⟨tail, whole⟩
      rw [← whole, same]
      rfl
    have plain := List.head?_dropWhile_not isBlank line
    rw [first] at plain
    simpa using plain
  have notHash : c ≠ '#' := by
    rintro rfl
    exact significant.2 '#' (List.mem_singleton_self _) (by rw [same]; rfl)
  rw [same]
  by_cases isFirst : c = delimiter
  · subst isFirst
    rw [cells_of_delimiter]
    refine ⟨Option.some_ne_none _ ∘ Eq.symm, ?_⟩
    rintro rfl
    revert plain
    decide
  · have head := head?_cells plain isFirst rest
    refine ⟨fun hash => notHash (Option.some.inj (head.symm.trans hash)), fun _ empty => ?_⟩
    rw [empty] at head
    cases head

/-! ## The table -/

section table

variable {delimiter : Char} {columns : List Column} {rows : List KeyRow}
  (fits : FitsTable delimiter columns rows)
include fits

theorem FitsTable.exists_columns :
    Exists fun first => Exists fun second => Exists fun rest =>
      columns = first :: second :: rest := by
  have count := fits.order.length_eq
  cases columns with
  | nil => cases count
  | cons first columns =>
      cases columns with
      | nil => cases count
      | cons second rest => exact ⟨first, second, rest, rfl⟩

theorem FitsTable.isName {name : Text} (member : name ∈ columns.map Column.name) : IsName name := by
  rcases List.mem_map.mp member with ⟨column, inColumns, rfl⟩
  exact isName_of_header (fits.named column inColumns)

theorem FitsTable.all (field : Field) : field ∈ columns.map Column.field := by
  rw [fits.order.mem_iff]
  cases field <;> decide

theorem FitsTable.trimmed_header : Trimmed isBlank (headerLine delimiter columns) := by
  apply trimmed_of_ends
  · intro c head
    rcases fits.exists_columns with ⟨first, second, rest, rfl⟩
    have isName := fits.isName List.mem_cons_self
    rcases head?_join delimiter head with inFirst | ⟨empty, _⟩
    · exact isName.trimmed.head inFirst
    · exact absurd empty isName.1
  · intro c ends
    rcases List.eq_nil_or_concat (columns.map Column.name) with none | ⟨front, last, names⟩
    · rw [headerLine, none] at ends
      cases ends
    · rw [List.concat_eq_append] at names
      have isName : IsName last := fits.isName (names ▸ List.mem_append_right _
        (List.mem_singleton_self _))
      rw [headerLine, names] at ends
      rcases getLast?_join delimiter ends with inLast | ⟨empty, _⟩
      · exact isName.trimmed.getLast inLast
      · exact absurd empty isName.1

theorem FitsTable.exists_header :
    Exists fun c => Exists fun rest => headerLine delimiter columns = c :: rest ∧
      isNameChar c = true := by
  rcases fits.exists_columns with ⟨first, second, rest, rfl⟩
  rcases (fits.isName List.mem_cons_self).exists_cons with ⟨c, tail, same, isName⟩
  rw [headerLine, List.map_cons, List.map_cons, join_cons_cons, same]
  exact ⟨c, _, rfl, isName⟩

theorem FitsTable.significant_header {marks : List Char}
    (apart : (marks.all fun mark => !isNameChar mark) = true) :
    Significant marks (headerLine delimiter columns) := by
  rcases fits.exists_header with ⟨c, rest, same, isName⟩
  rw [same]
  exact (significant_iff_of_head? rfl).mpr (notMem_of_isNameChar apart isName)

theorem FitsTable.header_seen :
    Significant ['#'] (trim isBlank (headerLine delimiter columns)) :=
  fits.trimmed_header.symm ▸ fits.significant_header (by decide)

theorem FitsTable.header (isDelimiter : IsDelimiter delimiter) :
    (cells delimiter (headerLine delimiter columns)).map normalizeHeader =
      columns.map fun column => some column.field := by
  rcases fits.exists_columns with ⟨first, second, rest, same⟩
  have filled : columns.map Column.name ≠ [] := by simp [same]
  rw [headerLine, cells_join filled (fun cell member => (fits.isName member).trimmed)
    fun cell member => (fits.isName member).notMem isDelimiter.notName, List.map_map]
  exact List.map_congr_left fits.named

/-- The cells of a row, the first of them apart. -/
theorem FitsTable.exists_cells {row : KeyRow} (member : row ∈ rows) :
    Exists fun first => Exists fun rest => rest ≠ [] ∧
      columns.map (fun column => row.cell column.field) = first :: rest ∧
      firstCell columns row = first ∧
      (forall cell, cell ∈ first :: rest -> Trimmed isBlank cell) ∧
      forall cell, cell ∈ first :: rest -> delimiter ∉ cell := by
  have plain : forall cell, cell ∈ columns.map (fun column => row.cell column.field) ->
      Trimmed isBlank cell ∧ delimiter ∉ cell := by
    intro cell inCells
    rcases List.mem_map.mp inCells with ⟨column, _, rfl⟩
    exact ⟨(fits.plain row member column.field).1, fits.apart row member column.field⟩
  rcases fits.exists_columns with ⟨first, second, rest, rfl⟩
  exact ⟨row.cell first.field, _, List.cons_ne_nil _ _, rfl, rfl,
    fun cell inCells => (plain cell inCells).1, fun cell inCells => (plain cell inCells).2⟩

theorem FitsTable.assign_row {row : KeyRow} (member : row ∈ rows)
    (isDelimiter : IsDelimiter delimiter)
    (readable : ReadableCell delimiter (firstCell columns row)) :
    assign (columns.map fun column => some column.field)
      (cells delimiter (trim isBlank (rowLine delimiter columns row))) =
        row.inOrder (columns.map Column.field) := by
  rcases fits.exists_cells member with ⟨first, rest, _, same, isFirst, trimmed, apart⟩
  rw [isFirst] at readable
  rw [rowLine, same, assign_trim_join trimmed isDelimiter apart readable, ← same, assign_fields]

theorem FitsTable.significant_row {row : KeyRow} (member : row ∈ rows)
    (isDelimiter : IsDelimiter delimiter)
    (readable : ReadableCell delimiter (firstCell columns row)) :
    Significant ['#'] (trim isBlank (rowLine delimiter columns row)) := by
  rcases fits.exists_cells member with ⟨first, rest, several, same, isFirst, trimmed, _⟩
  rw [isFirst] at readable
  rw [rowLine, same]
  exact significant_trim_join trimmed isDelimiter several readable

theorem FitsTable.newline_notMem (isDelimiter : IsDelimiter delimiter) {text : Text}
    (member : text ∈ headerLine delimiter columns :: rows.map (rowLine delimiter columns)) :
    '\n' ∉ text := by
  have apart : ¬ '\n' = delimiter := fun same => isDelimiter.ne_newline same.symm
  intro newline
  rcases List.mem_cons.mp member with rfl | isRow
  · rcases mem_join delimiter newline with same | ⟨name, inNames, inName⟩
    · exact apart same
    · exact (fits.isName inNames).notMem (by decide) inName
  · rcases List.mem_map.mp isRow with ⟨row, inRows, rfl⟩
    rcases mem_join delimiter newline with same | ⟨cell, inCells, inCell⟩
    · exact apart same
    · rcases List.mem_map.mp inCells with ⟨column, _, rfl⟩
      exact (fits.plain row inRows column.field).2 inCell

section layout

variable {layout : List (Mark ⊕ Text)}
  (lined : layout.filterMap Sum.getRight? =
    headerLine delimiter columns :: rows.map (rowLine delimiter columns))
include lined

/-- Without semicolons the header and the rows that are seen are left. -/
theorem FitsTable.significantLines_written (noSemicolon : .inl .semicolon ∉ layout)
    (ending : Ending) {lines : List Line} (shaped : lines.map Line.shape = layout)
    (single : forall line, line ∈ lines -> '\n' ∉ line.text) :
    significantLines ['#'] (written ending lines) =
      headerLine delimiter columns ::
        (rows.map fun row => trim isBlank (rowLine delimiter columns row)).filter
          fun line => Significant ['#'] line := by
  have seen : Significant ['#'] (headerLine delimiter columns) :=
    fits.significant_header (by decide)
  rw [significantLines_contents (by decide) ending single
    fun member => absurd (shaped ▸ member) noSemicolon, shaped, lined, List.map_cons,
    fits.trimmed_header, List.filter_cons_of_pos (by simpa using seen), List.map_map]
  rfl

theorem FitsTable.parseDelimited_written (isDelimiter : IsDelimiter delimiter)
    (noSemicolon : .inl .semicolon ∉ layout) (ending : Ending) {lines : List Line}
    (shaped : lines.map Line.shape = layout)
    (single : forall line, line ∈ lines -> '\n' ∉ line.text) :
    parseDelimited delimiter (written ending lines) =
      ((rows.map fun row => trim isBlank (rowLine delimiter columns row)).filter
        fun line => Significant ['#'] line).map fun line =>
          assign (columns.map fun column => some column.field) (cells delimiter line) := by
  rw [parseDelimited, fits.significantLines_written lined noSemicolon ending shaped single,
    parseLines, fits.header isDelimiter]

theorem FitsTable.assigned (isDelimiter : IsDelimiter delimiter)
    (readable : forall row, row ∈ rows -> ReadableCell delimiter (firstCell columns row))
    (noSemicolon : .inl .semicolon ∉ layout) (ending : Ending) {lines : List Line}
    (shaped : lines.map Line.shape = layout)
    (single : forall line, line ∈ lines -> '\n' ∉ line.text) :
    parseDelimited delimiter (written ending lines) =
      rows.map fun row => row.inOrder (columns.map Column.field) := by
  have seen : forall line,
      line ∈ rows.map (fun row => trim isBlank (rowLine delimiter columns row)) ->
        decide (Significant ['#'] line) = true := by
    intro line member
    rcases List.mem_map.mp member with ⟨row, inRows, rfl⟩
    exact decide_eq_true (fits.significant_row inRows isDelimiter (readable row inRows))
  rw [fits.parseDelimited_written lined isDelimiter noSemicolon ending shaped single,
    List.filter_eq_self.mpr seen, List.map_map]
  exact List.map_congr_left fun row member =>
    fits.assign_row member isDelimiter (readable row member)

/-- If all rows come back with their cells, the first cells are readable. -/
theorem FitsTable.readable (isDelimiter : IsDelimiter delimiter)
    (noSemicolon : .inl .semicolon ∉ layout) (ending : Ending) {lines : List Line}
    (shaped : lines.map Line.shape = layout)
    (single : forall line, line ∈ lines -> '\n' ∉ line.text)
    (reads : parseDelimited delimiter (written ending lines) =
      rows.map fun row => row.inOrder (columns.map Column.field)) :
    forall row, row ∈ rows -> ReadableCell delimiter (firstCell columns row) := by
  rw [fits.parseDelimited_written lined isDelimiter noSemicolon ending shaped single] at reads
  have count := congrArg List.length reads
  rw [List.length_map, List.length_map] at count
  have seen := List.length_filter_eq_length_iff.mp (count.trans (List.length_map _).symm)
  rw [List.filter_eq_self.mpr seen, List.map_map] at reads
  intro row member
  have significant : Significant ['#'] (trim isBlank (rowLine delimiter columns row)) :=
    of_decide_eq_true (seen _ (List.mem_map_of_mem member))
  have same := List.map_inj_left.mp reads row member
  rcases fits.exists_columns with ⟨first, second, rest, rfl⟩
  have cell :
      (cells delimiter (trim isBlank (rowLine delimiter (first :: second :: rest) row))).headD [] =
        firstCell (first :: second :: rest) row :=
    congrArg (fun values => (values.head?.map Prod.snd).getD []) same
  exact cell ▸ readable_of_significant isDelimiter significant

end layout

end table

/-! ## Semicolons -/

/-- All comments have the same words. -/
def fill (words : Text) : Mark ⊕ Text -> Line
  | .inl mark => .filler mark words
  | .inr text => .content text

theorem shape_fill (words : Text) (layout : List (Mark ⊕ Text)) :
    (layout.map (fill words)).map Line.shape = layout := by
  rw [List.map_map]
  refine (List.map_congr_left (g := id) fun item _ => ?_).trans (List.map_id _)
  cases item <;> rfl

theorem newline_notMem_fill {words : Text} (plain : '\n' ∉ words) {layout : List (Mark ⊕ Text)}
    (single : forall text, text ∈ layout.filterMap Sum.getRight? -> '\n' ∉ text) :
    forall line, line ∈ layout.map (fill words) -> '\n' ∉ line.text := by
  intro line member
  rcases List.mem_map.mp member with ⟨item, inLayout, rfl⟩
  cases item with
  | inl mark =>
      cases mark with
      | hash => simpa [fill, Line.text] using plain
      | semicolon => simpa [fill, Line.text] using plain
      | blank => exact List.not_mem_nil
  | inr text => exact single text (List.mem_filterMap.mpr ⟨.inr text, inLayout, rfl⟩)

theorem significantLines_fill (marks : List Char) {words : Text} (plain : '\n' ∉ words)
    {layout : List (Mark ⊕ Text)}
    (single : forall text, text ∈ layout.filterMap Sum.getRight? -> '\n' ∉ text) :
    significantLines marks (written .lf (layout.map (fill words))) =
      (layout.filter fun item => Visible marks item).map
        fun item => trim isBlank (fill words item).text := by
  rw [BulkKeys.significantLines_written marks .lf (newline_notMem_fill plain single), List.map_map,
    List.filter_map]
  refine congrArg (List.map _) (List.filter_congr fun item _ => ?_)
  refine decide_eq_decide.mpr ((significant_trim_iff marks (fill words item)).trans ?_)
  cases item <;> exact Iff.rfl

theorem filterMap_visible (marks : List Char) (layout : List (Mark ⊕ Text)) :
    (layout.filter fun item => Visible marks item).filterMap Sum.getRight? =
      (layout.filterMap Sum.getRight?).filter
        fun text => Significant marks (trim isBlank text) := by
  induction layout with
  | nil => rfl
  | cons item layout ih =>
      cases item with
      | inl mark =>
          rw [List.filter_cons]
          split <;> exact ih
      | inr text =>
          have given : Sum.getRight? (.inr text : Mark ⊕ Text) = some text := rfl
          by_cases visible : Significant marks (trim isBlank text)
          · have kept : decide (Visible marks (.inr text)) = true := decide_eq_true visible
            rw [List.filter_cons_of_pos (p := fun item => decide (Visible marks item)) kept,
              List.filterMap_cons_some given,
              List.filterMap_cons_some given, List.filter_cons_of_pos (by simpa using visible), ih]
          · have dropped : ¬ decide (Visible marks (.inr text)) = true :=
              fun kept => visible (of_decide_eq_true kept)
            rw [List.filter_cons_of_neg (p := fun item => decide (Visible marks item)) dropped,
              List.filterMap_cons_some given,
              List.filter_cons_of_neg (by simpa using visible), ih]

theorem mark_of_visible {layout : List (Mark ⊕ Text)} {mark : Mark}
    (member : .inl mark ∈ layout.filter fun item => Visible ['#'] item) : mark = .semicolon := by
  have visible := of_decide_eq_true (List.mem_filter.mp member).2
  cases mark with
  | hash => exact absurd (List.mem_singleton_self _) visible
  | semicolon => rfl
  | blank => exact visible.elim

/-- Under a comment as the header nothing is assigned. -/
theorem parseLines_semicolon {delimiter : Char} (isDelimiter : IsDelimiter delimiter)
    (lines : List Text) : parseLines delimiter ([';'] :: lines) = lines.map fun _ => [] := by
  have header : (cells delimiter [';']).map normalizeHeader = [none] := by
    rcases isDelimiter with rfl | rfl <;> decide +kernel
  rw [parseLines, header]
  rfl

/-- The words of a comment that is a row are assigned. -/
theorem assign_semicolon_ne {delimiter : Char} (isDelimiter : IsDelimiter delimiter)
    (field : Field) (header : List (Option Field)) :
    assign (some field :: header) (cells delimiter [';']) ≠
      assign (some field :: header) (cells delimiter [';', 'x']) := by
  intro same
  have cell : (cells delimiter [';']).headD [] = (cells delimiter [';', 'x']).headD [] :=
    congrArg (fun values => (values.head?.map Prod.snd).getD []) same
  revert cell
  rcases isDelimiter with rfl | rfl <;> decide +kernel

section semicolons

variable {delimiter : Char} {columns : List Column} {rows : List KeyRow}
  (fits : FitsTable delimiter columns rows) (isDelimiter : IsDelimiter delimiter)
  {layout : List (Mark ⊕ Text)}
  (lined : layout.filterMap Sum.getRight? =
    headerLine delimiter columns :: rows.map (rowLine delimiter columns))
include fits lined

theorem FitsTable.header_visible :
    .inr (headerLine delimiter columns) ∈ layout.filter fun item => Visible ['#'] item := by
  have inContents : headerLine delimiter columns ∈ layout.filterMap Sum.getRight? :=
    lined ▸ List.mem_cons_self
  rcases List.mem_filterMap.mp inContents with ⟨item, inLayout, isHeader⟩
  rw [Sum.getRight?_eq_some_iff.mp isHeader] at inLayout
  exact List.mem_filter.mpr ⟨inLayout, decide_eq_true fits.header_seen⟩

/-- The first content that is seen is the header. -/
theorem FitsTable.head_visible {text : Text} {items : List (Mark ⊕ Text)}
    (visible : (layout.filter fun item => Visible ['#'] item) = .inr text :: items) :
    text = headerLine delimiter columns := by
  have kept := filterMap_visible ['#'] layout
  rw [visible, lined, List.filter_cons_of_pos (by simpa using fits.header_seen)] at kept
  exact (List.cons.inj kept).1

variable (reads : forall words, '\n' ∉ words ->
  parseDelimited delimiter (written .lf (layout.map (fill words))) =
    rows.map fun row => row.inOrder (columns.map Column.field))
include isDelimiter reads

/-- A comment with a semicolon is the header of the table or one of its rows. -/
theorem FitsTable.semicolon_notMem : .inl .semicolon ∉ layout := by
  intro member
  have semicolon : .inl .semicolon ∈ layout.filter fun item => Visible ['#'] item :=
    List.mem_filter.mpr ⟨member, by decide⟩
  have header := fits.header_visible lined
  have parsed : forall words, '\n' ∉ words -> parseLines delimiter
      ((layout.filter fun item => Visible ['#'] item).map
        fun item => trim isBlank (fill words item).text) =
          rows.map fun row => row.inOrder (columns.map Column.field) := by
    intro words plain
    rw [← significantLines_fill ['#'] plain fun text inLayout =>
      fits.newline_notMem isDelimiter (lined ▸ inLayout)]
    exact reads words plain
  cases visible : layout.filter fun item => Visible ['#'] item with
  | nil =>
      rw [visible] at semicolon
      cases semicolon
  | cons item items =>
      rw [visible] at semicolon header parsed
      rcases fits.exists_columns with ⟨first, second, rest, rfl⟩
      cases item with
      | inl mark =>
          have inItems := (List.mem_cons.mp header).resolve_left Sum.inr_ne_inl
          have isMark : mark = .semicolon := mark_of_visible (visible ▸ List.mem_cons_self)
          subst isMark
          -- The contents are not empty, so some row would have no assignment at all.
          have empty := (parseLines_semicolon isDelimiter _).symm.trans
            (parsed [] List.not_mem_nil)
          rw [List.map_map] at empty
          have isRow := empty ▸ List.mem_map_of_mem inItems
          rcases List.mem_map.mp isRow with ⟨row, _, none⟩
          cases none
      | inr text =>
          have inItems := (List.mem_cons.mp semicolon).resolve_left Sum.inl_ne_inr
          have isHeader := fits.head_visible lined visible
          subst isHeader
          -- Two wordings of the comment would both have to be the same row.
          have worded : forall words, '\n' ∉ words -> items.map (fun item => assign
              ((first :: second :: rest).map fun column => some column.field)
              (cells delimiter (trim isBlank (fill words item).text))) =
                rows.map fun row => row.inOrder ((first :: second :: rest).map Column.field) := by
            intro words plain
            have headed : trim isBlank
                (fill words (.inr (headerLine delimiter (first :: second :: rest)))).text =
                  headerLine delimiter (first :: second :: rest) := fits.trimmed_header
            rw [← parsed words plain, ← fits.header isDelimiter,
              List.map_cons (f := fun item => trim isBlank (fill words item).text), headed,
              parseLines, List.map_map]
            rfl
          have same := List.map_inj_left.mp ((worded [] List.not_mem_nil).trans
            (worded ['x'] (by decide)).symm) _ inItems
          exact assign_semicolon_ne isDelimiter first.field _ same

/-- If the table comes back for all words of its comments, all rows are readable and no comment has
a semicolon. -/
theorem FitsTable.clear :
    (forall row, row ∈ rows -> ReadableCell delimiter (firstCell columns row)) ∧
      .inl .semicolon ∉ layout := by
  have semicolons := fits.semicolon_notMem isDelimiter lined reads
  have single := newline_notMem_fill List.not_mem_nil fun text member =>
    fits.newline_notMem isDelimiter (lined ▸ member)
  exact ⟨fits.readable lined isDelimiter semicolons .lf (shape_fill [] layout) single
    (reads [] List.not_mem_nil), semicolons⟩

end semicolons

end BulkKeys
end Frontend
end Basement
