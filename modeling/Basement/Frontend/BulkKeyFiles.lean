import Basement.Frontend.BulkKeys

namespace Basement
namespace Frontend
namespace BulkKeys

open Library.TrimmedText

/-!
# Files with keys

Rows are written as a credentials file or as a table, in any order of the columns and with any of
the recognized names.  Comments and empty lines may stand anywhere between the lines of the file.
What the lines of the file are, and where the comments with which mark are, is the layout of the
file; the words of the comments and the line endings are left open by it.
-/

/-! ## Layouts -/

inductive Mark where
  | hash
  | semicolon
  | blank
  deriving DecidableEq, Repr

inductive Line where
  | filler (mark : Mark) (words : Text)
  | content (text : Text)

/-- An empty line has no words. -/
def Line.text : Line -> Text
  | .filler .hash words => '#' :: words
  | .filler .semicolon words => ';' :: words
  | .filler .blank _ => []
  | .content text => text

/-- What the layout says about the line. -/
def Line.shape : Line -> Mark ⊕ Text
  | .filler mark _ => .inl mark
  | .content text => .inr text

inductive Ending where
  | lf
  | crlf
  deriving DecidableEq, Repr

def Ending.text : Ending -> Text
  | .lf => ['\n']
  | .crlf => ['\r', '\n']

def written (ending : Ending) (lines : List Line) : Text :=
  ending.text.intercalate (lines.map Line.text)

/-! ## Contents -/

/-- A column with the name that the file has for it. -/
structure Column where
  name : Text
  field : Field
  deriving DecidableEq, Repr

def KeyRow.cell (row : KeyRow) : Field -> Text
  | .aliasName => row.aliasName
  | .endpoint => row.endpoint
  | .accessKeyId => row.accessKeyId
  | .secretKey => row.secretKey
  | .region => row.region
  | .addressingStyle => (row.addressingStyle.map AddressingStyle.text).getD []

def keyLine (row : KeyRow) (column : Column) : Text :=
  column.name ++ ' ' :: '=' :: ' ' :: row.cell column.field

def profile (columns : List Column) (row : KeyRow) : List Text :=
  ('[' :: (row.aliasName ++ [']'])) :: columns.map (keyLine row)

def headerLine (delimiter : Char) (columns : List Column) : Text :=
  join delimiter (columns.map Column.name)

def rowLine (delimiter : Char) (columns : List Column) (row : KeyRow) : Text :=
  join delimiter (columns.map fun column => row.cell column.field)

/-- The lines of the file that are neither comments nor empty lines. -/
def contents : BulkKeyFormat -> List Column -> List KeyRow -> List Text
  | .awsCredentials, columns, rows => rows.flatMap (profile columns)
  | .csv, columns, rows => headerLine ',' columns :: rows.map (rowLine ',' columns)
  | .tsv, columns, rows => headerLine '\t' columns :: rows.map (rowLine '\t' columns)
  | .unknown, _, _ => []

/-- There is no newline in the cell, and there are no blanks around it. -/
def Plain (cell : Text) : Prop := Trimmed isBlank cell ∧ '\n' ∉ cell

def profileFields : List Field :=
  [.endpoint, .accessKeyId, .secretKey, .region, .addressingStyle]

structure FitsProfiles (columns : List Column) (rows : List KeyRow) : Prop where
  named : forall column, column ∈ columns -> awsField column.name = some column.field
  order : (columns.map Column.field).Perm profileFields
  plain : forall row, row ∈ rows -> forall field, Plain (row.cell field)

structure FitsTable (delimiter : Char) (columns : List Column) (rows : List KeyRow) : Prop where
  named : forall column, column ∈ columns -> normalizeHeader column.name = some column.field
  order : (columns.map Column.field).Perm (.aliasName :: profileFields)
  plain : forall row, row ∈ rows -> forall field, Plain (row.cell field)
  apart : forall row, row ∈ rows -> forall field, delimiter ∉ row.cell field

/-- The columns are the recognized ones in some order, and the cells are of the kind that the
format can hold. -/
def Fits : BulkKeyFormat -> List Column -> List KeyRow -> Prop
  | .awsCredentials, columns, rows => FitsProfiles columns rows
  | .csv, columns, rows => FitsTable ',' columns rows
  | .tsv, columns, rows => FitsTable '\t' columns rows
  | .unknown, _, _ => False

/-! ## Names -/

/-- A letter, an underscore or a hyphen. -/
def isNameChar (c : Char) : Bool :=
  ('a' ≤ lower c && lower c ≤ 'z') || lower c = '_' || lower c = '-'

/-- A name is made of such characters. -/
def IsName (name : Text) : Prop := name ≠ [] ∧ forall c, c ∈ name -> isNameChar c = true

theorem notMem_of_isNameChar {marks : List Char}
    (apart : (marks.all fun mark => !isNameChar mark) = true) {c : Char}
    (isName : isNameChar c = true) : c ∉ marks := by
  intro member
  have other := List.all_eq_true.mp apart c member
  rw [isName] at other
  cases other

theorem isBlank_of_isNameChar {c : Char} (isName : isNameChar c = true) : isBlank c = false := by
  have apart : (blanks.all fun d => !isNameChar d) = true := by decide +kernel
  by_contra blank
  rw [Bool.not_eq_false, isBlank, List.contains_iff_mem] at blank
  exact notMem_of_isNameChar apart isName blank

theorem mem_of_fieldNamed {names : List (String × Field)} {word : Text} {field : Field}
    (found : fieldNamed names word = some field) :
    Exists fun entry => entry ∈ names ∧ entry.1.toList = word := by
  rcases Option.map_eq_some_iff.mp found with ⟨entry, found, _⟩
  have same := List.find?_some found
  exact ⟨entry, List.mem_of_find?_eq_some found, of_decide_eq_true same⟩

theorem isName_of_header {name : Text} {field : Field}
    (found : normalizeHeader name = some field) : IsName name := by
  constructor
  · rintro rfl
    revert found
    cases field <;> decide +kernel
  · intro c member
    by_cases dropped : lower c = '_' ∨ lower c = '-'
    · rcases dropped with same | same <;> simp [isNameChar, same]
    · rcases mem_of_fieldNamed found with ⟨entry, inNames, same⟩
      have letters : forall entry, entry ∈ headerNames ->
          (entry.1.toList.all fun d => 'a' ≤ d && d ≤ 'z') = true := by decide +kernel
      have inWord : lower c ∈ entry.1.toList := by
        rw [same]
        refine List.mem_filter.mpr ⟨List.mem_map_of_mem member, ?_⟩
        simpa only [not_or, Bool.and_eq_true, decide_eq_true_eq] using dropped
      rw [isNameChar, List.all_eq_true.mp (letters entry inNames) _ inWord]
      rfl

theorem isName_of_key {name : Text} {field : Field} (found : awsField name = some field) :
    IsName name := by
  constructor
  · rintro rfl
    revert found
    cases field <;> decide +kernel
  · intro c member
    rcases mem_of_fieldNamed found with ⟨entry, inNames, same⟩
    have letters : forall entry, entry ∈ awsKeys ->
        (entry.1.toList.all fun d => ('a' ≤ d && d ≤ 'z') || d = '_' || d = '-') = true := by
      decide +kernel
    exact List.all_eq_true.mp (letters entry inNames) _ (same ▸ List.mem_map_of_mem member)

section names

variable {name : Text} (isName : IsName name)
include isName

theorem IsName.trimmed : Trimmed isBlank name :=
  trimmed_of_forall fun c member => isBlank_of_isNameChar (isName.2 c member)

theorem IsName.notMem {c : Char} (other : isNameChar c = false) : c ∉ name := by
  intro member
  rw [isName.2 c member] at other
  cases other

theorem IsName.exists_cons :
    Exists fun c => Exists fun rest => name = c :: rest ∧ isNameChar c = true := by
  rcases List.exists_cons_of_ne_nil isName.1 with ⟨c, rest, rfl⟩
  exact ⟨c, rest, rfl, isName.2 c List.mem_cons_self⟩

end names

/-! ## Reading the lines -/

theorem trim_dropReturns (pieces : List Text) :
    (dropReturns pieces).map (trim isBlank) = pieces.map (trim isBlank) := by
  fun_induction dropReturns pieces with
  | case1 => rfl
  | case2 last => rfl
  | case3 piece next pieces ih =>
      rw [List.map_cons, ih, List.map_cons]
      refine congrArg (· :: _) ?_
      split
      · rename_i ends
        rcases List.getLast?_eq_some_iff.mp ends with ⟨front, rfl⟩
        rw [List.dropLast_concat, trim_concat (by decide)]
      · rfl

/-- The carriage returns of the line endings are blanks at the ends of the pieces. -/
theorem exists_pieces (ending : Ending) {lines : List Text} (some : lines ≠ [])
    (single : forall line, line ∈ lines -> '\n' ∉ line) :
    Exists fun pieces => pieces ≠ [] ∧ (forall piece, piece ∈ pieces -> '\n' ∉ piece) ∧
      ending.text.intercalate lines = join '\n' pieces ∧
      pieces.map (trim isBlank) = lines.map (trim isBlank) := by
  cases ending with
  | lf => exact ⟨lines, some, single, rfl, rfl⟩
  | crlf =>
      induction lines with
      | nil => exact absurd rfl some
      | cons line lines ih =>
          cases lines with
          | nil => exact ⟨[line], some, single, rfl, rfl⟩
          | cons next lines =>
              rcases ih (List.cons_ne_nil _ _) fun line member =>
                single line (List.mem_cons_of_mem _ member) with ⟨pieces, filled, plain, same, cut⟩
              rcases List.exists_cons_of_ne_nil filled with ⟨piece, pieces, rfl⟩
              refine ⟨(line ++ ['\r']) :: piece :: pieces, List.cons_ne_nil _ _, ?_, ?_, ?_⟩
              · intro piece member
                rcases List.mem_cons.mp member with rfl | inRest
                · simpa using single line List.mem_cons_self
                · exact plain piece inRest
              · rw [List.intercalate_cons_cons, same, join_cons_cons]
                simp [Ending.text]
              · rw [List.map_cons, cut, trim_concat (by decide)]
                rfl

theorem significantLines_written (marks : List Char) (ending : Ending) {lines : List Line}
    (single : forall line, line ∈ lines -> '\n' ∉ line.text) :
    significantLines marks (written ending lines) =
      (lines.map fun line => trim isBlank line.text).filter fun line => Significant marks line := by
  cases lines with
  | nil => cases ending <;> rfl
  | cons line lines =>
      have plain : forall text, text ∈ (line :: lines).map Line.text -> '\n' ∉ text := by
        intro text member
        rcases List.mem_map.mp member with ⟨line, inLines, rfl⟩
        exact single line inLines
      rcases exists_pieces ending (List.cons_ne_nil _ _) plain with
        ⟨pieces, filled, apart, same, cut⟩
      rw [significantLines, splitLines, trim_dropReturns, written, List.map_cons, same, join,
        List.splitOn_intercalate _ apart filled, cut, ← List.map_cons, List.map_map]
      rfl

/-- The layout alone tells which lines are significant. -/
def Visible (marks : List Char) : Mark ⊕ Text -> Prop
  | .inl .hash => '#' ∉ marks
  | .inl .semicolon => ';' ∉ marks
  | .inl .blank => False
  | .inr text => Significant marks (trim isBlank text)

instance (marks : List Char) : DecidablePred (Visible marks)
  | .inl .hash => inferInstanceAs (Decidable ('#' ∉ marks))
  | .inl .semicolon => inferInstanceAs (Decidable (';' ∉ marks))
  | .inl .blank => inferInstanceAs (Decidable False)
  | .inr text => inferInstanceAs (Decidable (Significant marks (trim isBlank text)))

theorem significant_iff_of_head? {marks : List Char} {line : Text} {c : Char}
    (head : line.head? = some c) : Significant marks line ↔ c ∉ marks := by
  constructor
  · intro significant member
    exact significant.2 c member head
  · intro plain
    refine ⟨fun empty => ?_, fun mark member same => ?_⟩
    · rw [empty] at head
      cases head
    · rw [head] at same
      exact plain (Option.some.inj same ▸ member)

theorem significant_trim_iff (marks : List Char) (line : Line) :
    Significant marks (trim isBlank line.text) ↔ Visible marks line.shape := by
  cases line with
  | content text => exact Iff.rfl
  | filler mark words =>
      cases mark with
      | hash => exact significant_iff_of_head? (head?_trim (by decide) words)
      | semicolon => exact significant_iff_of_head? (head?_trim (by decide) words)
      | blank => exact iff_of_false (fun significant => significant.1 rfl) id

/-- Where the marks of all comments count, only the contents are left. -/
theorem significantLines_contents {marks : List Char} (hash : '#' ∈ marks) (ending : Ending)
    {lines : List Line} (single : forall line, line ∈ lines -> '\n' ∉ line.text)
    (hidden : Sum.inl .semicolon ∈ lines.map Line.shape -> ';' ∈ marks) :
    significantLines marks (written ending lines) =
      (((lines.map Line.shape).filterMap Sum.getRight?).map (trim isBlank)).filter
        fun line => Significant marks line := by
  rw [significantLines_written marks ending single]
  clear single
  induction lines with
  | nil => rfl
  | cons line lines ih =>
      have rest := ih fun member => hidden (List.mem_cons_of_mem _ member)
      cases line with
      | content text =>
          rw [List.map_cons, List.filter_cons, rest, List.map_cons, Line.shape,
            List.filterMap_cons_some (show Sum.getRight? (.inr text) = some text from rfl),
            List.map_cons, List.filter_cons]
          rfl
      | filler mark words =>
          have dropped : ¬ Significant marks (trim isBlank (Line.filler mark words).text) := by
            rw [significant_trim_iff]
            cases mark with
            | hash => exact not_not_intro hash
            | semicolon => exact not_not_intro (hidden List.mem_cons_self)
            | blank => exact id
          rw [List.map_cons, List.filter_cons, if_neg (by simpa using dropped), rest,
            List.map_cons, Line.shape,
            List.filterMap_cons_none (show Sum.getRight? (.inl mark) = none from rfl)]

/-! ## Rows from assignments -/

/-- The cells of the row as the assignments in which a file with these columns has them. -/
def KeyRow.inOrder (row : KeyRow) (fields : List Field) : Assignments :=
  fields.map fun field => (field, row.cell field)

theorem parseStyle_text (style : AddressingStyle) : parseStyle style.text = some style := by
  cases style <;> decide +kernel

theorem foldl_set_inOrder (row : KeyRow) (fields : List Field) (init : PartialRow) (field : Field)
    (stored : ¬ (field = .addressingStyle ∧ parseStyle (row.cell field) = none)) :
    (row.inOrder fields).foldl PartialRow.set init field =
      if field ∈ fields then some (row.cell field) else init field := by
  induction fields generalizing init with
  | nil => rfl
  | cons first fields ih =>
      rw [KeyRow.inOrder, List.map_cons, List.foldl_cons, ← KeyRow.inOrder, ih]
      by_cases inRest : field ∈ fields
      · rw [if_pos inRest, if_pos (List.mem_cons_of_mem _ inRest)]
      · rw [if_neg inRest]
        by_cases same : field = first
        · subst same
          rw [PartialRow.set, if_neg stored, if_pos List.mem_cons_self, Function.update_self]
        · rw [if_neg fun member => (List.mem_cons.mp member).elim same inRest, PartialRow.set]
          split
          · rfl
          · exact Function.update_of_ne same _ _

theorem foldl_set_noStyle {row : KeyRow} (noStyle : row.addressingStyle = none)
    (fields : List Field) (init : PartialRow) :
    (row.inOrder fields).foldl PartialRow.set init .addressingStyle = init .addressingStyle := by
  induction fields generalizing init with
  | nil => rfl
  | cons first fields ih =>
      rw [KeyRow.inOrder, List.map_cons, List.foldl_cons, ← KeyRow.inOrder, ih, PartialRow.set]
      split
      · rfl
      · rename_i stored
        refine Function.update_of_ne (fun same => stored ⟨same.symm, ?_⟩) _ _
        change Field.addressingStyle = first at same
        change parseStyle (row.cell first) = none
        rw [← same, KeyRow.cell, noStyle]
        decide +kernel

/-- A row is read back from its cells in any order. -/
theorem rowOf_inOrder (row : KeyRow) {fields : List Field}
    (all : forall field, field ∈ fields) : rowOf (row.inOrder fields) = row := by
  have plain : forall field, field ≠ .addressingStyle ->
      (row.inOrder fields).foldl PartialRow.set (fun _ => none) field = some (row.cell field) := by
    intro field other
    rw [foldl_set_inOrder row fields _ field fun stored => other stored.1, if_pos (all field)]
  have style : ((row.inOrder fields).foldl PartialRow.set (fun _ => none) .addressingStyle).bind
      parseStyle = row.addressingStyle := by
    cases given : row.addressingStyle with
    | none => rw [foldl_set_noStyle given]; rfl
    | some style =>
        have text : row.cell .addressingStyle = style.text := by simp [KeyRow.cell, given]
        have parsed := parseStyle_text style
        rw [foldl_set_inOrder, if_pos (all _), text, Option.bind_some, parsed]
        rw [text, parsed]
        exact fun stored => absurd stored.2 (Option.some_ne_none _)
  simp only [rowOf, style]
  rw [plain .aliasName (by decide), plain .endpoint (by decide), plain .accessKeyId (by decide),
    plain .secretKey (by decide), plain .region (by decide)]
  rfl

end BulkKeys
end Frontend
end Basement
