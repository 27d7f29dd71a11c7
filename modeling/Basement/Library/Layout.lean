import Mathlib.Algebra.Group.Nat.Defs
import Mathlib.Data.List.Basic
import Mathlib.Data.List.Lex
import Mathlib.Data.String.Basic
import Mathlib.Tactic.Tauto

namespace Basement
namespace Library

/-!
# Texts of a fixed layout

A layout is a sequence of literal characters and of decimal numbers of a fixed width, padded
with zeros.  A text is read in one way only: every number takes exactly its width, so what
was rendered from numbers that fit is read back as these numbers, and a number that does not
fit leaves a digit where the layout has something else.
-/

namespace Layout

inductive Piece where
  | literal (char : Char)
  | number (width : Nat)
  deriving DecidableEq, Repr

/-- The decimal digits of a number behind zeros up to the width; a longer number keeps all
its digits. -/
def padded (width value : Nat) : List Char :=
  (Nat.toDigits 10 value).leftpad width '0'

def render : List Piece -> List Nat -> List Char
  | .literal char :: rest, values => char :: render rest values
  | .number width :: rest, value :: values => padded width value ++ render rest values
  | _, _ => []

def parse : List Piece -> List Char -> Option (List Nat)
  | [], text => if text = [] then some [] else none
  | .literal char :: rest, text =>
      if text.head? = some char then parse rest text.tail else none
  | .number width :: rest, text =>
      if (text.take width).length = width ∧ (text.take width).all Char.isDigit = true then
        (parse rest (text.drop width)).map (Nat.ofDigitChars 10 (text.take width) 0 :: ·)
      else none

@[simp] theorem render_nil (values : List Nat) : render [] values = [] := rfl

@[simp] theorem render_literal (char : Char) (rest : List Piece) (values : List Nat) :
    render (.literal char :: rest) values = char :: render rest values := rfl

@[simp] theorem render_number (width value : Nat) (rest : List Piece) (values : List Nat) :
    render (.number width :: rest) (value :: values) = padded width value ++ render rest values :=
  rfl

theorem parse_nil (text : List Char) : parse [] text = if text = [] then some [] else none := rfl

theorem parse_literal (char : Char) (rest : List Piece) (text : List Char) :
    parse (.literal char :: rest) text =
      if text.head? = some char then parse rest text.tail else none := rfl

theorem parse_number (width : Nat) (rest : List Piece) (text : List Char) :
    parse (.number width :: rest) text =
      if (text.take width).length = width ∧ (text.take width).all Char.isDigit = true then
        (parse rest (text.drop width)).map (Nat.ofDigitChars 10 (text.take width) 0 :: ·)
      else none := rfl

/-- There is one value for each number of the layout, and it fits the width. -/
def Fits : List Piece -> List Nat -> Prop
  | [], values => values = []
  | .literal _ :: rest, values => Fits rest values
  | .number _ :: _, [] => False
  | .number width :: rest, value :: values => 0 < width ∧ value < 10 ^ width ∧ Fits rest values

theorem length_padded {width value : Nat} (positive : 0 < width) (fits : value < 10 ^ width) :
    (padded width value).length = width := by
  have short := (Nat.length_toDigits_le_iff (b := 10) (by decide) positive).mpr fits
  rw [padded, List.length_leftpad]
  omega

theorem padded_isDigit {width value : Nat} {char : Char} (member : char ∈ padded width value) :
    char.isDigit = true := by
  unfold padded List.leftpad at member
  rcases List.mem_append.mp member with zero | digit
  · rw [List.eq_of_mem_replicate zero]
    decide
  · exact Nat.isDigit_of_mem_toDigits (by decide) (by decide) digit

theorem ofDigitChars_padded (width value : Nat) :
    Nat.ofDigitChars 10 (padded width value) 0 = value := by
  rw [padded, List.leftpad, Nat.ofDigitChars_append, Nat.ofDigitChars_replicate_zero, Nat.mul_zero,
    Nat.ofDigitChars_ten_toDigits]

/-- The value of a digit. -/
theorem digit_range {char : Char} (digit : char.isDigit = true) :
    48 ≤ char.toNat ∧ char.toNat < 58 := by
  simp only [Char.isDigit, Bool.and_eq_true, decide_eq_true_eq] at digit
  have lower : 48 ≤ char.toNat := digit.1
  have upper : char.toNat ≤ 57 := digit.2
  omega

theorem padded_inj {width first other : Nat} :
    padded width first = padded width other ↔ first = other := by
  refine ⟨?_, congrArg _⟩
  intro same
  rw [← ofDigitChars_padded width first, same, ofDigitChars_padded]

/-- Digits that are read as a number are below the power of their count. -/
theorem ofDigitChars_lt (text : List Char) : forall {value : Nat}, text.all Char.isDigit = true ->
    Nat.ofDigitChars 10 text value < (value + 1) * 10 ^ text.length := by
  induction text with
  | nil =>
      intro value _
      simp
  | cons char rest ih =>
      intro value digits
      rw [List.all_cons, Bool.and_eq_true] at digits
      have small : char.toNat - '0'.toNat < 10 := by
        have range := digit_range digits.1
        have zero : '0'.toNat = 48 := rfl
        omega
      rw [Nat.ofDigitChars_cons, List.length_cons, Nat.pow_succ]
      have step := @ih (10 * value + (char.toNat - '0'.toNat)) digits.2
      have room : 10 * value + (char.toNat - '0'.toNat) + 1 ≤ (value + 1) * 10 := by omega
      calc _ < _ := step
        _ ≤ (value + 1) * 10 * 10 ^ rest.length := Nat.mul_le_mul_right _ room
        _ = _ := by rw [Nat.mul_assoc, Nat.mul_comm 10]

/-- What was rendered from values that fit is read back. -/
theorem parse_render (layout : List Piece) : forall {values : List Nat}, Fits layout values ->
    parse layout (render layout values) = some values := by
  induction layout with
  | nil =>
      intro values fits
      rw [Fits] at fits
      rw [fits, render_nil, parse_nil, if_pos rfl]
  | cons piece rest ih =>
      intro values fits
      cases piece with
      | literal char =>
          simp only [render_literal, parse_literal, List.head?_cons, if_true, List.tail_cons]
          exact ih fits
      | number width =>
          cases values with
          | nil => exact absurd fits id
          | cons value values =>
              rcases fits with ⟨positive, small, others⟩
              have length := length_padded positive small
              have digits : (padded width value).all Char.isDigit = true :=
                List.all_eq_true.mpr fun char member => padded_isDigit member
              simp only [render_number, parse_number, List.take_left' length, List.drop_left' length, length, digits,
                true_and, if_true, ih others, Option.map_some, ofDigitChars_padded]

/-! ## Order -/

/-- Digits of one length are ordered like the numbers they stand for. -/
theorem ofDigitChars_lt_iff {first : List Char} : forall {second : List Char} {one two : Nat},
    first.all Char.isDigit = true -> second.all Char.isDigit = true ->
      first.length = second.length ->
        (Nat.ofDigitChars 10 first one < Nat.ofDigitChars 10 second two ↔
          one < two ∨ one = two ∧ first < second) := by
  induction first with
  | nil =>
      intro second one two _ _ length
      rw [List.eq_nil_of_length_eq_zero length.symm]
      simp
  | cons char rest ih =>
      intro second one two digits otherDigits length
      cases second with
      | nil => cases length
      | cons other others =>
          rw [List.all_cons, Bool.and_eq_true] at digits otherDigits
          have range := digit_range digits.1
          have otherRange := digit_range otherDigits.1
          have zero : '0'.toNat = 48 := rfl
          have order : char < other ↔ char.toNat < other.toNat := Iff.rfl
          have same : char = other ↔ char.toNat = other.toNat := Char.toNat_inj.symm
          rw [Nat.ofDigitChars_cons, Nat.ofDigitChars_cons,
            ih digits.2 otherDigits.2 (Nat.succ.inj length), List.cons_lt_cons_iff, order, same, zero]
          constructor
          · rintro (before | ⟨equal, later⟩)
            · by_cases heads : one = two
              · exact Or.inr ⟨heads, Or.inl (by omega)⟩
              · exact Or.inl (by omega)
            · exact Or.inr ⟨by omega, Or.inr ⟨by omega, later⟩⟩
          · rintro (before | ⟨rfl, before | ⟨equal, later⟩⟩)
            · exact Or.inl (by omega)
            · exact Or.inl (by omega)
            · exact Or.inr ⟨by omega, later⟩

theorem padded_all_isDigit (width value : Nat) : (padded width value).all Char.isDigit = true :=
  List.all_eq_true.mpr fun _ member => padded_isDigit member

/-- Padded numbers that fit are ordered like the numbers. -/
theorem padded_lt_iff {width value other : Nat} (positive : 0 < width) (fits : value < 10 ^ width)
    (otherFits : other < 10 ^ width) : padded width value < padded width other ↔ value < other := by
  have order := @ofDigitChars_lt_iff (padded width value) (padded width other) 0 0
    (padded_all_isDigit width value) (padded_all_isDigit width other)
    ((length_padded positive fits).trans (length_padded positive otherFits).symm)
  rw [ofDigitChars_padded, ofDigitChars_padded] at order
  rw [order]
  simp

/-- Digits are the padded number they stand for. -/
theorem padded_ofDigitChars {text : List Char} (digits : text.all Char.isDigit = true)
    (positive : 0 < text.length) :
    padded text.length (Nat.ofDigitChars 10 text 0) = text := by
  have fits : Nat.ofDigitChars 10 text 0 < 10 ^ text.length := by
    have bound := @ofDigitChars_lt text 0 digits
    omega
  have length := length_padded positive fits
  have forward := @ofDigitChars_lt_iff (padded text.length (Nat.ofDigitChars 10 text 0)) text 0 0
    (padded_all_isDigit _ _) digits length
  have backward := @ofDigitChars_lt_iff text (padded text.length (Nat.ofDigitChars 10 text 0)) 0 0
    digits (padded_all_isDigit _ _) length.symm
  rw [ofDigitChars_padded] at forward backward
  apply le_antisymm
  · exact not_lt.mp fun order => absurd (backward.mpr (Or.inr ⟨rfl, order⟩)) (Nat.lt_irrefl _)
  · exact not_lt.mp fun order => absurd (forward.mpr (Or.inr ⟨rfl, order⟩)) (Nat.lt_irrefl _)

/-- Texts of one length decide the order of what they begin. -/
theorem append_lt_append_iff {α : Type*} [LinearOrder α] {first second : List α} :
    forall {rest other : List α}, first.length = second.length ->
      (first ++ rest < second ++ other ↔ first < second ∨ first = second ∧ rest < other) := by
  induction second generalizing first with
  | nil =>
      intro rest other length
      rw [List.eq_nil_of_length_eq_zero length]
      simp
  | cons head tail ih =>
      intro rest other length
      cases first with
      | nil => cases length
      | cons item items =>
          rw [List.cons_append, List.cons_append, List.cons_lt_cons_iff, List.cons_lt_cons_iff,
            ih (Nat.succ.inj length), List.cons.injEq]
          tauto

/-- All texts of a layout have one length. -/
theorem length_render (layout : List Piece) : forall {values others : List Nat},
    Fits layout values -> Fits layout others ->
      (render layout values).length = (render layout others).length := by
  induction layout with
  | nil => exact fun _ _ => rfl
  | cons piece rest ih =>
      intro values others fits otherFits
      cases piece with
      | literal char => exact congrArg Nat.succ (ih fits otherFits)
      | number width =>
          cases values with
          | nil => exact fits.elim
          | cons value later =>
              cases others with
              | nil => exact otherFits.elim
              | cons other otherLater =>
                  rcases fits with ⟨positive, small, laterFits⟩
                  rcases otherFits with ⟨_, otherSmall, otherLaterFits⟩
                  rw [render_number, render_number, List.length_append, List.length_append,
                    length_padded positive small, length_padded positive otherSmall,
                    ih laterFits otherLaterFits]

/-- Rendered texts are ordered like their values. -/
theorem render_lt_iff (layout : List Piece) : forall {values others : List Nat},
    Fits layout values -> Fits layout others ->
      (render layout values < render layout others ↔ values < others) := by
  induction layout with
  | nil =>
      intro values others fits otherFits
      rw [Fits] at fits otherFits
      rw [fits, otherFits]
      simp
  | cons piece rest ih =>
      intro values others fits otherFits
      cases piece with
      | literal char =>
          rw [render_literal, render_literal, List.cons_lt_cons_iff, ih fits otherFits]
          simp
      | number width =>
          cases values with
          | nil => exact absurd fits id
          | cons value values =>
              cases others with
              | nil => exact absurd otherFits id
              | cons other others =>
                  rcases fits with ⟨positive, small, later⟩
                  rcases otherFits with ⟨_, otherSmall, otherLater⟩
                  have length := (length_padded positive small).trans
                    (length_padded positive otherSmall).symm
                  rw [render_number, render_number, append_lt_append_iff length,
                    padded_lt_iff positive small otherSmall, padded_inj, ih later otherLater,
                    List.cons_lt_cons_iff]

/-! ## What is read is what is rendered -/

/-- A text that is read is rendered again from what was read. -/
theorem render_of_parse (layout : List Piece)
    (positive : forall width, .number width ∈ layout -> 0 < width) :
    forall {text : List Char} {values : List Nat}, parse layout text = some values ->
      Fits layout values ∧ render layout values = text := by
  induction layout with
  | nil =>
      intro text values read
      rw [parse_nil] at read
      split at read
      · rename_i empty
        rw [← Option.some.inj read, empty]
        exact ⟨rfl, rfl⟩
      · cases read
  | cons piece rest ih =>
      intro text values read
      have later := @ih fun width listed => positive width (List.mem_cons_of_mem _ listed)
      cases piece with
      | literal char =>
          rw [parse_literal] at read
          split at read
          · rename_i head
            rcases later read with ⟨fits, rendered⟩
            refine ⟨fits, ?_⟩
            rw [render_literal, rendered]
            exact List.cons_head?_tail head
          · cases read
      | number width =>
          rw [parse_number] at read
          split at read
          · rename_i digits
            rcases Option.map_eq_some_iff.mp read with ⟨others, tail, rfl⟩
            rcases later tail with ⟨fits, rendered⟩
            have nonzero := positive width List.mem_cons_self
            have bound := @ofDigitChars_lt (text.take width) 0 digits.2
            rw [digits.1, Nat.zero_add, Nat.one_mul] at bound
            have number := padded_ofDigitChars digits.2 (by rw [digits.1]; exact nonzero)
            rw [digits.1] at number
            refine ⟨⟨nonzero, bound, fits⟩, ?_⟩
            rw [render_number, rendered, number, List.take_append_drop]
          · cases read

/-- A rendered text consists of digits and of the layout's literals. -/
theorem mem_render {char : Char} (layout : List Piece) : forall {values : List Nat},
    char ∈ render layout values -> char.isDigit = true ∨ .literal char ∈ layout := by
  induction layout with
  | nil =>
      intro values member
      cases member
  | cons piece rest ih =>
      intro values member
      cases piece with
      | literal other =>
          rcases List.mem_cons.mp member with rfl | later
          · exact Or.inr List.mem_cons_self
          · exact (ih later).imp_right (List.mem_cons_of_mem _)
      | number width =>
          cases values with
          | nil => cases member
          | cons value values =>
              rcases List.mem_append.mp member with digit | later
              · exact Or.inl (padded_isDigit digit)
              · exact (ih later).imp_right (List.mem_cons_of_mem _)

/-- A number that is too long for its width is not read where a literal follows. -/
theorem parse_long {width value : Nat} {char : Char} {rest : List Piece} {tail : List Char}
    (positive : 0 < width) (long : 10 ^ width ≤ value) (literal : char.isDigit = false) :
    parse (.number width :: .literal char :: rest) (padded width value ++ tail) = none := by
  have longer : width < (padded width value).length := by
    have digits := (Nat.length_toDigits_le_iff (b := 10) (n := value) (by decide) positive).not
    rw [padded, List.length_leftpad]
    omega
  have next : ((padded width value ++ tail).drop width).head? =
      some ((padded width value).get ⟨width, longer⟩) := by
    rw [List.drop_append_of_le_length (Nat.le_of_lt longer), List.head?_append, List.head?_drop,
      List.getElem?_eq_getElem longer]
    rfl
  have digit : ((padded width value).get ⟨width, longer⟩).isDigit = true :=
    padded_isDigit (List.get_mem _ _)
  have differs : ¬ some ((padded width value).get ⟨width, longer⟩) = some char := by
    intro same
    rw [Option.some.inj same, literal] at digit
    cases digit
  simp only [parse_number, parse_literal, next, if_neg differs, Option.map_none, ite_self]

/-- A text that does not begin with a digit does not begin with a number. -/
theorem parse_number_of_head {width : Nat} {char : Char} {rest : List Piece} {tail : List Char}
    (positive : 0 < width) (literal : char.isDigit = false) :
    parse (.number width :: rest) (char :: tail) = none := by
  cases width with
  | zero => exact absurd positive (Nat.lt_irrefl 0)
  | succ width => simp [parse_number, literal]

end Layout

end Library
end Basement
