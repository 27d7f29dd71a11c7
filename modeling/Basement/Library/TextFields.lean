import Basement.Library.PercentEncoding
import Mathlib.Data.Nat.Digits.Defs

namespace Basement
namespace Library

/-!
# Texts with fields

A record becomes one text when its fields are written one behind the other with a separator in
between, and the text is taken apart again at the first separators.  This goes well for fields
that never contain the separator.  Numbers in decimal and bytes in hexadecimal are such fields:
whatever they stand for, they are written with few characters and read back as what they were.
-/

namespace TextFields

open PercentEncoding (Bytes hexValue)

/-! ## Splitting -/

/-- The text before the first separator and the text behind it. -/
def cut (separator : UInt8) : Bytes -> Option (Bytes × Bytes)
  | [] => none
  | byte :: rest =>
      if byte = separator then some ([], rest)
      else (cut separator rest).map fun parts => (byte :: parts.1, parts.2)

/-- At most `count` parts, the last of them with all further separators. -/
def splitN (separator : UInt8) : Nat -> Bytes -> List Bytes
  | 0, _ => []
  | 1, text => [text]
  | count + 2, text =>
      match cut separator text with
      | none => [text]
      | some (before, behind) => before :: splitN separator (count + 1) behind

theorem cut_append {separator : UInt8} {field : Bytes} (plain : separator ∉ field) (rest : Bytes) :
    cut separator (field ++ separator :: rest) = some (field, rest) := by
  induction field with
  | nil => exact if_pos rfl
  | cons byte field ih =>
      have parts := List.ne_and_not_mem_of_not_mem_cons plain
      rw [List.cons_append, cut, if_neg (Ne.symm parts.1), ih parts.2]
      rfl

theorem eq_of_cut {separator : UInt8} {text before behind : Bytes}
    (found : cut separator text = some (before, behind)) :
    text = before ++ separator :: behind ∧ separator ∉ before := by
  induction text generalizing before with
  | nil => cases found
  | cons byte rest ih =>
      unfold cut at found
      split at found
      · rename_i same
        cases found
        rw [same]
        exact ⟨rfl, List.not_mem_nil⟩
      · rename_i different
        rcases Option.map_eq_some_iff.mp found with ⟨parts, inner, same⟩
        cases same
        rcases ih inner with ⟨whole, plain⟩
        exact ⟨congrArg (List.cons byte) whole,
          List.not_mem_cons_of_ne_of_not_mem (Ne.symm different) plain⟩

/-- A field without a separator is split off as it is. -/
theorem splitN_append {separator : UInt8} {field : Bytes} (plain : separator ∉ field) (count : Nat)
    (rest : Bytes) :
    splitN separator (count + 2) (field ++ separator :: rest) =
      field :: splitN separator (count + 1) rest := by
  rw [splitN, cut_append plain]

/-- Whatever is in a text is in one of its parts or between them. -/
theorem mem_splitN {separator byte : UInt8} (count : Nat) : forall {text : Bytes}, byte ∈ text ->
    byte = separator ∨ Exists fun part => part ∈ splitN separator (count + 1) text ∧
      byte ∈ part := by
  induction count with
  | zero =>
      intro text member
      exact Or.inr ⟨text, List.mem_singleton_self _, member⟩
  | succ count ih =>
      intro text member
      rw [splitN]
      cases found : cut separator text with
      | none => exact Or.inr ⟨text, List.mem_singleton_self _, member⟩
      | some parts =>
          rw [(eq_of_cut found).1, List.mem_append, List.mem_cons] at member
          rcases member with before | same | behind
          · exact Or.inr ⟨parts.1, List.mem_cons_self, before⟩
          · exact Or.inl same
          · rcases ih behind with same | ⟨part, listed, inside⟩
            · exact Or.inl same
            · exact Or.inr ⟨part, List.mem_cons_of_mem _ listed, inside⟩

/-! ## Bytes in hexadecimal -/

/-- The digit in small letters. -/
def hexDigit (value : UInt8) : UInt8 := if value < 10 then 48 + value else 87 + value

def hexEncode (bytes : Bytes) : Bytes :=
  bytes.flatMap fun byte => [hexDigit (byte / 16), hexDigit (byte % 16)]

/-- Digits in pairs, in small or capital letters. -/
def hexDecode : Bytes -> Option Bytes
  | [] => some []
  | high :: low :: rest =>
      match hexValue high, hexValue low with
      | some upper, some lower => (hexDecode rest).map fun bytes => (upper * 16 + lower) :: bytes
      | _, _ => none
  | [_] => none

theorem halves_lt (byte : UInt8) : byte / 16 < 16 ∧ byte % 16 < 16 := by
  have bound := byte.toNat_lt
  rw [UInt8.lt_iff_toNat_lt, UInt8.lt_iff_toNat_lt]
  simp only [UInt8.toNat_div, UInt8.toNat_mod, UInt8.reduceToNat]
  omega

/-- A property of the sixteen digits. -/
theorem hexDigit_all {property : UInt8 -> UInt8 -> Prop}
    (all : forall number : Fin 16,
      property (UInt8.ofNat number) (hexDigit (UInt8.ofNat number)))
    {value : UInt8} (small : value < 16) : property value (hexDigit value) := by
  have here := all ⟨value.toNat, UInt8.lt_iff_toNat_lt.mp small⟩
  rwa [UInt8.ofNat_toNat] at here

theorem hexValue_hexDigit {value : UInt8} (small : value < 16) :
    hexValue (hexDigit value) = some value :=
  @hexDigit_all (fun value digit => hexValue digit = some value) (by decide) value small

theorem hexDecode_hexEncode (bytes : Bytes) : hexDecode (hexEncode bytes) = some bytes := by
  induction bytes with
  | nil => rfl
  | cons byte rest ih =>
      have small := halves_lt byte
      rw [hexEncode, List.flatMap_cons, ← hexEncode, List.cons_append, List.cons_append,
        List.nil_append, hexDecode]
      simp only [hexValue_hexDigit small.1, hexValue_hexDigit small.2, ih, Option.map_some,
        PercentEncoding.digits]

/-- What is written in hexadecimal has no separator that is not a digit. -/
theorem not_mem_hexEncode {separator : UInt8} (noDigit : hexValue separator = none)
    (bytes : Bytes) : separator ∉ hexEncode bytes := by
  intro member
  rcases List.mem_flatMap.mp member with ⟨byte, _, digit⟩
  have small := halves_lt byte
  rcases List.mem_cons.mp digit with rfl | low
  · rw [hexValue_hexDigit small.1] at noDigit
    cases noDigit
  · rw [List.mem_singleton.mp low, hexValue_hexDigit small.2] at noDigit
    cases noDigit

/-- What is read as hexadecimal has none either. -/
theorem not_mem_of_hexDecode {separator : UInt8} (noDigit : hexValue separator = none)
    {text : Bytes} : forall {bytes : Bytes}, hexDecode text = some bytes -> separator ∉ text := by
  induction text using hexDecode.induct with
  | case1 => exact fun _ => List.not_mem_nil
  | case2 high low rest upper lower lowRead highRead ih =>
      intro bytes read
      rw [hexDecode, highRead, lowRead] at read
      rcases Option.map_eq_some_iff.mp read with ⟨tail, readTail, _⟩
      refine List.not_mem_cons_of_ne_of_not_mem ?_
        (List.not_mem_cons_of_ne_of_not_mem ?_ (ih readTail))
      · rintro rfl
        rw [noDigit] at highRead
        cases highRead
      · rintro rfl
        rw [noDigit] at lowRead
        cases lowRead
  | case3 high low rest missing =>
      intro bytes read
      rw [hexDecode] at read
      cases one : hexValue high with
      | none =>
          rw [one] at read
          cases read
      | some upper =>
          cases two : hexValue low with
          | none =>
              rw [one, two] at read
              cases read
          | some lower => exact absurd two (missing upper lower one)
  | case4 single =>
      intro bytes read
      cases read

/-! ## Numbers in decimal -/

def minus : UInt8 := 45

def plus : UInt8 := 43

def isDigit (byte : UInt8) : Bool := 48 ≤ byte && byte ≤ 57

def formatNat (value : Nat) : Bytes := (Nat.toDigits 10 value).map Char.toUInt8

def formatInt (value : Int) : Bytes :=
  if value < 0 then minus :: formatNat value.natAbs else formatNat value.natAbs

/-- Digits, and at least one. -/
def parseNat (text : Bytes) : Option Nat :=
  if text ≠ [] ∧ text.all isDigit = true then
    some (Nat.ofDigitChars 10 (text.map Char.ofUInt8) 0)
  else none

/-- Digits with a sign in front or none, of any length. -/
def parseSigned : Bytes -> Option Int
  | [] => none
  | first :: rest =>
      if first = minus then (parseNat rest).map fun value : Nat => -(value : Int)
      else if first = plus then (parseNat rest).map fun value : Nat => (value : Int)
      else (parseNat (first :: rest)).map fun value : Nat => (value : Int)

/-- The characters of a digit and its byte. -/
theorem digit_toUInt8 {char : Char} (digit : char.isDigit = true) :
    isDigit char.toUInt8 = true ∧ Char.ofUInt8 char.toUInt8 = char := by
  have range : 48 ≤ char.toNat ∧ char.toNat ≤ 57 := by
    simp only [Char.isDigit, Bool.and_eq_true, decide_eq_true_eq] at digit
    exact digit
  have all : forall number : Fin 58, 48 ≤ number.val ->
      isDigit (Char.ofNat number).toUInt8 = true ∧
        Char.ofUInt8 (Char.ofNat number).toUInt8 = Char.ofNat number := by decide
  have here := all ⟨char.toNat, by omega⟩ range.1
  rwa [Char.ofNat_toNat] at here

theorem formatNat_digits (value : Nat) :
    formatNat value ≠ [] ∧ (formatNat value).all isDigit = true ∧
      (formatNat value).map Char.ofUInt8 = Nat.toDigits 10 value := by
  have digits : forall char, char ∈ Nat.toDigits 10 value -> char.isDigit = true :=
    fun char member => Nat.isDigit_of_mem_toDigits (by decide) (by decide) member
  refine ⟨fun empty => Nat.toDigits_ne_nil (List.map_eq_nil_iff.mp empty), ?_, ?_⟩
  · refine List.all_eq_true.mpr fun byte member => ?_
    rcases List.mem_map.mp member with ⟨char, listed, rfl⟩
    exact (digit_toUInt8 (digits char listed)).1
  · rw [formatNat, List.map_map]
    refine (List.map_congr_left fun char member => ?_).trans (List.map_id _)
    exact (digit_toUInt8 (digits char member)).2

theorem parseNat_formatNat (value : Nat) : parseNat (formatNat value) = some value := by
  rcases formatNat_digits value with ⟨filled, digits, back⟩
  rw [parseNat, if_pos ⟨filled, digits⟩, back, Nat.ofDigitChars_ten_toDigits]

/-- A number is read back, whatever its sign is. -/
theorem parseSigned_formatInt (value : Int) : parseSigned (formatInt value) = some value := by
  unfold formatInt
  split
  · rename_i negative
    rw [parseSigned, if_pos rfl, parseNat_formatNat, Option.map_some]
    congr 1
    omega
  · rename_i positive
    have back := parseNat_formatNat value.natAbs
    rcases formatNat_digits value.natAbs with ⟨filled, digits, _⟩
    cases text : formatNat value.natAbs with
    | nil => exact absurd text filled
    | cons first rest =>
        rw [text] at back digits
        have digit : isDigit first = true := List.all_eq_true.mp digits first List.mem_cons_self
        have unsigned : first ≠ minus ∧ first ≠ plus := by
          constructor
          · rintro rfl
            exact absurd digit (by decide)
          · rintro rfl
            exact absurd digit (by decide)
        rw [parseSigned, if_neg unsigned.1, if_neg unsigned.2, back, Option.map_some]
        congr 1
        omega

/-- A number is written with digits and a sign. -/
theorem not_mem_formatInt {separator : UInt8} (noDigit : isDigit separator = false)
    (noSign : separator ≠ minus) (value : Int) : separator ∉ formatInt value := by
  have digits : separator ∉ formatNat value.natAbs := by
    intro member
    rw [List.all_eq_true.mp (formatNat_digits value.natAbs).2.1 separator member] at noDigit
    cases noDigit
  unfold formatInt
  split
  · exact List.not_mem_cons_of_ne_of_not_mem noSign digits
  · exact digits

theorem not_mem_of_parseNat {separator : UInt8} (noDigit : isDigit separator = false)
    {text : Bytes} {value : Nat} (read : parseNat text = some value) : separator ∉ text := by
  unfold parseNat at read
  split at read
  · rename_i digits
    intro member
    rw [List.all_eq_true.mp digits.2 separator member] at noDigit
    cases noDigit
  · cases read

/-- What is read as a number has digits and a sign. -/
theorem not_mem_of_parseSigned {separator : UInt8} (noDigit : isDigit separator = false)
    (noSign : separator ≠ minus ∧ separator ≠ plus) {text : Bytes} {value : Int}
    (read : parseSigned text = some value) : separator ∉ text := by
  cases text with
  | nil => exact List.not_mem_nil
  | cons first rest =>
      rw [parseSigned] at read
      split at read
      · rename_i negative
        rcases Option.map_eq_some_iff.mp read with ⟨_, digits, _⟩
        exact List.not_mem_cons_of_ne_of_not_mem (negative ▸ noSign.1)
          (not_mem_of_parseNat noDigit digits)
      · split at read
        · rename_i positive
          rcases Option.map_eq_some_iff.mp read with ⟨_, digits, _⟩
          exact List.not_mem_cons_of_ne_of_not_mem (positive ▸ noSign.2)
            (not_mem_of_parseNat noDigit digits)
        · rcases Option.map_eq_some_iff.mp read with ⟨_, digits, _⟩
          exact not_mem_of_parseNat noDigit digits

end TextFields

end Library
end Basement
