import Mathlib.Data.List.Basic

namespace Basement
namespace Library

/-!
# Percent-encoding

A text is a list of bytes.  An encoder keeps the bytes of a given set and writes each other byte as
a percent sign with two hexadecimal digits.  Encoders differ in their sets only, and every one that
does not keep the percent sign is undone by the one decoder.

Decoding what was not encoded is the other half: a text without percent signs stays as it is, and
one with a percent sign never decodes to itself.
-/

namespace PercentEncoding

abbrev Bytes := List UInt8

/-- The percent sign. -/
def percent : UInt8 := 37

/-- The digit in capital letters. -/
def hexDigit (value : UInt8) : UInt8 := if value < 10 then 48 + value else 55 + value

def hexValue (digit : UInt8) : Option UInt8 :=
  if 48 ≤ digit ∧ digit ≤ 57 then some (digit - 48)
  else if 65 ≤ digit ∧ digit ≤ 70 then some (digit - 55)
  else if 97 ≤ digit ∧ digit ≤ 102 then some (digit - 87)
  else none

def encodeByte (keeps : UInt8 -> Bool) (byte : UInt8) : Bytes :=
  if keeps byte then [byte] else [percent, hexDigit (byte / 16), hexDigit (byte % 16)]

def encode (keeps : UInt8 -> Bool) (text : Bytes) : Bytes := text.flatMap (encodeByte keeps)

/-- Read a text back.  A percent sign without two digits is an error. -/
def decode : Bytes -> Option Bytes
  | [] => some []
  | byte :: rest =>
      if byte = percent then
        match rest with
        | high :: low :: tail =>
            match hexValue high, hexValue low with
            | some upper, some lower => (decode tail).map fun text => (upper * 16 + lower) :: text
            | _, _ => none
        | _ => none
      else (decode rest).map fun text => byte :: text

/-- The bytes that no encoder has to escape: letters, digits and `-_.~`. -/
def unreserved (byte : UInt8) : Bool :=
  48 ≤ byte && byte ≤ 57 || 65 ≤ byte && byte ≤ 90 || 97 ≤ byte && byte ≤ 122 ||
    [45, 95, 46, 126].contains byte

/-! ## Round trips -/

theorem hexValue_hexDigit {value : UInt8} (small : value < 16) :
    hexValue (hexDigit value) = some value := by
  have all : forall number : Fin 16,
      hexValue (hexDigit (UInt8.ofNat number)) = some (UInt8.ofNat number) := by decide
  have back := all ⟨value.toNat, by simpa using UInt8.lt_iff_toNat_lt.mp small⟩
  simpa using back

theorem digits (byte : UInt8) : byte / 16 * 16 + byte % 16 = byte := by
  apply UInt8.toNat_inj.mp
  have bound := byte.toNat_lt
  simp only [UInt8.toNat_add, UInt8.toNat_mul, UInt8.toNat_div, UInt8.toNat_mod, UInt8.reduceToNat]
  omega

theorem decode_cons {byte : UInt8} (plain : byte ≠ percent) (rest : Bytes) :
    decode (byte :: rest) = (decode rest).map fun text => byte :: text := by
  conv_lhs => unfold decode
  exact if_neg plain

theorem decode_percent (high low : UInt8) (tail : Bytes) :
    decode (percent :: high :: low :: tail) =
      match hexValue high, hexValue low with
      | some upper, some lower => (decode tail).map fun text => (upper * 16 + lower) :: text
      | _, _ => none := rfl

theorem decode_escape (byte : UInt8) (rest : Bytes) :
    decode (percent :: hexDigit (byte / 16) :: hexDigit (byte % 16) :: rest) =
      (decode rest).map fun text => byte :: text := by
  have high : byte / 16 < 16 := by
    have bound := byte.toNat_lt
    apply UInt8.lt_iff_toNat_lt.mpr
    simp only [UInt8.toNat_div, UInt8.reduceToNat]
    omega
  have low : byte % 16 < 16 := by
    apply UInt8.lt_iff_toNat_lt.mpr
    simp only [UInt8.toNat_mod, UInt8.reduceToNat]
    omega
  rw [decode_percent]
  simp only [hexValue_hexDigit high, hexValue_hexDigit low, digits]

theorem decode_encode {keeps : UInt8 -> Bool} (escaped : keeps percent = false) (text : Bytes) :
    decode (encode keeps text) = some text := by
  induction text with
  | nil => rfl
  | cons byte rest ih =>
      rw [encode, List.flatMap_cons, ← encode, encodeByte]
      split
      · rename_i kept
        have plain : byte ≠ percent := by
          rintro rfl
          rw [escaped] at kept
          cases kept
        rw [List.singleton_append, decode_cons plain, ih, Option.map_some]
      · rw [List.cons_append, List.cons_append, List.cons_append, List.nil_append,
          decode_escape, ih,
          Option.map_some]

/-! ## Texts in parts -/

/-- A byte that is no digit ends what the decoder reads before it. -/
theorem decode_separated {separator : UInt8} (plain : separator ≠ percent)
    (noDigit : hexValue separator = none) (first second : Bytes) :
    decode (first ++ separator :: second) = (decode first).bind fun before =>
      (decode second).map fun after => before ++ separator :: after := by
  induction first using decode.induct with
  | case1 => rw [List.nil_append, decode_cons plain]; rfl
  | case2 high low tail upper lower one two ih =>
      rw [List.cons_append, List.cons_append, List.cons_append, decode_percent, decode_percent]
      simp only [one, two, ih]
      cases decode tail <;> simp [Function.comp_def]
  | case3 high low tail missing =>
      rw [List.cons_append, List.cons_append, List.cons_append, decode_percent, decode_percent]
      cases one : hexValue high with
      | none => rfl
      | some upper =>
          cases two : hexValue low with
          | none => rfl
          | some lower => exact absurd two (missing upper lower one)
  | case4 rest short =>
      rcases rest with _ | ⟨high, _ | ⟨low, tail⟩⟩
      · rcases second with _ | ⟨next, later⟩
        · rfl
        · rw [List.cons_append, List.nil_append, decode_percent]
          simp only [noDigit]
          rfl
      · rw [List.cons_append, List.cons_append, List.nil_append, decode_percent]
        simp only [noDigit]
        cases hexValue high <;> rfl
      · exact absurd rfl (short high low tail)
  | case5 byte rest plainByte ih =>
      rw [List.cons_append, decode_cons plainByte, ih, decode_cons plainByte]
      cases decode rest <;> simp [Function.comp_def]

/-! ## Two encoders -/

/-- Two encoders write a text alike exactly if they keep the same of its bytes. -/
theorem encode_eq_iff {first second : UInt8 -> Bool} (escaped : first percent = false)
    (alsoEscaped : second percent = false) (text : Bytes) :
    encode first text = encode second text ↔ forall byte, byte ∈ text ->
      first byte = second byte := by
  have apart {keeps other : UInt8 -> Bool} (escaped : keeps percent = false) {byte : UInt8}
    (kept : keeps byte = true)
      (written : other byte = false) (tail others : Bytes) :
      encodeByte keeps byte ++ tail ≠ encodeByte other byte ++ others := by
    intro same
    rw [encodeByte, if_pos kept, encodeByte,
      if_neg (by rw [written]; exact Bool.false_ne_true)] at same
    have head : byte = percent := (List.cons.inj same).1
    rw [head, escaped] at kept
    cases kept
  induction text with
  | nil => simp [encode]
  | cons byte rest ih =>
      rw [List.forall_mem_cons]
      refine Iff.trans ?_ (and_congr_right fun _ => ih)
      simp only [encode, List.flatMap_cons]
      cases one : first byte <;> cases two : second byte
      · simp [encodeByte, one, two]
      · simp only [Bool.false_eq_true, false_and, iff_false]
        exact fun same => apart alsoEscaped two one _ _ same.symm
      · simp only [Bool.true_eq_false, false_and, iff_false]
        exact apart escaped one two _ _
      · simp [encodeByte, one, two]

theorem length_le_encode (keeps : UInt8 -> Bool) (text : Bytes) :
    text.length ≤ (encode keeps text).length := by
  induction text with
  | nil => exact Nat.zero_le _
  | cons byte rest ih =>
      rw [encode, List.flatMap_cons, ← encode, List.length_append, List.length_cons, encodeByte]
      split <;> simp only [List.length_cons, List.length_nil] <;> omega

/-- An encoder leaves exactly the texts alone of which it keeps every byte. -/
theorem encode_eq_self_iff (keeps : UInt8 -> Bool) (text : Bytes) :
    encode keeps text = text ↔ forall byte, byte ∈ text -> keeps byte = true := by
  induction text with
  | nil => simp [encode]
  | cons byte rest ih =>
      rw [List.forall_mem_cons, ← ih, encode, List.flatMap_cons, ← encode]
      cases kept : keeps byte with
      | true => simp [encodeByte, kept]
      | false =>
          simp only [Bool.false_eq_true, false_and, iff_false]
          intro same
          have lengths := congrArg List.length same
          have longer := length_le_encode keeps rest
          simp only [encodeByte, kept, Bool.false_eq_true, if_false, List.length_append,
            List.length_cons, List.length_nil] at lengths
          omega

/-! ## Decoding twice -/

theorem decode_of_plain {text : Bytes} (plain : percent ∉ text) : decode text = some text := by
  induction text with
  | nil => rfl
  | cons byte rest ih =>
      rcases not_or.mp (fun listed => plain (List.mem_cons.mpr listed)) with ⟨here, later⟩
      rw [decode_cons (Ne.symm here), ih later, Option.map_some]

/-- Decoding never makes a text longer, and shortens one with a percent sign. -/
theorem decode_length {text decoded : Bytes} (read : decode text = some decoded) :
    decoded.length ≤ text.length ∧ (percent ∈ text -> decoded.length < text.length) := by
  induction text using decode.induct generalizing decoded with
  | case1 =>
      cases Option.some.inj read
      exact ⟨Nat.le_refl _, fun listed => by cases listed⟩
  | case2 high low tail upper lower one two ih =>
      rw [decode_percent] at read
      simp only [one, two] at read
      rcases Option.map_eq_some_iff.mp read with ⟨rest, inner, rfl⟩
      have shorter := (ih inner).1
      simp only [List.length_cons]
      omega
  | case3 high low tail missing =>
      rw [decode_percent] at read
      split at read
      · rename_i upper lower one two
        exact absurd two (missing upper lower one)
      · cases read
  | case4 rest short =>
      rcases rest with _ | ⟨high, _ | ⟨low, tail⟩⟩
      · cases read
      · cases read
      · exact absurd rfl (short high low tail)
  | case5 byte rest plain ih =>
      rw [decode_cons plain] at read
      rcases Option.map_eq_some_iff.mp read with ⟨after, inner, rfl⟩
      have shorter := ih inner
      simp only [List.length_cons]
      refine ⟨by omega, ?_⟩
      intro listed
      rcases List.mem_cons.mp listed with here | later
      · exact absurd here.symm plain
      · exact Nat.succ_lt_succ (shorter.2 later)

theorem decode_ne_self {text decoded : Bytes} (read : decode text = some decoded)
    (listed : percent ∈ text) : decoded ≠ text := by
  rintro rfl
  exact Nat.lt_irrefl _ ((decode_length read).2 listed)

end PercentEncoding

end Library
end Basement
