import Basement.Library.RejectionSampling
import Mathlib.Data.FinEnum

namespace Basement
namespace Config

open Library Library.RejectionSampling

/-!
# A random password

`randomPassword` reads random bytes in blocks, rejects those at or above `maxByte`, and makes a
character of each of the others.  `sample_randomPassword` says that the blocks do not show in the
password, and `randomPassword_unbiased` that no password is more likely than another.
-/

namespace RandomPassword

abbrev Bytes := List UInt8

/-- Letters and digits without those that look alike. -/
def alphabet : Bytes := "ABCDEFGHJKLMNPQRSTUVWXYZabcdefghijkmnpqrstuvwxyz23456789".toUTF8.toList

/-- The largest multiple of the size of the alphabet that fits in a byte. -/
def maxByte : Nat := 256 - 256 % alphabet.length

def character (byte : UInt8) : UInt8 := alphabet.getD (byte.toNat % alphabet.length) 0

/-- The loop on the bytes of one block. -/
def fill (length : Nat) : Bytes -> Bytes -> Bytes
  | [], out => out
  | byte :: buf, out =>
      if byte.toNat < maxByte then
        if (out ++ [character byte]).length = length then out ++ [character byte]
        else fill length buf (out ++ [character byte])
      else fill length buf out

/-- The loop on the blocks, given what `rand.Read` answers.  There is no answer while it waits for
a block. -/
def fillAll (length : Nat) : List (Except String Bytes) -> Bytes -> Option (Except String Bytes)
  | reads, out =>
      if out.length < length then
        match reads with
        | [] => none
        | .error error :: _ => some (.error error)
        | .ok buf :: rest => fillAll length rest (fill length buf out)
      else some (.ok out)

/-- `randomPassword`; each block has as many bytes as the password. -/
def randomPassword (length : Nat) (reads : List (Except String Bytes)) :
    Option (Except String Bytes) := fillAll length reads []

/-- The character that a byte stands for. -/
def accept (byte : UInt8) : Option UInt8 :=
  if byte.toNat < maxByte then some (character byte) else none

theorem fill_eq {length : Nat} (buf : Bytes) {out : Bytes} (room : out.length < length) :
    fill length buf out = out ++ (buf.filterMap accept).take (length - out.length) := by
  induction buf generalizing out with
  | nil => rw [fill, List.filterMap_nil, List.take_nil, List.append_nil]
  | cons byte buf ih =>
      unfold fill
      by_cases small : byte.toNat < maxByte
      · have accepted : accept byte = some (character byte) := if_pos small
        rw [if_pos small, List.filterMap_cons_some accepted, List.length_append,
          List.length_singleton]
        by_cases full : out.length + 1 = length
        · rw [if_pos full, ← full, Nat.add_sub_cancel_left, List.take_succ_cons, List.take_zero]
        · have more : (out ++ [character byte]).length < length := by
            rw [List.length_append, List.length_singleton]
            exact Nat.lt_of_le_of_ne room full
          have left : length - out.length = length - (out.length + 1) + 1 := by omega
          rw [if_neg full, ih more, List.length_append, List.length_singleton, left,
            List.take_succ_cons, List.append_assoc, List.singleton_append]
      · have rejected : accept byte = none := if_neg small
        rw [if_neg small, List.filterMap_cons_none rejected, ih room]

/-- Without faults the loop returns the first characters accepted, in whatever blocks they
come. -/
theorem fillAll_ok {length : Nat} (blocks : List Bytes) {out : Bytes}
    (short : out.length ≤ length) :
    fillAll length (blocks.map .ok) out =
      (sample accept (length - out.length) blocks.flatten).map fun rest => .ok (out ++ rest) := by
  induction blocks generalizing out with
  | nil =>
      unfold fillAll
      by_cases room : out.length < length
      · obtain ⟨wanted, left⟩ : Exists fun wanted => length - out.length = wanted + 1 :=
          Nat.exists_eq_succ_of_ne_zero (Nat.sub_ne_zero_of_lt room)
        rw [if_pos room, left, List.flatten_nil, sample_nil]
        rfl
      · rw [if_neg room, Nat.sub_eq_zero_of_le (Nat.le_of_not_lt room), sample_zero,
          Option.map_some, List.append_nil]
  | cons block blocks ih =>
      unfold fillAll
      by_cases room : out.length < length
      · rw [if_pos room]
        have filled := fill_eq block room
        have within : (fill length block out).length ≤ length := by
          rw [filled, List.length_append]
          have taken := List.length_take_le (length - out.length) (block.filterMap accept)
          omega
        change fillAll length (blocks.map .ok) (fill length block out) = _
        have left : length - (fill length block out).length = length - out.length -
            ((block.filterMap accept).take (length - out.length)).length := by
          rw [filled, List.length_append, Nat.sub_add_eq]
        rw [ih within, left, List.flatten_cons, sample_append, Option.map_map, filled]
        apply congrArg (fun function => Option.map function _)
        funext rest
        exact congrArg Except.ok (List.append_assoc _ _ _)
      · rw [if_neg room, Nat.sub_eq_zero_of_le (Nat.le_of_not_lt room), sample_zero,
          Option.map_some, List.append_nil]

theorem randomPassword_ok (length : Nat) (blocks : List Bytes) :
    randomPassword length (blocks.map Except.ok) =
      (sample accept length blocks.flatten).map Except.ok :=
  fillAll_ok blocks (Nat.zero_le length)

theorem accept_alphabet {byte value : UInt8} (accepted : accept byte = some value) :
    value ∈ alphabet := by
  unfold accept at accepted
  split at accepted
  · cases accepted
    have inside : byte.toNat % alphabet.length < alphabet.length := Nat.mod_lt _ (by decide +kernel)
    unfold character
    rw [List.getD_eq_getElem?_getD, List.getElem?_eq_getElem inside, Option.getD_some]
    exact List.getElem_mem inside
  · cases accepted

theorem card_byte : Fintype.card UInt8 = 256 :=
  FinEnum.card_eq_fintypeCard.symm.trans FinEnum.card_UInt8

/-- Each character is accepted for four bytes, and thirty-two bytes are rejected. -/
theorem accept_uniform : (forall value, value ∈ alphabet ->
    Fintype.card {byte // accept byte = some value} = 4) ∧
      Fintype.card {byte // accept byte = none} = 32 := by
  constructor
  · have all : (alphabet.all fun value =>
        decide (Fintype.card {byte // accept byte = some value} = 4)) = true := by decide +kernel
    intro value member
    exact of_decide_eq_true (List.all_eq_true.mp all value member)
  · decide +kernel

/-- How many ways of drawing the blocks give a password. -/
def chances (length blocks : Nat) (password : Bytes) : Nat :=
  Fintype.card {reads : Fin blocks -> Fin length -> UInt8 // randomPassword length
    (List.ofFn fun block => .ok (List.ofFn (reads block))) = some (.ok password)}

/-- A password of the length and the alphabet asked for comes of as many ways of drawing the blocks
as any other such password, and nothing else comes of any. -/
theorem randomPassword_unbiased (length blocks : Nat) (password : Bytes) :
    chances length blocks password =
      if password.length = length ∧ password.all alphabet.contains = true then
        ways 256 4 32 (blocks * length) length
      else 0 := by
  have drawn : forall reads : Fin blocks -> Fin length -> UInt8,
      randomPassword length (List.ofFn fun block => .ok (List.ofFn (reads block))) =
          some (.ok password) ↔
        sample accept length (List.ofFn fun block => List.ofFn (reads block)).flatten =
          some password := by
    intro reads
    have mapped : (List.ofFn fun block => (.ok (List.ofFn (reads block)) : Except String Bytes)) =
        (List.ofFn fun block => List.ofFn (reads block)).map .ok := by
      rw [List.map_ofFn]
      rfl
    rw [mapped, randomPassword_ok]
    constructor
    · intro returned
      rcases Option.map_eq_some_iff.mp returned with ⟨values, sampled, same⟩
      cases same
      exact sampled
    · intro sampled
      rw [sampled]
      rfl
  rw [chances, Fintype.card_congr (Equiv.subtypeEquivRight drawn),
    card_blocks fun draws => sample accept length draws = some password]
  split
  · next fits =>
      rcases fits with ⟨rfl, inside⟩
      have uniform : forall value, value ∈ password ->
          Fintype.card {byte // accept byte = some value} = 4 := by
        intro value member
        have listed := List.all_eq_true.mp inside value member
        exact accept_uniform.1 value (List.contains_iff_mem.mp listed)
      rw [card_sample password uniform, accept_uniform.2, card_byte]
  · next unfit =>
      apply Fintype.card_eq_zero_iff.mpr
      refine ⟨?_⟩
      rintro ⟨draws, sampled⟩
      refine unfit ⟨(sample_some sampled).1, List.all_eq_true.mpr ?_⟩
      intro value member
      rcases (sample_some sampled).2 value member with ⟨byte, _, accepted⟩
      exact List.contains_iff_mem.mpr (accept_alphabet accepted)

end RandomPassword

end Config
end Basement
