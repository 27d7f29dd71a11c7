import Mathlib.Data.Fin.Tuple.Basic
import Mathlib.Data.Fintype.BigOperators
import Mathlib.Data.List.OfFn
import Mathlib.Logic.Equiv.Fin.Basic

namespace Basement
namespace Library

/-!
# Rejection sampling

Draws are made one after another.  Each is accepted as a value or rejected, and the sample is the
first few values accepted.  `card_sample` counts the strings of draws that give a sample: if each
value is accepted for as many draws as any other, the number depends on the length of the sample
only.  It does not matter in which blocks the draws are made.
-/

namespace RejectionSampling

variable {Draw Value : Type*} {accept : Draw -> Option Value}

/-- The first values accepted, once there are as many as wanted. -/
def sample (accept : Draw -> Option Value) (wanted : Nat) (draws : List Draw) :
    Option (List Value) :=
  if wanted ≤ (draws.filterMap accept).length then some ((draws.filterMap accept).take wanted)
  else none

theorem sample_zero (draws : List Draw) : sample accept 0 draws = some [] := by
  unfold sample
  rw [if_pos (Nat.zero_le _), List.take_zero]

theorem sample_nil (wanted : Nat) : sample accept (wanted + 1) [] = none :=
  if_neg (Nat.not_succ_le_zero wanted)

theorem sample_rejected {draw : Draw} (rejected : accept draw = none) (wanted : Nat)
    (draws : List Draw) : sample accept wanted (draw :: draws) = sample accept wanted draws := by
  unfold sample
  rw [List.filterMap_cons_none rejected]

theorem sample_accepted {draw : Draw} {value : Value} (accepted : accept draw = some value)
    (wanted : Nat) (draws : List Draw) :
    sample accept (wanted + 1) (draw :: draws) =
      (sample accept wanted draws).map (List.cons value) := by
  unfold sample
  rw [List.filterMap_cons_some accepted, List.length_cons, List.take_succ_cons]
  by_cases enough : wanted ≤ (draws.filterMap accept).length
  · rw [if_pos enough, if_pos (Nat.succ_le_succ enough)]
    rfl
  · rw [if_neg enough, if_neg (fun more => enough (Nat.le_of_succ_le_succ more))]
    rfl

theorem sample_some {wanted : Nat} {draws : List Draw} {values : List Value}
    (sampled : sample accept wanted draws = some values) :
    values.length = wanted ∧ forall value, value ∈ values -> Exists fun draw =>
      draw ∈ draws ∧ accept draw = some value := by
  unfold sample at sampled
  split at sampled
  · next enough =>
      cases sampled
      exact ⟨List.length_take_of_le enough, fun value member =>
        List.mem_filterMap.mp (List.mem_of_mem_take member)⟩
  · cases sampled

/-- The draws behind a block give what the block leaves wanting. -/
theorem sample_append (wanted : Nat) (block rest : List Draw) :
    sample accept wanted (block ++ rest) =
      (sample accept (wanted - ((block.filterMap accept).take wanted).length) rest).map
        ((block.filterMap accept).take wanted ++ ·) := by
  by_cases enough : wanted ≤ (block.filterMap accept).length
  · rw [List.length_take_of_le enough, Nat.sub_self, sample_zero, Option.map_some,
      List.append_nil]
    unfold sample
    rw [List.filterMap_append, List.length_append, if_pos (Nat.le_add_right_of_le enough),
      List.take_append_of_le_length enough]
  · have short := Nat.le_of_not_le enough
    rw [List.take_of_length_le short]
    unfold sample
    rw [List.filterMap_append, List.length_append, List.take_append,
      List.take_of_length_le short]
    by_cases there : wanted ≤ (block.filterMap accept).length + (rest.filterMap accept).length
    · rw [if_pos there, if_pos (Nat.sub_le_iff_le_add'.mpr there)]
      rfl
    · rw [if_neg there, if_neg (fun less => there (Nat.sub_le_iff_le_add'.mp less))]
      rfl

/-! ## Counting -/

section Counting

variable [Fintype Draw] (holds : List Draw -> Prop) [DecidablePred holds]

theorem card_cons (count : Nat) :
    Fintype.card {draws : Fin (count + 1) -> Draw // holds (List.ofFn draws)} =
      ∑ first : Draw,
        Fintype.card {rest : Fin count -> Draw // holds (first :: List.ofFn rest)} := by
  rw [← Fintype.card_sigma]
  apply Fintype.card_congr
  refine Equiv.trans (Equiv.subtypeEquiv (Fin.consEquiv fun _ => Draw).symm ?_)
    (Equiv.subtypeProdEquivSigmaSubtype fun first rest => holds (first :: List.ofFn rest))
  intro draws
  rw [List.ofFn_succ]
  rfl

/-- Draws in blocks are draws one after another. -/
theorem card_blocks (blocks size : Nat) :
    Fintype.card {draws : Fin blocks -> Fin size -> Draw //
        holds (List.ofFn fun block => List.ofFn (draws block)).flatten} =
      Fintype.card {draws : Fin (blocks * size) -> Draw // holds (List.ofFn draws)} := by
  apply Fintype.card_congr
  refine Equiv.subtypeEquiv ((Equiv.curry (Fin blocks) (Fin size) Draw).symm.trans
    (Equiv.arrowCongr finProdFinEquiv (Equiv.refl Draw))) ?_
  intro draws
  have blocked : forall block index bound,
      finProdFinEquiv.symm (⟨block.val * size + index.val, bound⟩ : Fin (blocks * size)) =
        (block, index) := by
    intro block index bound
    rw [Equiv.symm_apply_eq]
    apply Fin.ext
    rw [finProdFinEquiv_apply_val]
    change block.val * size + index.val = index.val + size * block.val
    rw [Nat.add_comm, Nat.mul_comm]
  have same : List.ofFn (((Equiv.curry (Fin blocks) (Fin size) Draw).symm.trans
      (Equiv.arrowCongr finProdFinEquiv (Equiv.refl Draw))) draws) =
        (List.ofFn fun block => List.ofFn (draws block)).flatten := by
    rw [List.ofFn_mul]
    apply congrArg List.flatten
    apply congrArg List.ofFn
    funext block
    apply congrArg List.ofFn
    funext index
    change Function.uncurry draws (finProdFinEquiv.symm _) = _
    rw [blocked]
    rfl
  rw [same]

/-- How many strings of draws give a sample, where a value is accepted for `width` of the draws
and `rejected` of them are. -/
def ways (draws width rejected : Nat) : Nat -> Nat -> Nat
  | count, 0 => draws ^ count
  | 0, _ + 1 => 0
  | count + 1, wanted + 1 =>
      width * ways draws width rejected count wanted +
        rejected * ways draws width rejected count (wanted + 1)

variable [DecidableEq Value] {width : Nat}

theorem card_sample_nil (count : Nat) :
    Fintype.card {draws : Fin count -> Draw //
        sample accept 0 (List.ofFn draws) = some []} = Fintype.card Draw ^ count := by
  rw [Fintype.card_congr (Equiv.subtypeUnivEquiv fun draws => sample_zero (List.ofFn draws)),
    Fintype.card_fun, Fintype.card_fin]

/-- The first draw begins the sample, or it is rejected. -/
theorem card_sample_cons (count : Nat) (value : Value) (values : List Value) (first : Draw) :
    Fintype.card {rest : Fin count -> Draw //
        sample accept (values.length + 1) (first :: List.ofFn rest) = some (value :: values)} =
      (if accept first = some value then Fintype.card {rest : Fin count -> Draw //
          sample accept values.length (List.ofFn rest) = some values} else 0) +
        if accept first = none then Fintype.card {rest : Fin count -> Draw //
          sample accept (values.length + 1) (List.ofFn rest) = some (value :: values)} else 0 := by
  cases drawn : accept first with
  | none =>
      rw [if_neg (Option.some_ne_none value).symm, if_pos rfl, Nat.zero_add]
      apply Fintype.card_congr
      apply Equiv.subtypeEquivRight
      intro rest
      rw [sample_rejected drawn]
  | some other =>
      rw [if_neg (Option.some_ne_none other), Nat.add_zero]
      by_cases same : other = value
      · rw [if_pos (congrArg some same)]
        apply Fintype.card_congr
        apply Equiv.subtypeEquivRight
        intro rest
        rw [sample_accepted drawn, same, Option.map_eq_some_iff]
        constructor
        · rintro ⟨sampled, found, isSample⟩
          rw [found, (List.cons.inj isSample).2]
        · intro found
          exact ⟨values, found, rfl⟩
      · rw [if_neg (fun equal => same (Option.some.inj equal))]
        apply Fintype.card_eq_zero_iff.mpr
        refine ⟨?_⟩
        rintro ⟨rest, found⟩
        rw [sample_accepted drawn] at found
        rcases Option.map_eq_some_iff.mp found with ⟨sampled, _, isSample⟩
        exact same (List.cons.inj isSample).1

/-- The number of strings of draws that give a sample. -/
theorem card_sample (values : List Value)
    (uniform : forall value, value ∈ values ->
      Fintype.card {draw // accept draw = some value} = width) (count : Nat) :
    Fintype.card {draws : Fin count -> Draw //
        sample accept values.length (List.ofFn draws) = some values} =
      ways (Fintype.card Draw) width (Fintype.card {draw // accept draw = none}) count
        values.length := by
  induction count generalizing values with
  | zero =>
      cases values with
      | nil =>
          rw [List.length_nil, ways]
          exact card_sample_nil _
      | cons value values =>
          simp only [List.length_cons, List.ofFn_zero, sample_nil, ways]
          exact Fintype.card_eq_zero_iff.mpr ⟨fun draws => by cases draws.2⟩
  | succ count ih =>
      cases values with
      | nil =>
          rw [List.length_nil, ways]
          exact card_sample_nil _
      | cons value values =>
          have later := ih values fun other member =>
            uniform other (List.mem_cons_of_mem value member)
          have again := ih (value :: values) uniform
          rw [List.length_cons] at again
          rw [card_cons (fun draws => sample accept (value :: values).length draws =
            some (value :: values)), List.length_cons, ways, ← later, ← again,
            ← uniform value List.mem_cons_self]
          simp only [card_sample_cons, Finset.sum_add_distrib, ← Finset.sum_filter,
            Finset.sum_const, Nat.nsmul_eq_mul]
          simp only [Fintype.card_subtype]

end Counting

end RejectionSampling

end Library
end Basement
