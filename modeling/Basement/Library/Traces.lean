import Mathlib.Logic.Basic

namespace Basement
namespace Library

/-!
# Computations that leave effects

A computation answers with a value or an error and leaves a list of effects, which an error does
not take back.  What a check lets through is known to everything after it, so a bound on the
effects of a sequence is proved step by step, each step under what the ones before it answered.
-/

structure Traced (Effect Error Value : Type) where
  answer : Except Error Value
  effects : List Effect

namespace Traced

variable {Effect Error Failure Value Next : Type}

/-- A check, which leaves nothing. -/
def check (answer : Except Error Value) : Traced Effect Error Value := ⟨answer, []⟩

/-- An effect, and what it was answered with. -/
def reach (effect : Effect) (answer : Except Error Value) : Traced Effect Error Value :=
  ⟨answer, [effect]⟩

/-- Go on whatever the answer is. -/
def attempt (run : Traced Effect Failure Value) : Traced Effect Error (Except Failure Value) :=
  ⟨.ok run.answer, run.effects⟩

def bind (run : Traced Effect Error Value) (next : Value -> Traced Effect Error Next) :
    Traced Effect Error Next :=
  match run.answer with
  | .error error => ⟨.error error, run.effects⟩
  | .ok value => ⟨(next value).answer, run.effects ++ (next value).effects⟩

instance : Monad (Traced Effect Error) where
  pure value := ⟨.ok value, []⟩
  bind := bind

/-- One computation after the other for each item of a list. -/
def each {Item : Type} (visit : Item -> Traced Effect Error Unit) :
    List Item -> Traced Effect Error Unit
  | [] => pure ()
  | item :: rest => do
      visit item
      each visit rest

/-- A sequence answers with what its second part answers, after a first part that did. -/
theorem answer_bind {run : Traced Effect Error Value} {next : Value -> Traced Effect Error Next}
    {last : Next} :
    (run >>= next).answer = .ok last ↔
      Exists fun value => run.answer = .ok value ∧ (next value).answer = .ok last := by
  change (Traced.bind run next).answer = .ok last ↔ _
  unfold Traced.bind
  cases run.answer with
  | error error => simp
  | ok value => simp

theorem answer_check_bind {answer : Except Error Value}
    {next : Value -> Traced Effect Error Next} {last : Next} :
    (check answer >>= next).answer = .ok last ↔
      Exists fun value => answer = .ok value ∧ (next value).answer = .ok last := answer_bind

/-! ## Bounds on the effects -/

/-- Every effect is allowed. -/
structure Only (allowed : Effect -> Prop) (run : Traced Effect Error Value) : Prop where
  allows : forall effect, effect ∈ run.effects -> allowed effect

variable {allowed : Effect -> Prop}

theorem Only.check (answer : Except Error Value) :
    Only allowed (check answer : Traced Effect Error Value) := by
  constructor
  intro effect left
  cases left

theorem Only.pure (value : Value) :
    Only allowed (Pure.pure value : Traced Effect Error Value) := by
  constructor
  intro effect left
  cases left

theorem Only.reach {effect : Effect} (holds : allowed effect) (answer : Except Error Value) :
    Only allowed (reach effect answer) := by
  constructor
  intro other left
  cases List.mem_singleton.mp left
  exact holds

theorem Only.attempt {run : Traced Effect Failure Value} (bounded : Only allowed run) :
    Only allowed (attempt run : Traced Effect Error (Except Failure Value)) := ⟨bounded.allows⟩

/-- A step is bounded under what the one before it answered. -/
theorem Only.bind {run : Traced Effect Error Value} {next : Value -> Traced Effect Error Next}
    (first : Only allowed run)
    (rest : forall value, run.answer = .ok value -> Only allowed (next value)) :
    Only allowed (run >>= next) := by
  change Only allowed (Traced.bind run next)
  unfold Traced.bind
  cases answered : run.answer with
  | error error => exact ⟨first.allows⟩
  | ok value =>
      constructor
      intro effect left
      rcases List.mem_append.mp left with before | after
      · exact first.allows effect before
      · exact (rest value answered).allows effect after

/-- What comes after a check may rely on it. -/
theorem Only.check_bind {answer : Except Error Value}
    {next : Value -> Traced Effect Error Next}
    (rest : forall value, answer = .ok value -> Only allowed (next value)) :
    Only allowed (Traced.check answer >>= next) := Only.bind (Only.check answer) rest

theorem Only.each {Item : Type} {visit : Item -> Traced Effect Error Unit} {items : List Item}
    (bounded : forall item, item ∈ items -> Only allowed (visit item)) :
    Only allowed (each visit items) := by
  induction items with
  | nil => exact Only.pure ()
  | cons item rest ih =>
      apply Only.bind (bounded item (List.mem_cons_self ..))
      intro _ _
      apply ih
      intro later listed
      exact bounded later (List.mem_cons_of_mem item listed)

end Traced

end Library
end Basement
