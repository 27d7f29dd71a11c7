import Mathlib.Logic.Basic

namespace Basement
namespace Library

/-!
# Memory that is saved

An operation on a memory answers with a value or an error and leaves a memory.  What can be read
of a memory is a view of it.  `FailsUnseen` says that an operation which answers with an error
changes nothing that can be read.

`saving` is the end of an operation: the changed memory is saved, and when this fails, some
memory is kept.  Keeping the changed one shows the failed change to every reader.
-/

variable {Memory View Value Error : Type*} (view : Memory -> View)

/-- If the answer is an error, every read answers as before. -/
def FailsUnseen (before : Memory) (reply : Except Error Value × Memory) : Prop :=
  forall error, reply.1 = .error error -> view reply.2 = view before

/-- Save `next`.  When that fails, `kept` is left in memory. -/
def saving (failure : Option Error) (value : Value) (next kept : Memory) :
    Except Error Value × Memory :=
  match failure with
  | some error => (.error error, kept)
  | none => (.ok value, next)

variable {view} {before after next kept : Memory} {value : Value} {failure : Option Error}

/-- When the changed memory is kept, it is there whether or not it was saved. -/
theorem saving_memory : (saving failure value next next).2 = next := by
  cases failure with
  | none => rfl
  | some error => rfl

theorem FailsUnseen.refused (error : Error) :
    FailsUnseen view before ((.error error, before) : Except Error Value × Memory) :=
  fun _ _ => rfl

theorem FailsUnseen.answered :
    FailsUnseen view before ((.ok value, after) : Except Error Value × Memory) := by
  intro error answer
  cases answer

theorem failsUnseen_error_iff {error : Error} :
    FailsUnseen view before ((.error error, after) : Except Error Value × Memory) ↔
      view after = view before :=
  ⟨fun unseen => unseen error rfl, fun same _ _ => same⟩

/-- A failed save is unseen if what is kept reads as before. -/
theorem failsUnseen_saving_iff :
    FailsUnseen view before (saving failure value next kept) ↔
      (failure = none ∨ view kept = view before) := by
  cases failure with
  | none => exact ⟨fun _ => Or.inl rfl, fun _ => FailsUnseen.answered⟩
  | some error =>
      refine failsUnseen_error_iff.trans ⟨Or.inr, ?_⟩
      rintro (impossible | same)
      · cases impossible
      · exact same

/-- An operation on a part of a memory is unseen in the whole if it is unseen in the part. -/
theorem FailsUnseen.part {Whole WholeView WholeValue WholeError : Type*}
    {viewWhole : Whole -> WholeView} {whole : Whole} {put : Memory -> Whole}
    {reply : Except Error Value × Memory} {answer : Except WholeError WholeValue}
    (errors : (Exists fun error => answer = .error error) ↔
      Exists fun error => reply.1 = .error error)
    (seen : forall part, viewWhole (put part) = viewWhole whole ↔ view part = view before) :
    FailsUnseen viewWhole whole (answer, put reply.2) ↔ FailsUnseen view before reply := by
  constructor
  · intro unseen error failed
    rcases errors.mpr ⟨error, failed⟩ with ⟨reason, answered⟩
    exact (seen reply.2).mp (unseen reason answered)
  · intro unseen error failed
    rcases errors.mp ⟨error, failed⟩ with ⟨reason, answered⟩
    exact (seen reply.2).mpr (unseen reason answered)

end Library
end Basement
