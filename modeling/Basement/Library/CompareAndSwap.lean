import Mathlib.Data.List.Basic
import Mathlib.Data.List.Count
import Mathlib.Tactic.Linarith

namespace Basement
namespace Library

/-!
# Compare-and-swap on a version counter

A register is guarded by a version.  A writer presents the version it expects;
its write is accepted only when that is the current version, and an accepted
write moves the version on by one.  A refused write, for whatever reason, leaves
the version alone.

`History start attempts current` says that a list of attempts, oldest first, is
one the register allows.  Whatever the order in which writers read and write,
the version counts the accepted writes, and no version is taken twice.
-/

/-- One finished attempt: the version it expected and whether it was accepted. -/
structure Attempt where
  expected : Int
  accepted : Bool
  deriving DecidableEq, Repr

/-- The attempts that lead a register from one version to another. -/
inductive History (start : Int) : List Attempt -> Int -> Prop where
  | fresh : History start [] start
  | accept {attempts : List Attempt} {current : Int} (before : History start attempts current) :
      History start (attempts ++ [⟨current, true⟩]) (current + 1)
  | refuse {attempts : List Attempt} {current : Int} (before : History start attempts current)
      (expected : Int) : History start (attempts ++ [⟨expected, false⟩]) current

namespace History

variable {start current : Int} {attempts : List Attempt}

/-- The version counts the accepted attempts. -/
theorem version_eq (history : History start attempts current) :
    current = start + attempts.countP (fun attempt => attempt.accepted) := by
  induction history with
  | fresh => simp
  | accept before ih =>
      rw [List.countP_append, ih]
      simp
      omega
  | refuse before expected ih =>
      rw [List.countP_append]
      simpa using ih

/-- Every accepted attempt expected a version the register has left behind. -/
theorem accepted_lt (history : History start attempts current) {attempt : Attempt}
    (listed : attempt ∈ attempts) (accepted : attempt.accepted = true) :
    attempt.expected < current := by
  induction history with
  | fresh => cases listed
  | accept before ih =>
      rcases List.mem_append.mp listed with earlier | last
      · exact lt_trans (ih earlier) (by omega)
      · rw [List.mem_singleton.mp last]
        exact Int.lt_succ _
  | refuse before expected ih =>
      rcases List.mem_append.mp listed with earlier | last
      · exact ih earlier
      · rw [List.mem_singleton.mp last] at accepted
        cases accepted

/-- At most one attempt is accepted for each expected version. -/
theorem accepted_once (history : History start attempts current) (expected : Int) :
    attempts.countP (fun attempt => attempt.accepted && attempt.expected == expected) ≤ 1 := by
  induction history with
  | fresh => simp
  | accept before ih =>
      rename_i earlier version
      rw [List.countP_append]
      by_cases same : version = expected
      · have none : earlier.countP
            (fun attempt => attempt.accepted && attempt.expected == expected) = 0 := by
          rw [List.countP_eq_zero]
          intro attempt listed matching
          simp only [Bool.and_eq_true, beq_iff_eq] at matching
          have behind := before.accepted_lt listed matching.1
          omega
        simp [none, same]
      · simpa [same] using ih
  | refuse before other ih => simpa [List.countP_append] using ih

end History

end Library
end Basement
