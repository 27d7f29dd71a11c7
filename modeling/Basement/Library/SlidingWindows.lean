import Mathlib.Data.Set.Finite.Lattice
import Mathlib.Data.Set.Finite.Lemmas

namespace Basement
namespace Library

/-!
# Retention by sliding windows

Times fall into periods of several kinds, and the periods of a kind are numbered in the order
of time.  A policy keeps, for each kind, the latest time of each of the last so many periods,
and everything that lies in the future.

What a policy keeps depends on the moment.  As the moment advances the windows only move
forward, so a time that was dropped is never wanted again, and it was not the latest of its
periods when a later one is wanted.  Dropping early and dropping late therefore come to the
same.
-/

namespace SlidingWindows

/-- The kinds of periods of a policy and how many of each it keeps. -/
structure Policy (Kind Time : Type*) [LinearOrder Time] where
  period : Kind -> Time -> Int
  monotone : forall kind {before after}, before ≤ after -> period kind before ≤ period kind after
  width : Kind -> Int

variable {Kind Time : Type*} [LinearOrder Time] (policy : Policy Kind Time)

/-- The time lies in a period of the window at the moment. -/
def Policy.InWindow (kind : Kind) (now time : Time) : Prop :=
  policy.period kind now - policy.width kind < policy.period kind time ∧
    policy.period kind time ≤ policy.period kind now

/-- Nothing in the period of the time is later. -/
def Policy.Latest (kind : Kind) (times : Set Time) (time : Time) : Prop :=
  forall other, other ∈ times -> policy.period kind other = policy.period kind time -> other ≤ time

/-- The policy keeps the time at the moment. -/
def Policy.Keeps (times : Set Time) (now time : Time) : Prop :=
  now < time ∨ Exists fun kind => policy.InWindow kind now time ∧ policy.Latest kind times time

/-- What is held is enough for every moment from now on: of all that was ever taken, the
policy keeps nothing that is gone. -/
structure Policy.Covers (taken held : Set Time) (since : Option Time) : Prop where
  held_taken : held ⊆ taken
  kept_held : forall now, (forall before, before ∈ since -> before ≤ now) ->
    forall time, time ∈ taken -> policy.Keeps taken now time -> time ∈ held

variable {policy}

theorem Policy.Latest.mono {kind : Kind} {times more : Set Time} {time : Time}
    (latest : policy.Latest kind more time) (part : times ⊆ more) : policy.Latest kind times time :=
  fun other member same => latest other (part member) same

theorem Policy.Keeps.mono {times more : Set Time} {now time : Time}
    (keeps : policy.Keeps more now time) (part : times ⊆ more) : policy.Keeps times now time := by
  rcases keeps with future | ⟨kind, inside, latest⟩
  · exact Or.inl future
  · exact Or.inr ⟨kind, inside, latest.mono part⟩

/-- Wider windows keep more. -/
theorem Policy.Keeps.widen {wide : Policy Kind Time} {times : Set Time} {now time : Time}
    (same : policy.period = wide.period) (wider : forall kind, policy.width kind ≤ wide.width kind)
    (keeps : policy.Keeps times now time) : wide.Keeps times now time := by
  rcases keeps with future | ⟨kind, ⟨reached, past⟩, latest⟩
  · exact Or.inl future
  · have width := wider kind
    refine Or.inr ⟨kind, ⟨?_, same ▸ past⟩, ?_⟩
    · rw [← same]
      omega
    · intro other member samePeriod
      rw [← same] at samePeriod
      exact latest other member samePeriod

/-- Every period with a time has a latest one. -/
theorem Policy.exists_latest {times : Set Time} (finite : times.Finite) (kind : Kind) {time : Time}
    (member : time ∈ times) : Exists fun latest =>
      latest ∈ times ∧ policy.period kind latest = policy.period kind time ∧
        policy.Latest kind times latest := by
  have inPeriod := finite.subset (Set.sep_subset times fun other =>
    policy.period kind other = policy.period kind time)
  rcases Set.exists_max_image _ id inPeriod ⟨time, member, rfl⟩ with ⟨latest, ⟨taken, same⟩, bound⟩
  refine ⟨latest, taken, same, ?_⟩
  intro other otherMember otherSame
  exact bound other ⟨otherMember, otherSame.trans same⟩

/-- What the policy keeps later it keeps already. -/
theorem Policy.Keeps.earlier {times : Set Time} {now later time : Time} (order : now ≤ later)
    (keeps : policy.Keeps times later time) : policy.Keeps times now time := by
  rcases keeps with future | ⟨kind, inside, latest⟩
  · exact Or.inl (lt_of_le_of_lt order future)
  · by_cases reached : policy.period kind time ≤ policy.period kind now
    · have moved := policy.monotone kind order
      exact Or.inr ⟨kind, ⟨by have := inside.1; omega, reached⟩, latest⟩
    · refine Or.inl (lt_of_not_ge fun past => reached ?_)
      exact policy.monotone kind past

namespace Policy.Covers

variable {taken held : Set Time} {since : Option Time}

/-- From what is held the policy keeps the same as from all that was taken. -/
theorem keeps_iff (covers : policy.Covers taken held since) (finite : taken.Finite) {now : Time}
    (order : forall before, before ∈ since -> before ≤ now) {time : Time} (member : time ∈ held) :
    policy.Keeps held now time ↔ policy.Keeps taken now time := by
  constructor
  · rintro (future | ⟨kind, inside, latest⟩)
    · exact Or.inl future
    · rcases policy.exists_latest finite kind (covers.held_taken member) with
        ⟨last, lastTaken, same, lastLatest⟩
      have lastInside : policy.InWindow kind now last := by
        unfold Policy.InWindow
        rw [same]
        exact inside
      have lastHeld := covers.kept_held now order last lastTaken
        (Or.inr ⟨kind, lastInside, lastLatest⟩)
      have equal : time = last := le_antisymm
        (lastLatest time (covers.held_taken member) same.symm) (latest last lastHeld same)
      rw [equal]
      exact Or.inr ⟨kind, lastInside, lastLatest⟩
  · exact fun keeps => keeps.mono covers.held_taken

/-- So the kept times are the same. -/
theorem kept_iff (covers : policy.Covers taken held since) (finite : taken.Finite) {now : Time}
    (order : forall before, before ∈ since -> before ≤ now) (time : Time) :
    time ∈ held ∧ policy.Keeps held now time ↔ time ∈ taken ∧ policy.Keeps taken now time := by
  constructor
  · rintro ⟨member, keeps⟩
    exact ⟨covers.held_taken member, (covers.keeps_iff finite order member).mp keeps⟩
  · rintro ⟨member, keeps⟩
    have there := covers.kept_held now order time member keeps
    exact ⟨there, (covers.keeps_iff finite order there).mpr keeps⟩

/-- A new time may be taken at any moment, also one that lies in the past. -/
theorem take (covers : policy.Covers taken held since) (time : Time) :
    policy.Covers (insert time taken) (insert time held) since := by
  refine ⟨Set.insert_subset_insert covers.held_taken, ?_⟩
  intro now order other member keeps
  rcases Set.mem_insert_iff.mp member with same | before
  · exact Or.inl same
  · exact Or.inr (covers.kept_held now order other before (keeps.mono (Set.subset_insert _ _)))

/-- Dropping what the policy does not keep leaves enough for all that follows. -/
theorem prune (covers : policy.Covers taken held since) (finite : taken.Finite) {now : Time}
    (order : forall before, before ∈ since -> before ≤ now) :
    policy.Covers taken {time ∈ held | policy.Keeps held now time} (some now) := by
  refine ⟨fun _ member => covers.held_taken member.1, ?_⟩
  intro later ordered time member keeps
  have passed : now ≤ later := ordered now rfl
  exact (covers.kept_iff finite order time).mpr ⟨member, keeps.earlier passed⟩

end Policy.Covers

end SlidingWindows

end Library
end Basement
