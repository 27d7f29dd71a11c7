import Basement.Library.SortedStore

namespace Basement
namespace Library

/-!
# Caches whose entries come from somewhere

The entries of a cache carry a tag that says where they come from.  Tags are retired over time,
and an entry with a retired tag is stale.  The two rules say exactly when a write keeps a cache
free of stale entries, and when an eviction that goes with the retirement of a tag does.
-/

namespace SortedStore

variable {κ ν τ : Type*} [LinearOrder κ] {cache : SortedStore κ ν} (tag : ν -> τ)

/-- No entry is stale. -/
def Current (retired : List τ) (cache : SortedStore κ ν) : Prop :=
  cache.Every fun _ value => tag value ∉ retired

variable {tag} {retired : List τ}

theorem current_put_iff (current : cache.Current tag retired) (key : κ) (value : ν) :
    (cache.put key value).Current tag retired ↔ tag value ∉ retired :=
  every_put_iff current key value

/-- An eviction that goes with the retirement of a tag has to reach all entries with the tag. -/
theorem current_erase_retire_iff (current : cache.Current tag retired) (key : κ) (old : τ) :
    (cache.erase key).Current tag (old :: retired) ↔
      cache.Every fun other value => tag value = old -> other = key := by
  constructor
  · intro after other value found tagged
    by_contra different
    have kept : (cache.erase key).get? other = some value := by
      rw [get?_erase, if_neg different]
      exact found
    exact after other value kept (tagged ▸ List.mem_cons_self)
  · intro reached other value found stale
    rcases get?_erase_eq_some.mp found with ⟨different, before⟩
    rcases List.mem_cons.mp stale with tagged | earlier
    · exact different (reached other value before tagged)
    · exact current other value before earlier

/-- A tag that no entry has can be retired. -/
theorem Current.retire (current : cache.Current tag retired) {old : τ}
    (unused : cache.Every fun _ value => tag value ≠ old) : cache.Current tag (old :: retired) := by
  intro key value found stale
  rcases List.mem_cons.mp stale with tagged | earlier
  · exact unused key value found tagged
  · exact current key value found earlier

end SortedStore

end Library
end Basement
