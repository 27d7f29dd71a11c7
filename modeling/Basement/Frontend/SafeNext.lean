import Basement.Library.UrlResolution

namespace Basement
namespace Frontend
namespace SafeNext

open Library.UrlResolution

/-!
# The page after a login

The login form takes the next page from the query.  `sanitizeNextPath` tests the first characters
of the text, and the browser resolves what passes.
-/

/-- `sanitizeNextPath`; a value that is no string is `none`. -/
def sanitizeNextPath (next : Option String) : Option String :=
  match next with
  | none => none
  | some next =>
      if ¬ "/".toList.isPrefixOf next.toList then none
      else if "//".toList.isPrefixOf next.toList || "/\\".toList.isPrefixOf next.toList then none
      else some next

/-- What passes the test begins with one slash, and is not changed. -/
theorem sanitizeNextPath_eq_some_iff {next path : String} :
    sanitizeNextPath (some next) = some path ↔ path = next ∧
      Exists fun tail => next.toList = '/' :: tail ∧ tail.head?.any isSlash = false := by
  have same : path = next ↔ next = path := eq_comm
  simp only [sanitizeNextPath, same]
  cases chars : next.toList with
  | nil => simp
  | cons first tail =>
      by_cases slash : first = '/'
      · subst slash
        cases tail with
        | nil => simp
        | cons second rest =>
            by_cases forward : second = '/'
            · simp [forward, isSlash]
            · by_cases backward : second = '\\'
              · simp [backward, isSlash]
              · simp [Ne.symm forward, Ne.symm backward, forward, backward, isSlash]
      · simp [Ne.symm slash, slash]

/-- What the form accepts leads to the origin of the page, and what begins with a slash that is not
followed by another one, and leads there, is accepted. -/
def StaysOnOrigin (parseHost : List Char -> Option String) (base : Origin) (next : String) : Prop :=
  (forall path, sanitizeNextPath (some next) = some path ->
      Exists fun tail => path.toList = '/' :: tail ∧
        Exists fun url => resolve parseHost base tail = some url ∧ url.origin = base) ∧
    forall tail, next.toList = '/' :: tail -> tail.head? ≠ some '/' -> tail.head? ≠ some '\\' ->
      (Exists fun url => resolve parseHost base tail = some url ∧ url.origin = base) ->
      sanitizeNextPath (some next) = some next

/-- A second slash or backslash comes after the first one, with nothing but tabs and newlines in
between, and at least one of them. -/
def HidesSlash (next : String) : Prop :=
  Exists fun tail => next.toList = '/' :: tail ∧ tail.head?.any isSlash = false ∧
    (tail.dropWhile isTabOrNewline).head?.any isSlash = true

/-- A text is safe on every page exactly if it hides no slash. -/
theorem stays_on_origin_iff (parseHost : List Char -> Option String) (next : String) :
    (forall base, StaysOnOrigin parseHost base next) ↔ ¬ HidesSlash next := by
  constructor
  · rintro stays ⟨tail, chars, passes, hidden⟩
    rcases @exists_origin_ne parseHost tail hidden with ⟨base, leads⟩
    rcases (stays base).1 next (sanitizeNextPath_eq_some_iff.mpr ⟨rfl, tail, chars, passes⟩) with
      ⟨other, same, url, resolved, origin⟩
    rw [chars] at same
    cases same
    exact leads url resolved origin
  · intro plain base
    constructor
    · intro path accepted
      rcases sanitizeNextPath_eq_some_iff.mp accepted with ⟨rfl, tail, chars, passes⟩
      refine ⟨tail, chars, resolve_path ?_ base⟩
      by_contra hidden
      rw [Bool.not_eq_false] at hidden
      exact plain ⟨tail, chars, passes, hidden⟩
    · intro tail chars notForward notBackward _
      refine sanitizeNextPath_eq_some_iff.mpr ⟨rfl, tail, chars, ?_⟩
      cases tail with
      | nil => rfl
      | cons second rest =>
          have forward : second ≠ '/' := fun same => notForward (congrArg some same)
          have backward : second ≠ '\\' := fun same => notBackward (congrArg some same)
          simp [isSlash, forward, backward]

/-- With a tab behind the slash, the next page may be one of another site. -/
theorem hidden_slash_leaves :
    ¬ forall base next, StaysOnOrigin (fun host => some (String.ofList host)) base next := by
  intro claimed
  have stays := (claimed ⟨.https, "basement.example", none⟩ "/\t/evil.com").1 "/\t/evil.com"
    (by decide +kernel)
  rcases stays with ⟨tail, chars, url, resolved, origin⟩
  have same : tail = ['\t', '/', 'e', 'v', 'i', 'l', '.', 'c', 'o', 'm'] :=
    (List.cons.inj (chars.symm.trans
      (show "/\t/evil.com".toList = '/' :: ['\t', '/', 'e', 'v', 'i', 'l', '.', 'c', 'o', 'm'] by
        decide +kernel))).2
  rw [same] at resolved
  have leads : resolve (fun host => some (String.ofList host)) ⟨.https, "basement.example", none⟩
      ['\t', '/', 'e', 'v', 'i', 'l', '.', 'c', 'o', 'm'] =
        some ⟨⟨.https, "evil.com", none⟩, []⟩ := by decide +kernel
  rw [leads] at resolved
  cases resolved
  revert origin
  decide

end SafeNext
end Frontend
end Basement
