import Mathlib.Data.List.DropRight

namespace Basement
namespace Library

/-!
# References that begin with a slash

A browser resolves a reference against the URL of the page.  It first drops control characters and
blanks at both ends and tabs and newlines anywhere.  Behind the slash either another slash follows
and an authority behind that, or the path of a URL with the origin of the page.  A backslash counts
as a slash, since the schemes are `http` and `https`.

The host parser is a parameter.  Path, query and fragment are not taken apart, since reading them
neither fails nor changes the origin.
-/

namespace UrlResolution

inductive Scheme where
  | http
  | https
  deriving DecidableEq, Repr

def Scheme.defaultPort : Scheme -> Nat
  | .http => 80
  | .https => 443

/-- The port is `none` if it is the one of the scheme. -/
structure Origin where
  scheme : Scheme
  host : String
  port : Option Nat
  deriving DecidableEq, Repr

structure Url where
  origin : Origin
  /-- The path, the query and the fragment as they were written. -/
  rest : List Char
  deriving DecidableEq, Repr

/-! ## Characters -/

def isC0ControlOrSpace (c : Char) : Bool := c.toNat ≤ 32

def isTabOrNewline (c : Char) : Bool := c = '\t' || c = '\n' || c = '\r'

def isSlash (c : Char) : Bool := c = '/' || c = '\\'

def endsAuthority (c : Char) : Bool := isSlash c || c = '?' || c = '#'

/-- The text that the states of the parser see. -/
def prepare (input : List Char) : List Char :=
  ((input.dropWhile isC0ControlOrSpace).rdropWhile isC0ControlOrSpace).filter
    fun c => !isTabOrNewline c

/-! ## Authorities -/

/-- What stands behind the credentials; it is missing if there are credentials only. -/
def behindCredentials (authority : List Char) : Option (List Char) :=
  if '@' ∈ authority then
    let host := authority.rtakeWhile fun c => c ≠ '@'
    if host = [] then none else some host
  else some authority

/-- The host, and the port behind the first colon that is not in brackets. -/
def splitPort (insideBrackets : Bool) : List Char -> List Char × Option (List Char)
  | [] => ([], none)
  | c :: rest =>
      if c = ':' && !insideBrackets then ([], some rest)
      else
        let next := splitPort (if c = '[' then true else if c = ']' then false else insideBrackets) rest
        (c :: next.1, next.2)

/-- The port of the digits, in which that of the scheme is left out. -/
def parsePort (scheme : Scheme) (digits : List Char) : Option (Option Nat) :=
  if digits.all Char.isDigit then
    if digits = [] then some none
    else
      let port := Nat.ofDigitChars 10 digits 0
      if 65535 < port then none
      else if port = scheme.defaultPort then some none
      else some (some port)
  else none

variable (parseHost : List Char -> Option String)

/-- The URL of a text that begins with an authority. -/
def parseAuthority (scheme : Scheme) (text : List Char) : Option Url :=
  match behindCredentials (text.takeWhile fun c => !endsAuthority c) with
  | none => none
  | some hostPort =>
      let split := splitPort false hostPort
      if split.1 = [] then none
      else
        match parseHost split.1 with
        | none => none
        | some host =>
            let rest := text.dropWhile fun c => !endsAuthority c
            match split.2 with
            | none => some ⟨⟨scheme, host, none⟩, rest⟩
            | some digits => (parsePort scheme digits).map fun port => ⟨⟨scheme, host, port⟩, rest⟩

/-- The state behind the first slash. -/
def relativeSlash (base : Origin) (text : List Char) : Option Url :=
  if text.head?.any isSlash then parseAuthority parseHost base.scheme (text.dropWhile isSlash)
  else some ⟨base, '/' :: text⟩

/-- Resolve the reference of a slash and what follows it. -/
def resolve (base : Origin) (tail : List Char) : Option Url :=
  relativeSlash parseHost base (prepare ('/' :: tail)).tail

/-! ## Where a reference leads -/

theorem prepare_slash (tail : List Char) :
    prepare ('/' :: tail) =
      '/' :: (tail.rdropWhile isC0ControlOrSpace).filter fun c => !isTabOrNewline c := by
  have kept : ('/' :: tail).rdropWhile isC0ControlOrSpace =
      '/' :: tail.rdropWhile isC0ControlOrSpace := by
    have slash : isC0ControlOrSpace '/' = false := rfl
    unfold List.rdropWhile
    rw [List.reverse_cons, List.dropWhile_append]
    split
    · rename_i blank
      rw [List.isEmpty_iff.mp blank, List.dropWhile_cons_of_neg (by simp [slash])]
      rfl
    · rw [List.reverse_append]
      rfl
  unfold prepare
  rw [List.dropWhile_cons_of_neg (by decide), kept, List.filter_cons_of_pos (by decide)]

/-- The first character that the parser sees behind the slash is a slash exactly if the first one
is that is no tab and no newline. -/
theorem slash_seen_iff (tail : List Char) :
    (prepare ('/' :: tail)).tail.head?.any isSlash =
      (tail.dropWhile isTabOrNewline).head?.any isSlash := by
  have seen : (tail.dropWhile isTabOrNewline).head? = tail.find? fun c => !isTabOrNewline c :=
    (List.find?_not_eq_head?_dropWhile isTabOrNewline tail).symm
  rw [prepare_slash, List.tail_cons, List.head?_filter, seen]
  conv_rhs => rw [← @List.rdropWhile_append_rtakeWhile _ isC0ControlOrSpace tail]
  rw [List.find?_append]
  cases (tail.rdropWhile isC0ControlOrSpace).find? fun c => !isTabOrNewline c with
  | some c => rfl
  | none =>
      rw [Option.none_or]
      cases found : (tail.rtakeWhile isC0ControlOrSpace).find? fun c => !isTabOrNewline c with
      | none => rfl
      | some c =>
          -- only what the parser drops at the end is left, and no slash is dropped
          have dropped := List.mem_rtakeWhile_imp (List.mem_of_find?_eq_some found)
          cases slash : isSlash c with
          | false => simp [slash]
          | true =>
              simp only [isSlash, Bool.or_eq_true, decide_eq_true_eq] at slash
              rcases slash with rfl | rfl
              · cases dropped
              · cases dropped

variable {parseHost}

/-- Without a second slash the origin is that of the page. -/
theorem resolve_path {tail : List Char}
    (path : (tail.dropWhile isTabOrNewline).head?.any isSlash = false) (base : Origin) :
    Exists fun url => resolve parseHost base tail = some url ∧ url.origin = base := by
  rw [← slash_seen_iff] at path
  unfold resolve relativeSlash
  rw [path]
  exact ⟨_, rfl, rfl⟩

/-- With one, the page has no part in the origin but for its scheme. -/
theorem resolve_authority {tail : List Char}
    (authority : (tail.dropWhile isTabOrNewline).head?.any isSlash = true) (base : Origin) :
    resolve parseHost base tail =
      parseAuthority parseHost base.scheme ((prepare ('/' :: tail)).tail.dropWhile isSlash) := by
  rw [← slash_seen_iff] at authority
  unfold resolve relativeSlash
  rw [authority]
  rfl

/-- So it leads away from some page. -/
theorem exists_origin_ne {tail : List Char}
    (authority : (tail.dropWhile isTabOrNewline).head?.any isSlash = true) :
    Exists fun base => forall url, resolve parseHost base tail = some url -> url.origin ≠ base := by
  by_contra stays
  push Not at stays
  rcases stays ⟨.https, "one", none⟩ with ⟨url, first, same⟩
  rcases stays ⟨.https, "other", none⟩ with ⟨other, second, alsoSame⟩
  rw [resolve_authority authority] at first second
  rw [first] at second
  cases second
  rw [same] at alsoSame
  exact absurd (congrArg Origin.host alsoSame) (by decide)

end UrlResolution

end Library
end Basement
