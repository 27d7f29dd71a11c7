import Basement.Library.Rows
import Mathlib.Data.List.Nodup

namespace Basement
namespace Store

open Library

/-!
# The invite store

An invite is a row with the hash of a token.  Redeeming a token removes the row of the first
invite whose hash it matches, expired or not.  A removal that cannot be saved is undone for a
valid invite and kept for an expired one.

`compare` is the comparison of the hash with the token, and the file is the rows that the last
save has written.  Instants and durations are counted in nanoseconds.
-/

/-- `DefaultInviteTTL`. -/
def defaultInviteTTL : Int := 30 * 24 * 3600000000000

structure Invite where
  id : String
  tokenHash : String
  tokenLast4 : String
  label : String := ""
  createdBy : String := ""
  createdAt : Int
  expiresAt : Int
  deriving DecidableEq, Repr

inductive InviteError where
  | notFound
  | expired
  | persisting (text : String)
  deriving DecidableEq, Repr

/-- `invitesStore`. -/
structure Invites where
  cache : List Invite
  file : List Invite
  deriving DecidableEq, Repr

/-- An invite is in some rows and has not expired. -/
def Redeemable (rows : List Invite) (inv : Invite) (now : Int) : Prop :=
  inv ∈ rows ∧ ¬ inv.expiresAt < now

namespace Invites

variable (compare : String -> String -> Bool)

/-- `Redeem`. -/
def redeem (store : Invites) (now : Int) (plaintextToken : String) (writeError : Option String) :
    Except InviteError Invite × Invites :=
  if plaintextToken = "" then (.error .notFound, store)
  else
    match store.cache.find? fun inv => compare inv.tokenHash plaintextToken with
    | none => (.error .notFound, store)
    | some inv =>
        let rest := store.cache.eraseP fun inv => compare inv.tokenHash plaintextToken
        if inv.expiresAt < now then
          match writeError with
          | some error =>
              (.error (.persisting ("persisting expired-invite cleanup: " ++ error)),
                { store with cache := rest })
          | none => (.error .expired, ⟨rest, rest⟩)
        else
          match writeError with
          | some error =>
              (.error (.persisting ("persisting invite redemption: " ++ error)),
                { store with cache := rest ++ [inv] })
          | none => (.ok inv, ⟨rest, rest⟩)

/-- What `Create` draws for a new invite: the token, the hash that bcrypt makes of it, and the
identifier. -/
structure Draw where
  plain : Except String String
  hash : Except String String
  id : String

/-- `Create`. -/
def create (store : Invites) (draw : Draw) (now : Int) (label createdBy : String) (ttl : Int)
    (writeError : Option String) : Except String (Invite × String) × Invites :=
  let ttl := if ttl ≤ 0 then defaultInviteTTL else ttl
  match draw.plain with
  | .error error => (.error ("generating invite token: " ++ error), store)
  | .ok plain =>
      match draw.hash with
      | .error error => (.error ("hashing invite token: " ++ error), store)
      | .ok tokenHash =>
          let inv : Invite := {
            id := draw.id
            tokenHash
            tokenLast4 := String.ofList (plain.toList.drop (plain.length - 4))
            label
            createdBy
            createdAt := now
            expiresAt := now + ttl }
          match writeError with
          | some error => (.error ("persisting invite: " ++ error), store)
          | none => (.ok (inv, plain), ⟨store.cache ++ [inv], store.cache ++ [inv]⟩)

/-- What `Create` can do: fail and leave the store as it was, or append a row, in memory and in the
file, that lives as long as was asked for, or as long as the default. -/
theorem create_cases (store : Invites) (draw : Draw) (now : Int) (label createdBy : String)
    (ttl : Int) (writeError : Option String) :
    (Exists fun error =>
        store.create draw now label createdBy ttl writeError = (.error error, store)) ∨
      Exists fun inv => Exists fun plain =>
        store.create draw now label createdBy ttl writeError =
            (.ok (inv, plain), ⟨store.cache ++ [inv], store.cache ++ [inv]⟩) ∧
          inv.label = label ∧ inv.createdBy = createdBy ∧ inv.createdAt = now ∧
          inv.expiresAt = now + if ttl ≤ 0 then defaultInviteTTL else ttl := by
  unfold create
  cases draw.plain with
  | error error => exact Or.inl ⟨_, rfl⟩
  | ok plain =>
      cases draw.hash with
      | error error => exact Or.inl ⟨_, rfl⟩
      | ok tokenHash =>
          cases writeError with
          | some error => exact Or.inl ⟨_, rfl⟩
          | none => exact Or.inr ⟨_, _, rfl, rfl, rfl, rfl, rfl⟩

/-- What `Redeem` can do: nothing, drop an expired row, move a row that stays, or give out a
row, which is then gone. -/
theorem redeem_cases (store : Invites) (now : Int) (plaintextToken : String)
    (writeError : Option String) :
    (Exists fun error => store.redeem compare now plaintextToken writeError = (.error error, store)) ∨
      Exists fun inv => Exists fun before => Exists fun after =>
        compare inv.tokenHash plaintextToken = true ∧ store.cache = before ++ inv :: after ∧
          ((inv.expiresAt < now ∧ Exists fun error => Exists fun file =>
              (file = store.file ∨ file = before ++ after) ∧
                store.redeem compare now plaintextToken writeError =
                  (.error error, ⟨before ++ after, file⟩)) ∨
            (Exists fun error => store.redeem compare now plaintextToken writeError =
              (.error error, ⟨before ++ after ++ [inv], store.file⟩)) ∨
            (¬ inv.expiresAt < now ∧ store.redeem compare now plaintextToken writeError =
              (.ok inv, ⟨before ++ after, before ++ after⟩))) := by
  rw [redeem]
  split
  · exact Or.inl ⟨_, rfl⟩
  · cases found : store.cache.find? fun inv => compare inv.tokenHash plaintextToken with
    | none => exact Or.inl ⟨_, rfl⟩
    | some inv =>
        right
        rcases exists_first found with ⟨before, after, rows, matched, passed⟩
        have rest : (store.cache.eraseP fun inv => compare inv.tokenHash plaintextToken) =
            before ++ after := by
          rw [rows]
          exact eraseP_append passed matched
        refine ⟨inv, before, after, matched, rows, ?_⟩
        simp only [rest]
        split
        · rename_i expired
          left
          refine ⟨expired, ?_⟩
          cases writeError with
          | some error => exact ⟨_, store.file, Or.inl rfl, rfl⟩
          | none => exact ⟨_, before ++ after, Or.inr rfl, rfl⟩
        · rename_i valid
          right
          cases writeError with
          | some error => exact Or.inl ⟨_, rfl⟩
          | none => exact Or.inr ⟨valid, rfl⟩

end Invites

end Store
end Basement
