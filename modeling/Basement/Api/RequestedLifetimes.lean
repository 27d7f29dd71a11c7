import Basement.Drivers.RetentionDays
import Basement.ServiceAccounts.Gates
import Basement.Store.Invites

namespace Basement
namespace Api
namespace RequestedLifetimes

open Drivers.RetentionDays (hour wrapped)
open Federation (second)
open ServiceAccounts (Accounts Claims Enforcer requireCapability)
open Store (Invite Invites)
open Store.Invites (Draw)

/-!
# Requested lifetimes

A client asks for the lifetime of a presigned URL in seconds and for that of an invite in hours.
The handlers turn the number into a `time.Duration`, an `int64` of nanoseconds, and compare the
product with the longest lifetime.  A product that does not fit wraps around before it is compared.
-/

/-! ## Presigned URLs -/

/-- `strconv.Atoi`: a sign or none, digits, and a value that an `int` holds. -/
def atoi (text : String) : Option Int :=
  let signed := text.toList.head? = some '-' ∨ text.toList.head? = some '+'
  let digits := if signed then text.toList.tail else text.toList
  if digits = [] ∨ ¬ digits.all Char.isDigit then none
  else
    let value : Int := Nat.ofDigitChars 10 digits 0
    let n := if text.toList.head? = some '-' then -value else value
    if -2 ^ 63 ≤ n ∧ n < 2 ^ 63 then some n else none

def maxPresignTTL : Int := 86400 * second

/-- `presignTTL` of the `ttl` in the query, which is empty if there is none. -/
def presignTTL (v : String) : Int :=
  let ttl :=
    if v ≠ "" then
      match atoi v with
      | some n => if 0 < n then wrapped (n * second) else 3600 * second
      | none => 3600 * second
    else 3600 * second
  if maxPresignTTL < ttl then maxPresignTTL else ttl

/-! ## Invites -/

/-- `createInviteRequest`. -/
structure CreateInviteRequest where
  label : String := ""
  ttlHours : Int := 0
  deriving DecidableEq, Repr

/-- `invitePublicResponse`. -/
structure InvitePublicResponse where
  id : String
  label : String
  tokenLast4 : String
  createdBy : String
  createdAt : Int
  expiresAt : Int
  expired : Bool
  deriving DecidableEq, Repr

/-- `toInvitePublic`. -/
def toInvitePublic (now : Int) (inv : Invite) : InvitePublicResponse where
  id := inv.id
  label := inv.label
  tokenLast4 := inv.tokenLast4
  createdBy := inv.createdBy
  createdAt := inv.createdAt
  expiresAt := inv.expiresAt
  expired := inv.expiresAt < now

/-- `createInviteResponse`. -/
structure CreateInviteResponse where
  invite : InvitePublicResponse
  token : String
  deriving DecidableEq, Repr

def maxInviteTTL : Int := 90 * 24 * hour

/-- The lifetime that the handler passes on; without a positive number it leaves it to the store. -/
def inviteTTL (ttlHours : Int) : Int :=
  if 0 < ttlHours then
    let ttl := wrapped (ttlHours * hour)
    if maxInviteTTL < ttl then maxInviteTTL else ttl
  else 0

/-- What comes with a request; the body is that of an empty request if there is none, and `none`
if it is not JSON. -/
structure CreateInviteCall where
  method : String
  claims : Option Claims
  body : Option CreateInviteRequest

/-- What the handler checks before it creates anything. -/
def readCreateInvite (enforcer : Enforcer) (accounts : Accounts) (invites : Option Invites)
    (call : CreateInviteCall) (now : Int) : Except Refusal (Invites × CreateInviteRequest) := do
  demand (call.method = "POST") ⟨405, "METHOD_NOT_ALLOWED", "POST required", []⟩
  let _ ← requireCapability enforcer accounts call.claims now "host:manage_users" "host:*"
  match invites with
  | none =>
      .error ⟨503, "INVITES_NOT_WIRED", "Invite store is not configured on this deployment.", []⟩
  | some invites =>
      match call.body with
      | none => .error ⟨400, "INVALID_JSON", "Invalid JSON body", []⟩
      | some req => return (invites, req)

/-- `createInvitePersistedHandler`.  The clock shows `now` when the invite is created and
`answered` when it is sent. -/
def createInvitePersisted (enforcer : Enforcer) (accounts : Accounts) (invites : Option Invites)
    (call : CreateInviteCall) (draw : Draw) (now answered : Int) (writeError : Option String) :
    Except Refusal CreateInviteResponse × Option Invites :=
  match readCreateInvite enforcer accounts invites call now with
  | .error refusal => (.error refusal, invites)
  | .ok (store, req) =>
      let createdBy := (call.claims.map Claims.userID).getD ""
      match store.create draw now (trimSpace req.label) createdBy (inviteTTL req.ttlHours)
          writeError with
      | (.error _, next) =>
          (.error ⟨500, "INTERNAL_ERROR", "Failed to create invite", []⟩, some next)
      | (.ok (inv, plain), next) => (.ok ⟨toInvitePublic answered inv, plain⟩, some next)

theorem readCreateInvite_ok {enforcer : Enforcer} {accounts : Accounts} {invites : Option Invites}
    {call : CreateInviteCall} {now : Int} {store : Invites} {req : CreateInviteRequest}
    (read : readCreateInvite enforcer accounts invites call now = .ok (store, req)) :
    invites = some store ∧ call.body = some req := by
  rcases bind_eq_ok.mp read with ⟨_, _, gate⟩
  rcases bind_eq_ok.mp gate with ⟨_, _, rest⟩
  split at rest
  · cases rest
  · split at rest
    · cases rest
    · rename_i body
      cases rest
      exact ⟨rfl, body⟩

/-- An invite that is sent is the last row of the store, with the lifetime that was read. -/
theorem createInvitePersisted_ok {enforcer : Enforcer} {accounts : Accounts} {next : Option Invites}
    {invites : Option Invites} {call : CreateInviteCall} {draw : Draw} {now answered : Int}
    {writeError : Option String} {response : CreateInviteResponse}
    (created : createInvitePersisted enforcer accounts invites call draw now answered writeError =
      (.ok response, next)) :
    Exists fun store => Exists fun req => Exists fun inv =>
      invites = some store ∧ call.body = some req ∧
        next = some ⟨store.cache ++ [inv], store.cache ++ [inv]⟩ ∧
        response.invite = toInvitePublic answered inv ∧
        inv.expiresAt - inv.createdAt =
          if inviteTTL req.ttlHours ≤ 0 then Store.defaultInviteTTL else inviteTTL req.ttlHours := by
  unfold createInvitePersisted at created
  split at created
  · cases created
  · rename_i store req read
    have given := readCreateInvite_ok read
    rcases Invites.create_cases store draw now (trimSpace req.label)
        ((call.claims.map Claims.userID).getD "") (inviteTTL req.ttlHours) writeError with
      ⟨error, failed⟩ | ⟨inv, plain, done, _, _, start, finish⟩
    · simp only [failed] at created
      cases created
    · simp only [done] at created
      cases created
      refine ⟨store, req, inv, given.1, given.2, rfl, rfl, ?_⟩
      rw [finish, start]
      omega

/-! ## Capping a wrapped product -/

/-- The product fits a duration, or what wrapping leaves of it is not below the longest one. -/
def KeepsCap (product cap : Int) : Prop :=
  product < 2 ^ 63 ∨ cap ≤ product % 2 ^ 64 ∧ product % 2 ^ 64 < 2 ^ 63

/-- What a positive product wraps to. -/
theorem wrapped_cases (product : Int) :
    (product % 2 ^ 64 < 2 ^ 63 ∧ wrapped product = product % 2 ^ 64) ∨
      (2 ^ 63 ≤ product % 2 ^ 64 ∧ wrapped product = product % 2 ^ 64 - 2 ^ 64) := by
  unfold wrapped
  rw [Int.bmod_def]
  split
  · left
    omega
  · right
    omega

theorem capped_iff {product cap : Int} (positive : 0 < product) (some : 0 < cap)
    (fits : cap < 2 ^ 63) :
    (if cap < wrapped product then cap else wrapped product) = min product cap ↔
      KeepsCap product cap := by
  unfold KeepsCap
  rcases wrapped_cases product with ⟨low, same⟩ | ⟨high, same⟩
  · rw [same]
    split
    · omega
    · omega
  · rw [same]
    split
    · omega
    · omega

/-- A default below the cap takes the place of a product that is not positive. -/
theorem capped_default_iff {product cap default : Int} (positive : 0 < product)
    (some : 0 < default) (below : default < cap) (fits : cap < 2 ^ 63) :
    (if (if cap < wrapped product then cap else wrapped product) ≤ 0 then default
      else if cap < wrapped product then cap else wrapped product) = min product cap ↔
      KeepsCap product cap := by
  have capped := capped_iff positive (Int.lt_trans some below) fits
  generalize (if cap < wrapped product then cap else wrapped product) = ttl at capped ⊢
  rw [← capped]
  split
  · -- the default is the shorter one only if the product is, which then does not wrap
    refine iff_of_false ?_ ?_
    · intro hit
      have kept := capped.mpr (Or.inl (by omega))
      omega
    · omega
  · exact Iff.rfl

/-- A presigned URL and an invite live for the time asked for, up to the longest one, exactly when
the product fits an `int64` or wraps to a value that is not below the longest one. -/
theorem lifetimes_capped_iff {v : String} {n : Int} (positive : 0 < n) (sent : atoi v = some n) :
    (presignTTL v = min (n * second) (24 * hour) ∧ 0 < presignTTL v ↔
        KeepsCap (n * second) (24 * hour)) ∧
      forall enforcer accounts invites call draw now answered writeError response next,
        call.body.map CreateInviteRequest.ttlHours = some n ->
        createInvitePersisted enforcer accounts invites call draw now answered writeError =
          (.ok response, next) ->
        (response.invite.expiresAt - response.invite.createdAt = min (n * hour) (90 * 24 * hour) ∧
            response.invite.createdAt < response.invite.expiresAt ↔
          KeepsCap (n * hour) (90 * 24 * hour)) := by
  constructor
  · have some : v ≠ "" := by
      rintro rfl
      cases sent
    have product : 0 < n * second := by
      unfold second
      omega
    have same : presignTTL v = if 24 * hour < wrapped (n * second) then 24 * hour else
        wrapped (n * second) := by
      unfold presignTTL
      rw [if_pos some, sent]
      simp only [if_pos positive]
      rfl
    rw [same, ← capped_iff product (by decide) (by decide)]
    refine and_iff_left_of_imp fun capped => ?_
    rw [capped]
    exact lt_min product (by decide)
  · intro enforcer accounts invites call draw now answered writeError response next asked created
    rcases createInvitePersisted_ok created with ⟨store, req, inv, _, body, _, answer, lifetime⟩
    rw [body] at asked
    cases asked
    have product : 0 < req.ttlHours * hour := by
      unfold hour
      omega
    have same : inviteTTL req.ttlHours =
        if 90 * 24 * hour < wrapped (req.ttlHours * hour) then 90 * 24 * hour else
          wrapped (req.ttlHours * hour) := by
      unfold inviteTTL
      rw [if_pos positive]
      rfl
    rw [answer]
    simp only [toInvitePublic]
    rw [← Int.sub_pos, lifetime, same,
      ← @capped_default_iff _ _ Store.defaultInviteTTL product (by decide) (by decide) (by decide)]
    refine and_iff_left_of_imp fun capped => ?_
    rw [capped]
    exact lt_min product (by decide)

def sampleCall : CreateInviteCall where
  method := "POST"
  claims := some ⟨"root", "admin", true, "admin", 0, "", none⟩
  body := some { ttlHours := 24 }

def sampleEnforcer : Enforcer where
  roles := [⟨"host-admin", ["host:*"]⟩]
  assignments := [{ userID := "root", roleID := "host-admin", scope := "host:*" }]

theorem lifetimes_capped_iff_day :
    (presignTTL "24" = min (24 * second) (24 * hour) ∧ 0 < presignTTL "24" ↔
        KeepsCap (24 * second) (24 * hour)) ∧
      Exists fun response => Exists fun next =>
        createInvitePersisted sampleEnforcer .empty (some ⟨[], []⟩) sampleCall
            ⟨.ok "c0ffee", .ok "hash", "id"⟩ 5 6 none = (.ok response, next) ∧
          (response.invite.expiresAt - response.invite.createdAt =
                min (24 * hour) (90 * 24 * hour) ∧
              response.invite.createdAt < response.invite.expiresAt ↔
            KeepsCap (24 * hour) (90 * 24 * hour)) := by
  have sent : atoi "24" = some 24 := by decide +kernel
  have stated := lifetimes_capped_iff (by decide) sent
  refine ⟨stated.1, _, _, rfl, ?_⟩
  exact stated.2 sampleEnforcer .empty (some ⟨[], []⟩) sampleCall
    ⟨.ok "c0ffee", .ok "hash", "id"⟩ 5 6 none _ _ rfl rfl

theorem lifetime_wraps :
    ¬ forall v n, 0 < n -> atoi v = some n ->
      presignTTL v = min (n * second) (24 * hour) ∧ 0 < presignTTL v := by
  intro claimed
  have sent : atoi "9223372037" = some 9223372037 := by decide +kernel
  have negative : ¬ 0 < presignTTL "9223372037" := by decide +kernel
  exact negative (claimed "9223372037" 9223372037 (by decide) sent).2

end RequestedLifetimes
end Api
end Basement
