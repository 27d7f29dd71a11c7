import Basement.Api.ShareScope
import Mathlib.Logic.Function.Basic

namespace Basement
namespace Api

open Library Library.Transition

/-!
# Downloads of a share

A get request reads the share, twice reads its expiry, checks the limit and the password on
the copy it read first, has a URL signed and then increments the counter of downloads in the
store.  Between these calls other requests and a revocation may come.

The increment looks at the limit again but not at the revocation, and a save that fails
leaves the counter raised.
-/

/-- Where a get request is between its calls of the store. -/
inductive GetStage where
  | idle
  | found (request : ShareRequest) (copy : Share)
  | validated (request : ShareRequest) (copy : Share)
  | presigned (key : String)
  | answered (response : Except Refusal String)
  deriving DecidableEq, Repr

/-- A share in memory with the get requests about it, how many of them were redirected and
how many increments were committed, whether `RevokeShare` has returned success, and how many
increments were committed after that. -/
structure ShareServer where
  share : Share
  requests : Nat -> GetStage
  redirects : Nat
  committed : Nat
  revokeReturned : Bool
  lateCommits : Nat

/-- A call of the store, with the code up to the next one.  `saved` is the answer of
`saveJSON`, `presign` that of the registry and the driver. -/
inductive ShareAction where
  | readShare (id : Nat) (request : ShareRequest)
  | readExpiry (id : Nat)
  | checkExpiry (id : Nat) (now : Int) (presign : Except Refusal Unit)
  | increment (id : Nat) (saved : Bool)
  | revoke (saved : Bool)

namespace ShareServer

def advance (server : ShareServer) (id : Nat) (stage : GetStage) : ShareServer :=
  { server with requests := Function.update server.requests id stage }

/-- `Store.IsExpired`, called a second time, and the checks of the handler on its copy. -/
def checkCopy (share copy : Share) (request : ShareRequest) (now : Int)
    (presign : Except Refusal Unit) : Except Refusal String := do
  demand (!share.revoked) ⟨500, "STORE_ERROR", "Failed to check expiration", []⟩
  demand (!share.expired now) ⟨410, "SHARE_EXPIRED", "Share has expired", []⟩
  demand (!copy.usedUp) ⟨410, "SHARE_LIMIT_REACHED", "Download limit reached", []⟩
  demandPassword copy request.cookie
  let key ← shareGetKey copy request.asked
  presign
  return key

/-- `Store.IncrementDownloads`, and the answer of the handler. -/
def incrementDownloads (server : ShareServer) (id : Nat) (key : String) (saved : Bool) :
    ShareServer :=
  if server.share.usedUp then
    server.advance id
      (.answered (.error ⟨410, "SHARE_LIMIT_REACHED", "Download limit reached", []⟩))
  else
    let raised := { server with
      share := { server.share with downloadsUsed := server.share.downloadsUsed + 1 } }
    if saved then
      { raised.advance id (.answered (.ok key)) with
        redirects := server.redirects + 1
        committed := server.committed + 1
        lateCommits := server.lateCommits + if server.revokeReturned then 1 else 0 }
    else
      raised.advance id
        (.answered (.error ⟨500, "STORE_ERROR", "Failed to increment download counter", []⟩))

/-- `Store.RevokeShare`. -/
def revokeShare (server : ShareServer) (saved : Bool) : ShareServer :=
  { server with
    share := { server.share with revoked := true }
    revokeReturned := server.revokeReturned || saved }

def step (server : ShareServer) : ShareAction -> Option ShareServer
  | .readShare id request =>
      if server.requests id = .idle then
        match validateShareBasic (some server.share) with
        | .error refusal => some (server.advance id (.answered (.error refusal)))
        | .ok copy => some (server.advance id (.found request copy))
      else none
  | .readExpiry id =>
      match server.requests id with
      | .found request copy =>
          match validateShareBasic (some server.share) with
          | .error refusal => some (server.advance id (.answered (.error refusal)))
          | .ok _ => some (server.advance id (.validated request copy))
      | _ => none
  | .checkExpiry id now presign =>
      match server.requests id with
      | .validated request copy =>
          match checkCopy server.share copy request now presign with
          | .error refusal => some (server.advance id (.answered (.error refusal)))
          | .ok key => some (server.advance id (.presigned key))
      | _ => none
  | .increment id saved =>
      match server.requests id with
      | .presigned key => some (server.incrementDownloads id key saved)
      | _ => none
  | .revoke saved => some (server.revokeShare saved)

/-- A stored share before the first request. -/
def start (share : Share) : ShareServer := ⟨share, fun _ => .idle, 0, 0, false, 0⟩

end ShareServer

/-- A share as it is created. -/
structure Share.Fresh (share : Share) : Prop where
  unused : share.downloadsUsed = 0
  limit : forall limit, share.downloadLimit = some limit -> 1 ≤ limit

theorem userCreateShare_fresh {site : Deployment} {userID : String} {now : Int}
    {probe : Except Refusal Unit} {req : UserShareCreateRequest} {share : Share}
    (created : userCreateShare site userID now probe req = .ok share) : share.Fresh := by
  simp only [userCreateShare, bind_eq_ok, demand_eq_ok, exists_and_left, exists_const] at created
  rcases created with ⟨_, _, connID, _, _, _, _, _, _, _, limited, made⟩
  rw [← Except.ok.inj made]
  refine ⟨rfl, ?_⟩
  intro limit same
  rw [show req.downloadLimit = some limit from same] at limited
  simpa using limited

namespace ShareServer

/-- The limit and the revocation are final, and the counter counts what was committed. -/
structure Final (server : ShareServer) : Prop where
  limit : forall limit, server.share.downloadLimit = some limit ->
    (server.redirects : Int) ≤ limit
  counted : server.share.downloadsUsed = server.committed
  revoked : server.lateCommits = 0

/-- An increment is refused by the limit, or it is saved before a revocation has returned. -/
def Timely (server : ShareServer) : ShareAction -> Prop
  | .increment _ saved =>
      server.share.usedUp = true ∨ saved = true ∧ server.revokeReturned = false
  | _ => True

/-- What holds in every run: redirects are commits, and none goes past the limit. -/
structure Bounded (server : ShareServer) : Prop where
  redirected : server.redirects = server.committed
  below : (server.committed : Int) ≤ server.share.downloadsUsed
  limit : forall limit, server.share.downloadLimit = some limit ->
    server.share.downloadsUsed ≤ limit

/-- What a step can do. -/
inductive Move (server : ShareServer) : ShareAction -> ShareServer -> Prop where
  | advanced {action : ShareAction} (quiet : server.Timely action) (id : Nat) (stage : GetStage) :
      Move server action (server.advance id stage)
  | incremented (id : Nat) (key : String) (saved : Bool) :
      Move server (.increment id saved) (server.incrementDownloads id key saved)
  | revoked (saved : Bool) : Move server (.revoke saved) (server.revokeShare saved)

section Steps

variable {server next : ShareServer} {action : ShareAction}

theorem step_moves (taken : server.step action = some next) : server.Move action next := by
  cases action with
  | readShare id request =>
      simp only [step] at taken
      split at taken
      · split at taken <;> cases taken <;> refine Move.advanced ?_ id _ <;> trivial
      · cases taken
  | readExpiry id =>
      simp only [step] at taken
      split at taken
      · split at taken <;> cases taken <;> refine Move.advanced ?_ id _ <;> trivial
      · cases taken
  | checkExpiry id now presign =>
      simp only [step] at taken
      split at taken
      · split at taken <;> cases taken <;> refine Move.advanced ?_ id _ <;> trivial
      · cases taken
  | increment id saved =>
      simp only [step] at taken
      split at taken
      · rename_i key _
        cases taken
        exact Move.incremented id key saved
      · cases taken
  | revoke saved =>
      cases taken
      exact Move.revoked saved

theorem usedUp_eq_false_iff {share : Share} :
    share.usedUp = false ↔
      forall limit, share.downloadLimit = some limit -> share.downloadsUsed < limit := by
  cases limited : share.downloadLimit <;> simp [Share.usedUp, limited]

/-- The limit is checked where the counter is raised. -/
theorem Bounded.step (bounded : server.Bounded) (taken : server.step action = some next) :
    next.Bounded := by
  cases step_moves taken with
  | advanced quiet id stage => exact ⟨bounded.redirected, bounded.below, bounded.limit⟩
  | revoked saved => exact ⟨bounded.redirected, bounded.below, bounded.limit⟩
  | incremented id key saved =>
      have below := bounded.below
      unfold incrementDownloads
      cases full : server.share.usedUp with
      | true => exact ⟨bounded.redirected, below, bounded.limit⟩
      | false =>
          have room := usedUp_eq_false_iff.mp full
          have raised : forall limit, server.share.downloadLimit = some limit ->
              server.share.downloadsUsed + 1 ≤ limit :=
            fun limit limited => room limit limited
          cases saved with
          | false => exact ⟨bounded.redirected, below.trans (Int.le_add_one (le_refl _)), raised⟩
          | true =>
              refine ⟨congrArg (· + 1) bounded.redirected, ?_, raised⟩
              change ((server.committed + 1 : Nat) : Int) ≤ server.share.downloadsUsed + 1
              omega

/-- From a bounded server, the limit holds of itself. -/
theorem Bounded.redirects_le (bounded : server.Bounded) {limit : Int}
    (limited : server.share.downloadLimit = some limit) : (server.redirects : Int) ≤ limit := by
  calc
    (server.redirects : Int) = server.committed := by rw [bounded.redirected]
    _ ≤ server.share.downloadsUsed := bounded.below
    _ ≤ limit := bounded.limit limit limited

/-- One step keeps the property exactly if an increment is timely. -/
theorem final_step_iff (bounded : server.Bounded) (final : server.Final)
    (taken : server.step action = some next) : next.Final ↔ server.Timely action := by
  have limit : forall limit, next.share.downloadLimit = some limit ->
      (next.redirects : Int) ≤ limit :=
    fun _ => (bounded.step taken).redirects_le
  cases step_moves taken with
  | advanced quiet id stage => exact iff_of_true ⟨limit, final.counted, final.revoked⟩ quiet
  | revoked saved => exact iff_of_true ⟨limit, final.counted, final.revoked⟩ trivial
  | incremented id key saved =>
      have counted := final.counted
      have none := final.revoked
      unfold Timely
      unfold incrementDownloads at limit ⊢
      cases full : server.share.usedUp with
      | true =>
          rw [full] at limit
          exact iff_of_true ⟨limit, counted, none⟩ (Or.inl rfl)
      | false =>
          rw [full] at limit
          cases saved with
          | false =>
              refine iff_of_false ?_ (by simp)
              intro after
              have wrong : server.share.downloadsUsed + 1 = server.committed := after.counted
              omega
          | true =>
              have raised : server.share.downloadsUsed + 1 = (server.committed + 1 : Nat) := by
                omega
              cases returned : server.revokeReturned with
              | false =>
                  refine iff_of_true ⟨limit, raised, ?_⟩ (Or.inr ⟨rfl, rfl⟩)
                  simpa [returned] using none
              | true =>
                  refine iff_of_false ?_ (by simp)
                  intro after
                  have late : server.lateCommits + 1 = 0 := by
                    simpa [returned] using after.revoked
                  exact absurd late (Nat.succ_ne_zero _)

/-- A request that nothing interrupts answers as the handler does in one piece. -/
theorem served_alone {id : Nat} {request : ShareRequest} {key : String}
    (idle : server.requests id = .idle)
    (given : shareGetHandler (some server.share) request = .ok key) :
    Exists fun final => exec step server [.readShare id request, .readExpiry id,
        .checkExpiry id request.now (.ok ()), .increment id true] = some final ∧
      final.requests id = .answered (.ok key) ∧ final.redirects = server.redirects + 1 := by
  rcases shareGetHandler_ok_iff.mp given with ⟨admitted, signed⟩
  simp only [Share.admits, ShareRequest.visitor, Bool.and_eq_true, Bool.not_eq_true'] at admitted
  rcases admitted with ⟨⟨⟨kept, unexpired⟩, known⟩, room⟩
  have valid : validateShareBasic (some server.share) = .ok server.share := by
    simp [validateShareBasic, kept]
  have checked : checkCopy server.share server.share request request.now (.ok ()) = .ok key := by
    simp only [checkCopy, bind_eq_ok, demand_eq_ok, demandPassword_ok_iff, exists_const,
      Bool.not_eq_true']
    exact ⟨kept, unexpired, room, known, key, signed, trivial, rfl⟩
  have first : server.step (.readShare id request) =
      some (server.advance id (.found request server.share)) := by
    simp only [step, idle, if_true, valid]
  have second : (server.advance id (.found request server.share)).step (.readExpiry id) =
      some (server.advance id (.validated request server.share)) := by
    simp only [step, advance, Function.update_self, valid, Function.update_idem]
  have third : (server.advance id (.validated request server.share)).step
      (.checkExpiry id request.now (.ok ())) = some (server.advance id (.presigned key)) := by
    simp only [step, advance, Function.update_self, checked, Function.update_idem]
  have fourth : (server.advance id (.presigned key)).step (.increment id true) =
      some ((server.advance id (.presigned key)).incrementDownloads id key true) := by
    simp only [step, advance, Function.update_self]
  refine ⟨_, exec_cons.mpr ⟨_, first, exec_cons.mpr ⟨_, second, exec_cons.mpr ⟨_, third,
    exec_cons.mpr ⟨_, fourth, exec_nil _⟩⟩⟩⟩, ?_, ?_⟩
  · simp [incrementDownloads, advance, room]
  · simp [incrementDownloads, advance, room]

end Steps

theorem start_bounded {share : Share} (fresh : share.Fresh) : (start share).Bounded where
  redirected := rfl
  below := le_of_eq fresh.unused.symm
  limit := by
    intro limit limited
    have atLeast := fresh.limit limit limited
    have unused := fresh.unused
    change share.downloadsUsed ≤ limit
    omega

theorem start_final {share : Share} (fresh : share.Fresh) : (start share).Final where
  limit _ limited := (start_bounded fresh).redirects_le limited
  counted := fresh.unused
  revoked := rfl

/-- In every run the redirects stay within the limit. -/
theorem redirects_within_limit {share : Share} (fresh : share.Fresh) {actions : List ShareAction}
    {final : ShareServer} (run : exec step (start share) actions = some final) {limit : Int}
    (limited : final.share.downloadLimit = some limit) : (final.redirects : Int) ≤ limit := by
  have bounded := exec_invariant
    (fun _ _ _ held taken => Bounded.step held taken) (start_bounded fresh) run
  exact bounded.redirects_le limited

/-- A share of one object, without a limit. -/
def catShare : Share := { photosShare with keyPrefix := "", key := "photos/cat.jpg" }

theorem catShare_fresh : catShare.Fresh where
  unused := rfl
  limit := by
    intro limit absent
    cases absent

/-- A request has its URL signed, the share is revoked, and the request commits. -/
def lateDownload : List ShareAction :=
  [.readShare 0 ⟨0, .absent, ""⟩, .readExpiry 0, .checkExpiry 0 0 (.ok ()), .revoke true,
    .increment 0 true]

theorem redirects_within_limit_one : Exists fun final =>
    exec step (start { catShare with downloadLimit := some 1 }) lateDownload = some final ∧
      (final.redirects : Int) ≤ 1 := by
  have fresh : Share.Fresh { catShare with downloadLimit := some 1 } := by
    refine ⟨rfl, ?_⟩
    rintro limit ⟨⟩
    exact le_rfl
  exact ⟨_, rfl, @redirects_within_limit _ fresh lateDownload _ rfl 1 rfl⟩

end ShareServer

end Api
end Basement
