import Basement.Sessions.AdminMode

namespace Basement
namespace Sessions

open ServiceAccounts
open Api (Refusal)
open Api.Elevation (Config Upgrade Exchange parseTargetMode oidcOnly verifyElevationPassword
  verifyIDTokenWithAuthTime freshAuthTime StateStore.take)
open Federation (second)
open Library.Transition

/-!
# The lifetime of a session

A login opens a session for a configured time.  Every later token of the session is issued for that
time again, counted from when it is issued, so a session that keeps switching roles does not end.
Expiries are whole seconds, which hides what happens within the second of the login's expiry.
-/

/-- Every token expires within the lifetime of the session that its login opened. -/
def EndsOnTime (configured : Int) (server : Server) : Prop :=
  forall issued, issued ∈ server.tokens ->
    issued.token.expiresAt ≤ issued.loginAt + sessionTTL configured

/-! ## Which requests are answered with a token -/

/-- The evidence of an elevating request suffices. -/
def Elevates (cfg : Config) (server : Server) (call : Call) (world : World) : Prop :=
  match call.endpoint with
  | .elevate password targetMode =>
      parseTargetMode targetMode ≠ none ∧ oidcOnly cfg world.users call.claims.userID = false ∧
        verifyElevationPassword cfg world.users call.claims.userID password ≠ none
  | .elevateOIDCCallback queryState code =>
      Exists fun issuer => Exists fun entry => Exists fun token => Exists fun claims =>
        Exists fun authTime => cfg.oidc = some issuer ∧ queryState ≠ "" ∧
          (StateStore.take server.states (sinceEpoch server.now) queryState).1 = some entry ∧
          entry.userID = call.claims.userID ∧ code ≠ "" ∧ world.exchange = .token token ∧
          verifyIDTokenWithAuthTime issuer token entry.nonce = some (claims, authTime) ∧
          freshAuthTime (sinceEpoch server.now) authTime = true
  | _ => False

/-- The request is one that a handler answers with a new token. -/
def Renews (cfg : Config) (server : Server) (call : Call) (world : World) : Prop :=
  call.claims.userID ≠ "" ∧
    match call.endpoint with
    | .activeRole body => Exists fun role => body = some role ∧
        mayTake world.enforcer call.claims server.now role = true
    | .logoutElevation => True
    | _ => Elevates cfg server call world

theorem elevate_isSome_iff {cfg : Config} {users : Api.Elevation.Users} {session : Nat}
    {userID password targetMode : String} :
    (Api.Elevation.elevate cfg users session userID password targetMode).toOption ≠ none ↔
      parseTargetMode targetMode ≠ none ∧ oidcOnly cfg users userID = false ∧
        verifyElevationPassword cfg users userID password ≠ none := by
  unfold Api.Elevation.elevate
  cases parseTargetMode targetMode with
  | none => exact iff_of_false (fun some => some rfl) fun parts => parts.1 rfl
  | some target =>
      cases only : oidcOnly cfg users userID with
      | true =>
          dsimp only
          rw [if_pos rfl]
          refine iff_of_false ?_ fun parts => Bool.noConfusion parts.2.1
          cases cfg.oidc <;> exact fun some => some rfl
      | false =>
          dsimp only
          rw [if_neg Bool.false_ne_true]
          cases verifyElevationPassword cfg users userID password with
          | none => exact iff_of_false (fun some => some rfl) fun parts => parts.2.2 rfl
          | some hash =>
              exact iff_of_true (Option.some_ne_none _)
                ⟨Option.some_ne_none _, rfl, Option.some_ne_none _⟩

theorem callback_isSome_iff {cfg : Config} {store : Api.Elevation.StateStore} {now : Int}
    {session : Nat} {userID queryState code : String} {exchange : Exchange} :
    (Api.Elevation.elevateOIDCCallback cfg store now session userID queryState code
      exchange).1.toOption ≠ none ↔
      Exists fun issuer => Exists fun entry => Exists fun token => Exists fun claims =>
        Exists fun authTime => cfg.oidc = some issuer ∧ queryState ≠ "" ∧
          (store.take now queryState).1 = some entry ∧ entry.userID = userID ∧ code ≠ "" ∧
          exchange = .token token ∧
          verifyIDTokenWithAuthTime issuer token entry.nonce = some (claims, authTime) ∧
          freshAuthTime now authTime = true := by
  unfold Api.Elevation.elevateOIDCCallback
  constructor
  · intro answered
    split at answered
    · exact absurd rfl answered
    · rename_i issuer known
      split at answered
      · exact absurd rfl answered
      · rename_i stated
        split at answered
        · exact absurd rfl answered
        · rename_i entry rest taken
          split at answered
          · exact absurd rfl answered
          · rename_i own
            split at answered
            · exact absurd rfl answered
            · rename_i coded
              split at answered
              · exact absurd rfl answered
              · exact absurd rfl answered
              · rename_i token
                split at answered
                · exact absurd rfl answered
                · rename_i provider subject authTime verified
                  split at answered
                  · rename_i fresh
                    exact ⟨issuer, entry, token, _, authTime, known, stated, by rw [taken],
                      not_not.mp own, coded, rfl, verified, fresh⟩
                  · exact absurd rfl answered
  · rintro ⟨issuer, entry, token, ⟨provider, subject⟩, authTime, known, stated, taken, own, coded,
      rfl, verified, fresh⟩
    cases found : store.take now queryState with
    | mk first rest =>
        rw [found] at taken
        cases taken
        rw [known]
        dsimp only
        rw [if_neg stated]
        simp only [ne_eq, own, not_true, if_false, coded, verified, fresh, if_true]
        exact Option.some_ne_none _

theorem upgrade_isSome_iff {cfg : Config} {server : Server} {call : Call} {world : World}
    (named : call.claims.userID ≠ "") :
    (server.upgrade cfg call world).1 ≠ none ↔ Elevates cfg server call world := by
  unfold Server.upgrade Elevates
  rw [if_neg named]
  cases call.endpoint with
  | activeRole body => exact iff_of_false (fun some => some rfl) fun impossible => impossible
  | logoutElevation => exact iff_of_false (fun some => some rfl) fun impossible => impossible
  | elevate password targetMode => exact elevate_isSome_iff
  | elevateOIDCStart targetMode =>
      exact iff_of_false (fun some => some rfl) fun impossible => impossible
  | elevateOIDCCallback queryState code => exact callback_isSome_iff
  | gated => exact iff_of_false (fun some => some rfl) fun impossible => impossible

theorem upgrade_unnamed {cfg : Config} {server : Server} {call : Call} {world : World}
    (unnamed : call.claims.userID = "") : (server.upgrade cfg call world).1 = none := by
  unfold Server.upgrade
  rw [if_pos unnamed]

theorem toOption_ne_none {ε α : Type} {result : Except ε α} :
    result.toOption ≠ none ↔ Exists fun value => result = .ok value := by
  cases result with
  | ok value => exact iff_of_true (Option.some_ne_none _) ⟨value, rfl⟩
  | error err =>
      refine iff_of_false (fun some => some rfl) ?_
      rintro ⟨value, impossible⟩
      cases impossible

/-- The requests that are answered with a token. -/
theorem reissue_isSome_iff {cfg : Config} {configured : Int} {server : Server} {call : Call}
    {world : World} :
    server.reissue cfg configured call world ≠ none ↔ Renews cfg server call world := by
  unfold Server.reissue Renews
  by_cases unnamed : call.claims.userID = ""
  · refine iff_of_false ?_ fun parts => parts.1 unnamed
    split
    · intro answered
      rcases toOption_ne_none.mp answered with ⟨token, granted⟩
      exact (activeRole_ok_iff.mp granted).1 unnamed
    · intro answered
      rcases toOption_ne_none.mp answered with ⟨token, granted⟩
      exact (logoutElevation_ok_iff.mp granted).1 unnamed
    · rw [upgrade_unnamed unnamed]
      exact fun some => some rfl
  · rw [and_iff_right unnamed]
    cases endpoint : call.endpoint with
    | activeRole body =>
        dsimp only
        rw [toOption_ne_none]
        constructor
        · rintro ⟨token, granted⟩
          rcases (activeRole_ok_iff.mp granted).2 with ⟨role, given, may, _⟩
          exact ⟨role, given, may⟩
        · rintro ⟨role, given, may⟩
          exact ⟨_, activeRole_ok_iff.mpr ⟨unnamed, role, given, may, rfl⟩⟩
    | logoutElevation =>
        dsimp only
        rw [toOption_ne_none]
        exact iff_of_true ⟨_, logoutElevation_ok_iff.mpr ⟨unnamed, rfl⟩⟩ trivial
    | elevate password targetMode =>
        rw [ne_eq, Option.map_eq_none_iff]
        exact upgrade_isSome_iff unnamed
    | elevateOIDCStart targetMode =>
        rw [ne_eq, Option.map_eq_none_iff]
        exact upgrade_isSome_iff unnamed
    | elevateOIDCCallback queryState code =>
        rw [ne_eq, Option.map_eq_none_iff]
        exact upgrade_isSome_iff unnamed
    | gated =>
        rw [ne_eq, Option.map_eq_none_iff]
        exact upgrade_isSome_iff unnamed

/-! ## When a session ends on time -/

/-- A new token would expire in the same whole second as the token of the login. -/
def SameSecond (configured : Int) (server : Server) (call : Call) : Prop :=
  (server.now + sessionTTL configured) / second ≤ (call.loginAt + sessionTTL configured) / second

/-- A request that is answered with a token is answered at once. -/
def Prompt (cfg : Config) (configured : Int) (server : Server) : Event -> Prop
  | .answer call world => Renews cfg server call world -> SameSecond configured server call
  | _ => True

theorem Reissued.expiresAt {server : Server} {call : Call} {configured : Int}
    {granted : Option Upgrade} {token : Token}
    (reissued : Reissued server call configured granted token) :
    token.expiresAt = numericDate (server.now + sessionTTL configured) := by
  cases reissued <;> rfl

theorem numericDate_le_iff {time limit : Int} :
    numericDate time ≤ limit ↔ time / second ≤ limit / second :=
  (Int.le_ediv_iff_mul_le (by decide)).symm

theorem answered_endsOnTime_iff {cfg : Config} {configured : Int} {server : Server} {call : Call}
    {world : World} (before : EndsOnTime configured server) :
    EndsOnTime configured (server.answered cfg configured call world) ↔
      (Renews cfg server call world -> SameSecond configured server call) := by
  rw [← @reissue_isSome_iff cfg configured]
  constructor
  · intro after answered
    rcases Option.ne_none_iff_exists'.mp answered with ⟨token, issued⟩
    have bound := after ⟨token, call.loginAt⟩ (List.mem_append_right _
      (List.mem_map_of_mem (Option.mem_toList.mpr issued)))
    rw [(reissue_cases issued).expiresAt] at bound
    exact numericDate_le_iff.mp bound
  · intro prompt issued member
    rcases List.mem_append.mp member with old | new
    · exact before issued old
    · rcases List.mem_map.mp new with ⟨token, answer, rfl⟩
      have found := Option.mem_toList.mp answer
      rw [(reissue_cases found).expiresAt]
      refine numericDate_le_iff.mpr (prompt ?_)
      rw [found]
      exact Option.some_ne_none _

/-- No step but an answer issues a token that expires late. -/
theorem Moved.endsOnTime {cfg : Config} {configured : Int} {server next : Server} {event : Event}
    (before : EndsOnTime configured server) (moved : Moved cfg configured server event next)
    (noAnswer : forall call world, event ≠ .answer call world) : EndsOnTime configured next := by
  cases moved with
  | waited nanoseconds => exact before
  | set adminTTL => exact before
  | unchanged event => exact before
  | opened event userID role uiAdmin =>
      intro issued member
      rcases List.mem_append.mp member with old | new
      · exact before issued old
      · cases List.mem_singleton.mp new
        exact numericDate_le _
  | arrived cookie endpoint known live => exact before
  | answered call world known => exact absurd rfl (noAnswer call world)

/-- All sessions of a run end on time exactly if each request that is answered with a token is
answered within the second. -/
theorem sessions_end_on_time_iff {cfg : Config} {configured : Int} {start final : Server}
    {events : List Event} (fresh : start.tokens = [])
    (run : exec (step cfg configured) start events = some final) :
    Throughout (step cfg configured) (EndsOnTime configured) start events ↔
      Meets (step cfg configured) (Prompt cfg configured) start events := by
  refine throughout_iff_meets_of_step ?_ ?_ run
  · intro server event next before taken
    cases event with
    | answer call world =>
        simp only [step] at taken
        split at taken
        · cases Option.some.inj taken
          exact answered_endsOnTime_iff before
        · cases taken
    | _ =>
        exact iff_of_true ((step_moved taken).endsOnTime before fun _ _ => Event.noConfusion)
          trivial
  · intro issued member
    rw [fresh] at member
    cases member

/-- The admin logs in and drops the elevation ten seconds later. -/
def dropping : List Event :=
  [.login "admin" "secret", .wait 10000000000, .arrive adminSession .logoutElevation,
    .answer ⟨adminSession.token.claims, preV12GraceUntil, .logoutElevation⟩ emptyWorld]

theorem sessions_end_on_time_iff_admin :
    Throughout (step adminConfig 0) (EndsOnTime 0) emptyServer dropping ↔
      Meets (step adminConfig 0) (Prompt adminConfig 0) emptyServer dropping :=
  @sessions_end_on_time_iff adminConfig 0 emptyServer _ dropping rfl rfl

/-- The new token outlives the session by ten seconds. -/
theorem session_prolonged :
    ¬ forall (cfg : Config) (configured : Int) (start final : Server) (events : List Event),
      start.tokens = [] -> exec (step cfg configured) start events = some final ->
        EndsOnTime configured final := by
  intro all
  have bound := all adminConfig 0 emptyServer _ dropping rfl rfl
    ⟨issueTokenWithMode "admin" "admin" true "user" 0 (preV12GraceUntil + 10000000000)
      (sessionTTL 0), preV12GraceUntil⟩ (by decide +kernel)
  exact absurd bound (by decide +kernel)

end Sessions
end Basement
