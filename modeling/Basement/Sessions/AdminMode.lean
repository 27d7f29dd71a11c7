import Basement.Library.Transition
import Basement.Sessions.Server

namespace Basement
namespace Sessions

open ServiceAccounts
open Api.Elevation (Config Upgrade)
open Federation (second)
open Library.Transition

/-!
# Admin mode and elevations

A token in admin mode carries the end of the elevation it comes from.  Whoever copies the mode
copies the end with it, and whoever drops one drops both.  So the mode that a request is classified
as is that of an elevation of the same user which is not over.
-/

/-- The claims have no mode, the user mode, or the mode and the end of an elevation of their user
that has begun.  The mode had another name once. -/
def Server.Backed (server : Server) (claims : Claims) : Prop :=
  claims.mode = "" ∨ claims.mode = "user" ∨
    (claims.mode = "elevated" ∨ claims.mode = "admin") ∧ 0 < claims.modeExpiresAt ∧
      Exists fun elevation => elevation ∈ server.elevations ∧ elevation.userID = claims.userID ∧
        elevation.grantedAt ≤ server.now ∧
        claims.modeExpiresAt = unix (elevation.grantedAt + elevation.adminTTL)

/-- Time passes and elevations are added. -/
structure Server.Extends (next server : Server) : Prop where
  now : server.now ≤ next.now
  elevations : forall elevation, elevation ∈ server.elevations -> elevation ∈ next.elevations

theorem Server.Backed.extends {server next : Server} {claims : Claims}
    (backed : server.Backed claims) (extends' : next.Extends server) : next.Backed claims := by
  rcases backed with none | user | ⟨admin, positive, elevation, member, own, begun, ends⟩
  · exact Or.inl none
  · exact Or.inr (Or.inl user)
  · exact Or.inr (Or.inr ⟨admin, positive, elevation, extends'.elevations elevation member, own,
      Int.le_trans begun extends'.now, ends⟩)

/-- Every token that is out and every request that is being answered is backed. -/
structure Server.Sound (server : Server) : Prop where
  late : preV12GraceUntil ≤ server.now
  tokens : forall issued, issued ∈ server.tokens -> server.Backed issued.token.claims
  calls : forall call, call ∈ server.calls -> server.Backed call.claims

theorem issueToken_mode (userID role : String) (uiAdmin : Bool) (now ttl : Int) :
    (issueToken userID role uiAdmin now ttl).claims.mode = "user" := rfl

/-- The end of an elevation after the grace date lies after the start of Unix time. -/
theorem unix_pos_of_late {now ttl : Int} (late : preV12GraceUntil ≤ now) (some : 0 < ttl) :
    0 < unix (now + ttl) := by
  have whole : preV12GraceUntil / second ≤ (now + ttl) / second :=
    Int.ediv_le_ediv (by decide) (by omega)
  have start : preV12GraceUntil / second = 63871286400 := by decide
  unfold unix
  omega

/-- What a request is answered with is backed once the upgrade it was granted is recorded. -/
theorem Reissued.backed {server next : Server} {call : Call} {configured : Int}
    {granted : Option Upgrade} {token : Token}
    (reissued : Reissued server call configured granted token) (late : preV12GraceUntil ≤ server.now)
    (caller : server.Backed call.claims) (extends' : next.Extends server)
    (recorded : forall upgrade, granted = some upgrade ->
      ⟨call.claims.userID, server.now, adminSessionTTL server.adminTTL⟩ ∈ next.elevations) :
    next.Backed token.claims := by
  cases reissued with
  | switched granted role =>
      rcases caller.extends extends' with none | user | ⟨admin, rest⟩
      · exact Or.inr (Or.inl (if_pos none))
      · refine Or.inr (Or.inl ?_)
        change (if call.claims.mode = "" then "user" else call.claims.mode) = "user"
        rw [user]
        rfl
      · refine Or.inr (Or.inr ⟨?_, rest⟩)
        change (if call.claims.mode = "" then "user" else call.claims.mode) = "elevated" ∨
          (if call.claims.mode = "" then "user" else call.claims.mode) = "admin"
        rcases admin with admin | admin
        · rw [admin]
          exact Or.inl rfl
        · rw [admin]
          exact Or.inr rfl
  | dropped granted => exact Or.inr (Or.inl rfl)
  | elevated upgrade =>
      cases mode : upgrade.mode with
      | user =>
          refine Or.inr (Or.inl ?_)
          change (if modeText upgrade.mode = "" then "user" else modeText upgrade.mode) = "user"
          rw [mode]
          rfl
      | admin =>
          refine Or.inr (Or.inr ⟨Or.inr ?_, unix_pos_of_late late (adminSessionTTL_pos _), _,
            recorded upgrade rfl, rfl, extends'.now, rfl⟩)
          change (if modeText upgrade.mode = "" then "user" else modeText upgrade.mode) = "admin"
          rw [mode]
          rfl

theorem answered_extends (cfg : Config) (configured : Int) (server : Server) (call : Call)
    (world : World) : (server.answered cfg configured call world).Extends server :=
  ⟨Int.le_refl _, fun _ member => List.mem_append_left _ member⟩

theorem Server.Sound.moved {cfg : Config} {configured : Int} {server next : Server} {event : Event}
    (sound : server.Sound) (moved : Moved cfg configured server event next) : next.Sound := by
  cases moved with
  | waited nanoseconds =>
      have later : ({ server with now := server.now + nanoseconds } : Server).Extends server :=
        ⟨Int.le_add_of_nonneg_right (Int.natCast_nonneg _), fun _ member => member⟩
      exact ⟨Int.le_trans sound.late later.now,
        fun issued member => (sound.tokens issued member).extends later,
        fun call member => (sound.calls call member).extends later⟩
  | set adminTTL => exact ⟨sound.late, sound.tokens, sound.calls⟩
  | unchanged event => exact sound
  | opened event userID role uiAdmin =>
      refine ⟨sound.late, ?_, sound.calls⟩
      intro issued member
      rcases List.mem_append.mp member with old | new
      · exact sound.tokens issued old
      · cases List.mem_singleton.mp new
        exact Or.inr (Or.inl (issueToken_mode ..))
  | arrived cookie endpoint known live =>
      refine ⟨sound.late, sound.tokens, ?_⟩
      intro call member
      rcases List.mem_append.mp member with old | new
      · exact sound.calls call old
      · cases List.mem_singleton.mp new
        exact sound.tokens cookie known
  | answered call world known =>
      have later := answered_extends cfg configured server call world
      refine ⟨sound.late, ?_, ?_⟩
      · intro issued member
        rcases List.mem_append.mp member with old | new
        · exact (sound.tokens issued old).extends later
        · rcases List.mem_map.mp new with ⟨token, answer, rfl⟩
          refine (reissue_cases (Option.mem_toList.mp answer)).backed sound.late
            (sound.calls call known) later ?_
          intro upgrade granted
          refine List.mem_append_right _ (List.mem_map.mpr ⟨upgrade, ?_, rfl⟩)
          exact Option.mem_toList.mpr granted
      · intro other member
        exact (sound.calls other (List.mem_of_mem_erase member)).extends later

/-- Claims that are classified as admin mode belong to an elevation that is not over. -/
theorem Server.Backed.recent {server : Server} {claims : Claims} (backed : server.Backed claims)
    (late : preV12GraceUntil ≤ server.now)
    (admin : currentMode (some claims) server.now = "admin") :
    Exists fun elevation => elevation ∈ server.elevations ∧ elevation.userID = claims.userID ∧
      elevation.grantedAt ≤ server.now ∧
      server.now < elevation.grantedAt + elevation.adminTTL := by
  unfold currentMode at admin
  dsimp only at admin
  rcases backed with none | user | ⟨mode, positive, elevation, member, own, begun, ends⟩
  · rw [if_pos none, if_neg (Int.not_lt.mpr late)] at admin
    exact absurd admin (by decide)
  · rw [user] at admin
    split at admin
    · rename_i empty
      exact absurd empty (by decide)
    · split at admin
      · exact absurd admin (by decide)
      · exact absurd admin (by decide)
  · refine ⟨elevation, member, own, begun, ?_⟩
    by_contra unended
    have past : elevation.grantedAt + elevation.adminTTL ≤ server.now := Int.not_lt.mp unended
    have expired : claims.modeExpiresAt ≤ unix server.now := by
      have whole := Int.ediv_le_ediv (by decide : 0 < second) past
      rw [ends]
      unfold unix
      omega
    have named : claims.mode ≠ "" := by
      rcases mode with mode | mode
      · rw [mode]
        decide
      · rw [mode]
        decide
    rw [if_neg named, if_pos ⟨positive, expired, mode⟩] at admin
    exact absurd admin (by decide)

/-- Whenever a request is classified as admin mode, its user was elevated less than the lifetime
of admin mode ago. -/
theorem admin_mode_needs_elevation {cfg : Config} {configured : Int} {start final : Server}
    {events : List Event} {call : Call} (late : preV12GraceUntil ≤ start.now)
    (idle : start.calls = [])
    (tokens : forall issued, issued ∈ start.tokens -> start.Backed issued.token.claims)
    (run : exec (step cfg configured) start events = some final) (pending : call ∈ final.calls)
    (admin : currentMode (some call.claims) final.now = "admin") :
    Exists fun elevation => elevation ∈ final.elevations ∧
      elevation.userID = call.claims.userID ∧ elevation.grantedAt ≤ final.now ∧
      final.now < elevation.grantedAt + elevation.adminTTL := by
  have sound : final.Sound := by
    refine @exec_invariant _ _ (step cfg configured) Server.Sound ?_ events start final
      ⟨late, tokens, ?_⟩ run
    · intro server event next held taken
      exact held.moved (step_moved taken)
    · intro other member
      rw [idle] at member
      cases member
  exact (sound.calls call pending).recent sound.late admin

/-- A deployment where one password opens the admin's session. -/
def adminConfig : Config := ⟨"admin", "hash", none, fun _ password => password = "secret"⟩

def emptyServer : Server := ⟨preV12GraceUntil, 900, Library.SortedStore.empty, [], [], []⟩

def emptyWorld : World := ⟨⟨[], []⟩, Library.SortedStore.empty, "state", "nonce", .failed⟩

/-- The session after the admin's login. -/
def adminSession : Issued :=
  ⟨issueToken "admin" "admin" true preV12GraceUntil (sessionTTL 0), preV12GraceUntil⟩

def elevating : Call :=
  ⟨adminSession.token.claims, preV12GraceUntil, .elevate "secret" "admin"⟩

/-- The session after the elevation. -/
def elevatedSession : Issued :=
  ⟨elevatedToken adminSession.token.claims ⟨0, "admin", .admin, .password "hash", none⟩ 900
    preV12GraceUntil (sessionTTL 0), preV12GraceUntil⟩

/-- The admin logs in, is elevated and uses the new token ten minutes later. -/
theorem admin_mode_needs_elevation_admin :
    Exists fun final =>
      exec (step adminConfig 0) emptyServer [.login "admin" "secret",
        .arrive adminSession (.elevate "secret" "admin"), .answer elevating emptyWorld,
        .wait 600000000000, .arrive elevatedSession .gated] = some final ∧
      Exists fun elevation => elevation ∈ final.elevations ∧ elevation.userID = "admin" ∧
        elevation.grantedAt ≤ final.now ∧ final.now < elevation.grantedAt + elevation.adminTTL := by
  refine ⟨_, rfl, ?_⟩
  exact @admin_mode_needs_elevation adminConfig 0 emptyServer _
    [.login "admin" "secret", .arrive adminSession (.elevate "secret" "admin"),
      .answer elevating emptyWorld, .wait 600000000000, .arrive elevatedSession .gated]
    ⟨elevatedSession.token.claims, preV12GraceUntil, .gated⟩ (Int.le_refl _) rfl
    (fun _ member => by cases member) rfl (by decide +kernel) (by decide +kernel)

end Sessions
end Basement
