import Basement.Library.Transition
import Basement.Sessions.AdminMode

namespace Basement
namespace Sessions
namespace ActiveRoles

open ServiceAccounts
open Api.Elevation (Config)
open Library
open Federation (second)

/-!
# Active roles

A session has an active role, which its token carries.  The switch of the role asks whether the
user may have it: the admin role needs admin mode, and the role of a cluster administrator a role
assignment for the cluster.  `Can`, the gate of the routes, asks the token only.

So a role is one that was allowed when its token was issued.  The end of admin mode and the
removal of an assignment do not take it away before the token expires.
-/

/-! ## Capabilities -/

def uiAdminCapabilities : List String :=
  ["platform.users.list", "platform.users.create", "platform.users.update",
    "platform.users.delete", "platform.policies.list", "platform.policies.write",
    "platform.service-accounts.list", "platform.service-accounts.write", "platform.audit.read",
    "platform.skins.write", "platform.oidc.write", "platform.system.write",
    "platform.onboarding.write", "platform.system.read", "platform.oidc.read",
    "platform.skins.read", "platform.onboarding.read", "cluster.wiring.list",
    "cluster.wiring.create", "cluster.wiring.update", "cluster.wiring.delete",
    "cluster.wiring.test", "cluster.wiring.read", "cluster.buckets.aggregate",
    "cluster.usage.aggregate"]

def clusterAdminCapabilities : List String :=
  ["cluster.wiring.read", "cluster.contents.read", "cluster.buckets.create",
    "cluster.buckets.update", "cluster.buckets.delete", "cluster.buckets.lifecycle.write",
    "cluster.layout.write", "cluster.scrub.write", "cluster.keys.create", "cluster.keys.update",
    "cluster.keys.rotate", "cluster.keys.delete", "cluster.encryption-admins.list",
    "cluster.encryption-admins.add", "cluster.encryption-admins.remove",
    "cluster.encryption.unlock", "cluster.encryption.lock", "cluster.grants.list",
    "cluster.grants.write"]

def userCapabilities : List String :=
  ["self.files.read", "self.files.write", "self.keys.list", "self.keys.create",
    "self.keys.rotate", "self.keys.delete", "self.shares.write", "self.backups.write",
    "self.federations.write", "self.webhooks.write"]

/-- `roleCapabilities`. -/
def roleCapabilities (kind : String) : Option (List String) :=
  if kind = "ui-admin" then some uiAdminCapabilities
  else if kind = "cluster-admin" then some clusterAdminCapabilities
  else if kind = "user" then some userCapabilities
  else none

/-- `IsClusterScopedCapability`. -/
def isClusterScopedCapability (capability : String) : Bool :=
  clusterAdminCapabilities.contains capability

/-- What `Can` asks of an active role. -/
def ActiveRole.can (role : ActiveRole) (capability clusterID : String) : Bool :=
  match roleCapabilities role.kind with
  | none => false
  | some caps =>
      if !caps.contains capability then false
      else if isClusterScopedCapability capability &&
          !(role.kind = "ui-admin" && capability = "cluster.wiring.read") then
        clusterID != "" && role.cluster = clusterID
      else true

/-- `Can`. -/
def can (claims : Option Claims) (capability clusterID : String) : Bool :=
  (claims.bind Claims.activeRole).any fun role => ActiveRole.can role capability clusterID

/-! ## The system -/

/-- A switch of the active role that the session may make under the policies of its time. -/
structure Mint where
  session : Claims
  role : ActiveRole
  enforcer : Enforcer
  mintedAt : Int
  may : mayTake enforcer session mintedAt role = true

/-- The token that the switch is answered with. -/
def Mint.token (mint : Mint) (configured : Int) : Token :=
  issueTokenWithActiveRole mint.session.userID mint.session.role mint.session.uiAdmin
    mint.session.mode mint.session.modeExpiresAt mint.mintedAt (sessionTTL configured)
    (some ⟨mint.role.kind, if mint.role.kind = "cluster-admin" then mint.role.cluster else ""⟩)

/-- The server, its policies, and the switches of the active role so far. -/
structure Site where
  server : Server
  enforcer : Enforcer
  minted : List Mint

inductive Event where
  | policies (enforcer : Enforcer)
  | session (event : Sessions.Event)

/-- A request is answered under the policies of its time. -/
def under (enforcer : Enforcer) : Sessions.Event -> Sessions.Event
  | .answer call world => .answer call { world with enforcer }
  | event => event

/-- The switch of the active role that answers a request. -/
def Site.mint (site : Site) : Sessions.Event -> Option Mint
  | .answer ⟨claims, _, .activeRole (some req)⟩ _ =>
      if may : claims.userID ≠ "" ∧ mayTake site.enforcer claims site.server.now req = true then
        some ⟨claims, req, site.enforcer, site.server.now, may.2⟩
      else none
  | _ => none

section

variable (cfg : Config) (configured : Int)

def step (site : Site) : Event -> Option Site
  | .policies enforcer => some { site with enforcer }
  | .session event =>
      (Sessions.step cfg configured site.server (under site.enforcer event)).map fun server =>
        { site with server, minted := site.minted ++ (site.mint event).toList }

/-- The token has the role of every session, or one that it was switched to. -/
def Site.Accounted (site : Site) (token : Token) : Prop :=
  token.claims.activeRole = some { kind := "user" } ∨
    Exists fun mint => mint ∈ site.minted ∧ token = mint.token configured

/-- Every role goes back to a switch, and every token has a mode. -/
structure Site.Sound (site : Site) : Prop where
  tokens : forall issued, issued ∈ site.server.tokens ->
    site.Accounted configured issued.token ∧ issued.token.claims.mode ≠ ""
  calls : forall call, call ∈ site.server.calls -> call.claims.mode ≠ ""
  minted : forall mint, mint ∈ site.minted ->
    mint.session.mode ≠ "" ∧ mint.mintedAt ≤ site.server.now

end

/-! ## What a step can do -/

variable {cfg : Config} {configured : Int} {site next : Site}

theorem issued_mode {userID role : String} {uiAdmin : Bool} {mode : String}
    {modeExpiresAt now ttl : Int} {activeRole : Option ActiveRole} :
    (issueTokenWithActiveRole userID role uiAdmin mode modeExpiresAt now ttl
      activeRole).claims.mode ≠ "" := by
  unfold issueTokenWithActiveRole
  dsimp only
  split
  · decide
  · assumption

/-- A request is answered with a token for the role of every session, or for the one it was switched
to. -/
theorem reissue_role {call : Call} {world : World} {token : Token}
    (issued : site.server.reissue cfg configured call { world with enforcer := site.enforcer } =
      some token) :
    (token.claims.activeRole = some { kind := "user" } ∨
      Exists fun mint => mint ∈ (site.mint (.answer call world)).toList ∧
        token = mint.token configured) ∧ token.claims.mode ≠ "" := by
  have upgraded : forall granted : Option Api.Elevation.Upgrade,
      granted.map (fun upgrade => elevatedToken call.claims upgrade site.server.adminTTL
        site.server.now (sessionTTL configured)) = some token ->
      token.claims.activeRole = some { kind := "user" } ∧ token.claims.mode ≠ "" := by
    intro granted mapped
    rcases Option.map_eq_some_iff.mp mapped with ⟨upgrade, _, rfl⟩
    exact ⟨rfl, issued_mode⟩
  rcases call with ⟨claims, loginAt, endpoint⟩
  unfold Server.reissue at issued
  cases endpoint with
  | activeRole body =>
      rcases activeRole_ok_iff.mp (toOption_eq_some.mp issued) with ⟨named, req, rfl, may, rfl⟩
      refine ⟨Or.inr ⟨⟨claims, req, site.enforcer, site.server.now, may⟩, ?_, rfl⟩, issued_mode⟩
      simp [Site.mint, named, may]
  | logoutElevation =>
      rcases logoutElevation_ok_iff.mp (toOption_eq_some.mp issued) with ⟨_, rfl⟩
      exact ⟨Or.inl rfl, issued_mode⟩
  | elevate password targetMode => exact (upgraded _ issued).imp_left Or.inl
  | elevateOIDCStart targetMode => exact (upgraded _ issued).imp_left Or.inl
  | elevateOIDCCallback queryState code => exact (upgraded _ issued).imp_left Or.inl
  | gated => exact (upgraded _ issued).imp_left Or.inl

theorem Site.Accounted.mono {token : Token} (accounted : site.Accounted configured token)
    (kept : forall mint, mint ∈ site.minted -> mint ∈ next.minted) :
    next.Accounted configured token := by
  rcases accounted with own | ⟨mint, member, same⟩
  · exact Or.inl own
  · exact Or.inr ⟨mint, kept mint member, same⟩

/-- A switch that is made goes back to a request that is being answered. -/
theorem Site.mint_cases {event : Sessions.Event} {mint : Mint}
    (member : mint ∈ (site.mint event).toList) :
    (Exists fun call => Exists fun world => event = .answer call world ∧
      mint.session = call.claims) ∧ mint.mintedAt = site.server.now := by
  have made : site.mint event = some mint := Option.mem_toList.mp member
  unfold Site.mint at made
  split at made
  · split at made
    · cases Option.some.inj made
      exact ⟨⟨_, _, rfl, rfl⟩, rfl⟩
    · cases made
  · cases made

theorem moved_now_le {server later : Server} {event : Sessions.Event}
    (moved : Moved cfg configured server event later) : server.now ≤ later.now := by
  cases moved with
  | waited nanoseconds => exact Int.le_add_of_nonneg_right (Int.natCast_nonneg _)
  | set adminTTL => exact Int.le_refl _
  | unchanged event => exact Int.le_refl _
  | opened event userID role uiAdmin => exact Int.le_refl _
  | arrived cookie endpoint known live => exact Int.le_refl _
  | answered call world known => exact Int.le_refl _

theorem under_answer {enforcer : Enforcer} {event : Sessions.Event} {call : Call} {world : World}
    (same : under enforcer event = .answer call world) :
    Exists fun shown => event = .answer call shown ∧ world = { shown with enforcer } := by
  cases event with
  | answer other shown =>
      cases same
      exact ⟨shown, rfl, rfl⟩
  | wait nanoseconds => cases same
  | setAdminTTL configured => cases same
  | login username password => cases same
  | oidcLogin signedIn => cases same
  | redeem password redeemed userID => cases same
  | arrive cookie endpoint => cases same

/-- The switches that are made along with a step are of sessions with a mode. -/
theorem Site.Sound.minted_step {event : Sessions.Event} {server : Server}
    (sound : site.Sound configured)
    (moved : Sessions.step cfg configured site.server (under site.enforcer event) = some server)
    {mint : Mint} (member : mint ∈ site.minted ++ (site.mint event).toList) :
    mint.session.mode ≠ "" ∧ mint.mintedAt ≤ server.now := by
  have order := moved_now_le (step_moved moved)
  rcases List.mem_append.mp member with old | new
  · exact (sound.minted mint old).imp_right fun earlier => Int.le_trans earlier order
  · rcases Site.mint_cases new with ⟨⟨call, world, rfl, same⟩, now⟩
    have known : call ∈ site.server.calls := by
      by_contra unknown
      simp only [under, Sessions.step, if_neg unknown] at moved
      cases moved
    rw [same, now]
    exact ⟨sound.calls call known, order⟩

/-- Who logs in gets the role of every session, and who is answered one that was switched to. -/
theorem Site.Sound.session {event : Sessions.Event} {server : Server}
    (sound : site.Sound configured)
    (moved : Sessions.step cfg configured site.server (under site.enforcer event) = some server) :
    ({ site with server, minted := site.minted ++ (site.mint event).toList } : Site).Sound
      configured := by
  have old : forall issued, issued ∈ site.server.tokens ->
      ({ site with server, minted := site.minted ++ (site.mint event).toList } : Site).Accounted
        configured issued.token ∧ issued.token.claims.mode ≠ "" := by
    intro issued member
    refine (sound.tokens issued member).imp_left fun accounted => accounted.mono ?_
    exact fun mint => List.mem_append_left _
  have minted := fun mint => @Site.Sound.minted_step cfg configured site event server sound moved mint
  have moves := step_moved moved
  generalize shown : under site.enforcer event = event' at moves
  cases moves with
  | waited nanoseconds => exact ⟨old, sound.calls, minted⟩
  | set adminTTL => exact ⟨old, sound.calls, minted⟩
  | unchanged event => exact ⟨old, sound.calls, minted⟩
  | opened event userID role uiAdmin =>
      refine ⟨?_, sound.calls, minted⟩
      intro issued member
      rcases List.mem_append.mp member with known | new
      · exact old issued known
      · cases List.mem_singleton.mp new
        exact ⟨Or.inl rfl, issued_mode⟩
  | arrived cookie endpoint known live =>
      refine ⟨old, ?_, minted⟩
      intro call member
      rcases List.mem_append.mp member with pending | new
      · exact sound.calls call pending
      · cases List.mem_singleton.mp new
        exact (sound.tokens cookie known).2
  | answered call world known =>
      rcases under_answer shown with ⟨world, rfl, rfl⟩
      refine ⟨?_, fun other member => sound.calls other (List.mem_of_mem_erase member), minted⟩
      intro issued member
      rcases List.mem_append.mp member with known | new
      · exact old issued known
      · rcases List.mem_map.mp new with ⟨token, answer, rfl⟩
        refine (reissue_role (Option.mem_toList.mp answer)).imp_left (Or.imp_right ?_)
        rintro ⟨mint, made, same⟩
        exact ⟨mint, List.mem_append_right _ made, same⟩

theorem Site.Sound.step {event : Event} (sound : site.Sound configured)
    (taken : ActiveRoles.step cfg configured site event = some next) : next.Sound configured := by
  cases event with
  | policies enforcer =>
      cases Option.some.inj taken
      exact ⟨sound.tokens, sound.calls, sound.minted⟩
  | session event =>
      have mapped : (Sessions.step cfg configured site.server (under site.enforcer event)).map
          (fun server => ({ site with server, minted := site.minted ++ (site.mint event).toList } :
            Site)) = some next := taken
      rcases Option.map_eq_some_iff.mp mapped with ⟨server, moved, rfl⟩
      exact sound.session moved

/-! ## What a role grants -/

/-- What `Can` asks, as one formula. -/
theorem ActiveRole.can_iff {role : ActiveRole} {capability clusterID : String} :
    ActiveRole.can role capability clusterID = true ↔
      Exists fun caps => roleCapabilities role.kind = some caps ∧ capability ∈ caps ∧
        (isClusterScopedCapability capability = true ->
          role.kind = "ui-admin" ∧ capability = "cluster.wiring.read" ∨
            clusterID ≠ "" ∧ role.cluster = clusterID) := by
  unfold ActiveRole.can
  cases found : roleCapabilities role.kind with
  | none => simp
  | some caps =>
      by_cases held : capability ∈ caps
      · by_cases platform : role.kind = "ui-admin" ∧ capability = "cluster.wiring.read"
        · simp [platform]
        · cases clusterScoped : isClusterScopedCapability capability with
          | false => simp [held]
          | true => simp [held, platform]
      · simp [held]

theorem can_some {claims : Claims} {capability clusterID : String} :
    can (some claims) capability clusterID = true ↔
      Exists fun role => claims.activeRole = some role ∧
        ActiveRole.can role capability clusterID = true := by
  unfold can
  cases carried : claims.activeRole with
  | none => simp [carried]
  | some role => simp [carried]

/-- The roles that grant something are those of the table. -/
theorem roleCapabilities_cases {kind : String} {caps : List String}
    (found : roleCapabilities kind = some caps) :
    kind = "ui-admin" ∧ caps = uiAdminCapabilities ∨
      kind = "cluster-admin" ∧ caps = clusterAdminCapabilities ∨
        kind = "user" ∧ caps = userCapabilities := by
  unfold roleCapabilities at found
  split at found
  · exact Or.inl ⟨by assumption, (Option.some.inj found).symm⟩
  · split at found
    · exact Or.inr (Or.inl ⟨by assumption, (Option.some.inj found).symm⟩)
    · split at found
      · exact Or.inr (Or.inr ⟨by assumption, (Option.some.inj found).symm⟩)
      · cases found

/-- A capability that is not cluster scoped and that the UI admins have is granted to nobody else. -/
theorem ActiveRole.can_platform {role : ActiveRole} {capability clusterID : String}
    (platform : capability ∈ uiAdminCapabilities)
    (unscoped : isClusterScopedCapability capability = false)
    (granted : ActiveRole.can role capability clusterID = true) : role.kind = "ui-admin" := by
  have disjoint : forall cap, cap ∈ uiAdminCapabilities -> cap ∉ userCapabilities := by
    decide +kernel
  rcases ActiveRole.can_iff.mp granted with ⟨caps, found, held, _⟩
  rcases roleCapabilities_cases found with ⟨kind, _⟩ | ⟨_, rfl⟩ | ⟨_, rfl⟩
  · exact kind
  · unfold isClusterScopedCapability at unscoped
    rw [List.contains_iff_mem.mpr held] at unscoped
    cases unscoped
  · exact absurd held (disjoint capability platform)

/-- A cluster-scoped capability is granted to the administrators of the cluster and, if it is the
one to look at the connection of the cluster, to the UI admins. -/
theorem ActiveRole.can_cluster {role : ActiveRole} {capability clusterID : String}
    (clusterScoped : isClusterScopedCapability capability = true)
    (granted : ActiveRole.can role capability clusterID = true) :
    role.kind = "cluster-admin" ∧ role.cluster = clusterID ∨ role.kind = "ui-admin" := by
  have disjoint : forall cap, cap ∈ clusterAdminCapabilities -> cap ∉ userCapabilities := by
    decide +kernel
  rcases ActiveRole.can_iff.mp granted with ⟨caps, found, held, scoping⟩
  rcases roleCapabilities_cases found with ⟨kind, _⟩ | ⟨kind, rfl⟩ | ⟨_, rfl⟩
  · exact Or.inr kind
  · refine Or.inl ⟨kind, ?_⟩
    rcases scoping clusterScoped with ⟨other, _⟩ | ⟨_, same⟩
    · rw [kind] at other
      exact absurd other (by decide)
    · exact same
  · exact absurd held (disjoint capability (List.contains_iff_mem.mp clusterScoped))

/-! ## What a switch asked for -/

/-- A switch to the role of the UI admins was made by one in admin mode. -/
theorem Mint.platform (mint : Mint) (kind : mint.role.kind = "ui-admin") :
    mint.session.uiAdmin = true ∧ currentMode (some mint.session) mint.mintedAt = "admin" := by
  have may := mint.may
  unfold mayTake at may
  rw [kind] at may
  simpa using may

/-- A switch to the role of a cluster's administrators was made by a UI admin or by a user with
the role assignment. -/
theorem Mint.cluster (mint : Mint) (kind : mint.role.kind = "cluster-admin") :
    mint.session.uiAdmin = true ∨
      mint.enforcer.administers mint.session.userID mint.role.cluster = true := by
  have may := mint.may
  unfold mayTake at may
  rw [kind] at may
  simp only [Bool.or_eq_true, Bool.and_eq_true, decide_eq_true_eq, bne_iff_ne] at may
  rcases may with (other | ⟨_, granted⟩) | ⟨⟨other, _⟩, _⟩
  · exact absurd other (by decide)
  · exact granted
  · exact absurd other (by decide)

/-- Claims that were in admin mode once are in admin mode until it ends. -/
theorem currentMode_later {claims : Claims} {earlier now : Int} (named : claims.mode ≠ "")
    (admin : currentMode (some claims) earlier = "admin") :
    currentMode (some claims) now = "admin" ∨
      0 < claims.modeExpiresAt ∧ claims.modeExpiresAt ≤ unix now := by
  by_cases ended : 0 < claims.modeExpiresAt ∧ claims.modeExpiresAt ≤ unix now
  · exact Or.inr ended
  · refine Or.inl ?_
    unfold currentMode at admin ⊢
    dsimp only at admin ⊢
    rw [if_neg named] at admin ⊢
    rw [if_neg fun past => ended ⟨past.1, past.2.1⟩]
    split at admin
    · exact absurd admin (by decide)
    · exact admin

/-- The token of a switch has the mode of the session that made it. -/
theorem Mint.token_mode (mint : Mint) (named : mint.session.mode ≠ "") (now : Int) :
    currentMode (some (mint.token configured).claims) now =
      currentMode (some mint.session) now := by
  have mode : (mint.token configured).claims.mode = mint.session.mode := if_neg named
  have ends : (mint.token configured).claims.modeExpiresAt = mint.session.modeExpiresAt := rfl
  unfold currentMode
  dsimp only
  rw [mode, ends]

/-- A token with a role beyond that of every session is the token of a switch to this role. -/
theorem Site.Accounted.switched {token : Token} (accounted : site.Accounted configured token)
    {role : ActiveRole} (carried : token.claims.activeRole = some role)
    (beyond : role.kind ≠ "user") :
    Exists fun mint => mint ∈ site.minted ∧ token = mint.token configured ∧
      mint.role.kind = role.kind ∧ (role.kind = "cluster-admin" -> mint.role.cluster = role.cluster) := by
  rcases accounted with own | ⟨mint, member, rfl⟩
  · cases own.symm.trans carried
    exact absurd rfl beyond
  · have same : some (⟨mint.role.kind, if mint.role.kind = "cluster-admin" then mint.role.cluster
        else ""⟩ : ActiveRole) = some role := carried
    cases same
    exact ⟨mint, member, rfl, rfl, fun kind => (if_pos kind).symm⟩

/-! ## Every run -/

/-- The token is that of a switch which was made within the lifetime of a session. -/
structure Site.MintedBy (site : Site) (configured : Int) (claims : Claims) (mint : Mint) : Prop where
  member : mint ∈ site.minted
  claims : claims = (mint.token configured).claims
  earlier : mint.mintedAt ≤ site.server.now
  recent : site.server.now < mint.mintedAt + sessionTTL configured

theorem mintedBy_of_live {token : Token} {mint : Mint} (sound : site.Sound configured)
    (live : token.live site.server.now = true) (member : mint ∈ site.minted)
    (same : token = mint.token configured) :
    site.MintedBy configured token.claims mint := by
  refine ⟨member, congrArg Token.claims same, (sound.minted mint member).2, ?_⟩
  unfold Token.live at live
  rw [Bool.and_eq_true, decide_eq_true_eq, decide_eq_true_eq, same] at live
  exact Int.lt_of_lt_of_le live.2 (numericDate_le _)

theorem Site.Sound.of_run {start final : Site} {events : List Event}
    (fresh : start.server.tokens = []) (idle : start.server.calls = [])
    (unminted : start.minted = [])
    (run : Transition.exec (ActiveRoles.step cfg configured) start events = some final) :
    final.Sound configured := by
  refine @Transition.exec_invariant _ _ (ActiveRoles.step cfg configured) (Site.Sound configured)
    (fun site event next held taken => held.step taken) events start final ⟨?_, ?_, ?_⟩ run
  · intro other member
    rw [fresh] at member
    cases member
  · intro call member
    rw [idle] at member
    cases member
  · intro mint member
    rw [unminted] at member
    cases member

/-- Whatever the gate of the capabilities grants was allowed when the role was switched to.  A
capability of the UI admins was granted to a UI admin in admin mode, which the session still is
unless the mode has ended; one of a cluster's administrators, to a UI admin or to a user with the
role assignment at that time. -/
theorem active_roles_were_allowed {start final : Site} {events : List Event} {issued : Issued}
    {claims : Claims} (fresh : start.server.tokens = []) (idle : start.server.calls = [])
    (unminted : start.minted = [])
    (run : Transition.exec (ActiveRoles.step cfg configured) start events = some final)
    (known : issued ∈ final.server.tokens)
    (parsed : parseToken issued.token final.server.now = some claims) (capability clusterID : String)
    (granted : can (some claims) capability clusterID = true) :
    (capability ∈ uiAdminCapabilities -> isClusterScopedCapability capability = false ->
      (Exists fun mint => final.MintedBy configured claims mint ∧ mint.session.uiAdmin = true ∧
        currentMode (some mint.session) mint.mintedAt = "admin") ∧
      (currentMode (some claims) final.server.now = "admin" ∨
        0 < claims.modeExpiresAt ∧ claims.modeExpiresAt ≤ unix final.server.now)) ∧
    (isClusterScopedCapability capability = true ->
      Exists fun mint => final.MintedBy configured claims mint ∧
        (mint.session.uiAdmin = true ∨
          mint.enforcer.administers claims.userID clusterID = true)) := by
  have sound := Site.Sound.of_run fresh idle unminted run
  rcases parseToken_eq_some.mp parsed with ⟨live, rfl⟩
  rcases can_some.mp granted with ⟨role, carried, grants⟩
  have switched := fun beyond => (sound.tokens issued known).1.switched carried beyond
  constructor
  · intro platform unscoped
    have kind := ActiveRole.can_platform platform unscoped grants
    rcases switched (by rw [kind]; decide) with ⟨mint, member, same, role', _⟩
    rcases mint.platform (role'.trans kind) with ⟨uiAdmin, admin⟩
    refine ⟨⟨mint, mintedBy_of_live sound live member same, uiAdmin, admin⟩, ?_⟩
    have then' : currentMode (some issued.token.claims) mint.mintedAt = "admin" := by
      rw [same, mint.token_mode (sound.minted mint member).1]
      exact admin
    exact currentMode_later (sound.tokens issued known).2 then'
  · intro clusterScoped
    rcases ActiveRole.can_cluster clusterScoped grants with ⟨kind, cluster⟩ | kind
    · rcases switched (by rw [kind]; decide) with ⟨mint, member, same, role', own⟩
      refine ⟨mint, mintedBy_of_live sound live member same, ?_⟩
      have user : issued.token.claims.userID = mint.session.userID := by
        rw [same]
        rfl
      rw [user, ← cluster, ← own kind]
      exact mint.cluster (role'.trans kind)
    · rcases switched (by rw [kind]; decide) with ⟨mint, member, same, role', _⟩
      exact ⟨mint, mintedBy_of_live sound live member same,
        Or.inl (mint.platform (role'.trans kind)).1⟩

/-! ## Roles that outlive their grounds -/

def emptySite : Site := ⟨emptyServer, ⟨[], []⟩, []⟩

/-- The elevated admin asks for the role of the UI admins. -/
def adminSwitch : Mint :=
  ⟨elevatedSession.token.claims, ⟨"ui-admin", ""⟩, ⟨[], []⟩, preV12GraceUntil, by decide +kernel⟩

/-- The switch, and twenty minutes, in which admin mode ends. -/
def adminRun : List Event :=
  [.session (.login "admin" "secret"),
    .session (.arrive adminSession (.elevate "secret" "admin")),
    .session (.answer elevating emptyWorld),
    .session (.arrive elevatedSession (.activeRole (some ⟨"ui-admin", ""⟩))),
    .session (.answer ⟨elevatedSession.token.claims, preV12GraceUntil,
      .activeRole (some ⟨"ui-admin", ""⟩)⟩ emptyWorld),
    .session (.wait 1200000000000)]

/-- Policies in which Bob administers a cluster. -/
def bobAdministers : Enforcer :=
  ⟨[⟨"cluster_admin", ["bucket:view"]⟩], [⟨"bob", "cluster_admin", "cluster:c1"⟩]⟩

/-- The session of Bob, who was invited. -/
def bobSession : Issued :=
  ⟨issueToken "bob" "user" false preV12GraceUntil (sessionTTL 0), preV12GraceUntil⟩

def bobSwitch : Mint :=
  ⟨bobSession.token.claims, ⟨"cluster-admin", "c1"⟩, bobAdministers, preV12GraceUntil,
    by decide +kernel⟩

/-- Bob switches to the role, and the assignment is removed. -/
def bobRun : List Event :=
  [.session (.redeem "hunter2" true "bob"), .policies bobAdministers,
    .session (.arrive bobSession (.activeRole (some ⟨"cluster-admin", "c1"⟩))),
    .session (.answer ⟨bobSession.token.claims, preV12GraceUntil,
      .activeRole (some ⟨"cluster-admin", "c1"⟩)⟩ emptyWorld),
    .policies ⟨[], []⟩]

/-- The elevated admin acts as UI admin. -/
theorem active_roles_were_allowed_admin :
    Exists fun final => Transition.exec (ActiveRoles.step adminConfig 0) emptySite adminRun =
        some final ∧
      Exists fun mint => final.MintedBy 0 (adminSwitch.token 0).claims mint ∧
        mint.session.uiAdmin = true ∧
        currentMode (some mint.session) mint.mintedAt = "admin" := by
  refine ⟨_, rfl, ?_⟩
  exact ((@active_roles_were_allowed adminConfig 0 emptySite _ adminRun
    ⟨adminSwitch.token 0, preV12GraceUntil⟩ _ rfl rfl rfl rfl (by decide +kernel)
    (by decide +kernel) "platform.users.delete" "" (by decide +kernel)).1 (by decide +kernel)
    (by decide +kernel)).1

/-- The gate grants a UI admin's capability after admin mode, and one of a cluster's
administrators to a user without the assignment. -/
theorem active_roles_outlive_grounds :
    (¬ forall (cfg : Config) (configured : Int) (start final : Site) (events : List Event)
      (issued : Issued) (claims : Claims) (capability clusterID : String),
      start.server.tokens = [] -> start.server.calls = [] -> start.minted = [] ->
      Transition.exec (ActiveRoles.step cfg configured) start events = some final ->
      issued ∈ final.server.tokens ->
      parseToken issued.token final.server.now = some claims ->
      can (some claims) capability clusterID = true -> capability ∈ uiAdminCapabilities ->
      isClusterScopedCapability capability = false ->
      currentMode (some claims) final.server.now = "admin") ∧
    ¬ forall (cfg : Config) (configured : Int) (start final : Site) (events : List Event)
      (issued : Issued) (claims : Claims) (capability clusterID : String),
      start.server.tokens = [] -> start.server.calls = [] -> start.minted = [] ->
      Transition.exec (ActiveRoles.step cfg configured) start events = some final ->
      issued ∈ final.server.tokens ->
      parseToken issued.token final.server.now = some claims ->
      can (some claims) capability clusterID = true ->
      isClusterScopedCapability capability = true ->
      claims.uiAdmin = true ∨ final.enforcer.administers claims.userID clusterID = true := by
  constructor
  · intro current
    have admin := current adminConfig 0 emptySite _ adminRun
      ⟨adminSwitch.token 0, preV12GraceUntil⟩ (adminSwitch.token 0).claims
      "platform.users.delete" "" rfl rfl rfl rfl (by decide +kernel) (by decide +kernel)
      (by decide +kernel) (by decide +kernel) (by decide +kernel)
    exact absurd admin (by decide +kernel)
  · intro current
    have holds := current adminConfig 0 emptySite _ bobRun ⟨bobSwitch.token 0, preV12GraceUntil⟩
      (bobSwitch.token 0).claims "cluster.buckets.delete" "c1" rfl rfl rfl rfl
      (by decide +kernel) (by decide +kernel) (by decide +kernel) (by decide +kernel)
    exact absurd holds (by decide +kernel)

end ActiveRoles
end Sessions
end Basement
