import Basement.Library.SortedStore
import Mathlib.Data.List.DropRight
import Mathlib.Data.String.Basic

namespace Basement
namespace Api

open Library

/-!
# Regions and connections

A connection is registered by an administrator and holds the credentials of one
backend.  A region is an entry of a user's own keychain: an endpoint in canonical
form with an access key and its secret.  Several parts of the API exchange one for
the other by comparing canonical endpoints, and decide by the same comparison
which connections a user can see.

`url.Parse` and `strings.ToLower` are parameters.  Everything `NormalizeEndpoint`
does with their answers is here.
-/

/-! ## Canonical endpoints -/

/-- The parts of a parsed URL that `NormalizeEndpoint` looks at. -/
structure ParsedURL where
  scheme : String
  host : String
  deriving DecidableEq, Repr

/-- The two library functions; a failed parse is `none`. -/
structure URLLibrary where
  parse : String -> Option ParsedURL
  toLower : String -> String

/-- `unicode.IsSpace`. -/
def isSpace (c : Char) : Bool :=
  c ∈ ['\t', '\n', '\x0b', '\x0c', '\r', ' ', '\u0085', '\u00a0', '\u1680', '\u2028', '\u2029',
    '\u202f', '\u205f', '\u3000'] || ('\u2000' ≤ c && c ≤ '\u200a')

/-- `strings.TrimSpace`. -/
def trimSpace (s : String) : String :=
  String.ofList (((s.toList.dropWhile isSpace).reverse.dropWhile isSpace).reverse)

/-- `strings.TrimSuffix`. -/
def trimSuffix (s suffix : String) : String :=
  if suffix.toList.isSuffixOf s.toList then
    String.ofList (s.toList.take (s.toList.length - suffix.toList.length))
  else s

/-- What is trimmed once is trimmed. -/
theorem trimSpace_trimSpace (s : String) : trimSpace (trimSpace s) = trimSpace s := by
  have front : ((s.toList.dropWhile isSpace).rdropWhile isSpace).dropWhile isSpace =
      (s.toList.dropWhile isSpace).rdropWhile isSpace := by
    rw [List.dropWhile_eq_self_iff]
    intro nonempty
    have isPrefix := List.rdropWhile_prefix isSpace (s.toList.dropWhile isSpace)
    have first := List.dropWhile_get_zero_not isSpace s.toList
      (Nat.lt_of_lt_of_le nonempty isPrefix.length_le)
    rw [List.IsPrefix.getElem isPrefix]
    exact first
  have trimmed : forall t : String,
      trimSpace t = String.ofList ((t.toList.dropWhile isSpace).rdropWhile isSpace) := by
    intro t
    rfl
  rw [trimmed (trimSpace s), trimmed s, String.toList_ofList, front, List.rdropWhile_idempotent]

theorem trimSuffix_append (s suffix : String) : trimSuffix (s ++ suffix) suffix = s := by
  simp [trimSuffix]

/-- `store.NormalizeEndpoint`; every error is `none`. -/
def normalizeEndpoint (urls : URLLibrary) (raw : String) : Option String :=
  let s := trimSpace raw
  if s = "" then none
  else
    match urls.parse s with
    | none => none
    | some url =>
        let scheme := urls.toLower url.scheme
        if scheme = "" then none
        else if scheme ≠ "http" ∧ scheme ≠ "https" then none
        else
          let host := urls.toLower url.host
          if host = "" then none
          else
            let host := if scheme = "https" then trimSuffix host ":443" else trimSuffix host ":80"
            some (scheme ++ "://" ++ host)

theorem normalizeEndpoint_ne_empty {urls : URLLibrary} {raw canon : String}
    (normalized : normalizeEndpoint urls raw = some canon) : canon ≠ "" := by
  unfold normalizeEndpoint at normalized
  intro empty
  subst empty
  simp only at normalized
  split at normalized
  · cases normalized
  · split at normalized
    · cases normalized
    · split at normalized
      · cases normalized
      · split at normalized
        · cases normalized
        · split at normalized
          · cases normalized
          · have text := congrArg String.length (Option.some.inj normalized)
            simp [String.length_append] at text

/-- A library that knows two spellings of one endpoint. -/
def sampleURLs : URLLibrary where
  parse raw :=
    if raw = "https://s3.local" then some ⟨"https", "s3.local"⟩
    else if raw = "https://s3.local:443" then some ⟨"https", "s3.local:443"⟩
    else none
  toLower raw := raw

example : normalizeEndpoint sampleURLs " https://s3.local:443\n" = some "https://s3.local" := by
  decide

/-! ## Records -/

/-- The driver types a connection can have. -/
inductive DriverType where
  | garage
  | garageV1
  | awsS3
  | minio
  deriving DecidableEq, Repr

/-- An administrator's connection.  `s3Endpoint` and `endpoint` are the config
values `s3_endpoint` and `endpoint`, empty when absent. -/
structure Connection where
  id : String
  driver : DriverType
  s3Endpoint : String := ""
  endpoint : String := ""
  accessKey : String := ""
  secretKey : String := ""
  owner : String := "org"
  deriving DecidableEq, Repr

/-- An entry of a user's keychain, with its secret decrypted. -/
structure UserRegion where
  userID : String
  endpoint : String
  accessKeyID : String
  secretKey : String
  deriving DecidableEq, Repr

/-- What a driver signs its requests with, and the endpoint it sends them to. -/
structure Credentials where
  endpoint : String
  accessKeyID : String
  secretKey : String
  deriving DecidableEq, Repr

def UserRegion.credentials (region : UserRegion) : Credentials :=
  ⟨region.endpoint, region.accessKeyID, region.secretKey⟩

/-- What the access decisions look at: the connections in their stored order and
the regions of all users by their IDs. -/
structure Keyring where
  conns : List Connection
  regions : SortedStore String UserRegion

/-- `connections.Get`. -/
def Keyring.connection (ring : Keyring) (id : String) : Option Connection :=
  ring.conns.find? fun conn => conn.id == id

/-- A region ID that belongs to the user. -/
def Keyring.ownedRegion (ring : Keyring) (userID id : String) : Option UserRegion :=
  (ring.regions.get? id).filter fun region => region.userID == userID

/-- The regions of one user. -/
def Keyring.keychain (ring : Keyring) (userID : String) : List UserRegion :=
  (ring.regions.entries.map Prod.snd).filter fun region => region.userID == userID

theorem Keyring.ownedRegion_eq_some {ring : Keyring} {userID id : String} {region : UserRegion} :
    ring.ownedRegion userID id = some region ↔
      ring.regions.get? id = some region ∧ region.userID = userID := by
  simp [Keyring.ownedRegion, Option.filter_eq_some_iff]

theorem Keyring.mem_keychain_of_ownedRegion {ring : Keyring} {userID id : String}
    {region : UserRegion} (owned : ring.ownedRegion userID id = some region) :
    region ∈ ring.keychain userID := by
  rcases Keyring.ownedRegion_eq_some.mp owned with ⟨found, user⟩
  refine List.mem_filter.mpr ⟨?_, by simp [user]⟩
  exact List.mem_map.mpr ⟨_, (ring.regions.mem_entries_iff id region).mpr found, rfl⟩

variable (urls : URLLibrary)

/-- `connectionS3Endpoint`. -/
def connectionS3Endpoint (conn : Connection) : String :=
  if trimSpace conn.s3Endpoint ≠ "" then trimSpace conn.s3Endpoint else trimSpace conn.endpoint

/-- `canonicalizeConnEndpoint`, with `none` for its empty string. -/
def canonicalizeConnEndpoint (conn : Connection) : Option String :=
  if connectionS3Endpoint conn = "" then none
  else normalizeEndpoint urls (connectionS3Endpoint conn)

/-! ## Which connections a user can see -/

/-- The endpoints of the user's keychain. -/
def userEndpoints (ring : Keyring) (userID : String) : List String :=
  ((ring.keychain userID).map UserRegion.endpoint).filter fun endpoint => endpoint ≠ ""

/-- The rule `userVisibleConnections` applies to one connection of a user without
the admin role. -/
def seesConnection (ring : Keyring) (userID : String) (conn : Connection) : Bool :=
  (conn.owner ≠ "" && conn.owner = userID) ||
    match canonicalizeConnEndpoint urls conn with
    | none => false
    | some canon => decide (canon ∈ userEndpoints ring userID)

/-- `userVisibleConnections`. -/
def userVisibleConnections (ring : Keyring) (admin : Bool) (userID : String) : List String :=
  if admin then ring.conns.map Connection.id
  else (ring.conns.filter (seesConnection urls ring userID)).map Connection.id

/-- `userOwnsConnection`. -/
def userOwnsConnection (ring : Keyring) (userID connID : String) : Bool :=
  match ring.connection connID with
  | none => false
  | some conn => conn.owner ≠ "" && conn.owner = userID

/-- The test both the sync and the share handler make: some visible connection is
the one asked for, or the one asked for is the user's. -/
def hasConnectionAccess (ring : Keyring) (admin : Bool) (userID connID : String) : Bool :=
  (userVisibleConnections urls ring admin userID).any fun id =>
    connID == id || userOwnsConnection ring userID connID

/-! ## From a region to a connection -/

inductive ResolveError where
  | regionNotFound
  | noAdminBridge
  deriving DecidableEq, Repr

/-- `resolveRegionToConnection`: the first connection at the region's endpoint. -/
def resolveRegionToConnection (ring : Keyring) (userID regionID : String) :
    Except ResolveError String :=
  match ring.ownedRegion userID regionID with
  | none => .error .regionNotFound
  | some region =>
      let matching := ring.conns.filter fun conn =>
        canonicalizeConnEndpoint urls conn == some region.endpoint
      match (matching.map Connection.id).find? fun id => id ≠ "" with
      | none => .error .noAdminBridge
      | some id => .ok id

/-- `maybeResolveRegionField`: the ID of a region of the caller is exchanged, any
other text passes through. -/
def maybeResolveRegionField (ring : Keyring) (userID raw : String) : Except ResolveError String :=
  if raw = "" then .ok raw
  else
    match ring.ownedRegion userID raw with
    | none => .ok raw
    | some _ => resolveRegionToConnection urls ring userID raw

variable {urls} {ring : Keyring} {userID : String}

/-- A user sees the connections they own. -/
theorem visible_of_userOwnsConnection {connID : String} (admin : Bool)
    (owns : userOwnsConnection ring userID connID = true) :
    connID ∈ userVisibleConnections urls ring admin userID := by
  unfold userOwnsConnection at owns
  cases found : ring.connection connID with
  | none =>
      rw [found] at owns
      cases owns
  | some conn =>
      simp only [found] at owns
      have member : conn ∈ ring.conns := List.mem_of_find?_eq_some found
      have same : conn.id = connID := by simpa using List.find?_some found
      have sees : seesConnection urls ring userID conn = true := by
        simp only [seesConnection, owns, Bool.true_or]
      unfold userVisibleConnections
      rw [← same]
      cases admin with
      | true => exact List.mem_map_of_mem member
      | false => exact List.mem_map_of_mem (List.mem_filter.mpr ⟨member, sees⟩)

/-- The test of the handlers passes exactly the visible connections. -/
theorem hasConnectionAccess_iff {connID : String} (admin : Bool) :
    hasConnectionAccess urls ring admin userID connID = true ↔
      connID ∈ userVisibleConnections urls ring admin userID := by
  unfold hasConnectionAccess
  constructor
  · intro granted
    rcases List.any_eq_true.mp granted with ⟨id, visible, passes⟩
    rcases Bool.or_eq_true_iff.mp passes with same | owns
    · rwa [eq_of_beq same]
    · exact visible_of_userOwnsConnection admin owns
  · intro visible
    exact List.any_eq_true.mpr ⟨connID, visible, by simp⟩

/-- A connection at the endpoint of one of the user's regions is visible. -/
theorem seesConnection_of_region {conn : Connection} {region : UserRegion}
    (owned : region ∈ ring.keychain userID)
    (matching : canonicalizeConnEndpoint urls conn = some region.endpoint) :
    seesConnection urls ring userID conn = true := by
  have filled : region.endpoint ≠ "" := by
    unfold canonicalizeConnEndpoint at matching
    split at matching
    · cases matching
    · exact normalizeEndpoint_ne_empty matching
  have listed : region.endpoint ∈ userEndpoints ring userID :=
    List.mem_filter.mpr ⟨List.mem_map_of_mem owned, by simpa using filled⟩
  simp [seesConnection, matching, listed]

/-- What a resolved region names: a connection at the region's endpoint. -/
theorem resolveRegionToConnection_ok {regionID connID : String}
    (resolved : resolveRegionToConnection urls ring userID regionID = .ok connID) :
    Exists fun region => Exists fun conn => ring.ownedRegion userID regionID = some region ∧
      conn ∈ ring.conns ∧ conn.id = connID ∧
      canonicalizeConnEndpoint urls conn = some region.endpoint := by
  unfold resolveRegionToConnection at resolved
  split at resolved
  · cases resolved
  · rename_i region owned
    simp only at resolved
    split at resolved
    · cases resolved
    · rename_i id found
      cases Except.ok.inj resolved
      rcases List.mem_map.mp (List.mem_of_find?_eq_some found) with ⟨conn, listed, same⟩
      rcases List.mem_filter.mp listed with ⟨member, matching⟩
      exact ⟨region, conn, owned, member, same, by simpa using matching⟩

/-- A region of the user resolves to a connection the user can see. -/
theorem resolveRegionToConnection_visible {regionID connID : String} (admin : Bool)
    (resolved : resolveRegionToConnection urls ring userID regionID = .ok connID) :
    connID ∈ userVisibleConnections urls ring admin userID := by
  rcases resolveRegionToConnection_ok resolved with ⟨region, conn, owned, member, rfl, matching⟩
  unfold userVisibleConnections
  cases admin with
  | true => exact List.mem_map_of_mem member
  | false =>
      exact List.mem_map_of_mem (List.mem_filter.mpr ⟨member,
        seesConnection_of_region (Keyring.mem_keychain_of_ownedRegion owned) matching⟩)

end Api
end Basement
