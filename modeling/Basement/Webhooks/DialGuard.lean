import Basement.Library.IPAddress

namespace Basement
namespace Webhooks
namespace DialGuard

open Library
open PercentEncoding (Bytes)
open TextFields (cut cut_append)
open IPAddress

/-!
# The dial guard

Webhooks and user regions connect to addresses that a user has chosen.  Before each connection the
dialer hands the guard the text of the address, and the guard refuses what it does not take for
public.

An address is four or sixteen octets for the library, and what is parsed is sixteen.
-/

/-! ## The predicates of an address -/

/-- `To4`. -/
abbrev to4 (ip : Address) : Option Bytes := toV4 ip

def isUnspecified (ip : Address) : Bool :=
  match to4 ip with
  | some ip4 => ip4 = [0, 0, 0, 0]
  | none => ip.1 = List.replicate 16 0

def isLoopback (ip : Address) : Bool :=
  match to4 ip with
  | some ip4 => ip4.getD 0 0 = 127
  | none => ip.1 = List.replicate 15 0 ++ [1]

def isPrivate (ip : Address) : Bool :=
  match to4 ip with
  | some ip4 =>
      ip4.getD 0 0 = 10 || ip4.getD 0 0 = 172 && ip4.getD 1 0 &&& 0xf0 = 16 ||
        ip4.getD 0 0 = 192 && ip4.getD 1 0 = 168
  | none => ip.1.getD 0 0 &&& 0xfe = 0xfc

def isMulticast (ip : Address) : Bool :=
  match to4 ip with
  | some ip4 => ip4.getD 0 0 &&& 0xf0 = 0xe0
  | none => ip.1.getD 0 0 = 0xff

def isLinkLocalMulticast (ip : Address) : Bool :=
  match to4 ip with
  | some ip4 => ip4.getD 0 0 = 224 && ip4.getD 1 0 = 0 && ip4.getD 2 0 = 0
  | none => ip.1.getD 0 0 = 0xff && ip.1.getD 1 0 &&& 0x0f = 0x02

def isLinkLocalUnicast (ip : Address) : Bool :=
  match to4 ip with
  | some ip4 => ip4.getD 0 0 = 169 && ip4.getD 1 0 = 254
  | none => ip.1.getD 0 0 = 0xfe && ip.1.getD 1 0 &&& 0xc0 = 0x80

/-- `BlockedIP`; a text that is no address is `none`. -/
def blockedIP (ip : Option Address) : Bool :=
  match ip with
  | none => true
  | some ip =>
      isLoopback ip || isPrivate ip || isLinkLocalUnicast ip || isLinkLocalMulticast ip ||
        isUnspecified ip || isMulticast ip

/-! ## The guard -/

def openBracket : UInt8 := 91

def closeBracket : UInt8 := 93

/-- The text before the last separator and the text behind it. -/
def cutLast (separator : UInt8) (text : Bytes) : Option (Bytes × Bytes) :=
  (cut separator text.reverse).map fun parts => (parts.2.reverse, parts.1.reverse)

/-- `net.SplitHostPort`. -/
def splitHostPort (hostport : Bytes) : Except String (Bytes × Bytes) :=
  match cutLast colon hostport with
  | none => .error "missing port in address"
  | some (front, port) =>
      if hostport.head? = some openBracket then
        match cut closeBracket hostport with
        | none => .error "missing ']' in address"
        | some (inside, behind) =>
            if behind = [] then .error "missing port in address"
            else if inside.length + 1 ≠ front.length then
              if behind.head? = some colon then .error "too many colons in address"
              else .error "missing port in address"
            else if openBracket ∈ hostport.tail then .error "unexpected '[' in address"
            else if closeBracket ∈ behind then .error "unexpected ']' in address"
            else .ok (inside.tail, port)
      else if colon ∈ front then .error "too many colons in address"
      else if openBracket ∈ hostport then .error "unexpected '[' in address"
      else if closeBracket ∈ hostport then .error "unexpected ']' in address"
      else .ok (front, port)

/-- `net.ParseIP`, which takes no zone. -/
def parseIP (s : Bytes) : Option Address :=
  match parseAddr s with
  | none => none
  | some (ip, zone) => if zone = [] then some ip else none

inductive DialError where
  | address (why : String) (address : Bytes)
  | nonPublic (label : String) (address : Bytes)
  deriving DecidableEq, Repr

/-- `SSRFSafeDialControl`: the error of the hook, or `none` if the connection may be made. -/
def ssrfSafeDialControl (label : String) (address : Bytes) : Option DialError :=
  match splitHostPort address with
  | .error why => some (.address why address)
  | .ok (host, _) => if blockedIP (parseIP host) then some (.nonPublic label address) else none

/-- The address that a text of the dialer stands for, with its zone. -/
def dialed (address : Bytes) : Option (Address × Bytes) :=
  match splitHostPort address with
  | .error _ => none
  | .ok (host, _) => parseAddr host

/-! ## What the predicates cover -/

/-- The kinds of addresses that the predicates are about. -/
def checkedKinds : List Kind :=
  [.unspecified, .loopback, .privateUse, .uniqueLocal, .linkLocal, .multicast]

/-- A statement about a byte holds if it holds of every number below 256. -/
theorem forall_byte {property : UInt8 -> Prop}
    (all : forall number : Fin 256, property (UInt8.ofNat number)) (byte : UInt8) :
    property byte := by
  have holds := all ⟨byte.toNat, byte.toNat_lt⟩
  simpa using holds

theorem top_of_mask : forall byte : UInt8,
    (byte &&& 0xf0 = 16 ↔ byte.toNat / 2 ^ 4 = 1) ∧
      (byte &&& 0xf0 = 0xe0 ↔ byte.toNat / 2 ^ 4 = 14) ∧
      (byte &&& 0xfe = 0xfc ↔ byte.toNat / 2 ^ 1 = 126) ∧
      (byte &&& 0xc0 = 0x80 ↔ byte.toNat / 2 ^ 6 = 2) := forall_byte (by decide +kernel)

theorem length_four {ip : Address} {ip4 : Bytes} (four : to4 ip = some ip4) : ip4.length = 4 := by
  unfold to4 toV4 at four
  split at four
  · cases four
    rw [List.length_drop, ip.2]
  · cases four

/-- For an IPv4 address the predicates cover the kinds they are about. -/
theorem blocked_v4_iff {ip : Address} {ip4 : Bytes} (four : to4 ip = some ip4) :
    blockedIP (some ip) = isOf kindsV4 checkedKinds ip4 := by
  rcases ip4 with _ | ⟨a, _ | ⟨b, _ | ⟨c, _ | ⟨d, rest⟩⟩⟩⟩
  · cases length_four four
  · cases length_four four
  · cases length_four four
  · cases length_four four
  · have short : rest = [] := by
      have length := length_four four
      simpa using length
    rw [short] at four ⊢
    rw [Bool.eq_iff_iff]
    have small : forall byte : UInt8, byte.toNat < 256 := UInt8.toNat_lt
    have inside : a = 224 -> a.toNat / 16 = 14 := by
      rintro rfl
      rfl
    simp only [blockedIP, isLoopback, isPrivate, isLinkLocalUnicast, isLinkLocalMulticast,
      isUnspecified, isMulticast, four, isOf, kindsV4, checkedKinds, Block.contains]
    simp [(top_of_mask b).1, (top_of_mask a).2.1, small]
    grind

/-- For any other address as well. -/
theorem blocked_v6_iff {ip : Address} (six : to4 ip = none) :
    blockedIP (some ip) = isOf kindsV6 checkedKinds ip.1 := by
  rcases ip with ⟨octets, length⟩
  rcases octets with _ | ⟨a, _ | ⟨b, rest⟩⟩
  · cases length
  · cases length
  · have whole : rest.take 14 = rest := by
      apply List.take_of_length_le
      simp only [List.length_cons] at length
      omega
    have small : forall byte : UInt8, byte.toNat < 256 := UInt8.toNat_lt
    rw [Bool.eq_iff_iff]
    simp only [blockedIP, isLoopback, isPrivate, isLinkLocalUnicast, isLinkLocalMulticast,
      isUnspecified, isMulticast, six, isOf, kindsV6, checkedKinds]
    simp [Block.contains, (top_of_mask b).2.2, (top_of_mask a).2.2, whole, small]
    grind

/-- An address that another one is taken out of is of no kind that the predicates are about. -/
theorem isOf_checked_of_translated {ip : Address} {octets : Bytes}
    (embeds : translated ip = some octets) :
    isOf kindsV6 checkedKinds ip.1 = false ∧ to4 ip = none := by
  have first {front : Bytes} (starts : front.isPrefixOf ip.1 = true) :
      Exists fun rest => ip.1 = front ++ rest := by
    rcases List.isPrefixOf_iff_prefix.mp starts with ⟨rest, same⟩
    exact ⟨rest, same.symm⟩
  unfold translated at embeds
  split at embeds
  · rename_i starts
    rcases first starts with ⟨rest, same⟩
    unfold to4 toV4
    rw [same]
    refine ⟨?_, rfl⟩
    simp [isOf, kindsV6, checkedKinds, Block.contains]
  · split at embeds
    · rename_i starts
      rcases first starts with ⟨rest, same⟩
      unfold to4 toV4
      rw [same]
      refine ⟨?_, rfl⟩
      simp [isOf, kindsV6, checkedKinds, Block.contains, nat64Prefix]
    · cases embeds

/-- `BlockedIP` blocks the addresses of the kinds it is about. -/
theorem blockedIP_iff (ip : Address) : blockedIP (some ip) = ip.isOf checkedKinds := by
  unfold Address.isOf
  cases four : to4 ip with
  | some ip4 => rw [blocked_v4_iff four, show toV4 ip = some ip4 from four]
  | none =>
      rw [blocked_v6_iff four, show toV4 ip = none from four]
      cases starts : nat64Prefix.isPrefixOf ip.1 with
      | false => simp
      | true =>
          have embeds : Exists fun octets => translated ip = some octets := by
            unfold translated
            rw [starts]
            split
            · exact ⟨_, rfl⟩
            · exact ⟨_, rfl⟩
          rcases embeds with ⟨octets, embeds⟩
          simp [(isOf_checked_of_translated embeds).1]

/-! ## What the guard overlooks -/

def uncheckedKinds : List Kind := [.thisNetwork, .shared, .reserved, .broadcast]

/-- The address is of an unchecked kind and of no checked one, or it embeds an IPv4 address that is
not for the public internet. -/
def Overlooked (ip : Address) : Prop :=
  ip.isOf uncheckedKinds = true ∧ ip.isOf checkedKinds = false ∨ ip.embedsInternal = true

theorem everyKind_contains (kind : Kind) : everyKind.contains kind =
    (checkedKinds.contains kind || uncheckedKinds.contains kind) := by
  cases kind <;> rfl

theorem overlooked_iff (ip : Address) :
    Overlooked ip ↔ ip.Internal ∧ blockedIP (some ip) = false := by
  unfold Overlooked Address.Internal
  rw [blockedIP_iff, Address.isOf_or everyKind_contains, Bool.or_eq_true]
  constructor
  · rintro (⟨unchecked, passed⟩ | embeds)
    · exact ⟨Or.inl (Or.inr unchecked), passed⟩
    · refine ⟨Or.inr embeds, ?_⟩
      unfold Address.embedsInternal at embeds
      cases found : translated ip with
      | none =>
          rw [found] at embeds
          cases embeds
      | some octets =>
          have unchecked := isOf_checked_of_translated found
          unfold Address.isOf
          rw [show toV4 ip = none from unchecked.2]
          simp [unchecked.1]
  · rintro ⟨(checked | unchecked) | embeds, passed⟩
    · rw [checked] at passed
      cases passed
    · exact Or.inl ⟨unchecked, passed⟩
    · exact Or.inr embeds

/-- A public address is not blocked. -/
theorem blockedIP_of_public {ip : Address} (reachable : ip.Public) :
    blockedIP (some ip) = false := by
  by_contra blocked
  rw [blockedIP_iff, Bool.not_eq_false] at blocked
  refine reachable.1 (Or.inl ?_)
  rw [Address.isOf_or everyKind_contains, blocked, Bool.true_or]

/-! ## The guard on texts -/

/-- An address in brackets with a port, as the dialer writes it. -/
def hostPort (ip : Address) (zone port : Bytes) : Bytes :=
  openBracket :: (formatAddr ip zone ++ closeBracket :: colon :: port)

theorem not_mem_formatAddr {byte : UInt8} (noDigit : PercentEncoding.hexValue byte = none)
    (noColon : byte ≠ colon) (noPercent : byte ≠ PercentEncoding.percent) (ip : Address)
    {zone : Bytes} (plain : byte ∉ zone) : byte ∉ formatAddr ip zone := by
  intro member
  unfold formatAddr at member
  rcases List.mem_append.mp member with group | behind
  · exact not_mem_formatGroups noDigit noColon ip.1 group
  · split at behind
    · cases behind
    · rcases List.mem_cons.mp behind with same | inside
      · exact noPercent same
      · exact plain inside

/-- Every address has a text that stands for it, with every zone that has no bracket. -/
theorem dialed_hostPort (ip : Address) {zone port : Bytes}
    (noOpening : openBracket ∉ zone ++ port) (noClosing : closeBracket ∉ zone ++ port)
    (noColon : colon ∉ port) : dialed (hostPort ip zone port) = some (ip, zone) := by
  rw [List.mem_append, not_or] at noOpening noClosing
  have opening := @not_mem_formatAddr openBracket (by decide) (by decide) (by decide) ip zone
    noOpening.1
  have closing := @not_mem_formatAddr closeBracket (by decide) (by decide) (by decide) ip zone
    noClosing.1
  have back : cutLast colon (hostPort ip zone port) =
      some (openBracket :: (formatAddr ip zone ++ [closeBracket]), port) := by
    unfold cutLast
    have turned : (hostPort ip zone port).reverse =
        port.reverse ++ colon :: (openBracket :: (formatAddr ip zone ++ [closeBracket])).reverse := by
      simp [hostPort]
    rw [turned, cut_append (fun member => noColon (List.mem_reverse.mp member)), Option.map_some,
      List.reverse_reverse, List.reverse_reverse]
  have inside : cut closeBracket (hostPort ip zone port) =
      some (openBracket :: formatAddr ip zone, colon :: port) := by
    have different : closeBracket ≠ openBracket := by decide
    exact cut_append (List.not_mem_cons_of_ne_of_not_mem different closing) (colon :: port)
  have split : splitHostPort (hostPort ip zone port) = .ok (formatAddr ip zone, port) := by
    unfold splitHostPort
    have distinct : openBracket ≠ closeBracket ∧ openBracket ≠ colon ∧ closeBracket ≠ colon := by
      decide
    simp only [back, inside]
    simp [hostPort, opening, noOpening.2, noClosing.2, distinct]
  unfold dialed
  rw [split]
  exact parseAddr_formatAddr ip zone

/-- What the guard decides about a text that stands for an address. -/
theorem passes_iff (label : String) {address : Bytes} {ip : Address} {zone : Bytes}
    (stands : dialed address = some (ip, zone)) :
    ssrfSafeDialControl label address = none ↔ zone = [] ∧ blockedIP (some ip) = false := by
  unfold dialed at stands
  unfold ssrfSafeDialControl
  split
  · rename_i why split
    rw [split] at stands
    cases stands
  · rename_i host port split
    rw [split] at stands
    simp only at stands
    unfold parseIP
    rw [stands]
    by_cases empty : zone = []
    · simp [empty]
    · simp [empty, blockedIP]

/-- The guard lets nothing internal through and everything public. -/
def Right (label : String) (address : Bytes) : Prop :=
  forall ip zone, dialed address = some (ip, zone) ->
    (ssrfSafeDialControl label address = none -> ¬ ip.Internal) ∧
      (ip.Public -> ssrfSafeDialControl label address = none)

/-- The guard is right about exactly the addresses without a zone that it does not overlook, and
the addresses with a zone that are not public. -/
theorem guard_right_iff (label : String) (address : Bytes) :
    Right label address ↔ forall ip zone, dialed address = some (ip, zone) ->
      if zone = [] then ¬ Overlooked ip else ¬ ip.Public := by
  refine forall_congr' fun ip => forall_congr' fun zone => forall_congr' fun stands => ?_
  rw [passes_iff label stands]
  split
  · rename_i empty
    rw [overlooked_iff]
    have reachable : ip.Public -> blockedIP (some ip) = false := blockedIP_of_public
    tauto
  · tauto

/-- Each address that is overlooked has a text that the guard lets through. -/
theorem overlooked_passes (label : String) {ip : Address} (overlooked : Overlooked ip) :
    Exists fun address => ssrfSafeDialControl label address = none ∧
      dialed address = some (ip, []) ∧ ip.Internal := by
  have stands := @dialed_hostPort ip [] [52, 52, 51] (by decide) (by decide) (by decide)
  have parts := (overlooked_iff ip).mp overlooked
  exact ⟨_, (passes_iff label stands).mpr ⟨rfl, parts.2⟩, stands, parts.1⟩

theorem shared_address_passes : ¬ forall label address, Right label address := by
  intro claimed
  have right := claimed "webhook" ("100.64.0.1:443".toList.map Char.toUInt8)
    ⟨mappedPrefix ++ [100, 64, 0, 1], rfl⟩ [] (by decide +kernel)
  exact right.1 (by decide +kernel) (by decide +kernel)

end DialGuard
end Webhooks
end Basement
