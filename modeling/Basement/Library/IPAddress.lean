import Basement.Library.TextFields

namespace Basement
namespace Library

/-!
# Internet addresses

An address has sixteen octets, and an IPv4 address is one behind the prefix of the mapped
addresses.  Blocks of addresses are given by their leading bits.  The registries say what a block is
for, and some addresses embed an IPv4 address that a translator takes out of them.

The second half reads the texts of addresses: four decimal fields, or hexadecimal groups with one
gap and perhaps an IPv4 address at their end, with a zone behind a percent sign, and all that
before the port of a host.
-/

namespace IPAddress

open PercentEncoding (Bytes hexValue percent)
open TextFields (cut eq_of_cut cut_append halves_lt hexDigit hexEncode hexValue_hexDigit isDigit
  not_mem_hexEncode)

/-- Sixteen octets. -/
abbrev Address := { octets : Bytes // octets.length = 16 }

/-! ## Blocks -/

/-- The addresses that begin with the first bits of a network. -/
structure Block where
  network : Bytes
  length : Nat

def Block.contains (block : Block) (octets : Bytes) : Bool :=
  let whole := block.length / 8
  let rest := 8 - block.length % 8
  octets.take whole = block.network.take whole &&
    (octets.getD whole 0).toNat / 2 ^ rest = (block.network.getD whole 0).toNat / 2 ^ rest

/-- What the addresses of a block are for, if they are not for the public internet. -/
inductive Kind where
  | unspecified
  | thisNetwork
  | loopback
  | privateUse
  | uniqueLocal
  | shared
  | linkLocal
  | multicast
  | reserved
  | broadcast
  deriving DecidableEq, Repr

def kindsV4 : List (Kind × Block) :=
  [(.unspecified, ⟨[0, 0, 0, 0], 32⟩), (.thisNetwork, ⟨[0], 8⟩), (.privateUse, ⟨[10], 8⟩),
    (.shared, ⟨[100, 64], 10⟩), (.loopback, ⟨[127], 8⟩), (.linkLocal, ⟨[169, 254], 16⟩),
    (.privateUse, ⟨[172, 16], 12⟩), (.privateUse, ⟨[192, 168], 16⟩), (.multicast, ⟨[224], 4⟩),
    (.reserved, ⟨[240], 4⟩), (.broadcast, ⟨[255, 255, 255, 255], 32⟩)]

/-- Whatever is not global unicast is assigned to something here or is reserved. -/
def kindsV6 : List (Kind × Block) :=
  [(.unspecified, ⟨List.replicate 16 0, 128⟩), (.loopback, ⟨List.replicate 15 0 ++ [1], 128⟩),
    (.uniqueLocal, ⟨[0xfc], 7⟩), (.linkLocal, ⟨[0xfe, 0x80], 10⟩), (.multicast, ⟨[0xff], 8⟩),
    (.reserved, ⟨[0x00], 8⟩), (.reserved, ⟨[0x01], 8⟩), (.reserved, ⟨[0x02], 7⟩),
    (.reserved, ⟨[0x04], 6⟩), (.reserved, ⟨[0x08], 5⟩), (.reserved, ⟨[0x10], 4⟩),
    (.reserved, ⟨[0x40], 3⟩), (.reserved, ⟨[0x60], 3⟩), (.reserved, ⟨[0x80], 3⟩),
    (.reserved, ⟨[0xa0], 3⟩), (.reserved, ⟨[0xc0], 3⟩), (.reserved, ⟨[0xe0], 4⟩),
    (.reserved, ⟨[0xf0], 5⟩), (.reserved, ⟨[0xf8], 6⟩), (.reserved, ⟨[0xfe], 9⟩),
    (.reserved, ⟨[0xfe, 0xc0], 10⟩)]

/-- The octets are in a block of one of the kinds. -/
def isOf (table : List (Kind × Block)) (kinds : List Kind) (octets : Bytes) : Bool :=
  table.any fun entry => kinds.contains entry.1 && entry.2.contains octets

theorem isOf_or {table : List (Kind × Block)} {first second both : List Kind}
    (split : forall kind, both.contains kind = (first.contains kind || second.contains kind))
    (octets : Bytes) :
    isOf table both octets = (isOf table first octets || isOf table second octets) := by
  unfold isOf
  induction table with
  | nil => rfl
  | cons entry rest ih =>
      rw [List.any_cons, List.any_cons, List.any_cons, ih, split, Bool.and_or_distrib_right]
      ac_rfl

def everyKind : List Kind :=
  [.unspecified, .thisNetwork, .loopback, .privateUse, .uniqueLocal, .shared, .linkLocal,
    .multicast, .reserved, .broadcast]

/-! ## Embedded addresses -/

def mappedPrefix : Bytes := List.replicate 10 0 ++ [0xff, 0xff]

/-- The prefix of the translator between the two protocols. -/
def nat64Prefix : Bytes := [0x00, 0x64, 0xff, 0x9b] ++ List.replicate 8 0

/-- The IPv4 address that a mapped address stands for. -/
def toV4 (address : Address) : Option Bytes :=
  if mappedPrefix.isPrefixOf address.1 then some (address.1.drop 12) else none

/-- The IPv4 address that is taken out of an address on the way. -/
def translated (address : Address) : Option Bytes :=
  if [0x20, 0x02].isPrefixOf address.1 then some ((address.1.drop 2).take 4)
  else if nat64Prefix.isPrefixOf address.1 then some (address.1.drop 12)
  else none

/-- The address itself is of one of the kinds.  The translator's prefix is assigned within a block
that is reserved otherwise. -/
def Address.isOf (address : Address) (kinds : List Kind) : Bool :=
  match toV4 address with
  | some octets => IPAddress.isOf kindsV4 kinds octets
  | none => !nat64Prefix.isPrefixOf address.1 && IPAddress.isOf kindsV6 kinds address.1

theorem Address.isOf_or {first second both : List Kind}
    (split : forall kind, both.contains kind = (first.contains kind || second.contains kind))
    (address : Address) : address.isOf both = (address.isOf first || address.isOf second) := by
  unfold Address.isOf
  cases toV4 address with
  | some octets => exact IPAddress.isOf_or split octets
  | none =>
      simp only [IPAddress.isOf_or split]
      rw [Bool.and_or_distrib_left]

def Address.embedsInternal (address : Address) : Bool :=
  (translated address).any (IPAddress.isOf kindsV4 everyKind)

/-- The address, or the one it embeds, is not for the public internet. -/
def Address.Internal (address : Address) : Prop :=
  address.isOf everyKind = true ∨ address.embedsInternal = true

/-- Blocks that are of none of the kinds above and not reachable from everywhere either, each with
the blocks inside it that are. -/
def unreachableV4 : List (Block × List Block) :=
  [(⟨[192, 0, 0], 24⟩, [⟨[192, 0, 0, 9], 32⟩, ⟨[192, 0, 0, 10], 32⟩]), (⟨[192, 0, 2], 24⟩, []),
    (⟨[192, 88, 99], 24⟩, []), (⟨[198, 18], 15⟩, []), (⟨[198, 51, 100], 24⟩, []),
    (⟨[203, 0, 113], 24⟩, [])]

def unreachableV6 : List (Block × List Block) :=
  [(⟨[0x20, 0x01, 0x00], 23⟩,
      [⟨[0x20, 0x01, 0x00, 0x01] ++ List.replicate 11 0 ++ [1], 128⟩,
        ⟨[0x20, 0x01, 0x00, 0x01] ++ List.replicate 11 0 ++ [2], 128⟩,
        ⟨[0x20, 0x01, 0x00, 0x01] ++ List.replicate 11 0 ++ [3], 128⟩,
        ⟨[0x20, 0x01, 0x00, 0x03], 32⟩, ⟨[0x20, 0x01, 0x00, 0x04, 0x01, 0x12], 48⟩,
        ⟨[0x20, 0x01, 0x00, 0x20], 28⟩, ⟨[0x20, 0x01, 0x00, 0x30], 28⟩]),
    (⟨[0x20, 0x01, 0x0d, 0xb8], 32⟩, []), (⟨[0x3f, 0xff, 0x00], 20⟩, [])]

def unreachable (table : List (Block × List Block)) (octets : Bytes) : Bool :=
  table.any fun entry => entry.1.contains octets && !entry.2.any fun inner => inner.contains octets

/-- A unicast address that is reachable from everywhere and embeds nothing internal. -/
def Address.Public (address : Address) : Prop :=
  ¬ address.Internal ∧
    match toV4 address with
    | some octets => unreachable unreachableV4 octets = false
    | none => unreachable unreachableV6 address.1 = false

instance (address : Address) : Decidable address.Internal :=
  inferInstanceAs (Decidable (_ ∨ _))

instance (address : Address) : Decidable address.Public := by
  unfold Address.Public
  cases toV4 address with
  | some octets => exact inferInstanceAs (Decidable (_ ∧ _))
  | none => exact inferInstanceAs (Decidable (_ ∧ _))

/-! ## Texts -/

def dot : UInt8 := 46

def colon : UInt8 := 58

/-- Four decimal fields, of which some are read already; the current one has a value and a number
of digits. -/
def parseIPv4Fields (fields : Bytes) (val digLen : Nat) : Bytes -> Option Bytes
  | [] => if fields.length < 3 then none else some (fields ++ [UInt8.ofNat val])
  | byte :: rest =>
      if isDigit byte then
        if digLen = 1 ∧ val = 0 then none
        else if 255 < val * 10 + (byte.toNat - 48) then none
        else parseIPv4Fields fields (val * 10 + (byte.toNat - 48)) (digLen + 1) rest
      else if byte = dot then
        if digLen = 0 ∨ rest = [] then none
        else if fields.length = 3 then none
        else parseIPv4Fields (fields ++ [UInt8.ofNat val]) 0 0 rest
      else none

/-- The value of a group of hexadecimal digits. -/
def groupValue (digits : Bytes) : Nat :=
  digits.foldl (fun acc digit => acc * 16 + ((hexValue digit).getD 0).toNat) 0

/-- What the groups of an address have been read to: the octets, the place of the gap, and the text
that is left. -/
structure Groups where
  octets : Bytes
  ellipsis : Option Nat
  left : Bytes

/-- Read as many groups as there is room for. -/
def parseGroups : Nat -> Groups -> Option Groups
  | 0, read => some read
  | room + 1, read =>
      let digits := read.left.takeWhile fun byte => (hexValue byte).isSome
      let next := read.left.dropWhile fun byte => (hexValue byte).isSome
      let value := groupValue digits
      let octets := read.octets ++ [UInt8.ofNat (value / 256), UInt8.ofNat (value % 256)]
      if digits = [] ∨ 4 < digits.length then none
      else
        match next with
        | [] => some ⟨octets, read.ellipsis, []⟩
        | byte :: rest =>
            if byte = dot then
              if read.ellipsis = none ∧ read.octets.length ≠ 12 then none
              else if 16 < read.octets.length + 4 then none
              else
                (parseIPv4Fields [] 0 0 read.left).map fun octets =>
                  ⟨read.octets ++ octets, read.ellipsis, []⟩
            else if byte = colon then
              match rest with
              | [] => none
              | second :: later =>
                  if second = colon then
                    if read.ellipsis ≠ none then none
                    else if later = [] then some ⟨octets, some octets.length, []⟩
                    else parseGroups room ⟨octets, some octets.length, later⟩
                  else parseGroups room ⟨octets, read.ellipsis, rest⟩
            else none

theorem length_filled (place : Nat) {octets : Bytes} (short : octets.length < 16) :
    (octets.take place ++
      (List.replicate (16 - octets.length) 0 ++ octets.drop place)).length = 16 := by
  have whole := congrArg List.length (List.take_append_drop place octets)
  rw [List.length_append] at whole
  rw [List.length_append, List.length_append, List.length_replicate]
  omega

/-- Fill the gap with zeros. -/
def Groups.address (read : Groups) : Option Address :=
  if read.left ≠ [] then none
  else if short : read.octets.length < 16 then
    match read.ellipsis with
    | none => none
    | some place =>
        some ⟨read.octets.take place ++
          (List.replicate (16 - read.octets.length) 0 ++ read.octets.drop place),
          length_filled place short⟩
  else if read.ellipsis ≠ none then none
  else if whole : read.octets.length = 16 then some ⟨read.octets, whole⟩
  else none

/-- The groups of an address without its zone. -/
def parseIPv6Groups (text : Bytes) : Option Address :=
  match text with
  | first :: second :: rest =>
      if first = colon ∧ second = colon then
        if rest = [] then some ⟨List.replicate 16 0, rfl⟩
        else (parseGroups 8 ⟨[], some 0, rest⟩).bind Groups.address
      else (parseGroups 8 ⟨[], none, text⟩).bind Groups.address
  | _ => (parseGroups 8 ⟨[], none, text⟩).bind Groups.address

/-- An address with its zone, which is empty if there is none. -/
def parseIPv6 (text : Bytes) : Option (Address × Bytes) :=
  match cut percent text with
  | none => (parseIPv6Groups text).map fun address => (address, [])
  | some (before, zone) =>
      if zone = [] then none else (parseIPv6Groups before).map fun address => (address, zone)

def mapped (octets : Bytes) (four : octets.length = 4) : Address :=
  ⟨mappedPrefix ++ octets, by rw [List.length_append, four]; rfl⟩

def parseIPv4 (text : Bytes) : Option Address :=
  match parseIPv4Fields [] 0 0 text with
  | none => none
  | some octets => if four : octets.length = 4 then some (mapped octets four) else none

/-- The first dot or colon tells the protocol. -/
def parseAddr (text : Bytes) : Option (Address × Bytes) :=
  match text.find? fun byte => byte = dot || byte = colon || byte = percent with
  | none => none
  | some byte =>
      if byte = dot then (parseIPv4 text).map fun address => (address, [])
      else if byte = colon then parseIPv6 text
      else none

/-! ## Writing an address -/

/-- Pairs of octets with colons between them. -/
def formatGroups : Bytes -> Bytes
  | high :: low :: rest =>
      hexEncode [high, low] ++ if rest = [] then [] else colon :: formatGroups rest
  | _ => []

/-- The text of an address, with its zone if there is one. -/
def formatAddr (address : Address) (zone : Bytes) : Bytes :=
  formatGroups address.1 ++ if zone = [] then [] else percent :: zone

theorem isHex_hexEncode {bytes : Bytes} {byte : UInt8} (member : byte ∈ hexEncode bytes) :
    (hexValue byte).isSome = true := by
  rw [← Option.ne_none_iff_isSome]
  exact fun noDigit => not_mem_hexEncode noDigit bytes member

theorem groupValue_hexEncode (high low : UInt8) :
    groupValue (hexEncode [high, low]) = high.toNat * 256 + low.toNat := by
  have first := halves_lt high
  have second := halves_lt low
  unfold groupValue hexEncode
  simp only [List.flatMap_cons, List.flatMap_nil, List.append_nil, List.cons_append,
    List.nil_append, List.foldl_cons, List.foldl_nil, hexValue_hexDigit first.1,
    hexValue_hexDigit first.2, hexValue_hexDigit second.1, hexValue_hexDigit second.2,
    Option.getD_some, UInt8.toNat_div, UInt8.toNat_mod, UInt8.reduceToNat]
  omega

/-- A group is read up to the next byte that is no digit. -/
theorem span_hexEncode {high low : UInt8} {rest : Bytes}
    (ends : forall byte, rest.head? = some byte -> (hexValue byte).isSome = false) :
    (hexEncode [high, low] ++ rest).takeWhile (fun byte => (hexValue byte).isSome) =
        hexEncode [high, low] ∧
      (hexEncode [high, low] ++ rest).dropWhile (fun byte => (hexValue byte).isSome) = rest := by
  have digits : forall byte, byte ∈ hexEncode [high, low] -> (hexValue byte).isSome = true :=
    fun _ member => isHex_hexEncode member
  rw [List.takeWhile_append_of_pos digits, List.dropWhile_append_of_pos digits]
  cases rest with
  | nil => exact ⟨List.append_nil _, rfl⟩
  | cons byte later =>
      have stop := ends byte rfl
      rw [List.takeWhile_cons_of_neg (by simp [stop]), List.dropWhile_cons_of_neg (by simp [stop])]
      exact ⟨List.append_nil _, rfl⟩

/-- A formatted group is read as its two octets. -/
theorem parseGroups_hexEncode (room : Nat) (done : Bytes) (high low : UInt8) {rest : Bytes}
    (next : rest = [] ∨ Exists fun second => Exists fun later =>
      rest = colon :: second :: later ∧ second ≠ colon) :
    parseGroups (room + 1) ⟨done, none, hexEncode [high, low] ++ rest⟩ =
      if rest = [] then some ⟨done ++ [high, low], none, []⟩
      else parseGroups room ⟨done ++ [high, low], none, rest.tail⟩ := by
  have ends : forall byte, rest.head? = some byte -> (hexValue byte).isSome = false := by
    intro byte first
    rcases next with rfl | ⟨second, later, rfl, _⟩
    · cases first
    · cases first
      decide
  have span := @span_hexEncode high low rest ends
  have octets : [UInt8.ofNat (groupValue (hexEncode [high, low]) / 256),
      UInt8.ofNat (groupValue (hexEncode [high, low]) % 256)] = [high, low] := by
    have small := low.toNat_lt
    rw [groupValue_hexEncode,
      show (high.toNat * 256 + low.toNat) / 256 = high.toNat by omega,
      show (high.toNat * 256 + low.toNat) % 256 = low.toNat by omega, UInt8.ofNat_toNat,
      UInt8.ofNat_toNat]
  have digits : ¬ (hexEncode [high, low] = [] ∨ 4 < (hexEncode [high, low]).length) := by
    simp [hexEncode]
  rw [parseGroups]
  simp only [span.1, span.2, octets, if_neg digits]
  rcases next with rfl | ⟨second, later, rfl, different⟩
  · rfl
  · have notDot : colon ≠ dot := by decide
    simp [notDot, different]

/-- No group begins with a colon. -/
theorem formatGroups_cons {high low : UInt8} {rest : Bytes} :
    Exists fun second => Exists fun later =>
      formatGroups (high :: low :: rest) = second :: later ∧ second ≠ colon := by
  refine ⟨hexDigit (high / 16), _, rfl, ?_⟩
  intro same
  have value := hexValue_hexDigit (halves_lt high).1
  rw [same] at value
  cases value

theorem parseGroups_format (room : Nat) : forall (done octets : Bytes),
    octets.length = 2 * (room + 1) ->
    parseGroups (room + 1) ⟨done, none, formatGroups octets⟩ = some ⟨done ++ octets, none, []⟩ := by
  induction room with
  | zero =>
      intro done octets length
      rcases octets with _ | ⟨high, _ | ⟨low, _ | ⟨third, rest⟩⟩⟩
      · cases length
      · cases length
      · exact parseGroups_hexEncode 0 done high low (Or.inl rfl)
      · simp only [List.length_cons] at length
        omega
  | succ room ih =>
      intro done octets length
      rcases octets with _ | ⟨high, _ | ⟨low, _ | ⟨third, _ | ⟨fourth, rest⟩⟩⟩⟩
      · cases length
      · cases length
      · simp only [List.length_cons, List.length_nil] at length
        omega
      · simp only [List.length_cons, List.length_nil] at length
        omega
      · rcases @formatGroups_cons third fourth rest with ⟨second, later, same, different⟩
        have step := @parseGroups_hexEncode (room + 1) done high low (colon :: second :: later)
          (Or.inr ⟨second, later, rfl, different⟩)
        rw [formatGroups, if_neg (by simp), same, step, if_neg (by simp), List.tail_cons, ← same,
          ih]
        · simp
        · simp only [List.length_cons] at length ⊢
          omega

/-- The groups of an address are read back. -/
theorem parseIPv6Groups_format (address : Address) :
    parseIPv6Groups (formatGroups address.1) = some address := by
  rcases address with ⟨octets, length⟩
  have read := parseGroups_format 7 [] octets length
  rw [List.nil_append] at read
  have whole : Groups.address ⟨octets, none, []⟩ = some ⟨octets, length⟩ := by
    unfold Groups.address
    simp [length]
  rcases octets with _ | ⟨high, _ | ⟨low, rest⟩⟩
  · cases length
  · cases length
  · rcases @formatGroups_cons high low rest with ⟨second, later, same, different⟩
    rw [same] at read ⊢
    unfold parseIPv6Groups
    cases later with
    | nil =>
        simp only [read, Option.bind_some, whole]
    | cons next more =>
        simp only [different, false_and, if_false, read, Option.bind_some, whole]

theorem mem_formatGroups {byte : UInt8} (octets : Bytes) (member : byte ∈ formatGroups octets) :
    (hexValue byte).isSome = true ∨ byte = colon := by
  induction octets using formatGroups.induct with
  | case1 high low rest ih =>
      rw [formatGroups] at member
      rcases List.mem_append.mp member with digit | later
      · exact Or.inl (isHex_hexEncode digit)
      · split at later
        · cases later
        · rcases List.mem_cons.mp later with same | inside
          · exact Or.inr same
          · exact ih inside
  | case2 octets short =>
      unfold formatGroups at member
      split at member
      · rename_i high low rest
        exact absurd rfl (short high low rest)
      · cases member

theorem not_mem_formatGroups {byte : UInt8} (noDigit : hexValue byte = none)
    (different : byte ≠ colon) (octets : Bytes) : byte ∉ formatGroups octets := by
  intro member
  rcases mem_formatGroups octets member with digit | same
  · rw [noDigit] at digit
    cases digit
  · exact different same

/-- The first sign of a formatted address is a colon. -/
theorem find_formatAddr (address : Address) (zone : Bytes) :
    (formatAddr address zone).find? (fun byte => byte = dot || byte = colon || byte = percent) =
      some colon := by
  rcases address with ⟨octets, length⟩
  rcases octets with _ | ⟨high, _ | ⟨low, _ | ⟨third, rest⟩⟩⟩
  · cases length
  · cases length
  · cases length
  · have digits : (hexEncode [high, low]).find?
        (fun byte => byte = dot || byte = colon || byte = percent) = none := by
      rw [List.find?_eq_none]
      intro byte member sign
      have digit := isHex_hexEncode member
      simp only [Bool.or_eq_true, decide_eq_true_eq] at sign
      rcases sign with (rfl | rfl) | rfl
      · cases digit
      · cases digit
      · cases digit
    unfold formatAddr
    rw [formatGroups, if_neg (by simp), List.append_assoc, List.find?_append, digits]
    rfl

/-- The text of an address stands for the address, with its zone. -/
theorem parseAddr_formatAddr (address : Address) (zone : Bytes) :
    parseAddr (formatAddr address zone) = some (address, zone) := by
  have groups := parseIPv6Groups_format address
  have noZone := @not_mem_formatGroups percent (by decide) (by decide) address.1
  have protocol := find_formatAddr address zone
  have read : parseIPv6 (formatAddr address zone) = some (address, zone) := by
    unfold parseIPv6 formatAddr
    by_cases empty : zone = []
    · rw [if_pos empty, List.append_nil]
      cases found : cut percent (formatGroups address.1) with
      | some parts =>
          refine absurd ?_ noZone
          rw [(eq_of_cut found).1]
          simp
      | none =>
          simp only [groups, Option.map_some, empty]
    · rw [if_neg empty, cut_append noZone]
      simp only [groups, Option.map_some, if_neg empty]
  unfold parseAddr
  rw [protocol]
  simp only [read]
  rfl

end IPAddress

end Library
end Basement
