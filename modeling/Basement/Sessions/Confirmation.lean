import Basement.Federation.Types
import Basement.Library.TextFields

namespace Basement
namespace Sessions

open Library.PercentEncoding (Bytes)
open Library.TextFields
open Federation (second wholeSecond)

/-!
# Confirmation tokens

A destructive request takes two steps.  The first hands out a token for one operation on one target
by one user, and the second presents it.  The server keeps nothing: the token carries its expiry
and the three texts, and an HMAC over them.  Texts are bytes, so that a bucket may be called
anything.

The HMAC is a parameter.  What its secret is good for is said where it matters, at the end.
-/

/-! ## Instants -/

/-- A `time.Time`: the seconds since Go's zero time and the nanoseconds of the second. -/
structure Moment where
  sec : Int64
  nsec : Fin 1000000000
  deriving DecidableEq, Repr

def Moment.nanos (t : Moment) : Int := t.sec.toInt * second + t.nsec.val

/-- `addSec`: seconds that would overflow stay at the end of the range. -/
def addSec (sec : Int64) (d : Int) : Int64 :=
  if 2 ^ 63 ≤ sec.toInt + d then Int64.maxValue
  else if sec.toInt + d < -2 ^ 63 then Int64.ofInt (-(2 ^ 63 - 1))
  else Int64.ofInt (sec.toInt + d)

/-- `t.Add(d)` for a number of nanoseconds. -/
def Moment.add (t : Moment) (d : Int64) : Moment where
  sec := addSec t.sec ((t.nsec.val + d.toInt) / second)
  nsec := ⟨((t.nsec.val + d.toInt) % second).toNat, by unfold second; omega⟩

/-- The Unix epoch in seconds since Go's zero time. -/
def unixToInternal : Int64 := 62135596800

/-- `t.Unix()`. -/
def Moment.unix (t : Moment) : Int64 := t.sec - unixToInternal

/-- `time.Unix(sec, 0)`. -/
def Moment.ofUnix (sec : Int64) : Moment := ⟨sec + unixToInternal, 0⟩

/-- `t.Before(u)`. -/
def Moment.Before (t u : Moment) : Prop := t.sec < u.sec ∨ t.sec = u.sec ∧ t.nsec < u.nsec

instance (t u : Moment) : Decidable (t.Before u) := inferInstanceAs (Decidable (_ ∨ _))

theorem Moment.before_iff {t u : Moment} : t.Before u ↔ t.nanos < u.nanos := by
  have first := t.nsec.isLt
  have other := u.nsec.isLt
  unfold Moment.Before Moment.nanos second
  rw [Int64.lt_iff_toInt_lt, ← Int64.toInt_inj, Fin.lt_def]
  omega

/-- Unix seconds lose the nanoseconds and nothing else. -/
theorem Moment.ofUnix_unix_nanos (t : Moment) :
    (Moment.ofUnix t.unix).nanos = wholeSecond t.nanos := by
  have nanoseconds := t.nsec.isLt
  have same : (Moment.ofUnix t.unix).sec = t.sec := by
    unfold Moment.ofUnix Moment.unix
    exact Int64.sub_add_cancel _ _
  unfold Moment.nanos
  rw [same]
  unfold wholeSecond second Moment.ofUnix
  simp only [Fin.val_zero]
  omega

/-! ## Minting and verifying -/

/-- `ErrConfirmInvalid` and `ErrConfirmMismatch`. -/
inductive ConfirmError where
  | invalid
  | mismatch
  deriving DecidableEq, Repr

def ConfirmError.text : ConfirmError -> String
  | .invalid => "invalid or expired confirm token"
  | .mismatch => "confirm token does not match target or actor"

/-- The full stop between the payload and the signature. -/
def dot : UInt8 := 46

/-- The bar between the fields of the payload. -/
def bar : UInt8 := 124

/-- The payload of a token. -/
def confirmPayload (exp : Int64) (op target userID : Bytes) : Bytes :=
  formatInt exp.toInt ++ bar :: (hexEncode op ++ bar :: (hexEncode target ++ bar ::
    hexEncode userID))

/-- `strconv.ParseInt(s, 10, 64)`. -/
def parseInt (s : Bytes) : Option Int64 :=
  (parseSigned s).bind fun value =>
    if -2 ^ 63 ≤ value ∧ value < 2 ^ 63 then some (Int64.ofInt value) else none

/-- `VerifyConfirmToken` behind the check of the signature. -/
def verifyPayload (now : Moment) (payload expectedOp expectedTarget expectedUserID : Bytes) :
    Except ConfirmError Unit :=
  match splitN bar 4 payload with
  | [expField, opField, targetField, userField] =>
      match parseInt expField with
      | none => .error .invalid
      | some expUnix =>
          if (Moment.ofUnix expUnix).Before now then .error .invalid
          else
            match hexDecode opField, hexDecode targetField, hexDecode userField with
            | some op, some target, some user =>
                if op ≠ expectedOp ∨ target ≠ expectedTarget ∨ user ≠ expectedUserID then
                  .error .mismatch
                else .ok ()
            | _, _, _ => .error .invalid
  | _ => .error .invalid

section Tokens

variable (mac : Bytes -> Bytes -> Bytes) (secret : Bytes)

/-- A payload with its signature. -/
def signPayload (payload : Bytes) : Bytes := payload ++ dot :: hexEncode (mac secret payload)

/-- `MintConfirmToken`. -/
def mintConfirmToken (now : Moment) (op target userID : Bytes) (ttl : Int64) : Bytes :=
  signPayload mac secret (confirmPayload (now.add ttl).unix op target userID)

/-- `VerifyConfirmToken`. -/
def verifyConfirmToken (now : Moment) (token expectedOp expectedTarget expectedUserID : Bytes) :
    Except ConfirmError Unit :=
  match splitN dot 2 token with
  | [payload, sigHex] =>
      if hexEncode (mac secret payload) ≠ sigHex then .error .invalid
      else verifyPayload now payload expectedOp expectedTarget expectedUserID
  | _ => .error .invalid

end Tokens

/-! ## The fields come back -/

theorem parseInt_formatInt (value : Int64) : parseInt (formatInt value.toInt) = some value := by
  rw [parseInt, parseSigned_formatInt, Option.bind_some,
    if_pos ⟨Int64.le_toInt value, Int64.toInt_lt value⟩, Int64.ofInt_toInt]

theorem splitN_confirmPayload (exp : Int64) (op target userID : Bytes) :
    splitN bar 4 (confirmPayload exp op target userID) =
      [formatInt exp.toInt, hexEncode op, hexEncode target, hexEncode userID] := by
  have plain : forall bytes, bar ∉ hexEncode bytes := not_mem_hexEncode (by decide)
  rw [confirmPayload, splitN_append (not_mem_formatInt (by decide) (by decide) _),
    splitN_append (plain op), splitN_append (plain target)]
  rfl

/-- What the fields of a payload are checked for. -/
theorem verifyPayload_confirmPayload (now : Moment) (exp : Int64)
    (op target userID expectedOp expectedTarget expectedUserID : Bytes) :
    verifyPayload now (confirmPayload exp op target userID) expectedOp expectedTarget
        expectedUserID =
      if (Moment.ofUnix exp).Before now then .error .invalid
      else if op ≠ expectedOp ∨ target ≠ expectedTarget ∨ userID ≠ expectedUserID then
        .error .mismatch
      else .ok () := by
  rw [verifyPayload, splitN_confirmPayload]
  simp only [parseInt_formatInt, hexDecode_hexEncode]

theorem dot_not_mem_confirmPayload (exp : Int64) (op target userID : Bytes) :
    dot ∉ confirmPayload exp op target userID := by
  have plain : forall bytes, dot ∉ hexEncode bytes := not_mem_hexEncode (by decide)
  have number : dot ∉ formatInt exp.toInt := not_mem_formatInt (by decide) (by decide) _
  have noBar : dot ≠ bar := by decide
  simp only [confirmPayload, List.mem_append, List.mem_cons, noBar, plain, number, or_self,
    not_false_eq_true]

section Tokens

variable {mac : Bytes -> Bytes -> Bytes} {secret : Bytes}

theorem verify_signPayload (now : Moment) {payload : Bytes} (plain : dot ∉ payload)
    (expectedOp expectedTarget expectedUserID : Bytes) :
    verifyConfirmToken mac secret now (signPayload mac secret payload) expectedOp expectedTarget
        expectedUserID =
      verifyPayload now payload expectedOp expectedTarget expectedUserID := by
  rw [verifyConfirmToken, signPayload, splitN_append plain]
  exact if_neg fun different => different rfl

/-- What is accepted is a payload with its signature. -/
theorem signPayload_of_verify {now : Moment}
    {token expectedOp expectedTarget expectedUserID : Bytes}
    (accepted : verifyConfirmToken mac secret now token expectedOp expectedTarget expectedUserID =
      .ok ()) :
    Exists fun payload => dot ∉ payload ∧ token = signPayload mac secret payload ∧
      verifyPayload now payload expectedOp expectedTarget expectedUserID = .ok () := by
  unfold verifyConfirmToken splitN at accepted
  cases found : cut dot token with
  | none =>
      rw [found] at accepted
      cases accepted
  | some parts =>
      rw [found] at accepted
      simp only [splitN] at accepted
      rcases eq_of_cut found with ⟨whole, plain⟩
      split at accepted
      · cases accepted
      · rename_i signed
        rw [ne_eq, not_not] at signed
        refine ⟨parts.1, plain, ?_, accepted⟩
        rw [signPayload, signed]
        exact whole

/-- A token is accepted for what it was minted for, until the second in which it expires. -/
theorem verify_mintConfirmToken {mint now : Moment} {ttl : Int64}
    {op target userID expectedOp expectedTarget expectedUserID : Bytes} :
    verifyConfirmToken mac secret now (mintConfirmToken mac secret mint op target userID ttl)
        expectedOp expectedTarget expectedUserID = .ok () ↔
      (expectedOp = op ∧ expectedTarget = target ∧ expectedUserID = userID) ∧
        now.nanos ≤ wholeSecond (mint.add ttl).nanos := by
  rw [mintConfirmToken, verify_signPayload now (dot_not_mem_confirmPayload _ _ _ _),
    verifyPayload_confirmPayload]
  split
  · rename_i expired
    rw [Moment.before_iff, Moment.ofUnix_unix_nanos] at expired
    exact iff_of_false (by simp) fun both => absurd expired (Int.not_lt.mpr both.2)
  · rename_i alive
    rw [Moment.before_iff, Moment.ofUnix_unix_nanos] at alive
    split
    · rename_i different
      refine iff_of_false (by simp) ?_
      rintro ⟨⟨rfl, rfl, rfl⟩, _⟩
      simp at different
    · rename_i same
      push Not at same
      exact iff_of_true rfl ⟨⟨same.1.symm, same.2.1.symm, same.2.2.symm⟩, Int.not_lt.mp alive⟩

end Tokens

/-! ## Whoever cannot sign -/

/-- A call of `MintConfirmToken`. -/
structure Minted where
  now : Moment
  op : Bytes
  target : Bytes
  userID : Bytes
  ttl : Int64
  deriving DecidableEq, Repr

def Minted.payload (minted : Minted) : Bytes :=
  confirmPayload (minted.now.add minted.ttl).unix minted.op minted.target minted.userID

def colon : UInt8 := 58

/-- What the server has signed: the payloads it minted, session tokens, which have a full stop in
them, and the cookies of shares, which have a colon. -/
def Signed (issued : List Minted) (text : Bytes) : Prop :=
  (Exists fun minted => minted ∈ issued ∧ text = minted.payload) ∨ dot ∈ text ∨ colon ∈ text

/-- Whoever made the token knows no signature but those of the server. -/
def Unforgeable (mac : Bytes -> Bytes -> Bytes) (secret : Bytes) (issued : List Minted)
    (token : Bytes) : Prop :=
  forall text, token = signPayload mac secret text -> Signed issued text

/-- What passes the checks has digits, bars and a sign only. -/
theorem colon_not_mem_of_verifyPayload {now : Moment}
    {payload expectedOp expectedTarget expectedUserID : Bytes}
    (accepted : verifyPayload now payload expectedOp expectedTarget expectedUserID = .ok ()) :
    colon ∉ payload := by
  intro member
  have noDigit : Library.PercentEncoding.hexValue colon = none := by decide
  unfold verifyPayload at accepted
  split at accepted
  · rename_i expField opField targetField userField fields
    split at accepted
    · cases accepted
    · rename_i exp read
      rcases Option.bind_eq_some_iff.mp read with ⟨value, number, _⟩
      split at accepted
      · cases accepted
      · split at accepted
        · rename_i opRead targetRead userRead
          have inFields := @mem_splitN bar colon 3 payload member
          rcases inFields with same | ⟨part, listed, inside⟩
          · exact absurd same (by decide)
          · rw [fields] at listed
            simp only [List.mem_cons, List.not_mem_nil, or_false] at listed
            rcases listed with rfl | rfl | rfl | rfl
            · exact @not_mem_of_parseSigned colon (by decide) (by decide) _ _ number inside
            · exact not_mem_of_hexDecode noDigit opRead inside
            · exact not_mem_of_hexDecode noDigit targetRead inside
            · exact not_mem_of_hexDecode noDigit userRead inside
        · cases accepted
  · cases accepted

/-- An accepted token was minted for the operation, the target and the user, and is alive. -/
theorem minted_of_verify {mac : Bytes -> Bytes -> Bytes} {secret : Bytes} {issued : List Minted}
    {now : Moment} {token op target userID : Bytes}
    (unforgeable : Unforgeable mac secret issued token)
    (accepted : verifyConfirmToken mac secret now token op target userID = .ok ()) :
    Exists fun minted => minted ∈ issued ∧
      (op = minted.op ∧ target = minted.target ∧ userID = minted.userID) ∧
        now.nanos ≤ wholeSecond (minted.now.add minted.ttl).nanos := by
  rcases signPayload_of_verify accepted with ⟨payload, plain, rfl, checked⟩
  rcases unforgeable payload rfl with ⟨minted, member, rfl⟩ | session | share
  · exact ⟨minted, member, verify_mintConfirmToken.mp accepted⟩
  · exact absurd session plain
  · exact absurd share (colon_not_mem_of_verifyPayload checked)

/-- A minted token is accepted exactly for its operation, target and user until the second in
which it expires, and never for others.  If signatures cannot be forged, every accepted token was
minted for what it is accepted for. -/
theorem confirmation_binds (mac : Bytes -> Bytes -> Bytes) (secret : Bytes) :
    (forall (mint now : Moment) (ttl : Int64)
        (op target userID expectedOp expectedTarget expectedUserID : Bytes),
      (verifyConfirmToken mac secret now (mintConfirmToken mac secret mint op target userID ttl)
          expectedOp expectedTarget expectedUserID = .ok () ↔
        (expectedOp = op ∧ expectedTarget = target ∧ expectedUserID = userID) ∧
          now.nanos ≤ wholeSecond (mint.add ttl).nanos) ∧
      ((expectedOp, expectedTarget, expectedUserID) ≠ (op, target, userID) ->
        verifyConfirmToken mac secret now (mintConfirmToken mac secret mint op target userID ttl)
          expectedOp expectedTarget expectedUserID ≠ .ok ())) ∧
    (forall issued token now op target userID, Unforgeable mac secret issued token ->
      verifyConfirmToken mac secret now token op target userID = .ok () ->
        Exists fun minted => minted ∈ issued ∧
          (op = minted.op ∧ target = minted.target ∧ userID = minted.userID) ∧
            now.nanos ≤ wholeSecond (minted.now.add minted.ttl).nanos) := by
  refine ⟨fun mint now ttl op target userID expectedOp expectedTarget expectedUserID =>
    ⟨verify_mintConfirmToken, fun different accepted => different ?_⟩,
    fun _ _ _ _ _ _ => minted_of_verify⟩
  rcases (verify_mintConfirmToken.mp accepted).1 with ⟨rfl, rfl, rfl⟩
  rfl

/-! ## The end of a token's life -/

/-- A time of day in the year 2026, half a second past the whole one. -/
def halfPast : Moment := ⟨63908092800, 500000000⟩

/-- A token for one second is refused seven tenths of a second after it was minted. -/
theorem living_token_refused :
    ¬ forall (mac : Bytes -> Bytes -> Bytes) (secret : Bytes) (mint now : Moment)
        (op target userID : Bytes) (ttl : Int64),
      verifyConfirmToken mac secret now (mintConfirmToken mac secret mint op target userID ttl) op
          target userID = .ok () ↔
        now.nanos < mint.nanos + ttl.toInt := by
  intro claimed
  have early := (claimed (fun _ text => text) [] halfPast ⟨63908092801, 200000000⟩ [] [] []
    1000000000).mpr (by decide +kernel)
  exact absurd (verify_mintConfirmToken.mp early).2 (by decide +kernel)

end Sessions
end Basement
