import Basement.Library.Keys
import Basement.Library.TaggedCache
import Basement.ServiceAccounts.Lifetimes

namespace Basement
namespace ServiceAccounts
namespace Identity

open Library

/-!
# What identifies an account

An account is named by its access key, and for its owner by its name.  A name is free again once
the account is revoked, so that the uniqueness of names is about the rows that are not.  `Update`
checks it when a row gets another name; no other call changes a name, and none takes a revocation
back.

The secret of an account is handed out once, by the call that draws it.  A row holds the hash of
the secret that was handed out last.
-/

/-! ## Calls -/

/-- The rows, the times at which last uses were written, and what the call drew that last handed
out a secret for a row. -/
structure Ledger where
  accounts : Accounts := SortedStore.empty
  lastTouchPersist : SortedStore String Int := SortedStore.empty
  issued : SortedStore String CallIO := SortedStore.empty

inductive Call where
  | create (template : Template) (io : CallIO)
  | update (id : String) (patch : Patch) (io : CallIO)
  | rotate (id : String) (io : CallIO)
  | delete (id : String) (io : CallIO)
  | touchLastUsed (id : String) (io : CallIO)

/-- Remember the call if it has answered with a secret. -/
def Ledger.note (ledger : Ledger) (io : CallIO) :
    Except StoreError (ServiceAccount × String) × Accounts -> Ledger
  | (.ok (sa, _), accounts) =>
      { ledger with accounts := accounts, issued := ledger.issued.put sa.id io }
  | (.error _, accounts) => { ledger with accounts := accounts }

/-- The identifiers that a call draws are not in use, and the clock of a deletion does not stand at
Go's zero time. -/
def Call.Enabled (ledger : Ledger) : Call -> Prop
  | .create _ io => io.Fresh ledger.accounts
  | .delete _ io => io.now ≠ 0
  | _ => True

instance (ledger : Ledger) (call : Call) : Decidable (call.Enabled ledger) := by
  unfold Call.Enabled
  cases call <;> infer_instance

/-- The ledger after a call. -/
def Call.after (ledger : Ledger) : Call -> Ledger
  | .create template io =>
      ledger.note io (ServiceAccounts.create ledger.accounts template io)
  | .update id patch io =>
      { ledger with accounts := (ServiceAccounts.update ledger.accounts id patch io).2 }
  | .rotate id io => ledger.note io (ServiceAccounts.rotate ledger.accounts id io)
  | .delete id io => { ledger with accounts := (ServiceAccounts.delete ledger.accounts id io).2 }
  | .touchLastUsed id io =>
      let answer := ServiceAccounts.touchLastUsed ledger.accounts ledger.lastTouchPersist id io
      { ledger with accounts := answer.2.1, lastTouchPersist := answer.2.2 }

def step (ledger : Ledger) (call : Call) : Option Ledger :=
  if call.Enabled ledger then some (call.after ledger) else none

theorem step_eq {ledger next : Ledger} {call : Call} (taken : step ledger call = some next) :
    call.Enabled ledger ∧ next = call.after ledger := by
  unfold step at taken
  split at taken
  · exact ⟨by assumption, (Option.some.inj taken).symm⟩
  · cases taken

/-! ## What identifies a row -/

/-- The owner and the name of a row. -/
def nameKey (sa : ServiceAccount) : String × String := (sa.ownerUserID, sa.name)

/-- The rows that are not revoked. -/
def live (accounts : Accounts) : Accounts := accounts.filter fun sa => !sa.isRevoked

/-- The identity of a row is kept, and its revocation if it has one. -/
structure Keeps (sa later : ServiceAccount) : Prop where
  id : later.id = sa.id
  accessKeyID : later.accessKeyID = sa.accessKeyID
  ownerUserID : later.ownerUserID = sa.ownerUserID
  createdAt : later.createdAt = sa.createdAt
  revokedAt : sa.revokedAt ≠ none -> later.revokedAt = sa.revokedAt

theorem Keeps.refl (sa : ServiceAccount) : Keeps sa sa := ⟨rfl, rfl, rfl, rfl, fun _ => rfl⟩

theorem Keeps.trans {first second third : ServiceAccount} (before : Keeps first second)
    (after : Keeps second third) : Keeps first third where
  id := after.id.trans before.id
  accessKeyID := after.accessKeyID.trans before.accessKeyID
  ownerUserID := after.ownerUserID.trans before.ownerUserID
  createdAt := after.createdAt.trans before.createdAt
  revokedAt := by
    intro revoked
    have same := before.revokedAt revoked
    rw [after.revokedAt (by rw [same]; exact revoked), same]

/-- A password that bcrypt tells from every other: it takes 72 bytes at most, and a zero byte ends
it. -/
def Plain (candidate : String) : Prop :=
  candidate.utf8ByteSize ≤ 72 ∧ Char.ofNat 0 ∉ candidate.toList

/-- The hash that the call has drawn is one of its secret. -/
structure Hashed (compare : String -> String -> Bool) (io : CallIO) : Prop where
  nonempty : io.hash ≠ ""
  compares : forall candidate, Plain candidate ->
    (compare io.hash candidate = true ↔ candidate = io.secret)

/-- The calls that draw a secret hash it. -/
def Call.Hashed (compare : String -> String -> Bool) : Call -> Prop
  | .create _ io => Identity.Hashed compare io
  | .rotate _ io => Identity.Hashed compare io
  | _ => True

/-! ## What the calls do -/

/-- What a call does to the ledger: nothing to the rows, a new row, another content for a row with
its hash, or another hash. -/
inductive Moved (compare : String -> String -> Bool) (ledger : Ledger) : Ledger -> Prop
  | keep : Moved compare ledger ledger
  | add (sa : ServiceAccount) (io : CallIO) (fresh : ledger.accounts.get? sa.id = none)
      (unused : findByAccessKey ledger.accounts sa.accessKeyID = none)
      (unrevoked : sa.revokedAt = none)
      (free : FreeFor nameKey (live ledger.accounts) sa.id (nameKey sa))
      (hash : sa.secretKeyHash = io.hash) (hashed : Hashed compare io) :
      Moved compare ledger { ledger with
        accounts := ledger.accounts.put sa.id sa, issued := ledger.issued.put sa.id io }
  | edit (id : String) (cur next : ServiceAccount) (last : SortedStore String Int)
      (found : ledger.accounts.get? id = some cur) (keeps : Keeps cur next)
      (dated : next.revokedAt ≠ some 0)
      (named : next.isRevoked = false -> cur.isRevoked = false ∧
        FreeFor nameKey (live ledger.accounts) id (nameKey next))
      (hash : next.secretKeyHash = cur.secretKeyHash) :
      Moved compare ledger { ledger with
        accounts := ledger.accounts.put id next, lastTouchPersist := last }
  | rotate (id : String) (cur : ServiceAccount) (io : CallIO)
      (found : ledger.accounts.get? id = some cur) (hashed : Hashed compare io) :
      Moved compare ledger { ledger with
        accounts := ledger.accounts.put id { cur with secretKeyHash := io.hash }
        issued := ledger.issued.put id io }

/-- A row that was handed out has a secret, and holds its hash. -/
def Issued (compare : String -> String -> Bool) (ledger : Ledger) (id : String)
    (sa : ServiceAccount) : Prop :=
  Exists fun io => ledger.issued.get? id = some io ∧ sa.secretKeyHash = io.hash ∧
    Hashed compare io

/-- The identifiers tell the rows apart, and so do the names those that are not revoked; a
revocation has a date, and every row the hash of the secret handed out last. -/
structure Ledger.Sound (compare : String -> String -> Bool) (ledger : Ledger) : Prop where
  keyed : Keyed ledger.accounts
  named : UniqueKeys nameKey (live ledger.accounts)
  dated : forall id sa, ledger.accounts.get? id = some sa -> sa.revokedAt ≠ some 0
  issued : forall id sa, ledger.accounts.get? id = some sa -> Issued compare ledger id sa

theorem empty_sound (compare : String -> String -> Bool) : Ledger.Sound compare {} where
  keyed := ⟨by rintro _ _ ⟨⟩, by rintro _ _ _ _ ⟨⟩⟩
  named := by rintro _ _ ⟨⟩
  dated := by rintro _ _ ⟨⟩
  issued := by rintro _ _ ⟨⟩

theorem get?_live {accounts : Accounts} {id : String} {sa : ServiceAccount} :
    (live accounts).get? id = some sa ↔ accounts.get? id = some sa ∧ sa.isRevoked = false := by
  unfold live
  rw [SortedStore.get?_filter, Bool.not_eq_true']

/-- A name that is not taken is free. -/
theorem free_of_not_taken {accounts : Accounts} {owner name : String} {except : String -> Bool}
    (untaken : nameTaken accounts owner name except = false) {id : String}
    (others : forall other, other ≠ id -> except other = false) :
    FreeFor nameKey (live accounts) id (owner, name) := by
  intro other sa found different same
  rcases get?_live.mp found with ⟨stored, unrevoked⟩
  rcases Prod.mk.inj same with ⟨sameOwner, sameName⟩
  have listed := (accounts.mem_entries_iff other sa).mpr stored
  apply List.any_eq_false.mp untaken (other, sa) listed
  simp [others other different, sameOwner, sameName, unrevoked]

variable {compare : String -> String -> Bool} {ledger next : Ledger} {id : String} {io : CallIO}

/-- A row that keeps its name does not take another's. -/
theorem Ledger.Sound.free (sound : ledger.Sound compare) {cur : ServiceAccount}
    (found : ledger.accounts.get? id = some cur) (unrevoked : cur.isRevoked = false) :
    FreeFor nameKey (live ledger.accounts) id (nameKey cur) :=
  sound.named id cur (get?_live.mpr ⟨found, unrevoked⟩)

theorem create_moved (template : Template) (fresh : io.Fresh ledger.accounts)
    (hashed : Hashed compare io) :
    Moved compare ledger (ledger.note io (create ledger.accounts template io)) := by
  rcases create_cases ledger.accounts template io with ⟨error, failed, same⟩ | ⟨name, ⟨_, free⟩, made⟩
  · have answer : create ledger.accounts template io = (.error error, ledger.accounts) :=
      Prod.ext failed (same fresh.1)
    rw [answer]
    exact Moved.keep
  · rw [made]
    refine Moved.add (template.created name io) io fresh.1 fresh.2 rfl ?_ rfl hashed
    exact free_of_not_taken free fun _ _ => rfl

theorem rotate_moved (sound : ledger.Sound compare) (id : String) (hashed : Hashed compare io) :
    Moved compare ledger (ledger.note io (rotate ledger.accounts id io)) := by
  rcases rotate_answer ledger.accounts id io with ⟨error, failed⟩ | ⟨cur, found, _, _, rotated⟩
  · rw [failed]
    exact Moved.keep
  · have own : cur.id = id := sound.keyed.own id cur found
    subst own
    rw [rotated]
    exact Moved.rotate cur.id cur io found hashed

/-- A name that an update gives is one the patch was checked for. -/
theorem patched_free (sound : ledger.Sound compare) {cur : ServiceAccount} {patch : Patch}
    {name : Option String} (found : ledger.accounts.get? id = some cur)
    (unrevoked : cur.isRevoked = false)
    (checked : checkPatch ledger.accounts cur id patch io.now = .ok name) :
    FreeFor nameKey (live ledger.accounts) id (nameKey (cur.patched name patch)) := by
  have own := sound.free found unrevoked
  unfold checkPatch at checked
  split at checked
  · split at checked
    · cases checked
    · cases checked
      exact own
  · split at checked
    · cases checked
    · rename_i given _
      split at checked
      · cases checked
      · rename_i untaken
        split at checked
        · cases checked
        · cases checked
          by_cases kept : given = cur.name
          · rw [kept]
            exact own
          · apply free_of_not_taken (Bool.eq_false_of_not_eq_true fun taken => untaken ⟨kept, taken⟩)
            intro other different
            exact decide_eq_false different

theorem update_moved (sound : ledger.Sound compare) (id : String) (patch : Patch) (io : CallIO) :
    Moved compare ledger { ledger with accounts := (update ledger.accounts id patch io).2 } := by
  rcases update_cases ledger.accounts id patch io with
    ⟨_, _, kept⟩ | ⟨cur, name, found, checked, _, changed⟩
  · rw [kept]
    exact Moved.keep
  · rw [changed]
    refine Moved.edit id cur _ ledger.lastTouchPersist found ⟨rfl, rfl, rfl, rfl, fun _ => rfl⟩
      (sound.dated id cur found) ?_ rfl
    intro unrevoked
    exact ⟨unrevoked, patched_free sound found unrevoked checked⟩

/-- A row that is not revoked has no revocation. -/
theorem Ledger.Sound.revokedAt_eq (sound : ledger.Sound compare) {cur : ServiceAccount}
    (found : ledger.accounts.get? id = some cur) (unrevoked : cur.isRevoked = false) :
    cur.revokedAt = none := by
  have dated := sound.dated id cur found
  unfold ServiceAccount.isRevoked at unrevoked
  cases revoked : cur.revokedAt with
  | none => rfl
  | some date =>
      rw [revoked] at unrevoked dated
      exact absurd (by simpa using unrevoked) dated

theorem delete_moved (sound : ledger.Sound compare) (id : String) (running : io.now ≠ 0) :
    Moved compare ledger { ledger with accounts := (delete ledger.accounts id io).2 } := by
  rcases delete_cases ledger.accounts id io with kept | ⟨cur, found, unrevoked, changed⟩
  · rw [kept]
    exact Moved.keep
  · rw [changed]
    have none := sound.revokedAt_eq found unrevoked
    refine Moved.edit id cur _ ledger.lastTouchPersist found
      ⟨rfl, rfl, rfl, rfl, fun revoked => absurd none revoked⟩ ?_ ?_ rfl
    · simpa using running
    · intro alive
      simp [ServiceAccount.isRevoked, running] at alive

theorem touchLastUsed_moved (sound : ledger.Sound compare) (id : String) (io : CallIO) :
    Moved compare ledger { ledger with
      accounts := (touchLastUsed ledger.accounts ledger.lastTouchPersist id io).2.1
      lastTouchPersist := (touchLastUsed ledger.accounts ledger.lastTouchPersist id io).2.2 } := by
  rcases touchLastUsed_cases ledger.accounts ledger.lastTouchPersist id io with
    same | ⟨cur, last, found, same⟩
  · rw [same]
    exact Moved.keep
  · rw [same]
    refine Moved.edit id cur _ last found ⟨rfl, rfl, rfl, rfl, fun _ => rfl⟩
      (sound.dated id cur found) ?_ rfl
    intro unrevoked
    have alive : cur.isRevoked = false := unrevoked
    have free := sound.free found alive
    exact ⟨alive, free⟩

/-- What a call answers is noted beside the rows it leaves. -/
theorem note_accounts (ledger : Ledger) (io : CallIO)
    (answer : Except StoreError (ServiceAccount × String) × Accounts) :
    (ledger.note io answer).accounts = answer.2 := by
  rcases answer with ⟨outcome, accounts⟩
  cases outcome with
  | error _ => rfl
  | ok made => rfl

theorem step_moved (sound : ledger.Sound compare) {call : Call} (hashed : call.Hashed compare)
    (taken : step ledger call = some next) : Moved compare ledger next := by
  rcases step_eq taken with ⟨enabled, rfl⟩
  cases call with
  | create template io =>
      simp only [Call.Enabled, Call.Hashed, Call.after] at *
      exact create_moved template enabled hashed
  | update id patch io =>
      simp only [Call.after]
      exact update_moved sound id patch io
  | rotate id io =>
      simp only [Call.Hashed, Call.after] at *
      exact rotate_moved sound id hashed
  | delete id io =>
      simp only [Call.Enabled, Call.after] at *
      exact delete_moved sound id enabled
  | touchLastUsed id io =>
      simp only [Call.after]
      exact touchLastUsed_moved sound id io

/-! ## What the calls keep -/

theorem Moved.change (moved : Moved compare ledger next) :
    Change ledger.accounts next.accounts := by
  cases moved with
  | keep => exact Change.keep
  | add sa io fresh unused => exact Change.add sa fresh unused
  | edit id cur row last found keeps =>
      exact Change.rewrite id cur row found keeps.id keeps.accessKeyID
  | rotate id cur io found => exact Change.rewrite id cur _ found rfl rfl

/-- The names of the rows that are not revoked stay unique if the name of the new one is free. -/
theorem live_put_unique {accounts : Accounts} (unique : UniqueKeys nameKey (live accounts))
    (id : String) {sa : ServiceAccount}
    (free : sa.isRevoked = false -> FreeFor nameKey (live accounts) id (nameKey sa)) :
    UniqueKeys nameKey (live (accounts.put id sa)) := by
  unfold live
  cases revoked : sa.isRevoked with
  | true =>
      rw [SortedStore.filter_put_of_not _ _ (by simp [revoked])]
      exact unique.erase id
  | false =>
      rw [SortedStore.filter_put _ _ (by simp [revoked])]
      exact (uniqueKeys_put_iff unique).mpr (free revoked)

theorem Moved.named (moved : Moved compare ledger next) (sound : ledger.Sound compare) :
    UniqueKeys nameKey (live next.accounts) := by
  cases moved with
  | keep => exact sound.named
  | add sa io fresh unused unrevoked free => exact live_put_unique sound.named sa.id fun _ => free
  | edit id cur row last found keeps dated named =>
      exact live_put_unique sound.named id fun alive => (named alive).2
  | rotate id cur io found =>
      have free : cur.isRevoked = false -> FreeFor nameKey (live ledger.accounts) id (nameKey cur) :=
        sound.free found
      exact live_put_unique sound.named id free

theorem Moved.dated (moved : Moved compare ledger next) (sound : ledger.Sound compare) :
    next.accounts.Every fun _ sa => sa.revokedAt ≠ some 0 := by
  cases moved with
  | keep => exact sound.dated
  | add sa io fresh unused unrevoked =>
      refine SortedStore.Every.put sound.dated ?_
      rw [unrevoked]
      rintro ⟨⟩
  | edit id cur row last found keeps dated =>
      exact SortedStore.Every.put sound.dated dated
  | rotate id cur io found =>
      exact SortedStore.Every.put sound.dated (sound.dated id cur found)

/-- Another row has the secret that it had. -/
theorem Issued.of_put {other : String} {row : ServiceAccount} {accounts : Accounts}
    (issued : Issued compare ledger other row) (different : other ≠ id) :
    Issued compare { ledger with accounts := accounts, issued := ledger.issued.put id io } other row := by
  rcases issued with ⟨drawn, noted, hash, hashed⟩
  refine ⟨drawn, ?_, hash, hashed⟩
  exact (ledger.issued.get?_put_of_ne io different).trans noted

/-- Every row has its secret when a row is written with a new one. -/
theorem Ledger.Sound.issued_put (sound : ledger.Sound compare) {accounts : Accounts}
    {row : ServiceAccount}
    (own : Issued compare { ledger with accounts, issued := ledger.issued.put id io } id row) :
    (ledger.accounts.put id row).Every fun other sa =>
      Issued compare { ledger with accounts, issued := ledger.issued.put id io } other sa := by
  intro other found present
  rw [SortedStore.get?_put] at present
  split at present
  · rename_i same
    cases present
    rw [same]
    exact own
  · rename_i different
    exact (sound.issued other found present).of_put different

theorem Moved.issued (moved : Moved compare ledger next) (sound : ledger.Sound compare) :
    next.accounts.Every fun id sa => Issued compare next id sa := by
  cases moved with
  | keep => exact sound.issued
  | add sa io fresh unused unrevoked free hash hashed =>
      exact sound.issued_put ⟨io, SortedStore.get?_put_self _ _ _, hash, hashed⟩
  | edit id cur row last found keeps dated named hash =>
      refine SortedStore.Every.put sound.issued ?_
      rcases sound.issued id cur found with ⟨io, noted, same, hashed⟩
      exact ⟨io, noted, hash.trans same, hashed⟩
  | rotate id cur io found hashed =>
      exact sound.issued_put ⟨io, SortedStore.get?_put_self _ _ _, rfl, hashed⟩

theorem Moved.sound (moved : Moved compare ledger next) (sound : ledger.Sound compare) :
    next.Sound compare where
  keyed := moved.change.keyed sound.keyed
  named := moved.named sound
  dated := moved.dated sound
  issued := moved.issued sound

/-- A row stays, with its identity and its revocation. -/
theorem Moved.keeps (moved : Moved compare ledger next) {sa : ServiceAccount}
    (found : ledger.accounts.get? id = some sa) :
    Exists fun later => next.accounts.get? id = some later ∧ Keeps sa later := by
  have put : forall other cur row, ledger.accounts.get? other = some cur -> Keeps cur row ->
      Exists fun later => (ledger.accounts.put other row).get? id = some later ∧ Keeps sa later := by
    intro other cur row present keeps
    by_cases same : id = other
    · subst same
      cases found.symm.trans present
      exact ⟨row, SortedStore.get?_put_self _ _ _, keeps⟩
    · exact ⟨sa, (SortedStore.get?_put_of_ne _ _ same).trans found, Keeps.refl sa⟩
  cases moved with
  | keep => exact ⟨sa, found, Keeps.refl sa⟩
  | add row io fresh =>
      refine ⟨sa, ?_, Keeps.refl sa⟩
      rw [SortedStore.get?_put_of_ne, found]
      rintro rfl
      cases fresh.symm.trans found
  | edit other cur row last present keeps => exact put other cur row present keeps
  | rotate other cur io present => exact put other cur _ present ⟨rfl, rfl, rfl, rfl, fun _ => rfl⟩

/-! ## Runs -/

theorem hashed_meets {calls : List Call} (hashed : forall call, call ∈ calls -> call.Hashed compare)
    (ledger : Ledger) : Transition.Meets step (fun _ call => call.Hashed compare) ledger calls :=
  Transition.meets_of_invariant (fun _ _ _ held _ => held) trivial
    fun _ call (_ : True) listed => hashed call listed

theorem exec_sound {calls : List Call} (hashed : forall call, call ∈ calls -> call.Hashed compare)
    (sound : ledger.Sound compare) (run : Transition.exec step ledger calls = some next) :
    next.Sound compare :=
  Transition.exec_invariant_of_meets
    (fun _ _ _ held allowed taken => (step_moved held allowed taken).sound held)
    sound (hashed_meets hashed ledger) run

theorem exec_keeps {calls : List Call} (hashed : forall call, call ∈ calls -> call.Hashed compare)
    (sound : ledger.Sound compare) (run : Transition.exec step ledger calls = some next)
    {sa : ServiceAccount} (found : ledger.accounts.get? id = some sa) :
    Exists fun later => next.accounts.get? id = some later ∧ Keeps sa later := by
  have kept : forall before call after,
      (Ledger.Sound compare before ∧
        Exists fun later => before.accounts.get? id = some later ∧ Keeps sa later) ->
        call.Hashed compare -> step before call = some after ->
          Ledger.Sound compare after ∧
            Exists fun later => after.accounts.get? id = some later ∧ Keeps sa later := by
    rintro before call after ⟨held, row, present, keeps⟩ allowed taken
    have moved := step_moved held allowed taken
    rcases moved.keeps present with ⟨later, stored, again⟩
    exact ⟨moved.sound held, later, stored, keeps.trans again⟩
  exact (Transition.exec_invariant_of_meets kept ⟨sound, sa, found, Keeps.refl sa⟩
    (hashed_meets hashed ledger) run).2

/-- The newest secret verifies as long as the row is neither revoked nor expired, and no other
does. -/
theorem verifySecret_iff (sound : ledger.Sound compare) {sa : ServiceAccount}
    (found : ledger.accounts.get? id = some sa) (noted : ledger.issued.get? id = some io) (now : Int)
    {candidate : String} (plain : Plain candidate) :
    verifySecret compare ledger.accounts now sa.accessKeyID candidate = .ok true ↔
      sa.isRevoked = false ∧ sa.isExpired now = false ∧ candidate = io.secret := by
  rcases sound.issued id sa found with ⟨drawn, same, hash, hashed⟩
  cases Option.some.inj (same.symm.trans noted)
  unfold verifySecret ServiceAccount.usable
  rw [findByAccessKey_eq sound.keyed found]
  simp only [hash, Except.ok.injEq, Bool.and_eq_true, Bool.not_eq_true', bne_iff_ne, and_assoc,
    hashed.compares candidate plain]
  simp [hashed.nonempty]

/-- After any calls, no two rows of an owner that are not revoked have the same name, and no two
rows the same access key.  Every row stays, with its access key, its owner, the time of its
creation and its revocation.  A row has a secret that was handed out for it last, which is the one
that verifies. -/
theorem identity_kept (compare : String -> String -> Bool) {before after : List Call}
    {middle final : Ledger}
    (hashed : forall call, call ∈ before ++ after -> call.Hashed compare)
    (run : Transition.exec step {} before = some middle)
    (later : Transition.exec step middle after = some final) :
    UniqueKeys nameKey (live final.accounts) ∧
    UniqueKeys ServiceAccount.accessKeyID final.accounts ∧
    (forall id sa, middle.accounts.get? id = some sa ->
      Exists fun row => final.accounts.get? id = some row ∧ Keeps sa row) ∧
    forall id sa, final.accounts.get? id = some sa ->
      Exists fun io => final.issued.get? id = some io ∧
        forall now candidate, Plain candidate ->
          (verifySecret compare final.accounts now sa.accessKeyID candidate = .ok true ↔
            sa.isRevoked = false ∧ sa.isExpired now = false ∧ candidate = io.secret) := by
  have early := exec_sound (fun call listed => hashed call (List.mem_append_left after listed))
    (empty_sound compare) run
  have rest := fun call listed => hashed call (List.mem_append_right before listed)
  have sound := exec_sound rest early later
  refine ⟨sound.named, ?_, ?_, ?_⟩
  · intro id sa found other row present different same
    exact different (sound.keyed.apart other id row sa present found same)
  · intro id sa found
    exact exec_keeps rest early later found
  · intro id sa found
    rcases sound.issued id sa found with ⟨io, noted, _⟩
    exact ⟨io, noted, fun now candidate plain => verifySecret_iff sound found noted now plain⟩

theorem plainCompare_hashed (io : CallIO) (nonempty : io.hash ≠ "") (plain : io.hash = io.secret) :
    Hashed plainCompare io where
  nonempty := nonempty
  compares := by
    intro candidate _
    rw [plainCompare, plain, beq_iff_eq, eq_comm]

/-- Alice's account gets a new secret and is revoked, and its name is given again. -/
def replaceAccount : List Call :=
  [.create ⟨"alice", "ci-prod", [], [], none⟩
      { uuid := "row-1", accessKeyID := "BMNT01", secret := "first", hash := "first", now := 1 },
    .rotate "row-1" { secret := "second", hash := "second", now := 2 },
    .touchLastUsed "row-1" { now := 3, writeError := some "disk full" },
    .delete "row-1" { now := 4, writeError := some "disk full" },
    .create ⟨"alice", "ci-prod", [], [], none⟩
      { uuid := "row-2", accessKeyID := "BMNT02", secret := "third", hash := "third", now := 5 }]

theorem replaceAccount_hashed (call : Call) (listed : call ∈ replaceAccount) :
    call.Hashed plainCompare := by
  simp only [replaceAccount, List.mem_cons, List.not_mem_nil, or_false] at listed
  rcases listed with rfl | rfl | rfl | rfl | rfl
  · exact plainCompare_hashed _ (by decide) rfl
  · exact plainCompare_hashed _ (by decide) rfl
  · trivial
  · trivial
  · exact plainCompare_hashed _ (by decide) rfl

def replacedLedger : Ledger := (Transition.exec step {} replaceAccount).getD {}

theorem identity_kept_replaced : UniqueKeys nameKey (live replacedLedger.accounts) :=
  (@identity_kept plainCompare replaceAccount [] replacedLedger replacedLedger
    (by rw [List.append_nil]; exact replaceAccount_hashed) rfl rfl).1

end Identity
end ServiceAccounts
end Basement
