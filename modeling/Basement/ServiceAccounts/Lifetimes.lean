import Basement.ServiceAccounts.Store

namespace Basement
namespace ServiceAccounts

open Library

/-!
# Revoked and expired accounts

A run of the store takes calls in any order under a clock that does not go back.  The
identifiers that `Create` draws are random, so a call that draws one that is in use is left
out.

A row that is revoked, or whose expiry has passed, is dead: its secret does not verify.  No
call takes a revocation back, and `Rotate` refuses dead rows.  `Update` does not: with an
expiry in its patch it gives an expired row a new one.
-/

/-! ## What the calls do to the rows -/

/-- The access keys tell the rows apart, and each row is stored under its ID. -/
structure Keyed (accounts : Accounts) : Prop where
  own : forall id sa, accounts.get? id = some sa -> sa.id = id
  apart : forall id other sa otherSa, accounts.get? id = some sa ->
    accounts.get? other = some otherSa ->
    sa.accessKeyID = otherSa.accessKeyID -> id = other

/-- The drawn identifiers are not in use. -/
def CallIO.Fresh (accounts : Accounts) (io : CallIO) : Prop :=
  accounts.get? io.uuid = none ∧ findByAccessKey accounts io.accessKeyID = none

instance (accounts : Accounts) (io : CallIO) : Decidable (io.Fresh accounts) :=
  inferInstanceAs (Decidable (_ ∧ _))

/-- The row with an access key, when it is a row's own. -/
theorem findByAccessKey_eq {accounts : Accounts} (keyed : Keyed accounts) {id : String}
    {sa : ServiceAccount} (found : accounts.get? id = some sa) :
    findByAccessKey accounts sa.accessKeyID = some sa := by
  have listed := (accounts.mem_entries_iff id sa).mpr found
  unfold findByAccessKey
  cases first : accounts.entries.find? fun entry => entry.2.accessKeyID = sa.accessKeyID with
  | none => exact absurd (decide_eq_true rfl) (List.find?_eq_none.mp first (id, sa) listed)
  | some entry =>
      have same : entry.2.accessKeyID = sa.accessKeyID := by simpa using List.find?_some first
      have there := (accounts.mem_entries_iff entry.1 entry.2).mp (List.mem_of_find?_eq_some first)
      have equal := keyed.apart _ _ _ _ there found same
      rw [equal, found] at there
      rw [Option.map_some, ← Option.some.inj there]

theorem accessKeyID_ne {accounts : Accounts} {akid id : String} {sa : ServiceAccount}
    (unused : findByAccessKey accounts akid = none) (found : accounts.get? id = some sa) :
    sa.accessKeyID ≠ akid := by
  intro same
  have listed := (accounts.mem_entries_iff id sa).mpr found
  rw [findByAccessKey, Option.map_eq_none_iff] at unused
  exact List.find?_eq_none.mp unused (id, sa) listed (decide_eq_true same)

/-- What a call does to the rows: nothing, a new one, or another content for one of them. -/
inductive Change (accounts : Accounts) : Accounts -> Prop
  | keep : Change accounts accounts
  | add (sa : ServiceAccount) (fresh : accounts.get? sa.id = none)
      (unused : findByAccessKey accounts sa.accessKeyID = none) :
      Change accounts (accounts.put sa.id sa)
  | rewrite (id : String) (cur next : ServiceAccount) (found : accounts.get? id = some cur)
      (sameID : next.id = cur.id) (sameKey : next.accessKeyID = cur.accessKeyID) :
      Change accounts (accounts.put id next)

/-- Putting a row back leaves the rows as they were. -/
theorem put_back {accounts : Accounts} {id : String} {cur : ServiceAccount} (next : ServiceAccount)
    (found : accounts.get? id = some cur) : (accounts.put id next).put id cur = accounts := by
  refine SortedStore.ext_get? fun key => ?_
  by_cases same : key = id
  · rw [same, SortedStore.get?_put_self, found]
  · rw [SortedStore.get?_put_of_ne _ _ same, SortedStore.get?_put_of_ne _ _ same]

/-- `Update` rewrites a row as the patch says, or changes nothing. -/
theorem update_cases (accounts : Accounts) (id : String) (patch : Patch) (io : CallIO) :
    (Exists fun error => (update accounts id patch io).1 = .error error ∧
        (update accounts id patch io).2 = accounts) ∨
      Exists fun cur => Exists fun name => accounts.get? id = some cur ∧
        checkPatch accounts cur id patch io.now = .ok name ∧ io.writeError = none ∧
          update accounts id patch io =
            (.ok (cur.patched name patch), accounts.put id (cur.patched name patch)) := by
  unfold update
  cases found : accounts.get? id with
  | none => exact Or.inl ⟨_, rfl, rfl⟩
  | some cur =>
      simp only
      cases checked : checkPatch accounts cur id patch io.now with
      | error error => exact Or.inl ⟨_, rfl, rfl⟩
      | ok name =>
          simp only
          cases written : io.writeError with
          | some error => exact Or.inl ⟨_, rfl, put_back _ found⟩
          | none => exact Or.inr ⟨cur, name, rfl, checked, rfl, rfl⟩

/-- `Create` adds a row, or changes nothing. -/
theorem create_cases (accounts : Accounts) (template : Template) (io : CallIO) :
    (Exists fun error => (create accounts template io).1 = .error error ∧
        (accounts.get? io.uuid = none -> (create accounts template io).2 = accounts)) ∨
      Exists fun name => (validateName template.name = some name ∧
          nameTaken accounts template.ownerUserID name (fun _ => false) = false) ∧
        create accounts template io =
          (.ok (template.created name io, io.secret),
            accounts.put io.uuid (template.created name io)) := by
  unfold create
  cases validateName template.name with
  | none => exact Or.inl ⟨_, rfl, fun _ => rfl⟩
  | some name =>
      simp only
      split
      · exact Or.inl ⟨_, rfl, fun _ => rfl⟩
      · split
        · exact Or.inl ⟨_, rfl, fun _ => rfl⟩
        · split
          · exact Or.inl ⟨_, rfl, fun _ => rfl⟩
          · rename_i free
            cases io.writeError with
            | some error => exact Or.inl ⟨_, rfl, fun fresh => SortedStore.erase_put fresh _⟩
            | none => exact Or.inr ⟨name, ⟨rfl, Bool.eq_false_of_not_eq_true free⟩, rfl⟩

/-- `Rotate` answers with the new secret of a row that is neither revoked nor expired, or changes
nothing. -/
theorem rotate_answer (accounts : Accounts) (id : String) (io : CallIO) :
    (Exists fun error => rotate accounts id io = (.error error, accounts)) ∨
      Exists fun cur => accounts.get? id = some cur ∧ cur.isRevoked = false ∧
        cur.isExpired io.now = false ∧
          rotate accounts id io =
            (.ok ({ cur with secretKeyHash := io.hash }, io.secret),
              accounts.put id { cur with secretKeyHash := io.hash }) := by
  unfold rotate
  cases found : accounts.get? id with
  | none => exact Or.inl ⟨_, rfl⟩
  | some cur =>
      simp only
      cases revoked : cur.isRevoked with
      | true => exact Or.inl ⟨_, rfl⟩
      | false =>
          cases expired : cur.isExpired io.now with
          | true => exact Or.inl ⟨_, rfl⟩
          | false =>
              simp only [Bool.false_eq_true, if_false]
              cases io.writeError with
              | some error => exact Or.inl ⟨_, congrArg (Prod.mk _) (put_back _ found)⟩
              | none => exact Or.inr ⟨cur, rfl, revoked, expired, rfl⟩

/-- `Rotate` gives a row that is neither revoked nor expired another hash, or changes nothing. -/
theorem rotate_cases (accounts : Accounts) (id : String) (io : CallIO) :
    (rotate accounts id io).2 = accounts ∨
      Exists fun cur => accounts.get? id = some cur ∧ cur.isRevoked = false ∧
        cur.isExpired io.now = false ∧
          (rotate accounts id io).2 = accounts.put id { cur with secretKeyHash := io.hash } := by
  rcases rotate_answer accounts id io with ⟨error, kept⟩ | ⟨cur, found, revoked, expired, changed⟩
  · exact Or.inl (congrArg Prod.snd kept)
  · exact Or.inr ⟨cur, found, revoked, expired, congrArg Prod.snd changed⟩

/-- `Delete` dates the revocation of a row, or changes nothing. -/
theorem delete_cases (accounts : Accounts) (id : String) (io : CallIO) :
    (delete accounts id io).2 = accounts ∨
      Exists fun cur => accounts.get? id = some cur ∧ cur.isRevoked = false ∧
        (delete accounts id io).2 = accounts.put id { cur with revokedAt := some io.now } := by
  unfold delete
  cases found : accounts.get? id with
  | none => exact Or.inl rfl
  | some cur =>
      simp only
      cases revoked : cur.isRevoked with
      | true => exact Or.inl rfl
      | false =>
          simp only [Bool.false_eq_true, if_false]
          cases io.writeError with
          | some error => exact Or.inr ⟨cur, rfl, revoked, rfl⟩
          | none => exact Or.inr ⟨cur, rfl, revoked, rfl⟩

/-- The last use of a row is written, or there is no row. -/
theorem touchLastUsed_cases (accounts : Accounts) (lastTouchPersist : SortedStore String Int)
    (id : String) (io : CallIO) :
    (touchLastUsed accounts lastTouchPersist id io).2 = (accounts, lastTouchPersist) ∨
      Exists fun cur => Exists fun last => accounts.get? id = some cur ∧
        (touchLastUsed accounts lastTouchPersist id io).2 =
          (accounts.put id { cur with lastUsedAt := some io.now }, last) := by
  unfold touchLastUsed
  cases found : accounts.get? id with
  | none => exact Or.inl rfl
  | some cur =>
      refine Or.inr ⟨cur, ?_⟩
      dsimp only
      split
      · exact ⟨_, rfl, rfl⟩
      · cases io.writeError with
        | some error => exact ⟨_, rfl, rfl⟩
        | none => exact ⟨_, rfl, rfl⟩

/-- Whatever a call does, the access keys go on telling the rows apart. -/
theorem Change.keyed {accounts next : Accounts} (change : Change accounts next)
    (keyed : Keyed accounts) : Keyed next := by
  cases change with
  | keep => exact keyed
  | add sa fresh unused =>
      refine ⟨?_, ?_⟩
      · exact SortedStore.Every.put keyed.own rfl
      · intro id other row otherRow found otherFound sameKey
        rw [SortedStore.get?_put] at found otherFound
        split at found
        · split at otherFound
          · simp_all
          · cases Option.some.inj found
            exact absurd sameKey.symm (accessKeyID_ne unused otherFound)
        · split at otherFound
          · cases Option.some.inj otherFound
            exact absurd sameKey (accessKeyID_ne unused found)
          · exact keyed.apart id other row otherRow found otherFound sameKey
  | rewrite id cur row found sameID sameKey =>
      -- a row before the change with the same ID and access key as a row behind it
      have before : forall other otherRow, (accounts.put id row).get? other = some otherRow ->
          Exists fun old => accounts.get? other = some old ∧ otherRow.id = old.id ∧
            otherRow.accessKeyID = old.accessKeyID := by
        intro other otherRow otherFound
        rw [SortedStore.get?_put] at otherFound
        split at otherFound
        · rename_i same
          cases Option.some.inj otherFound
          exact ⟨cur, same ▸ found, sameID, sameKey⟩
        · exact ⟨otherRow, otherFound, rfl, rfl⟩
      refine ⟨?_, ?_⟩
      · intro other otherRow otherFound
        rcases before other otherRow otherFound with ⟨old, oldFound, idSame, _⟩
        exact idSame.trans (keyed.own other old oldFound)
      · intro first second firstRow secondRow firstFound secondFound same
        rcases before first firstRow firstFound with ⟨old, oldFound, _, oldKey⟩
        rcases before second secondRow secondFound with ⟨otherOld, otherFound, _, otherKey⟩
        exact keyed.apart first second old otherOld oldFound otherFound
          (oldKey.symm.trans (same.trans otherKey))

theorem update_change (accounts : Accounts) (id : String) (patch : Patch) (io : CallIO) :
    Change accounts (update accounts id patch io).2 := by
  rcases update_cases accounts id patch io with ⟨_, _, same⟩ | ⟨cur, name, found, _, _, same⟩
  · rw [same]
    exact Change.keep
  · rw [same]
    exact Change.rewrite id cur _ found rfl rfl

theorem create_change {accounts : Accounts} (template : Template) {io : CallIO}
    (fresh : io.Fresh accounts) : Change accounts (create accounts template io).2 := by
  rcases create_cases accounts template io with ⟨_, _, same⟩ | ⟨name, _, same⟩
  · rw [same fresh.1]
    exact Change.keep
  · rw [same]
    exact Change.add (template.created name io) fresh.1 fresh.2

theorem rotate_change (accounts : Accounts) (id : String) (io : CallIO) :
    Change accounts (rotate accounts id io).2 := by
  rcases rotate_cases accounts id io with same | ⟨cur, found, _, _, same⟩
  · rw [same]
    exact Change.keep
  · rw [same]
    exact Change.rewrite id cur _ found rfl rfl

theorem delete_change (accounts : Accounts) (id : String) (io : CallIO) :
    Change accounts (delete accounts id io).2 := by
  rcases delete_cases accounts id io with same | ⟨cur, found, _, same⟩
  · rw [same]
    exact Change.keep
  · rw [same]
    exact Change.rewrite id cur _ found rfl rfl

/-! ## Runs of the store -/

structure State where
  accounts : Accounts
  now : Int

inductive Action where
  | tick (now : Int)
  | create (template : Template) (io : CallIO)
  | update (id : String) (patch : Patch) (io : CallIO)
  | rotate (id : String) (io : CallIO)
  | delete (id : String) (io : CallIO)
  deriving DecidableEq, Repr

/-- The clock after an action. -/
def Action.clock : Action -> Int
  | .tick now => now
  | .create _ io => io.now
  | .update _ _ io => io.now
  | .rotate _ io => io.now
  | .delete _ io => io.now

/-- What an action needs: a clock that does not go back, and for a new row identifiers that are
not in use. -/
def Action.Enabled (state : State) (action : Action) : Prop :=
  state.now ≤ action.clock ∧
    match action with
    | .create _ io => io.Fresh state.accounts
    | _ => True

instance (state : State) (action : Action) : Decidable (action.Enabled state) := by
  unfold Action.Enabled
  cases action <;> infer_instance

/-- The rows after an action. -/
def Action.rows (accounts : Accounts) : Action -> Accounts
  | .tick _ => accounts
  | .create template io => (ServiceAccounts.create accounts template io).2
  | .update id patch io => (ServiceAccounts.update accounts id patch io).2
  | .rotate id io => (ServiceAccounts.rotate accounts id io).2
  | .delete id io => (ServiceAccounts.delete accounts id io).2

def step (state : State) (action : Action) : Option State :=
  if action.Enabled state then some ⟨action.rows state.accounts, action.clock⟩ else none

/-- An empty store, opened some time after the zero time. -/
def start (opened : Nat) : State := ⟨SortedStore.empty, opened + 1⟩

structure State.Sound (state : State) : Prop where
  keyed : Keyed state.accounts
  running : 0 < state.now

theorem start_sound (opened : Nat) : (start opened).Sound := by
  refine ⟨⟨?_, ?_⟩, ?_⟩
  · intro id sa found
    cases found
  · intro id other sa otherSa found
    cases found
  · show 0 < (opened : Int) + 1
    omega

theorem step_eq {state next : State} {action : Action} (taken : step state action = some next) :
    action.Enabled state ∧ next = ⟨action.rows state.accounts, action.clock⟩ := by
  unfold step at taken
  split at taken
  · exact ⟨by assumption, (Option.some.inj taken).symm⟩
  · cases taken

theorem Action.change {state : State} {action : Action} (enabled : action.Enabled state) :
    Change state.accounts (action.rows state.accounts) := by
  cases action with
  | tick now => exact Change.keep
  | create template io => exact create_change template enabled.2
  | update id patch io => exact update_change _ id patch io
  | rotate id io => exact rotate_change _ id io
  | delete id io => exact delete_change _ id io

theorem State.Sound.step (state : State) (action : Action) (next : State) (sound : state.Sound)
    (taken : step state action = some next) : next.Sound := by
  rcases step_eq taken with ⟨enabled, rfl⟩
  exact ⟨(Action.change enabled).keyed sound.keyed, lt_of_lt_of_le sound.running enabled.1⟩

/-! ## Dead rows -/

/-- The row is revoked, or its expiry has passed. -/
def ServiceAccount.Dead (sa : ServiceAccount) (now : Int) : Prop :=
  sa.isRevoked = true ∨ sa.isExpired now = true

theorem isExpired_later {sa : ServiceAccount} {now later : Int} (order : now ≤ later)
    (expired : sa.isExpired now = true) : sa.isExpired later = true := by
  unfold ServiceAccount.isExpired at expired ⊢
  cases found : sa.expiresAt with
  | none =>
      rw [found] at expired
      cases expired
  | some expiry =>
      rw [found] at expired
      simp only [Option.any_some, Bool.and_eq_true, decide_eq_true_eq] at expired ⊢
      exact ⟨expired.1, lt_of_lt_of_le expired.2 order⟩

theorem ServiceAccount.Dead.later {sa : ServiceAccount} {now later : Int} (dead : sa.Dead now)
    (order : now ≤ later) : sa.Dead later := dead.imp_right (isExpired_later order)

/-- The action is an update that passes the checks and gives an expired row a new expiry. -/
def revives (state : State) : Action -> Bool
  | .update id patch io =>
      (state.accounts.get? id).any fun cur =>
        !cur.isRevoked && cur.isExpired io.now && (chosenExpiry patch.expiresAt).isSome &&
          (checkPatch state.accounts cur id patch io.now).isOk && io.writeError.isNone
  | _ => false

/-- The row with the ID and the access key is dead. -/
def Rests (id akid : String) (accounts : Accounts) (now : Int) : Prop :=
  Exists fun sa => accounts.get? id = some sa ∧ sa.accessKeyID = akid ∧ sa.Dead now

theorem Rests.same {id akid : String} {accounts rows : Accounts} {now later : Int}
    (rests : Rests id akid accounts now) (order : now ≤ later) (equal : rows = accounts) :
    Rests id akid rows later := by
  rcases rests with ⟨sa, found, key, dead⟩
  rw [equal]
  exact ⟨sa, found, key, dead.later order⟩

theorem Rests.apart {id akid other : String} {accounts rows : Accounts} {row : ServiceAccount}
    {now later : Int} (rests : Rests id akid accounts now) (order : now ≤ later)
    (equal : rows = accounts.put other row) (differs : id ≠ other) : Rests id akid rows later := by
  rcases rests with ⟨sa, found, key, dead⟩
  refine ⟨sa, ?_, key, dead.later order⟩
  rw [equal, SortedStore.get?_put_of_ne _ _ differs, found]

theorem Rests.own {id akid : String} {accounts rows : Accounts} {row : ServiceAccount} {later : Int}
    (equal : rows = accounts.put id row) (key : row.accessKeyID = akid) (dead : row.Dead later) :
    Rests id akid rows later := by
  refine ⟨row, ?_, key, dead⟩
  rw [equal, SortedStore.get?_put_self]

variable {id akid : String} {accounts : Accounts} {now : Int}

theorem Rests.create (rests : Rests id akid accounts now) (template : Template) {io : CallIO}
    (fresh : io.Fresh accounts) (order : now ≤ io.now) :
    Rests id akid (create accounts template io).2 io.now := by
  rcases create_cases accounts template io with ⟨_, _, equal⟩ | ⟨name, _, equal⟩
  · exact rests.same order (equal fresh.1)
  · refine rests.apart order (congrArg Prod.snd equal) ?_
    rintro rfl
    rcases rests with ⟨sa, found, _⟩
    rw [fresh.1] at found
    cases found

/-- An update rouses a dead row only by a new expiry. -/
theorem Rests.update (rests : Rests id akid accounts now) {other : String} {patch : Patch}
    {io : CallIO} (order : now ≤ io.now)
    (spared : forall cur name, accounts.get? other = some cur -> cur.isRevoked = false ->
      cur.isExpired io.now = true -> checkPatch accounts cur other patch io.now = .ok name ->
        io.writeError = none -> chosenExpiry patch.expiresAt = none) :
    Rests id akid (update accounts other patch io).2 io.now := by
  rcases update_cases accounts other patch io with
    ⟨_, _, equal⟩ | ⟨cur, name, curFound, checked, written, equal⟩
  · exact rests.same order equal
  · by_cases own : id = other
    · subst own
      rcases rests with ⟨sa, found, key, dead⟩
      cases Option.some.inj (curFound.symm.trans found)
      refine Rests.own (congrArg Prod.snd equal) key ?_
      cases revoked : cur.isRevoked with
      | true => exact Or.inl revoked
      | false =>
          have expired : cur.isExpired io.now = true :=
            (dead.later order).resolve_left (by rw [revoked]; decide)
          have kept := spared cur name curFound revoked expired checked written
          refine Or.inr ?_
          rw [ServiceAccount.isExpired, ServiceAccount.patched, kept]
          exact expired
    · exact rests.apart order (congrArg Prod.snd equal) own

/-- `Rotate` refuses dead rows. -/
theorem Rests.rotate (rests : Rests id akid accounts now) (other : String) {io : CallIO}
    (order : now ≤ io.now) : Rests id akid (rotate accounts other io).2 io.now := by
  rcases rotate_cases accounts other io with equal | ⟨cur, curFound, notRevoked, notExpired, equal⟩
  · exact rests.same order equal
  · refine rests.apart order equal ?_
    rintro rfl
    rcases rests with ⟨sa, found, _, dead⟩
    cases Option.some.inj (curFound.symm.trans found)
    rcases dead.later order with revoked | expired
    · rw [notRevoked] at revoked
      cases revoked
    · rw [notExpired] at expired
      cases expired

/-- `Delete` leaves every row dead that was, and the one it is about. -/
theorem Rests.delete (rests : Rests id akid accounts now) (other : String) {io : CallIO}
    (order : now ≤ io.now) (running : 0 < now) :
    Rests id akid (delete accounts other io).2 io.now := by
  rcases delete_cases accounts other io with equal | ⟨cur, curFound, _, equal⟩
  · exact rests.same order equal
  · by_cases own : id = other
    · subst own
      rcases rests with ⟨sa, found, key, _⟩
      cases Option.some.inj (curFound.symm.trans found)
      exact Rests.own equal key (Or.inl (bne_iff_ne.mpr (ne_of_gt (lt_of_lt_of_le running order))))
    · exact rests.apart order equal own

/-- A dead row in a sound store. -/
structure Buried (id akid : String) (state : State) : Prop where
  sound : state.Sound
  rests : Rests id akid state.accounts state.now

/-- A dead row stays dead unless it is revived. -/
theorem Buried.step {id akid : String} (state : State) (action : Action) (next : State)
    (buried : Buried id akid state) (spared : revives state action = false)
    (taken : step state action = some next) : Buried id akid next := by
  refine ⟨State.Sound.step state action next buried.sound taken, ?_⟩
  rcases step_eq taken with ⟨enabled, rfl⟩
  have order := enabled.1
  cases action with
  | tick now => exact buried.rests.same order rfl
  | create template io =>
      simp only [Action.rows, Action.clock]
      exact buried.rests.create template enabled.2 order
  | update other patch io =>
      refine buried.rests.update order ?_
      intro cur name found revoked expired checked written
      have accepted : (checkPatch state.accounts cur other patch io.now).isOk = true := by
        rw [checked]
        rfl
      simpa [revives, found, revoked, expired, accepted, written] using spared
  | rotate other io => exact buried.rests.rotate other order
  | delete other io => exact buried.rests.delete other order buried.sound.running

/-- The secret of a dead row does not verify. -/
theorem verifySecret_buried {compare : String -> String -> Bool} {id akid : String} {state : State}
    (buried : Buried id akid state) {now : Int} (order : state.now ≤ now) (candidate : String) :
    verifySecret compare state.accounts now akid candidate = .ok false := by
  rcases buried.rests with ⟨sa, found, rfl, dead⟩
  have unusable : sa.usable now = false := by
    unfold ServiceAccount.usable
    rcases dead.later order with revoked | expired
    · rw [revoked]
      rfl
    · rw [expired, Bool.not_true, Bool.and_false, Bool.false_and]
  unfold verifySecret
  rw [findByAccessKey_eq buried.sound.keyed found]
  simp only
  rw [unusable, Bool.false_and]

/-- Dead accounts stay dead as long as no update gives an expired one a new expiry. -/
theorem dead_accounts_stay_dead (compare : String -> String -> Bool) {opened : Nat}
    {before after : List Action} {middle final : State} {id : String} {sa : ServiceAccount}
    (run : Transition.exec step (start opened) before = some middle)
    (found : middle.accounts.get? id = some sa) (dead : sa.Dead middle.now)
    (later : Transition.exec step middle after = some final)
    (spared : Transition.Meets step (fun state action => revives state action = false) middle after)
    {now : Int} (order : final.now ≤ now) (candidate : String) :
    verifySecret compare final.accounts now sa.accessKeyID candidate = .ok false := by
  have sound := Transition.exec_invariant State.Sound.step (start_sound opened) run
  have buried : Buried id sa.accessKeyID middle := ⟨sound, sa, found, rfl, dead⟩
  exact verifySecret_buried (Transition.exec_invariant_of_meets Buried.step buried spared later)
    order candidate

/-! ## An expiry that passes -/

/-- Alice's account, which expires at the tenth nanosecond. -/
def shortLived : List Action :=
  [.create ⟨"alice", "ci-prod", [], ["host:*"], some 10⟩
      { uuid := "row-1", accessKeyID := "BMNT0123456789ABCDEF", secret := "s3cret",
        hash := "s3cret",
        now := 2 },
    .tick 11]

/-- The account when its expiry has passed. -/
def expiredState : State := (Transition.exec step (start 0) shortLived).getD (start 0)

def expiredRow : ServiceAccount where
  id := "row-1"
  ownerUserID := "alice"
  name := "ci-prod"
  accessKeyID := "BMNT0123456789ABCDEF"
  secretKeyHash := "s3cret"
  capabilities := []
  scopes := ["host:*"]
  createdAt := 2
  expiresAt := some 10
  lastUsedAt := none
  revokedAt := none

/-- An update that asks for a longer life. -/
def prolong : List Action := [.update "row-1" { expiresAt := some 100 } { now := 12 }]

def prolongedState : State := (Transition.exec step expiredState prolong).getD expiredState

/-- A hash that is the secret itself. -/
def plainCompare (hash candidate : String) : Bool := hash == candidate

def renamed : List Action := [.update "row-1" { name := "ci-old" } { now := 12 }]

def renamedState : State := (Transition.exec step expiredState renamed).getD expiredState

theorem dead_accounts_stay_dead_renamed :
    verifySecret plainCompare renamedState.accounts 13 "BMNT0123456789ABCDEF" "s3cret" =
      .ok false :=
  @dead_accounts_stay_dead plainCompare 0 shortLived renamed expiredState renamedState "row-1"
    expiredRow rfl rfl (Or.inr rfl) rfl (by decide) 13 (by decide) "s3cret"

/-- An update with an expiry in the future brings an expired account back. -/
theorem update_revives_expired :
    ¬ forall (compare : String -> String -> Bool) (opened : Nat) (before after : List Action)
      (middle final : State) (id : String) (sa : ServiceAccount),
      Transition.exec step (start opened) before = some middle ->
        middle.accounts.get? id = some sa -> sa.Dead middle.now ->
          Transition.exec step middle after = some final ->
            forall now, final.now ≤ now -> forall candidate,
              verifySecret compare final.accounts now sa.accessKeyID candidate ≠ .ok true := by
  intro stated
  exact stated plainCompare 0 shortLived prolong expiredState prolongedState "row-1"
    expiredRow rfl rfl
    (Or.inr rfl) rfl 13 (by decide) "s3cret" rfl

end ServiceAccounts
end Basement
