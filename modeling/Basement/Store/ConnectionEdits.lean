import Basement.Library.SavedMemory
import Basement.Store.Connections

namespace Basement
namespace Store

open Library

/-!
# Edits of a connection that are refused

`Update` writes the fields of a patch into the cached row one after the other and checks each
before it writes it.  A failed save puts the old row back, a refused driver does not.

Every save seals the secrets of all rows anew.  The ciphertext is never shown, so connections
are compared without it, apart from the one that is edited.
-/

/-! ## Reads -/

section Reads

variable {Blob : Type}

def Connections.list (store : Connections Blob) : List (Connection Blob) := store.cache

def Connections.get (store : Connections Blob) (id : String) : Except String (Connection Blob) :=
  match store.cache.find? fun c => c.id == id with
  | none => .error ("connection not found: " ++ id)
  | some c => .ok c

/-- A connection without the ciphertext that the last save made. -/
def Connection.unsealed (c : Connection Blob) : Connection Blob := { c with configEnc := none }

/-- What readers see of the connections. -/
def Connections.shown (store : Connections Blob) : List (Connection Blob) :=
  store.list.map Connection.unsealed

theorem get_eq_ok_iff {store : Connections Blob} {id : String} {c : Connection Blob} :
    store.get id = .ok c ↔ (store.cache.find? fun c => c.id == id) = some c := by
  rw [Connections.get]
  cases store.cache.find? fun c => c.id == id with
  | none => simp
  | some found => simp

theorem get_unsealed (store : Connections Blob) (id : String) :
    (store.get id).map Connection.unsealed =
      match store.shown.find? fun c => c.id == id with
      | none => .error ("connection not found: " ++ id)
      | some c => .ok c := by
  have sameId : ((fun c : Connection Blob => c.id == id) ∘ Connection.unsealed) =
      fun c => c.id == id := rfl
  rw [Connections.get, Connections.shown, Connections.list, List.find?_map, sameId]
  cases store.cache.find? fun c => c.id == id <;> rfl

end Reads

/-! ## Rows -/

section Rows

variable {Blob : Type}

theorem find?_cons_here {c : Connection Blob} {rest : List (Connection Blob)} {id : String}
    (here : c.id = id) : ((c :: rest).find? fun row => row.id == id) = some c :=
  List.find?_cons_of_pos (beq_iff_eq.mpr here)

theorem find?_cons_later {c : Connection Blob} {rest : List (Connection Blob)} {id : String}
    (other : c.id ≠ id) :
    ((c :: rest).find? fun row => row.id == id) = rest.find? fun row => row.id == id :=
  List.find?_cons_of_neg fun same => other (beq_iff_eq.mp same)

theorem setRow_here {c : Connection Blob} {id : String} (here : c.id = id) (row : Connection Blob)
    (rest : List (Connection Blob)) : setRow id row (c :: rest) = row :: rest :=
  if_pos here

theorem setRow_later {c : Connection Blob} {id : String} (other : c.id ≠ id)
    (row : Connection Blob) (rest : List (Connection Blob)) :
    setRow id row (c :: rest) = c :: setRow id row rest :=
  if_neg other

theorem find?_setRow {cache : List (Connection Blob)} {id : String} {before row : Connection Blob}
    (found : (cache.find? fun c => c.id == id) = some before) (named : row.id = id) :
    ((setRow id row cache).find? fun c => c.id == id) = some row := by
  induction cache with
  | nil => cases found
  | cons c rest ih =>
      by_cases here : c.id = id
      · rw [setRow_here here]
        exact find?_cons_here named
      · rw [setRow_later here, find?_cons_later here]
        rw [find?_cons_later here] at found
        exact ih found

theorem find?_setRow_other {cache : List (Connection Blob)} {id other : String}
    {row : Connection Blob} (named : row.id = other) (different : id ≠ other) :
    ((setRow other row cache).find? fun c => c.id == id) = cache.find? fun c => c.id == id := by
  induction cache with
  | nil => rfl
  | cons c rest ih =>
      by_cases here : c.id = other
      · have old : c.id ≠ id := fun same => different (same.symm.trans here)
        have new : row.id ≠ id := fun same => different (same.symm.trans named)
        rw [setRow_here here, find?_cons_later old, find?_cons_later new]
      · rw [setRow_later here]
        rw [List.find?_cons, List.find?_cons, ih]

theorem find?_eraseP_other {cache : List (Connection Blob)} {id other : String}
    (different : id ≠ other) :
    ((cache.eraseP fun c => c.id == other).find? fun c => c.id == id) =
      cache.find? fun c => c.id == id := by
  induction cache with
  | nil => rfl
  | cons c rest ih =>
      by_cases here : c.id = other
      · have old : c.id ≠ id := fun same => different (same.symm.trans here)
        rw [List.eraseP_cons, cond_eq_ite, if_pos (beq_iff_eq.mpr here), find?_cons_later old]
      · have kept : ¬ (c.id == other) = true := fun same => here (beq_iff_eq.mp same)
        rw [List.eraseP_cons, cond_eq_ite, if_neg kept]
        rw [List.find?_cons, List.find?_cons, ih]

theorem setRow_setRow {cache : List (Connection Blob)} {id : String} {first second : Connection Blob}
    (named : first.id = id) : setRow id second (setRow id first cache) = setRow id second cache := by
  induction cache with
  | nil => rfl
  | cons c rest ih =>
      by_cases here : c.id = id
      · rw [setRow_here here, setRow_here named, setRow_here here]
      · rw [setRow_later here, setRow_later here, ih, setRow_later here]

theorem setRow_found {cache : List (Connection Blob)} {id : String} {before : Connection Blob}
    (found : (cache.find? fun c => c.id == id) = some before) : setRow id before cache = cache := by
  induction cache with
  | nil => rfl
  | cons c rest ih =>
      by_cases here : c.id = id
      · rw [find?_cons_here here, Option.some.injEq] at found
        rw [setRow_here here, found]
      · rw [find?_cons_later here] at found
        rw [setRow_later here, ih found]

theorem setRow_map_unsealed (cache : List (Connection Blob)) (id : String) (row : Connection Blob) :
    (setRow id row cache).map Connection.unsealed =
      setRow id row.unsealed (cache.map Connection.unsealed) := by
  induction cache with
  | nil => rfl
  | cons c rest ih =>
      have sameId : c.unsealed.id = c.id := rfl
      by_cases here : c.id = id
      · rw [setRow_here here, List.map_cons, List.map_cons, setRow_here (sameId.trans here)]
      · rw [setRow_later here, List.map_cons, List.map_cons,
          setRow_later fun same => here (sameId.symm.trans same), ih]

end Rows

/-! ## Saves -/

section Saves

variable {Blob : Type} {box : Envelope Blob}

theorem prepareRows_unsealed (jwtSecret : Option Bytes) (io : SaveIO)
    (cache : List (Connection Blob)) (index : Nat) :
    (prepareRows box jwtSecret io index cache).1.map Connection.unsealed =
      cache.map Connection.unsealed := by
  induction cache generalizing index with
  | nil => rfl
  | cons c rest ih =>
      rw [prepareRows]
      cases toDiskError jwtSecret (io.encryptError index) c with
      | some error => rfl
      | none =>
          rw [List.map_cons, List.map_cons, ih]
          have row : ({ c with
              configEnc := (toDisk box jwtSecret (io.nonce index) c).configEnc
              configEncCSK := (toDisk box jwtSecret (io.nonce index) c).configEncCSK } :
                Connection Blob).unsealed = c.unsealed := by
            cases jwtSecret <;> rfl
          rw [row]

theorem saveLocked_cache (store : Connections Blob) (io : SaveIO) :
    (store.saveLocked box io).2.cache = (prepareRows box store.jwtSecret io 0 store.cache).1 := by
  rw [Connections.saveLocked]
  cases (prepareRows box store.jwtSecret io 0 store.cache).2 with
  | error error => rfl
  | ok rows => cases io.writeError <;> rfl

/-- Whether or not a save succeeds, it shows what it was to save. -/
theorem saveLocked_shown (store : Connections Blob) (io : SaveIO) :
    (store.saveLocked box io).2.shown = store.shown := by
  rw [Connections.shown, Connections.list, saveLocked_cache, prepareRows_unsealed]
  rfl

/-- After a save that succeeds, the ciphertext of every row opens to its secrets. -/
theorem prepareRows_sealed {secret : Bytes} {io : SaveIO} {cache : List (Connection Blob)}
    {index : Nat} {rows : List (ConnectionDisk Blob)}
    (prepared : (prepareRows box (some secret) io index cache).2 = .ok rows)
    {c : Connection Blob} (member : c ∈ (prepareRows box (some secret) io index cache).1)
    {blob : Blob} (closed : c.configEnc = some blob) :
    box.decryptSecret secret blob = some (c.config.restrict isSensitive) := by
  induction cache generalizing index rows with
  | nil => cases member
  | cons first rest ih =>
      rw [prepareRows] at prepared member
      cases fault : toDiskError (some secret) (io.encryptError index) first with
      | some error =>
          rw [fault] at prepared
          cases prepared
      | none =>
          simp only [fault] at prepared member
          cases tail : (prepareRows box (some secret) io (index + 1) rest).2 with
          | error error =>
              rw [tail] at prepared
              cases prepared
          | ok others =>
              rcases List.mem_cons.mp member with rfl | later
              · simp only [toDisk] at closed
                split at closed
                · cases closed
                · rw [← Option.some.inj closed]
                  exact box.decrypt_encrypt secret (io.nonce index) (first.config.restrict isSensitive)
              · exact ih tail later

end Saves

/-! ## Later calls -/

section Later

variable {Blob : Type} (lower : String -> String) (box : Envelope Blob)

/-- The store after a call, whether or not it succeeds. -/
def Connections.after (store : Connections Blob) : Call Blob -> Connections Blob
  | .create uuid now io c => (Connections.create lower box store uuid now io c).2
  | .update id io patch => (Connections.update lower box store id io patch).2
  | .delete id io => (Connections.delete box store id io).2

/-- The call is about the connection with an ID. -/
def Call.Concerns (id : String) : Call Blob -> Prop
  | .create uuid _ _ c => id = uuid ∨ id = c.id
  | .update other _ _ => id = other
  | .delete other _ => id = other

section Frame

variable {lower box}

theorem shown_eq_map {store : Connections Blob} {cache : List (Connection Blob)} (io : SaveIO) :
    (Connections.saveLocked box { store with cache := cache } io).2.cache.map Connection.unsealed =
      cache.map Connection.unsealed :=
  saveLocked_shown { store with cache := cache } io

theorem create_shown (store : Connections Blob) (uuid : String) (now : Int) (io : SaveIO)
    (c : ConnectionInput Blob) :
    (store.create lower box uuid now io c).2.shown = store.shown ∨
      Exists fun row : Connection Blob =>
        (row.id = uuid ∨ row.id = c.id) ∧
          (store.create lower box uuid now io c).2.shown = store.shown ++ [row] := by
  rw [Connections.create]
  split
  · exact Or.inl rfl
  · split
    · exact Or.inl rfl
    · split
      · exact Or.inl rfl
      · simp only
        split
        · left
          rw [Connections.shown, Connections.list, List.map_dropLast, shown_eq_map, List.map_append]
          exact List.dropLast_concat
        · right
          rw [Connections.shown, Connections.list, shown_eq_map, List.map_append]
          refine ⟨_, ?_, rfl⟩
          by_cases given : c.id = ""
          · left
            exact if_pos given
          · right
            exact if_neg given

/-- The label that a patch puts into a row before its driver is checked. -/
theorem patchLabel_ok_iff {cache : List (Connection Blob)} {id : String} {patch : ConnectionInput Blob}
    {before conn : Connection Blob} :
    patchLabel lower cache id patch before = .ok conn ↔
      (patch.label = "" ∧ conn = before) ∨
        (patch.label ≠ "" ∧ labelKey lower patch.label ≠ "" ∧
          (forall existing, existing ∈ cache -> existing.id ≠ id ->
            labelKey lower existing.label ≠ labelKey lower patch.label) ∧
          conn = { before with label := patch.label }) := by
  rw [patchLabel]
  by_cases omitted : patch.label = ""
  · rw [if_pos omitted, Except.ok.injEq]
    exact ⟨fun same => Or.inl ⟨omitted, same.symm⟩,
      fun holds => (holds.resolve_right fun given => given.1 omitted).2.symm⟩
  · rw [if_neg omitted]
    by_cases blank : labelKey lower patch.label = ""
    · rw [if_pos blank]
      refine iff_of_false ?_ ?_
      · intro impossible
        cases impossible
      · rintro (⟨empty, -⟩ | ⟨-, filled, -⟩)
        · exact omitted empty
        · exact filled blank
    · rw [if_neg blank]
      by_cases taken : (cache.any fun existing => existing.id != id &&
          labelKey lower existing.label == labelKey lower patch.label) = true
      · rw [if_pos taken]
        refine iff_of_false ?_ ?_
        · intro impossible
          cases impossible
        · rintro (⟨empty, -⟩ | ⟨-, -, free, -⟩)
          · exact omitted empty
          · rcases List.any_eq_true.mp taken with ⟨existing, member, clash⟩
            rw [Bool.and_eq_true, bne_iff_ne, beq_iff_eq] at clash
            exact free existing member clash.1 clash.2
      · rw [if_neg taken, Except.ok.injEq]
        have free : forall existing, existing ∈ cache -> existing.id ≠ id ->
            labelKey lower existing.label ≠ labelKey lower patch.label := by
          intro existing member other same
          apply taken
          rw [List.any_eq_true]
          refine ⟨existing, member, ?_⟩
          rw [Bool.and_eq_true, bne_iff_ne, beq_iff_eq]
          exact ⟨other, same⟩
        exact ⟨fun same => Or.inr ⟨omitted, blank, free, same.symm⟩,
          fun holds => (holds.resolve_left fun empty => omitted empty.1).2.2.2.symm⟩

theorem patchLabel_id {cache : List (Connection Blob)} {id : String} {patch : ConnectionInput Blob}
    {before conn : Connection Blob} (patched : patchLabel lower cache id patch before = .ok conn) :
    conn.id = before.id := by
  rcases patchLabel_ok_iff.mp patched with ⟨-, rfl⟩ | ⟨-, -, -, rfl⟩ <;> rfl

/-- The fields that are written after the driver was checked. -/
def patchRest (patch : ConnectionInput Blob) (conn : Connection Blob) : Connection Blob :=
  { conn with
    driver := if patch.driver = "" then conn.driver else patch.driver
    config := patch.config.getD conn.config
    color := if patch.color = "" then conn.color else patch.color }

/-- The driver of a patch can be written. -/
def DriverAccepted (patch : ConnectionInput Blob) : Prop :=
  patch.driver = "" ∨ patch.driver ∈ supportedDrivers

/-- Save the cache with a row overwritten. -/
def Connections.saveRow (box : Envelope Blob) (store : Connections Blob) (id : String)
    (row : Connection Blob) (io : SaveIO) : Except String Unit × Connections Blob :=
  Connections.saveLocked box { store with cache := setRow id row store.cache } io

theorem update_eq {store : Connections Blob} {id : String} {before : Connection Blob}
    (found : store.get id = .ok before) (io : SaveIO) (patch : ConnectionInput Blob) :
    store.update lower box id io patch =
      match patchLabel lower store.cache id patch before with
      | .error error => (.error error, store)
      | .ok conn =>
          if patch.driver ≠ "" ∧ patch.driver ∉ supportedDrivers then
            (.error ("unsupported driver: " ++ patch.driver.quote),
              { store with cache := setRow id conn store.cache })
          else
            let saved := store.saveRow box id (patchRest patch conn) io
            match saved.1 with
            | .error error =>
                (.error ("persisting update: " ++ error),
                  { saved.2 with cache := setRow id before saved.2.cache })
            | .ok () =>
                (.ok ((saved.2.cache.find? fun c => c.id == id).getD (patchRest patch conn)),
                  saved.2) := by
  rw [get_eq_ok_iff] at found
  rw [Connections.update, found]
  rfl

/-- What `Update` can do with a row that it finds. -/
theorem update_found {store : Connections Blob} {id : String} {before : Connection Blob}
    (found : store.get id = .ok before) (io : SaveIO) (patch : ConnectionInput Blob) :
    (Exists fun error => store.update lower box id io patch = (.error error, store)) ∨
      Exists fun conn => patchLabel lower store.cache id patch before = .ok conn ∧
        ((¬ DriverAccepted patch ∧ Exists fun error => store.update lower box id io patch =
            (.error error, { store with cache := setRow id conn store.cache })) ∨
          DriverAccepted patch ∧
            ((Exists fun error => store.update lower box id io patch =
                (.error error, { (store.saveRow box id (patchRest patch conn) io).2 with
                  cache := setRow id before
                    (store.saveRow box id (patchRest patch conn) io).2.cache })) ∨
              (store.saveRow box id (patchRest patch conn) io).1 = .ok () ∧
                store.update lower box id io patch =
                  (.ok (((store.saveRow box id (patchRest patch conn) io).2.cache.find?
                      fun c => c.id == id).getD (patchRest patch conn)),
                    (store.saveRow box id (patchRest patch conn) io).2))) := by
  rw [update_eq found io patch]
  cases patched : patchLabel lower store.cache id patch before with
  | error error => exact Or.inl ⟨error, rfl⟩
  | ok conn =>
      right
      refine ⟨conn, rfl, ?_⟩
      by_cases refused : patch.driver ≠ "" ∧ patch.driver ∉ supportedDrivers
      · left
        refine ⟨?_, ?_⟩
        · rintro (empty | supported)
          · exact refused.1 empty
          · exact refused.2 supported
        · simp only [if_pos refused]
          exact ⟨_, rfl⟩
      · right
        refine ⟨?_, ?_⟩
        · by_contra neither
          rw [DriverAccepted, not_or] at neither
          exact refused neither
        · simp only [if_neg refused]
          cases (store.saveRow box id (patchRest patch conn) io).1 with
          | error error => exact Or.inl ⟨_, rfl⟩
          | ok saved => exact Or.inr ⟨rfl, rfl⟩

theorem update_missing {store : Connections Blob} {id : String}
    (missing : store.cache.find? (fun c => c.id == id) = none) (io : SaveIO)
    (patch : ConnectionInput Blob) :
    store.update lower box id io patch = (.error ("connection not found: " ++ id), store) := by
  rw [Connections.update, missing]

/-- The rows that a save of one row shows. -/
theorem saveRow_shown (store : Connections Blob) (id : String) (row : Connection Blob) (io : SaveIO) :
    (store.saveRow box id row io).2.shown = setRow id row.unsealed store.shown := by
  rw [Connections.saveRow, saveLocked_shown, Connections.shown, Connections.list, setRow_map_unsealed]
  rfl

/-- Putting the old row back undoes the edit. -/
theorem restored_shown {store : Connections Blob} {id : String} {before row : Connection Blob}
    (found : store.get id = .ok before) (named : row.id = id) (io : SaveIO) :
    (setRow id before (store.saveRow box id row io).2.cache).map Connection.unsealed =
      store.shown := by
  have cache : (store.saveRow box id row io).2.cache.map Connection.unsealed =
      setRow id row.unsealed store.shown := saveRow_shown store id row io
  have sameId : row.unsealed.id = id := named
  rw [setRow_map_unsealed, cache, setRow_setRow sameId, Connections.shown, ← setRow_map_unsealed,
    Connections.list, setRow_found (get_eq_ok_iff.mp found)]

theorem get_id {store : Connections Blob} {id : String} {c : Connection Blob}
    (found : store.get id = .ok c) : c.id = id := by
  have chosen := List.find?_some (get_eq_ok_iff.mp found)
  exact beq_iff_eq.mp chosen

theorem delete_shown (store : Connections Blob) (id : String) (io : SaveIO) :
    (store.delete box id io).2.shown = store.shown ∨
      (store.delete box id io).2.shown = store.shown.eraseP fun c => c.id == id := by
  rw [Connections.delete]
  split
  · exact Or.inl rfl
  · simp only
    split
    · exact Or.inl rfl
    · right
      rw [Connections.shown, Connections.list, shown_eq_map, Connections.shown, List.eraseP_map]
      rfl

theorem update_shown_other {store : Connections Blob} {id other : String} (different : id ≠ other)
    (io : SaveIO) (patch : ConnectionInput Blob) :
    ((store.update lower box other io patch).2.shown.find? fun c => c.id == id) =
      store.shown.find? fun c => c.id == id := by
  cases held : store.cache.find? fun c => c.id == other with
  | none => rw [update_missing held]
  | some before =>
      have found : store.get other = .ok before := get_eq_ok_iff.mpr held
      have named := get_id found
      rcases update_found found io patch with
        ⟨error, refused⟩ | ⟨conn, patched, ⟨rejected, error, refused⟩ | ⟨accepted, outcome⟩⟩
      · rw [refused]
      · rw [refused, Connections.shown, Connections.list, setRow_map_unsealed]
        exact find?_setRow_other ((patchLabel_id patched).trans named) different
      · have sameId : (patchRest patch conn).id = other := (patchLabel_id patched).trans named
        rcases outcome with ⟨error, refused⟩ | ⟨saved, updated⟩
        · rw [refused, Connections.shown, Connections.list, restored_shown found sameId io]
        · rw [updated, saveRow_shown]
          exact find?_setRow_other sameId different

/-- A call about other connections leaves a connection as it is shown. -/
theorem get_after {store : Connections Blob} {id : String} {call : Call Blob}
    (apart : ¬ call.Concerns id) :
    ((store.after lower box call).get id).map Connection.unsealed =
      (store.get id).map Connection.unsealed := by
  have shown : ((store.after lower box call).shown.find? fun c => c.id == id) =
      store.shown.find? fun c => c.id == id := by
    cases call with
    | create uuid now io c =>
        rw [Call.Concerns, not_or] at apart
        rcases @create_shown Blob lower box store uuid now io c with same | ⟨row, named, longer⟩
        · rw [Connections.after, same]
        · rw [Connections.after, longer, List.find?_append]
          have other : ¬ (row.id == id) = true := by
            intro same
            rcases named with made | given
            · exact apart.1 ((beq_iff_eq.mp same).symm.trans made)
            · exact apart.2 ((beq_iff_eq.mp same).symm.trans given)
          rw [List.find?_singleton, if_neg other, Option.or_none]
    | update other io patch => exact update_shown_other apart io patch
    | delete other io =>
        rcases @delete_shown Blob box store other io with same | shorter
        · rw [Connections.after, same]
        · rw [Connections.after, shorter]
          exact find?_eraseP_other apart
  rw [get_unsealed, get_unsealed, shown]

/-- And so does a run of them. -/
theorem get_run {store : Connections Blob} {id : String} {calls : List (Call Blob)}
    (apart : forall call, call ∈ calls -> ¬ call.Concerns id) :
    ((calls.foldl (Connections.after lower box) store).get id).map Connection.unsealed =
      (store.get id).map Connection.unsealed := by
  induction calls generalizing store with
  | nil => rfl
  | cons call calls ih =>
      rw [List.forall_mem_cons] at apart
      rw [List.foldl_cons, ih apart.2, get_after apart.1]

/-- Under its ID a save finds the row that was saved, with new ciphertext. -/
theorem saveRow_get {store : Connections Blob} {id : String} {before row : Connection Blob}
    (found : store.get id = .ok before) (named : row.id = id) (io : SaveIO) :
    Exists fun c => (store.saveRow box id row io).2.get id = .ok c ∧ c.unsealed = row.unsealed := by
  have sameId : row.unsealed.id = id := named
  have held : (store.shown.find? fun c => c.id == id) = some before.unsealed := by
    have sameIds : ((fun c : Connection Blob => c.id == id) ∘ Connection.unsealed) =
        fun c => c.id == id := rfl
    rw [Connections.shown, Connections.list, List.find?_map, sameIds, get_eq_ok_iff.mp found]
    rfl
  have read := get_unsealed (store.saveRow box id row io).2 id
  rw [saveRow_shown, find?_setRow held sameId] at read
  cases outcome : (store.saveRow box id row io).2.get id with
  | error error =>
      rw [outcome] at read
      cases read
  | ok c =>
      rw [outcome] at read
      exact ⟨c, rfl, Except.ok.inj read⟩

end Frame

/-! ## When an edit is made whole or not at all -/

/-- The fields that a patch leaves out are as they were; the config counts as one field.  The
ciphertext is made anew and opens to the same secrets. -/
structure KeepsOmitted (jwtSecret : Option Bytes) (patch : ConnectionInput Blob)
    (before row : Connection Blob) : Prop where
  id : row.id = before.id
  label : patch.label = "" -> row.label = before.label
  driver : patch.driver = "" -> row.driver = before.driver
  config : patch.config = none -> row.config = before.config
  color : patch.color = "" -> row.color = before.color
  configEncCSK : row.configEncCSK = before.configEncCSK
  owner : row.owner = before.owner
  createdAt : row.createdAt = before.createdAt
  secrets : patch.config = none -> forall secret blob, jwtSecret = some secret ->
    row.configEnc = some blob ->
      box.decryptSecret secret blob = some (before.config.restrict isSensitive)

/-- An edit that is refused is not seen, neither at once nor after calls about other
connections, and one that is made keeps what the patch omits. -/
structure EditsWhole (store : Connections Blob) (id : String) (io : SaveIO)
    (patch : ConnectionInput Blob) : Prop where
  sameGet : FailsUnseen (fun held : Connections Blob => held.get id) store
    (store.update lower box id io patch)
  sameList : FailsUnseen Connections.shown store (store.update lower box id io patch)
  sameLater : forall error, (store.update lower box id io patch).1 = .error error ->
    forall calls : List (Call Blob), (forall call, call ∈ calls -> ¬ call.Concerns id) ->
      ((calls.foldl (Connections.after lower box) (store.update lower box id io patch).2).get id).map
          Connection.unsealed =
        (store.get id).map Connection.unsealed
  kept : forall row, (store.update lower box id io patch).1 = .ok row ->
    (store.update lower box id io patch).2.get id = .ok row ∧
      Exists fun before => store.get id = .ok before ∧
        KeepsOmitted box store.jwtSecret patch before row

/-- The label is not blank, and no other connection has it. -/
def LabelFree (store : Connections Blob) (id label : String) : Prop :=
  labelKey lower label ≠ "" ∧ forall existing, existing ∈ store.cache -> existing.id ≠ id ->
    labelKey lower existing.label ≠ labelKey lower label

section Edits

variable {lower box}

theorem kept_of_saved {store : Connections Blob} {id : String} {before conn : Connection Blob}
    {io : SaveIO} {patch : ConnectionInput Blob} (found : store.get id = .ok before)
    (patched : patchLabel lower store.cache id patch before = .ok conn)
    (saved : (store.saveRow box id (patchRest patch conn) io).1 = .ok ()) {row : Connection Blob}
    (read : (store.saveRow box id (patchRest patch conn) io).2.get id = .ok row)
    (shown : row.unsealed = (patchRest patch conn).unsealed) :
    KeepsOmitted box store.jwtSecret patch before row := by
  have field {α : Type} (part : Connection Blob -> α)
      (plain : forall c, part (Connection.unsealed c) = part c) :
      part row = part (patchRest patch conn) := by
    rw [← plain row, shown, plain]
  have labelled : conn = { before with label := conn.label } ∧
      (patch.label = "" -> conn.label = before.label) := by
    rcases patchLabel_ok_iff.mp patched with ⟨omitted, rfl⟩ | ⟨given, -, -, rfl⟩
    · exact ⟨rfl, fun empty => rfl⟩
    · exact ⟨rfl, fun empty => absurd empty given⟩
  constructor
  case id =>
    have named : conn.id = before.id := patchLabel_id patched
    exact (field Connection.id fun c => rfl).trans named
  case label =>
    intro omitted
    exact (field Connection.label fun c => rfl).trans (labelled.2 omitted)
  case driver =>
    intro omitted
    rw [field Connection.driver fun c => rfl, patchRest, labelled.1]
    exact if_pos omitted
  case config =>
    intro omitted
    rw [field Connection.config fun c => rfl, patchRest, labelled.1, omitted]
    rfl
  case color =>
    intro omitted
    rw [field Connection.color fun c => rfl, patchRest, labelled.1]
    exact if_pos omitted
  case configEncCSK =>
    rw [field Connection.configEncCSK fun c => rfl, patchRest, labelled.1]
  case owner =>
    rw [field Connection.owner fun c => rfl, patchRest, labelled.1]
  case createdAt =>
    rw [field Connection.createdAt fun c => rfl, patchRest, labelled.1]
  case secrets =>
    intro omitted secret blob keyed closed
    have config : row.config = before.config := by
      rw [field Connection.config fun c => rfl, patchRest, labelled.1, omitted]
      rfl
    have member := List.mem_of_find?_eq_some (get_eq_ok_iff.mp read)
    rw [Connections.saveRow, saveLocked_cache] at member
    simp only [keyed] at member
    rw [← config]
    cases prepared : (prepareRows box (some secret) io 0
        (setRow id (patchRest patch conn) store.cache)).2 with
    | error error =>
        rw [Connections.saveRow, Connections.saveLocked] at saved
        simp only [keyed, prepared] at saved
        cases saved
    | ok rows => exact prepareRows_sealed prepared member closed

theorem editsWhole_of_error {store next : Connections Blob} {id : String} {io : SaveIO}
    {patch : ConnectionInput Blob} {error : String}
    (refused : store.update lower box id io patch = (.error error, next))
    (sameGet : next.get id = store.get id) (sameList : next.shown = store.shown) :
    EditsWhole lower box store id io patch := by
  constructor
  case sameGet =>
    rw [refused, failsUnseen_error_iff]
    exact sameGet
  case sameList =>
    rw [refused, failsUnseen_error_iff]
    exact sameList
  case sameLater =>
    intro message failed calls apart
    rw [refused, get_run apart, sameGet]
  case kept =>
    intro row made
    rw [refused] at made
    cases made

theorem editsWhole_of_unchanged {store : Connections Blob} {id : String} {io : SaveIO}
    {patch : ConnectionInput Blob} {error : String}
    (refused : store.update lower box id io patch = (.error error, store)) :
    EditsWhole lower box store id io patch :=
  editsWhole_of_error refused rfl rfl

/-- An edit is made whole or not at all, unless its driver is refused after a new label that
could be written. -/
theorem editsWhole_iff (store : Connections Blob) (id : String) (io : SaveIO)
    (patch : ConnectionInput Blob) :
    EditsWhole lower box store id io patch ↔
      forall before, store.get id = .ok before ->
        DriverAccepted patch ∨ patch.label = "" ∨ patch.label = before.label ∨
          ¬ LabelFree lower store id patch.label := by
  constructor
  · intro whole before found
    by_contra refused
    rw [not_or, not_or, not_or, not_not] at refused
    rcases refused with ⟨rejected, given, different, filled, free⟩
    have changed : ¬ before.label = patch.label := fun same => different same.symm
    have patched : patchLabel lower store.cache id patch before =
        .ok { before with label := patch.label } :=
      patchLabel_ok_iff.mpr (Or.inr ⟨given, filled, free, rfl⟩)
    have refused : patch.driver ≠ "" ∧ patch.driver ∉ supportedDrivers := not_or.mp rejected
    have reply := @update_eq Blob lower box store id before found io patch
    simp only [patched, if_pos refused] at reply
    have same := whole.sameGet
    rw [reply, failsUnseen_error_iff, found, get_eq_ok_iff] at same
    have named : before.id = id := get_id found
    have written := @find?_setRow Blob store.cache id before { before with label := patch.label }
      (get_eq_ok_iff.mp found) named
    exact changed (congrArg Connection.label (Option.some.inj (same.symm.trans written)))
  · intro allowed
    cases held : store.get id with
    | error error =>
        have missing : (store.cache.find? fun c => c.id == id) = none := by
          cases row : store.cache.find? fun c => c.id == id with
          | none => rfl
          | some c =>
              rw [get_eq_ok_iff.mpr row] at held
              cases held
        rw [← held] at *
        exact editsWhole_of_unchanged (update_missing missing io patch)
    | ok before =>
        rcases @update_found Blob lower box store id before held io patch with
          ⟨error, refused⟩ | ⟨conn, patched, ⟨rejected, error, refused⟩ | ⟨accepted, outcome⟩⟩
        · exact editsWhole_of_unchanged refused
        · -- The label was not free or the row has it already, so nothing was written.
          have unwritten : conn = before := by
            rcases patchLabel_ok_iff.mp patched with ⟨-, same⟩ | ⟨given, filled, free, written⟩
            · exact same
            · have same : patch.label = before.label := by
                rcases allowed before held with accepted | omitted | same | taken
                · exact absurd accepted rejected
                · exact absurd omitted given
                · exact same
                · exact absurd ⟨filled, free⟩ taken
              rw [written, same]
          rw [unwritten, setRow_found (get_eq_ok_iff.mp held)] at refused
          exact editsWhole_of_unchanged refused
        · have named : (patchRest patch conn).id = id := (patchLabel_id patched).trans (get_id held)
          rcases @saveRow_get Blob box store id before (patchRest patch conn) held named io with
            ⟨row, read, shown⟩
          rcases outcome with ⟨error, refused⟩ | ⟨saved, updated⟩
          · apply editsWhole_of_error refused
            · rw [held, get_eq_ok_iff]
              exact find?_setRow (get_eq_ok_iff.mp read) (get_id held)
            · exact restored_shown held named io
          · rw [get_eq_ok_iff.mp read, Option.getD_some] at updated
            constructor
            case sameGet =>
              rw [updated]
              exact FailsUnseen.answered
            case sameList =>
              rw [updated]
              exact FailsUnseen.answered
            case sameLater =>
              intro error failed
              rw [updated] at failed
              cases failed
            case kept =>
              intro made answer
              rw [updated] at answer ⊢
              rw [← Except.ok.inj answer]
              exact ⟨read, before, held, kept_of_saved held patched saved read shown⟩

/-- A patch with a new label and a driver that does not exist is refused, and the label is seen. -/
theorem refused_driver_leaves_label :
    Exists fun error =>
      (keylessStore.update id sampleBox "id-1" {} { label := "Backup", driver := "ceph" }).1 =
          .error error ∧
        (keylessStore.update id sampleBox "id-1" {} { label := "Backup", driver := "ceph" }).2.get
            "id-1" ≠ keylessStore.get "id-1" := by
  refine ⟨_, rfl, ?_⟩
  intro same
  have labels := congrArg (fun reply : Except String (Connection (Bytes × Nat × ConfigMap)) =>
    (reply.map Connection.label).toOption) same
  exact absurd labels (by decide)

end Edits

end Later

end Store
end Basement
