import Basement.Library.DurableFiles
import Basement.Library.Transition

namespace Basement
namespace Library

/-!
# Replacing a file as a whole

A program replaces a file by writing a temporary one beside it and renaming that.  Between the
two it may sync the temporary file, and after them the directory; programs differ in which of this
they do.  Any of the calls can fail, the program can be killed between two of them, and the power
can be lost.

`Machine.step` has any number of files replaced at once, each by its own program.  Seen from
outside, it is a `Possible`: `Machine.next` says that the only thing a program does to the names
is to publish its content, all of it at once.
-/

namespace DurableFiles

/-- The files that are replaced, and the temporary files beside them. -/
structure Naming (Name : Type) where
  isTarget : Name -> Bool
  temporary : Name -> Name
  injective : forall first second, temporary first = temporary second -> first = second
  apart : forall target, isTarget target = true -> forall name, temporary name ≠ target

/-- The names in `kept` are all names of files that are replaced. -/
def Naming.Targets {Name : Type} (naming : Naming Name) (kept : Name -> Bool) : Prop :=
  forall name, kept name = true -> naming.isTarget name = true

/-- What a program does beyond writing and renaming. -/
structure Writer where
  reopens : Bool := false
  syncs : Bool := false
  removesTorn : Bool := false
  settles : Bool := false
  deriving DecidableEq, Repr

/-- The call a program makes next. -/
inductive Stage where
  | write
  | reopen
  | sync
  | close
  | rename
  | settle
  | remove
  deriving DecidableEq, Repr

/-- How a call ends.  A write can end after a part of it. -/
inductive Outcome (Content : Type) where
  | done
  | failed
  | torn (part : Content)
  deriving DecidableEq, Repr

/-- What a call does to the disk. -/
inductive Effect (Content : Type) where
  | nothing
  | write (content : Content)
  | sync
  | rename
  | settle
  | unlink
  deriving DecidableEq, Repr

/-- A program goes on, or answers whether it failed. -/
inductive Move where
  | next (stage : Stage)
  | answer (ok : Bool)
  deriving DecidableEq, Repr

def Writer.afterWrite (writer : Writer) : Stage :=
  if writer.syncs then if writer.reopens then .reopen else .sync else .rename

/-- The calls of a program in order.  A temporary file is removed when a later call fails, and
that a directory cannot be synced does not matter. -/
def Writer.protocol {Content : Type} (writer : Writer) (content : Content) :
    Stage -> Outcome Content -> Option (Effect Content × Move)
  | .write, .done => some (.write content, .next writer.afterWrite)
  | .write, .failed => some (.nothing, .answer false)
  | .write, .torn part =>
      some (.write part, if writer.removesTorn then .next .remove else .answer false)
  | .reopen, .done => some (.nothing, .next .sync)
  | .reopen, .failed => some (.nothing, .next .remove)
  | .sync, .done => some (.sync, .next .close)
  | .sync, .failed => some (.nothing, .next .remove)
  | .close, .done => some (.nothing, .next .rename)
  | .close, .failed => some (.nothing, .next .remove)
  | .rename, .done => some (.rename, if writer.settles then .next .settle else .answer true)
  | .rename, .failed => some (.nothing, .next .remove)
  | .settle, .done => some (.settle, .answer true)
  | .settle, .failed => some (.nothing, .answer true)
  | .remove, .done => some (.unlink, .answer false)
  | .remove, .failed => some (.nothing, .answer false)
  | _, .torn _ => none

structure Saving (Content : Type) where
  content : Content
  stage : Stage
  deriving DecidableEq, Repr

structure Machine (Name Content : Type) where
  disk : Disk Name Content
  saving : Name -> Option (Saving Content) := fun _ => none

/-- `kill` ends all programs, and `lose` the power. -/
inductive Action (Name Content : Type) where
  | begin (name : Name) (content : Content)
  | call (name : Name) (outcome : Outcome Content)
  | kill
  | lose (reached : Nat) (left : Nat -> Content)

variable {Name Content : Type} [DecidableEq Name]

def Effect.apply (naming : Naming Name) (name : Name) (disk : Disk Name Content) :
    Effect Content -> Disk Name Content
  | .nothing => disk
  | .write content => disk.write (naming.temporary name) content
  | .sync => disk.sync (naming.temporary name)
  | .rename => disk.rename (naming.temporary name) name
  | .settle => disk.settle
  | .unlink => disk.unlink (naming.temporary name)

def Move.saving (content : Content) : Move -> Option (Saving Content)
  | .next stage => some ⟨content, stage⟩
  | .answer _ => none

/-- Whether a program has renamed its file. -/
def Stage.isRenamed : Stage -> Bool
  | .settle => true
  | _ => false

def Move.isRenamed : Move -> Bool
  | .next stage => stage.isRenamed
  | .answer ok => ok

def Effect.renames : Effect Content -> Bool
  | .rename => true
  | _ => false

/-- What is seen of an effect of the program that replaces `name`. -/
def Effect.seen (effect : Effect Content) (kept : Bool) (name : Name) (content : Content)
    (before : Possible Name Content) : Possible Name Content :=
  match effect with
  | .rename => if kept then before.publish name content else before
  | .settle => .certain before.current
  | _ => before

def Move.answered : Move -> Option Bool
  | .next _ => none
  | .answer ok => some ok

namespace Machine

variable (naming : Naming Name) (writer : Name -> Writer)

/-- A call of the program that replaces a file, with what the program then answers, if it does. -/
def call (machine : Machine Name Content) (name : Name) (outcome : Outcome Content) :
    Option (Machine Name Content × Option Bool) :=
  match machine.saving name with
  | none => none
  | some saving =>
      match (writer name).protocol saving.content saving.stage outcome with
      | none => none
      | some (effect, move) =>
          some ({
            disk := effect.apply naming name machine.disk
            saving := Function.update machine.saving name (move.saving saving.content)
          }, move.answered)

def step (machine : Machine Name Content) : Action Name Content -> Option (Machine Name Content)
  | .begin name content =>
      if naming.isTarget name = true ∧ machine.saving name = none then
        some { machine with saving := Function.update machine.saving name (some ⟨content, .write⟩) }
      else none
  | .call name outcome => (machine.call naming writer name outcome).map Prod.fst
  | .kill => some { disk := machine.disk }
  | .lose reached left => some { disk := machine.disk.lose reached left }

end Machine

/-! ## What a disk of such programs is like -/

/-- No directory that a power loss can leave has two names for one file, or a target whose program
syncs without its content on the disk; and a temporary file is no target's, before or after. -/
structure Disk.Sound (naming : Naming Name) (syncs : Name -> Bool) (disk : Disk Name Content) :
    Prop where
  bounded : forall names, disk.Leaves names -> forall name file, names name = some file ->
    file < disk.files.length
  injective : forall names, disk.Leaves names -> forall first second file,
    names first = some file -> names second = some file -> first = second
  solid : forall names, disk.Leaves names -> forall name file, naming.isTarget name = true ->
    syncs name = true -> names name = some file ->
      Exists fun held => disk.files[file]? = some held ∧ held.synced = true
  apart : forall other file, disk.names (naming.temporary other) = some file ->
    forall names, disk.Leaves names -> forall name, naming.isTarget name = true ->
      names name ≠ some file

namespace Disk

variable {naming : Naming Name} {syncs : Name -> Bool} {disk : Disk Name Content}

omit [DecidableEq Name] in
/-- What is read of names does not change with the files they do not stand for. -/
theorem view_congr {kept : Name -> Bool} {files : List (File Content)} {names other : Names Name}
    (same : forall name, kept name = true -> other name = names name)
    (held : forall name file, kept name = true -> names name = some file ->
      (files[file]?).map File.content = (disk.files[file]?).map File.content) :
    view kept files other = view kept disk.files names := by
  funext name
  unfold view
  cases listed : kept name with
  | false => rfl
  | true =>
      simp only [if_true, same name listed]
      cases named : names name with
      | none => rfl
      | some file => exact held name file listed named

/-- Two disks are alike from outside if each directory of one shows what one of the other does. -/
theorem possible_congr {kept : Name -> Bool} {after : Disk Name Content}
    (now : view kept after.files after.names = view kept disk.files disk.names)
    (forth : forall names, after.Leaves names -> Exists fun other =>
      disk.Leaves other ∧ view kept after.files names = view kept disk.files other)
    (back : forall names, disk.Leaves names -> Exists fun other =>
      after.Leaves other ∧ view kept disk.files names = view kept after.files other) :
    after.possible kept = disk.possible kept := by
  ext1
  · exact now
  · apply Set.ext
    intro world
    constructor
    · rintro ⟨names, leaves, rfl⟩
      exact forth names leaves
    · rintro ⟨names, leaves, rfl⟩
      exact back names leaves

/-! ## One effect at a time -/

section Effects

variable {kept : Name -> Bool} {name : Name}

/-- The files of the targets keep their contents, and stay on the disk if they were. -/
theorem Sound.rewrite (sound : disk.Sound naming syncs) (targets : naming.Targets kept)
    {files : List (File Content)} (longer : disk.files.length ≤ files.length)
    (keeps : forall names, disk.Leaves names -> forall target file held,
      naming.isTarget target = true -> names target = some file ->
        disk.files[file]? = some held -> Exists fun new => files[file]? = some new ∧
          new.content = held.content ∧ (held.synced = true -> new.synced = true)) :
    Sound naming syncs { disk with files := files } ∧
      possible kept { disk with files := files } = disk.possible kept := by
  have alike : forall names, disk.Leaves names ->
      view kept files names = view kept disk.files names := by
    intro names leaves
    apply view_congr (fun _ _ => rfl)
    intro target file listed there
    have before := List.getElem?_eq_getElem (sound.bounded names leaves target file there)
    rcases keeps names leaves target file _ (targets target listed) there before with
      ⟨new, now, same, _⟩
    rw [before, now, Option.map_some, Option.map_some, same]
  refine ⟨⟨?_, sound.injective, ?_, sound.apart⟩, ?_⟩
  · intro names leaves target file there
    exact Nat.lt_of_lt_of_le (sound.bounded names leaves target file there) longer
  · intro names leaves target file isTarget durable there
    rcases sound.solid names leaves target file isTarget durable there with ⟨held, before, solid⟩
    rcases keeps names leaves target file held isTarget there before with ⟨new, now, _, synced⟩
    exact ⟨new, now, synced solid⟩
  · exact possible_congr (alike disk.names disk.leaves_names)
      (fun names leaves => ⟨names, leaves, alike names leaves⟩)
      (fun names leaves => ⟨names, leaves, (alike names leaves).symm⟩)

/-- Writing a temporary file that is there. -/
theorem Sound.write_over (sound : disk.Sound naming syncs) (targets : naming.Targets kept)
    {file : Nat} (named : disk.names (naming.temporary name) = some file) (content : Content) :
    Sound naming syncs { disk with files := disk.files.set file ⟨content, false⟩ } ∧
      possible kept { disk with files := disk.files.set file ⟨content, false⟩ } =
        disk.possible kept := by
  apply sound.rewrite targets (Nat.le_of_eq List.length_set.symm)
  intro names leaves target other held isTarget there before
  have different : file ≠ other := by
    rintro rfl
    exact sound.apart name file named names leaves target isTarget there
  exact ⟨held, (List.getElem?_set_ne different).trans before, rfl, id⟩

/-- A change of the directory keeps a disk sound if the changed directory is. -/
theorem Sound.append (sound : disk.Sound naming syncs) {entry : Entry Name}
    (bounded : forall name file, entry.apply disk.names name = some file ->
      file < disk.files.length)
    (injective : forall first second file, entry.apply disk.names first = some file ->
      entry.apply disk.names second = some file -> first = second)
    (solid : forall name file, naming.isTarget name = true -> syncs name = true ->
      entry.apply disk.names name = some file ->
        Exists fun held => disk.files[file]? = some held ∧ held.synced = true)
    (apart : forall other file, entry.apply disk.names (naming.temporary other) = some file ->
      forall names, disk.Leaves names -> forall name, naming.isTarget name = true ->
        names name ≠ some file) :
    Sound naming syncs { disk with journal := disk.journal ++ [entry] } := by
  refine ⟨?_, ?_, ?_, ?_⟩
  · intro names leaves name file there
    rcases leaves_append.mp leaves with old | rfl
    · exact sound.bounded names old name file there
    · exact bounded name file there
  · intro names leaves first second file one two
    rcases leaves_append.mp leaves with old | rfl
    · exact sound.injective names old first second file one two
    · exact injective first second file one two
  · intro names leaves name file isTarget durable there
    rcases leaves_append.mp leaves with old | rfl
    · exact sound.solid names old name file isTarget durable there
    · exact solid name file isTarget durable there
  · intro other file there names leaves name isTarget named
    rw [names_append] at there
    rcases leaves_append.mp leaves with old | rfl
    · exact apart other file there names old name isTarget named
    · exact naming.apart name isTarget other (injective _ _ file there named)

/-- A change of the directory that does not show. -/
theorem possible_append {entry : Entry Name}
    (alike : view kept disk.files (entry.apply disk.names) = view kept disk.files disk.names) :
    possible kept { disk with journal := disk.journal ++ [entry] } = disk.possible kept := by
  apply possible_congr
  · rw [names_append]
    exact alike
  · intro names leaves
    rcases leaves_append.mp leaves with old | rfl
    · exact ⟨names, old, rfl⟩
    · exact ⟨disk.names, disk.leaves_names, alike⟩
  · intro names leaves
    exact ⟨names, leaves_append.mpr (Or.inl leaves), rfl⟩

/-- A file without a name. -/
theorem Sound.grow (sound : disk.Sound naming syncs) (targets : naming.Targets kept)
    (added : File Content) :
    Sound naming syncs { disk with files := disk.files ++ [added] } ∧
      possible kept { disk with files := disk.files ++ [added] } = disk.possible kept := by
  apply sound.rewrite targets (List.sublist_append_left ..).length_le
  intro names leaves target file held _ there before
  have within := sound.bounded names leaves target file there
  exact ⟨held, (List.getElem?_append_left within).trans before, rfl, id⟩

/-- Writing a temporary file that was not there. -/
theorem Sound.write_new (sound : disk.Sound naming syncs) (targets : naming.Targets kept)
    (name : Name) (content : Content) :
    let after : Disk Name Content :=
      { disk with
        files := disk.files ++ [⟨content, false⟩]
        journal := disk.journal ++ [.link (naming.temporary name) disk.files.length] }
    after.Sound naming syncs ∧ after.possible kept = disk.possible kept := by
  let larger : Disk Name Content := { disk with files := disk.files ++ [⟨content, false⟩] }
  have grown : larger.Sound naming syncs ∧ larger.possible kept = disk.possible kept :=
    sound.grow targets ⟨content, false⟩
  have cases_names {other : Name} {file : Nat}
      (there : Function.update disk.names (naming.temporary name) (some disk.files.length) other =
        some file) :
      other = naming.temporary name ∧ file = disk.files.length ∨
        other ≠ naming.temporary name ∧ disk.names other = some file := by
    by_cases same : other = naming.temporary name
    · rw [same, Function.update_self] at there
      exact Or.inl ⟨same, (Option.some.inj there).symm⟩
    · rw [Function.update_of_ne same] at there
      exact Or.inr ⟨same, there⟩
  have fresh {names : Names Name} (leaves : disk.Leaves names) {other : Name}
      (there : names other = some disk.files.length) : False :=
    Nat.lt_irrefl _ (sound.bounded names leaves other _ there)
  constructor
  · apply grown.1.append
    · intro other file there
      rcases cases_names there with ⟨_, rfl⟩ | ⟨_, old⟩
      · change disk.files.length < (disk.files ++ [_]).length
        rw [List.length_append]
        exact Nat.lt_succ_self _
      · exact grown.1.bounded _ disk.leaves_names other file old
    · intro first second file one two
      rcases cases_names one with ⟨rfl, rfl⟩ | ⟨_, old⟩ <;>
        rcases cases_names two with ⟨rfl, same⟩ | ⟨_, other⟩
      · rfl
      · exact (fresh disk.leaves_names other).elim
      · exact (fresh disk.leaves_names (same ▸ old)).elim
      · exact sound.injective _ disk.leaves_names _ _ _ old other
    · intro other file isTarget durable there
      rcases cases_names there with ⟨same, _⟩ | ⟨_, old⟩
      · exact absurd same.symm (naming.apart other isTarget name)
      · exact grown.1.solid _ disk.leaves_names other file isTarget durable old
    · intro other file there names leaves target isTarget named
      rcases cases_names there with ⟨_, rfl⟩ | ⟨_, old⟩
      · exact fresh leaves named
      · exact sound.apart other file old names leaves target isTarget named
  · have alike : view kept larger.files
        ((Entry.link (naming.temporary name) disk.files.length).apply larger.names) =
          view kept larger.files larger.names := by
      apply view_congr
      · intro other listed
        exact Function.update_of_ne (naming.apart other (targets other listed) name).symm _ _
      · intros
        rfl
    exact (possible_append alike).trans grown.2

/-- Writing a temporary file is not seen. -/
theorem Sound.write (sound : disk.Sound naming syncs) (targets : naming.Targets kept)
    (name : Name) (content : Content) :
    (disk.write (naming.temporary name) content).Sound naming syncs ∧
      (disk.write (naming.temporary name) content).possible kept = disk.possible kept := by
  unfold Disk.write
  cases named : disk.names (naming.temporary name) with
  | some file => exact sound.write_over targets named content
  | none => exact sound.write_new targets name content

theorem Sound.sync (sound : disk.Sound naming syncs) (targets : naming.Targets kept)
    (name : Name) :
    (disk.sync name).Sound naming syncs ∧
      (disk.sync name).possible kept = disk.possible kept := by
  unfold Disk.sync
  cases named : disk.names name with
  | none => exact ⟨sound, rfl⟩
  | some file =>
      apply sound.rewrite targets (Nat.le_of_eq (List.length_modify ..).symm)
      intro names leaves target index held _ _ before
      rw [List.getElem?_modify, before]
      by_cases same : file = index
      · exact ⟨{ held with synced := true }, by simp [same], rfl, fun _ => rfl⟩
      · exact ⟨held, by simp [same], rfl, id⟩

/-- Removing a temporary file is not seen. -/
theorem Sound.unlink (sound : disk.Sound naming syncs) (targets : naming.Targets kept)
    (name : Name) :
    (disk.unlink (naming.temporary name)).Sound naming syncs ∧
      (disk.unlink (naming.temporary name)).possible kept = disk.possible kept := by
  have part {other : Name} {file : Nat}
      (there : Function.update disk.names (naming.temporary name) none other = some file) :
      disk.names other = some file := by
    by_cases same : other = naming.temporary name
    · rw [same, Function.update_self] at there
      cases there
    · rwa [Function.update_of_ne same] at there
  have alike : view kept disk.files (Function.update disk.names (naming.temporary name) none) =
      view kept disk.files disk.names := by
    apply view_congr
    · intro target listed
      exact Function.update_of_ne (naming.apart target (targets target listed) name).symm _ _
    · intros
      rfl
  constructor
  · apply sound.append
    · exact fun other file there => sound.bounded _ disk.leaves_names other file (part there)
    · exact fun first second file one two =>
        sound.injective _ disk.leaves_names first second file (part one) (part two)
    · exact fun other file isTarget durable there =>
        sound.solid _ disk.leaves_names other file isTarget durable (part there)
    · exact fun other file there => sound.apart other file (part there)
  · exact possible_append alike

/-- Renaming a temporary file to its target publishes its content. -/
theorem Sound.rename (sound : disk.Sound naming syncs) (targets : naming.Targets kept)
    {name : Name} (isTarget : naming.isTarget name = true) {file : Nat} {held : File Content}
    (named : disk.names (naming.temporary name) = some file)
    (there : disk.files[file]? = some held) (solid : syncs name = true -> held.synced = true) :
    (disk.rename (naming.temporary name) name).Sound naming syncs ∧
      (disk.rename (naming.temporary name) name).possible kept =
        if kept name then (disk.possible kept).publish name held.content
        else disk.possible kept := by
  have renamed : (Entry.rename (naming.temporary name) name).apply disk.names =
      Function.update (Function.update disk.names name (some file)) (naming.temporary name)
        none := by
    simp only [Entry.apply, named]
  have temporary_ne := naming.apart name isTarget name
  have cases_names {other : Name} {number : Nat}
      (after : (Entry.rename (naming.temporary name) name).apply disk.names other = some number) :
      other ≠ naming.temporary name ∧
        (other = name ∧ number = file ∨ disk.names other = some number) := by
    rw [renamed] at after
    by_cases temporary : other = naming.temporary name
    · rw [temporary, Function.update_self] at after
      cases after
    · refine ⟨temporary, ?_⟩
      rw [Function.update_of_ne temporary] at after
      by_cases target : other = name
      · rw [target, Function.update_self] at after
        exact Or.inl ⟨target, (Option.some.inj after).symm⟩
      · rw [Function.update_of_ne target] at after
        exact Or.inr after
  constructor
  · apply sound.append
    · intro other number after
      rcases (cases_names after).2 with ⟨_, rfl⟩ | before
      · exact sound.bounded _ disk.leaves_names _ _ named
      · exact sound.bounded _ disk.leaves_names _ _ before
    · intro first second number one two
      rcases cases_names one with ⟨notFirst, ⟨rfl, rfl⟩ | before⟩ <;>
        rcases cases_names two with ⟨notSecond, ⟨rfl, same⟩ | other⟩
      · rfl
      · exact absurd (sound.injective _ disk.leaves_names _ _ _ other named) notSecond
      · rw [same] at before
        exact absurd (sound.injective _ disk.leaves_names _ _ _ before named) notFirst
      · exact sound.injective _ disk.leaves_names _ _ _ before other
    · intro other number isOther durable after
      rcases (cases_names after).2 with ⟨rfl, rfl⟩ | before
      · exact ⟨held, there, solid durable⟩
      · exact sound.solid _ disk.leaves_names other number isOther durable before
    · intro other number after
      rcases (cases_names after).2 with ⟨same, _⟩ | before
      · exact absurd same (naming.apart name isTarget other)
      · exact sound.apart other number before
  · have alike : view kept disk.files ((Entry.rename (naming.temporary name) name).apply
        disk.names) = if kept name then Function.update (view kept disk.files disk.names) name
          (some held.content) else view kept disk.files disk.names := by
      rw [renamed]
      funext other
      by_cases target : other = name
      · subst target
        cases listed : kept other with
        | false => simp [view, listed]
        | true => simp [view, listed, temporary_ne.symm, there]
      · have unchanged : kept other = true ->
            Function.update (Function.update disk.names name (some file))
              (naming.temporary name) none other = disk.names other := by
          intro listed
          rw [Function.update_of_ne (naming.apart other (targets other listed) name).symm,
            Function.update_of_ne target]
        cases listed : kept other with
        | false => cases kept name <;> simp [view, listed, target]
        | true => cases kept name <;> simp [view, listed, target, unchanged listed]
    have now : (disk.rename (naming.temporary name) name).names =
        (Entry.rename (naming.temporary name) name).apply disk.names := names_append
    cases listed : kept name with
    | false =>
        simp only [listed, Bool.false_eq_true, if_false] at alike ⊢
        exact possible_append alike
    | true =>
        simp only [listed, if_true] at alike ⊢
        ext1
        · change view kept disk.files (disk.rename (naming.temporary name) name).names = _
          rw [now]
          exact alike
        · apply Set.ext
          intro world
          constructor
          · rintro ⟨names, leaves, rfl⟩
            rcases leaves_append.mp leaves with old | rfl
            · exact Or.inr ⟨names, old, rfl⟩
            · exact Or.inl alike
          · rintro (rfl | ⟨names, leaves, rfl⟩)
            · exact ⟨_, leaves_append.mpr (Or.inr rfl), alike.symm⟩
            · exact ⟨names, leaves_append.mpr (Or.inl leaves), rfl⟩

/-- A disk without pending changes. -/
theorem Sound.quiet (quiet : disk.journal = [])
    (bounded : forall name file, disk.settled name = some file -> file < disk.files.length)
    (injective : forall first second file, disk.settled first = some file ->
      disk.settled second = some file -> first = second)
    (solid : forall name file, naming.isTarget name = true -> syncs name = true ->
      disk.settled name = some file ->
        Exists fun held => disk.files[file]? = some held ∧ held.synced = true) :
    disk.Sound naming syncs := by
  have only : forall names, disk.Leaves names -> names = disk.settled :=
    fun names leaves => (leaves_settled quiet).mp leaves
  refine ⟨?_, ?_, ?_, ?_⟩
  · intro names leaves
    rw [only names leaves]
    exact bounded
  · intro names leaves
    rw [only names leaves]
    exact injective
  · intro names leaves
    rw [only names leaves]
    exact solid
  · intro other file there names leaves name isTarget named
    rw [only _ disk.leaves_names] at there
    rw [only names leaves] at named
    exact naming.apart name isTarget other (injective _ _ file there named)

/-- Nothing can be read of it but what is read. -/
theorem possible_quiet (quiet : disk.journal = []) :
    disk.possible kept = .certain (view kept disk.files disk.settled) := by
  have only (names : Names Name) : disk.Leaves names ↔ names = disk.settled := leaves_settled quiet
  have now := (only disk.names).mp disk.leaves_names
  ext1
  · change view kept disk.files disk.names = _
    rw [now]
    rfl
  · apply Set.ext
    intro world
    constructor
    · rintro ⟨names, leaves, rfl⟩
      rw [(only names).mp leaves]
      rfl
    · rintro rfl
      exact ⟨disk.settled, (only _).mpr rfl, rfl⟩

/-- Syncing the directory makes what can be read last. -/
theorem Sound.settle (sound : disk.Sound naming syncs) (kept : Name -> Bool) :
    disk.settle.Sound naming syncs ∧
      disk.settle.possible kept = .certain (disk.possible kept).current :=
  ⟨Sound.quiet rfl (sound.bounded _ disk.leaves_names) (sound.injective _ disk.leaves_names)
    (sound.solid _ disk.leaves_names), possible_quiet rfl⟩

/-- A power loss leaves one of the cases, of the names whose programs sync. -/
theorem Sound.lose (sound : disk.Sound naming syncs) (targets : naming.Targets kept)
    (reached : Nat) (left : Nat -> Content) :
    (disk.lose reached left).Sound naming syncs ∧
      ((forall name, kept name = true -> syncs name = true) ->
        Exists fun world => world ∈ (disk.possible kept).afterLoss ∧
          (disk.lose reached left).possible kept = .certain world) := by
  have before : disk.Leaves (disk.lose reached left).settled := ⟨reached, rfl⟩
  have files (file : Nat) : (disk.lose reached left).files[file]? =
      (disk.files[file]?).map fun held => if held.synced then held else ⟨left file, true⟩ := by
    change (disk.files.mapIdx _)[file]? = _
    rw [List.getElem?_mapIdx]
  constructor
  · refine Sound.quiet rfl ?_ (sound.injective _ before) ?_
    · intro name file there
      change file < (disk.files.mapIdx _).length
      rw [List.length_mapIdx]
      exact sound.bounded _ before name file there
    · intro name file isTarget durable there
      rcases sound.solid _ before name file isTarget durable there with ⟨held, at_, solid⟩
      refine ⟨held, ?_, solid⟩
      rw [files, at_, Option.map_some, if_pos solid]
  · intro durable
    refine ⟨view kept disk.files (disk.lose reached left).settled, ⟨_, before, rfl⟩, ?_⟩
    rw [possible_quiet rfl]
    apply congrArg Possible.certain
    apply view_congr (fun _ _ => rfl)
    intro name file listed there
    rcases sound.solid _ before name file (targets name listed) (durable name listed) there with
      ⟨held, at_, solid⟩
    rw [files, at_, Option.map_some, if_pos solid]

end Effects

/-! ## Where a file is after an effect -/

/-- A name stands for a file with the given content. -/
def Holds (disk : Disk Name Content) (name : Name) (held : File Content) : Prop :=
  Exists fun file => disk.names name = some file ∧ disk.files[file]? = some held

theorem write_holds (disk : Disk Name Content) (name : Name) (content : Content)
    (bounded : forall file, disk.names name = some file -> file < disk.files.length) :
    (disk.write name content).Holds name ⟨content, false⟩ := by
  unfold Disk.write
  cases named : disk.names name with
  | some file =>
      refine ⟨file, named, ?_⟩
      rw [List.getElem?_set_self (bounded file named)]
  | none =>
      refine ⟨disk.files.length, ?_, ?_⟩
      · rw [names_append]
        exact Function.update_self ..
      · exact List.getElem?_concat_length

theorem sync_holds {name : Name} {held : File Content} (there : disk.Holds name held) :
    (disk.sync name).Holds name { held with synced := true } := by
  rcases there with ⟨file, named, at_⟩
  unfold Disk.sync
  rw [named]
  refine ⟨file, named, ?_⟩
  rw [List.getElem?_modify, at_]
  simp

/-- What a program does to its own files leaves the temporary file of another one alone. -/
theorem Sound.frame (sound : disk.Sound naming syncs) {name other : Name} (apart : other ≠ name)
    (isTarget : naming.isTarget name = true) {held : File Content} (effect : Effect Content)
    (there : disk.Holds (naming.temporary other) held) :
    (effect.apply naming name disk).Holds (naming.temporary other) held := by
  rcases there with ⟨file, named, at_⟩
  have temporary : naming.temporary other ≠ naming.temporary name :=
    fun same => apart (naming.injective other name same)
  have otherFile {number : Nat} (own : disk.names (naming.temporary name) = some number) :
      number ≠ file := by
    rintro rfl
    exact temporary (sound.injective _ disk.leaves_names _ _ _ named own)
  cases effect with
  | nothing => exact ⟨file, named, at_⟩
  | settle => exact ⟨file, named, at_⟩
  | write content =>
      simp only [Effect.apply, Disk.write]
      cases own : disk.names (naming.temporary name) with
      | some number =>
          refine ⟨file, named, ?_⟩
          rw [List.getElem?_set_ne (otherFile own), at_]
      | none =>
          refine ⟨file, ?_, ?_⟩
          · rw [names_append]
            exact (Function.update_of_ne temporary _ _).trans named
          · rw [List.getElem?_append_left (sound.bounded _ disk.leaves_names _ file named), at_]
  | sync =>
      simp only [Effect.apply, Disk.sync]
      cases own : disk.names (naming.temporary name) with
      | none => exact ⟨file, named, at_⟩
      | some number =>
          refine ⟨file, named, ?_⟩
          rw [List.getElem?_modify, at_]
          simp [otherFile own]
  | rename =>
      refine ⟨file, ?_, at_⟩
      rw [Effect.apply, Disk.rename, names_append, Entry.apply]
      cases own : disk.names (naming.temporary name) with
      | none => exact named
      | some number =>
          simp only
          rw [Function.update_of_ne temporary,
            Function.update_of_ne (naming.apart name isTarget other), named]
  | unlink =>
      refine ⟨file, ?_, at_⟩
      rw [Effect.apply, Disk.unlink, names_append]
      exact (Function.update_of_ne temporary _ _).trans named

end Disk

/-! ## Steps -/

/-- The stages in which the temporary file has all of the content. -/
def Stage.isWritten : Stage -> Bool
  | .reopen | .sync | .close | .rename => true
  | _ => false

/-- The stages in which it is on the disk, if the program syncs it. -/
def Stage.isSynced : Stage -> Bool
  | .close | .rename => true
  | _ => false

namespace Machine

variable {naming : Naming Name} {writer : Name -> Writer} {machine next : Machine Name Content}

structure Sound (naming : Naming Name) (writer : Name -> Writer)
    (machine : Machine Name Content) : Prop where
  disk : machine.disk.Sound naming fun name => (writer name).syncs
  targets : forall name saving, machine.saving name = some saving -> naming.isTarget name = true
  written : forall name saving, machine.saving name = some saving ->
    saving.stage.isWritten = true -> Exists fun held =>
      machine.disk.Holds (naming.temporary name) held ∧ held.content = saving.content ∧
        (saving.stage.isSynced = true -> (writer name).syncs = true -> held.synced = true)
  published : forall name saving, machine.saving name = some saving ->
    saving.stage.isRenamed = true -> machine.disk.read name = some saving.content

/-- A disk without pending changes, names that share a file or files that are not synced. -/
structure Clean (naming : Naming Name) (disk : Disk Name Content) : Prop where
  quiet : disk.journal = []
  bounded : forall name file, disk.settled name = some file -> file < disk.files.length
  injective : forall first second file, disk.settled first = some file ->
    disk.settled second = some file -> first = second
  synced : forall held, held ∈ disk.files -> held.synced = true

/-- A clean disk reads the same after a power loss. -/
theorem Clean.read {disk : Disk Name Content} (clean : Clean naming disk) {kept : Name -> Bool}
    {world : Name -> Option Content} (case : world ∈ (disk.possible kept).afterLoss) {name : Name}
    (listed : kept name = true) : world name = disk.read name := by
  have current := disk.possible_current kept listed
  rw [Disk.possible_quiet clean.quiet] at case current
  rw [Set.mem_singleton_iff.mp case]
  exact current

/-- Nothing is in progress on a sound disk. -/
theorem Sound.idle {disk : Disk Name Content}
    (sound : disk.Sound naming fun name => (writer name).syncs) :
    Sound naming writer ⟨disk, fun _ => none⟩ := by
  refine ⟨sound, ?_, ?_, ?_⟩
  · intro name saving started
    cases started
  · intro name saving started
    cases started
  · intro name saving started
    cases started

/-- Programs may start on a clean disk. -/
theorem Clean.sound {disk : Disk Name Content} (clean : Clean naming disk)
    (writer : Name -> Writer) : Sound naming writer ⟨disk, fun _ => none⟩ := by
  refine Sound.idle (Disk.Sound.quiet clean.quiet clean.bounded clean.injective ?_)
  intro name file _ _ named
  have within := clean.bounded name file named
  exact ⟨disk.files[file], List.getElem?_eq_getElem within,
    clean.synced _ (List.getElem_mem within)⟩

variable {kept : Name -> Bool} {holds : Name -> Option Content -> Prop} {name : Name}
  {content : Content} {saving : Saving Content} {program : Writer} {stage : Stage}
  {outcome : Outcome Content} {effect : Effect Content} {move : Move}
  {action : Action Name Content} {answer : Option Bool}

/-! What the table of calls says of an effect. -/

theorem protocol_rename (listed : program.protocol content stage outcome = some (.rename, move)) :
    stage = .rename := by
  cases stage <;> cases outcome <;> simp_all [Writer.protocol]

/-- A written temporary file was just written, or was there before. -/
theorem protocol_written {after : Stage}
    (listed : program.protocol content stage outcome = some (effect, .next after))
    (written : after.isWritten = true) :
    effect = .write content ∧ after = program.afterWrite ∨
      stage.isWritten = true ∧ (effect = .sync ∨
        effect = .nothing ∧ (after.isSynced = true -> stage.isSynced = true)) := by
  cases stage <;> cases outcome <;>
    simp only [Writer.protocol, Option.some.injEq, Prod.mk.injEq, Move.next.injEq, reduceCtorEq,
      and_false] at listed
  case write.done => exact Or.inl ⟨listed.1.symm, listed.2.symm⟩
  case sync.done => exact Or.inr ⟨rfl, Or.inl listed.1.symm⟩
  case close.done => exact Or.inr ⟨rfl, Or.inr ⟨listed.1.symm, fun _ => rfl⟩⟩
  case reopen.done =>
    rcases listed with ⟨rfl, rfl⟩
    exact Or.inr ⟨rfl, Or.inr ⟨rfl, Bool.false_ne_true.elim⟩⟩
  -- All other calls leave the file to be removed, or have renamed it.
  case write.torn | rename.done =>
    rcases listed with ⟨_, moved⟩
    split at moved
    · cases moved
      cases written
    · cases moved
  all_goals
    rcases listed with ⟨_, rfl⟩
    cases written

theorem afterWrite_synced (synced : program.afterWrite.isSynced = true) :
    program.syncs = false := by
  unfold Writer.afterWrite at synced
  cases syncs : program.syncs with
  | false => rfl
  | true =>
      simp only [syncs, if_true] at synced
      split at synced <;> cases synced

/-- What a beginning comes to. -/
theorem begin_cases (begun : machine.step naming writer (.begin name content) = some next) :
    naming.isTarget name = true ∧ next.disk = machine.disk ∧
      next.saving name = some ⟨content, .write⟩ ∧
        forall other, other ≠ name -> next.saving other = machine.saving other := by
  simp only [Machine.step] at begun
  split at begun
  · rename_i free
    cases Option.some.inj begun
    exact ⟨free.1, rfl, Function.update_self .., fun other apart => Function.update_of_ne apart ..⟩
  · cases begun

/-- What a call comes to. -/
theorem call_cases (called : machine.call naming writer name outcome = some (next, answer)) :
    Exists fun saving => Exists fun effect => Exists fun move =>
      machine.saving name = some saving ∧
        (writer name).protocol saving.content saving.stage outcome = some (effect, move) ∧
        next.disk = effect.apply naming name machine.disk ∧
        next.saving = Function.update machine.saving name (move.saving saving.content) ∧
        answer = move.answered := by
  unfold call at called
  cases started : machine.saving name with
  | none => simp [started] at called
  | some saving =>
      simp only [started] at called
      cases listed : (writer name).protocol saving.content saving.stage outcome with
      | none => simp [listed] at called
      | some both =>
          rcases both with ⟨effect, move⟩
          simp only [listed, Option.some.injEq, Prod.mk.injEq] at called
          rcases called with ⟨rfl, rfl⟩
          exact ⟨saving, effect, move, rfl, listed, rfl, rfl, rfl⟩

/-- What an effect does to the names. -/
theorem Sound.applied (sound : machine.Sound naming writer) (kept : Name -> Bool)
    (targets : naming.Targets kept) (started : machine.saving name = some saving)
    (listed : (writer name).protocol saving.content saving.stage outcome = some (effect, move)) :
    (effect.apply naming name machine.disk).Sound naming (fun name => (writer name).syncs) ∧
      (effect.apply naming name machine.disk).possible kept =
        effect.seen (kept name) name saving.content (machine.disk.possible kept) := by
  cases effect with
  | nothing => exact ⟨sound.disk, rfl⟩
  | write content => exact sound.disk.write targets name content
  | sync => exact sound.disk.sync targets (naming.temporary name)
  | unlink => exact sound.disk.unlink targets name
  | settle => exact sound.disk.settle kept
  | rename =>
      have stage : saving = ⟨saving.content, .rename⟩ := by
        rw [← protocol_rename listed]
      rw [stage] at started
      rcases sound.written name _ started rfl with ⟨held, ⟨file, named, there⟩, same, synced⟩
      have renamed := sound.disk.rename targets (sound.targets name _ started) named there
        (synced rfl)
      rw [same] at renamed
      exact renamed

/-- Not seen, or publishing the program's content, or making everything last. -/
theorem seen_next {kept : Bool} (started : machine.saving name = some saving)
    (listed : (writer name).protocol saving.content saving.stage outcome = some (effect, move))
    (before : Possible Name Content) :
    Possible.Next (fun name content => machine.saving name = some ⟨content, .rename⟩) before
      (effect.seen kept name saving.content before) := by
  cases effect with
  | settle => exact .settle
  | rename =>
      cases kept with
      | false => exact .unseen
      | true =>
          refine .publish name saving.content ?_
          rw [started, ← protocol_rename listed]
  | nothing => exact .unseen
  | write content => exact .unseen
  | sync => exact .unseen
  | unlink => exact .unseen

/-- What a call changes for readers: a rename gives its own target the content, and nothing else
does anything. -/
theorem Sound.read (sound : machine.Sound naming writer)
    (started : machine.saving name = some saving)
    (listed : (writer name).protocol saving.content saving.stage outcome = some (effect, move))
    {target : Name} (isTarget : naming.isTarget target = true) :
    (effect.apply naming name machine.disk).read target =
      if effect.renames = true ∧ target = name then some saving.content
      else machine.disk.read target := by
  have seen := (sound.applied naming.isTarget (fun _ listed => listed) started listed).2
  rw [← Disk.possible_current _ _ isTarget, seen, sound.targets name saving started,
    ← machine.disk.possible_current _ isTarget]
  cases effect with
  | rename =>
      change Function.update _ name _ target = _
      by_cases same : target = name
      · rw [same, Function.update_self, if_pos ⟨rfl, rfl⟩]
      · rw [Function.update_of_ne same, if_neg (fun both => same both.2)]
  | nothing => rfl
  | settle => rfl
  | write content => rfl
  | sync => rfl
  | unlink => rfl

/-- A program is past its rename if it was before the call or the call was it, and it answers
according to that. -/
theorem protocol_renamed (listed : program.protocol content stage outcome = some (effect, move)) :
    move.isRenamed = (stage.isRenamed || effect.renames) := by
  cases stage <;> cases outcome <;>
    simp only [Writer.protocol, Option.some.injEq, Prod.mk.injEq, reduceCtorEq] at listed <;>
    rcases listed with ⟨rfl, rfl⟩
  case write.done =>
    unfold Writer.afterWrite
    split
    · split <;> rfl
    · rfl
  case write.torn => split <;> rfl
  case rename.done => split <;> rfl
  all_goals rfl

theorem Sound.call (sound : machine.Sound naming writer)
    (called : machine.call naming writer name outcome = some (next, answer)) :
    next.Sound naming writer := by
  rcases call_cases called with ⟨saving, effect, move, started, listed, disk, table, _⟩
  have isTarget := sound.targets name saving started
  have kept := (sound.applied naming.isTarget (fun _ listed => listed) started listed).1
  refine ⟨by rw [disk]; exact kept, ?_, ?_, ?_⟩
  · intro other later there
    rw [table] at there
    by_cases same : other = name
    · rw [same]
      exact isTarget
    · rw [Function.update_of_ne same] at there
      exact sound.targets other later there
  · intro other later there written
    rw [table] at there
    rw [disk]
    by_cases same : other = name
    · subst same
      rw [Function.update_self] at there
      cases move with
      | answer ok => cases there
      | next after =>
          cases Option.some.inj there
          rcases protocol_written listed written with ⟨rfl, rfl⟩ | ⟨before, rfl | ⟨rfl, synced⟩⟩
          · refine ⟨⟨saving.content, false⟩, ?_, rfl, ?_⟩
            · exact machine.disk.write_holds _ _
                (sound.disk.bounded _ machine.disk.leaves_names _)
            · intro isSynced syncs
              rw [afterWrite_synced isSynced] at syncs
              cases syncs
          · rcases sound.written other saving started before with ⟨held, holds, same, _⟩
            exact ⟨_, Disk.sync_holds holds, same, fun _ _ => rfl⟩
          · rcases sound.written other saving started before with ⟨held, holds, same, kept⟩
            exact ⟨held, holds, same, fun isSynced => kept (synced isSynced)⟩
    · rw [Function.update_of_ne same] at there
      rcases sound.written other later there written with ⟨held, holds, rest⟩
      exact ⟨held, sound.disk.frame same isTarget effect holds, rest⟩
  · intro other later there renamed
    rw [table] at there
    rw [disk]
    by_cases same : other = name
    · subst same
      rw [Function.update_self] at there
      rw [sound.read started listed isTarget]
      have past := protocol_renamed listed
      cases move with
      | answer ok => cases there
      | next after =>
          cases Option.some.inj there
          rw [Move.isRenamed, renamed] at past
          cases renames : effect.renames with
          | true => rw [if_pos ⟨rfl, rfl⟩]
          | false =>
              rw [if_neg (fun both => Bool.false_ne_true both.1)]
              rw [renames, Bool.or_false] at past
              exact sound.published other saving started past.symm
    · rw [Function.update_of_ne same] at there
      rw [sound.read started listed (sound.targets other later there),
        if_neg (fun both => same both.2)]
      exact sound.published other later there renamed

/-- Replacing files refines publishing contents: whatever the programs do and wherever they are
stopped, the names go one step on, or none. -/
theorem Sound.step (sound : machine.Sound naming writer) (kept : Name -> Bool)
    (targets : naming.Targets kept)
    (lossy : forall reached left, action = .lose reached left ->
      forall name, kept name = true -> (writer name).syncs = true)
    (taken : machine.step naming writer action = some next) :
    next.Sound naming writer ∧
      Possible.Next (fun name content => machine.saving name = some ⟨content, .rename⟩)
        (machine.disk.possible kept) (next.disk.possible kept) := by
  cases action with
  | begin name content =>
      rcases begin_cases taken with ⟨isTarget, disk, own, others⟩
      have busy : forall other saving, next.saving other = some saving ->
          other = name ∧ saving.stage = .write ∨ machine.saving other = some saving := by
        intro other saving there
        by_cases same : other = name
        · rw [same, own] at there
          cases there
          exact Or.inl ⟨same, rfl⟩
        · exact Or.inr (others other same ▸ there)
      rw [disk]
      refine ⟨⟨by rw [disk]; exact sound.disk, ?_, ?_, ?_⟩, .unseen⟩
      · intro other saving there
        rcases busy other saving there with ⟨rfl, _⟩ | old
        · exact isTarget
        · exact sound.targets other saving old
      · intro other saving there written
        rw [disk]
        rcases busy other saving there with ⟨_, stage⟩ | old
        · rw [stage] at written
          cases written
        · exact sound.written other saving old written
      · intro other saving there renamed
        rw [disk]
        rcases busy other saving there with ⟨_, stage⟩ | old
        · rw [stage] at renamed
          cases renamed
        · exact sound.published other saving old renamed
  | call name outcome =>
      rcases Option.map_eq_some_iff.mp taken with ⟨⟨after, answer⟩, called, rfl⟩
      rcases call_cases called with ⟨saving, effect, move, started, listed, disk, _⟩
      refine ⟨sound.call called, ?_⟩
      rw [disk, (sound.applied kept targets started listed).2]
      exact seen_next started listed _
  | kill =>
      cases Option.some.inj taken
      exact ⟨Sound.idle sound.disk, .unseen⟩
  | lose reached left =>
      cases Option.some.inj taken
      have lost := sound.disk.lose targets reached left
      refine ⟨Sound.idle lost.1, ?_⟩
      rcases lost.2 (lossy reached left rfl) with ⟨world, case, certain⟩
      change Possible.Next _ _ ((machine.disk.lose reached left).possible kept)
      rw [certain]
      exact .lose world case

theorem Sound.after (sound : machine.Sound naming writer)
    (taken : machine.step naming writer action = some next) : next.Sound naming writer :=
  (sound.step (fun _ => false) (fun _ => Bool.false_ne_true.elim)
    (fun _ _ _ _ => Bool.false_ne_true.elim) taken).1

theorem Sound.run {actions : List (Action Name Content)} (sound : machine.Sound naming writer)
    (run : Transition.exec (Machine.step naming writer) machine actions = some next) :
    next.Sound naming writer :=
  Transition.exec_invariant (fun _ _ _ held taken => held.after taken) sound run

/-- A program writes the content it began with. -/
theorem step_saving {later : Saving Content} (taken : machine.step naming writer action = some next)
    (there : next.saving name = some later) :
    action = .begin name later.content ∨
      Exists fun saving => machine.saving name = some saving ∧ saving.content = later.content := by
  cases action with
  | begin other content =>
      rcases begin_cases taken with ⟨_, _, own, others⟩
      by_cases same : name = other
      · rw [same, own] at there
        cases there
        exact Or.inl (congrArg (fun name => Action.begin name content) same.symm)
      · exact Or.inr ⟨later, others name same ▸ there, rfl⟩
  | call other outcome =>
      rcases Option.map_eq_some_iff.mp taken with ⟨⟨after, answer⟩, called, rfl⟩
      rcases call_cases called with ⟨saving, effect, move, started, listed, _, table, _⟩
      simp only [table] at there
      by_cases same : name = other
      · rw [same, Function.update_self] at there
        cases move with
        | answer ok => cases there
        | next stage =>
            cases Option.some.inj there
            exact Or.inr ⟨saving, same ▸ started, rfl⟩
      · rw [Function.update_of_ne same] at there
        exact Or.inr ⟨later, there, rfl⟩
  | kill =>
      cases Option.some.inj taken
      cases there
  | lose reached left =>
      cases Option.some.inj taken
      cases there

/-- Something holds of all that is read, now and after a power loss, and of all that programs are
writing. -/
structure Satisfies (naming : Naming Name) (writer : Name -> Writer) (kept : Name -> Bool)
    (holds : Name -> Option Content -> Prop) (machine : Machine Name Content) : Prop where
  sound : machine.Sound naming writer
  savings : forall name saving, machine.saving name = some saving ->
    holds name (some saving.content)
  worlds : forall world, world ∈ (machine.disk.possible kept).afterLoss -> forall name,
    kept name = true -> holds name (world name)

theorem Satisfies.step (satisfies : machine.Satisfies naming writer kept holds)
    (targets : naming.Targets kept)
    (begun : forall name content, action = .begin name content -> holds name (some content))
    (lossy : forall reached left, action = .lose reached left ->
      forall name, kept name = true -> (writer name).syncs = true)
    (taken : machine.step naming writer action = some next) :
    next.Satisfies naming writer kept holds := by
  have stepped := satisfies.sound.step kept targets lossy taken
  refine ⟨stepped.1, ?_, ?_⟩
  · intro name later there
    rcases step_saving taken there with same | ⟨saving, earlier, same⟩
    · exact begun name _ same
    · rw [← same]
      exact satisfies.savings name saving earlier
  · refine stepped.2.all ?_ satisfies.worlds
    intro world name content worldHolds published other isKept
    by_cases same : other = name
    · rw [same, Function.update_self]
      exact satisfies.savings name _ published
    · rw [Function.update_of_ne same]
      exact worldHolds other isKept

/-- What holds of the contents at the start and of all that programs begin with holds of what is
read at the end, and of what is read after a power loss then. -/
theorem Satisfies.exec {actions : List (Action Name Content)} {final : Machine Name Content}
    (satisfies : machine.Satisfies naming writer kept holds)
    (targets : naming.Targets kept)
    (begun : forall name content, Action.begin name content ∈ actions ->
      holds name (some content))
    (lossy : forall reached left, Action.lose reached left ∈ actions -> forall name,
      kept name = true -> (writer name).syncs = true)
    (run : Transition.exec (Machine.step naming writer) machine actions = some final) :
    final.Satisfies naming writer kept holds := by
  refine Transition.exec_invariant_of_allowed ?_ satisfies (fun _ listed => listed) run
  intro before action after held listed taken
  exact held.step targets (fun name content same => begun name content (same ▸ listed))
    (fun reached left same => lossy reached left (same ▸ listed)) taken

theorem Satisfies.read (satisfies : machine.Satisfies naming writer kept holds)
    (listed : kept name = true) : holds name (machine.disk.read name) := by
  have held := satisfies.worlds _ (machine.disk.possible kept).now name listed
  rwa [machine.disk.possible_current kept listed] at held

/-! ## Answers -/

/-- What is read when the directory has been synced is read from then on, power losses included,
until a program begins to replace it. -/
theorem Sound.settled (sound : machine.Sound naming writer) {settler : Name}
    {final : Machine Name Content}
    {actions : List (Action Name Content)} (isTarget : naming.isTarget name = true)
    (syncs : (writer name).syncs = true) (settling : machine.saving settler = some saving)
    (stage : saving.stage = .settle)
    (synced : machine.step naming writer (.call settler .done) = some next)
    (idle : next.saving name = none)
    (run : Transition.exec (Machine.step naming writer) next actions = some final)
    (unsaved : forall content, Action.begin name content ∉ actions) :
    final.disk.read name = machine.disk.read name := by
  rcases Option.map_eq_some_iff.mp synced with ⟨⟨after, answer⟩, called, rfl⟩
  rcases call_cases called with ⟨started, effect, move, there, listed, disk, _⟩
  cases Option.some.inj (there.symm.trans settling)
  rw [stage] at listed
  cases listed
  let kept : Name -> Bool := fun other => decide (other = name)
  have only : forall other, kept other = true -> other = name := fun other => of_decide_eq_true
  have own : kept name = true := decide_eq_true rfl
  have first : after.Satisfies naming writer kept fun other content =>
      other = name -> content = machine.disk.read name := by
    refine ⟨sound.call called, ?_, ?_⟩
    · intro other saving busy same
      rw [same, idle] at busy
      cases busy
    · rintro world ⟨names, leaves, rfl⟩ other listed same
      rw [disk] at leaves
      cases Disk.leaves_settle.mp leaves
      rw [disk, same]
      exact machine.disk.possible_current kept own
  have last := first.exec (fun other listed => only other listed ▸ isTarget) ?_
    (fun _ _ _ other listed => only other listed ▸ syncs) run
  · exact last.read own rfl
  · intro other content listed same
    exact absurd (same ▸ listed) (unsaved content)

/-- A program that is replacing a file with a content: readers find it after the rename, and what
was there before until then. -/
structure Replaces (naming : Naming Name) (writer : Name -> Writer) (name : Name)
    (content : Content) (before : Option Content) (machine : Machine Name Content) : Prop where
  sound : machine.Sound naming writer
  reads : forall saving, machine.saving name = some saving ->
    saving.content = content ∧
      machine.disk.read name = if saving.stage.isRenamed then some content else before

theorem Sound.begins (sound : machine.Sound naming writer)
    (started : machine.step naming writer (.begin name content) = some next) :
    naming.isTarget name = true ∧
      next.Replaces naming writer name content (machine.disk.read name) := by
  rcases begin_cases started with ⟨isTarget, disk, own, _⟩
  refine ⟨isTarget, sound.after started, ?_⟩
  intro saving there
  cases Option.some.inj (own.symm.trans there)
  exact ⟨rfl, congrArg (fun disk => disk.read name) disk⟩

/-- What a call of the program itself leaves. -/
theorem Replaces.called {before : Option Content}
    (replaces : machine.Replaces naming writer name content before)
    (started : machine.saving name = some saving)
    (listed : (writer name).protocol saving.content saving.stage outcome = some (effect, move)) :
    (effect.apply naming name machine.disk).read name =
      if move.isRenamed then some content else before := by
  rcases replaces.reads saving started with ⟨same, readBefore⟩
  rw [replaces.sound.read started listed (replaces.sound.targets name saving started),
    protocol_renamed listed, readBefore, same]
  cases renames : effect.renames with
  | true => simp
  | false => simp

theorem Replaces.step {before : Option Content}
    (replaces : machine.Replaces naming writer name content before)
    (once : forall other, action ≠ .begin name other)
    (taken : machine.step naming writer action = some next) :
    next.Replaces naming writer name content before := by
  refine ⟨replaces.sound.after taken, ?_⟩
  intro later there
  cases action with
  | begin other text =>
      have apart : name ≠ other := by
        rintro rfl
        exact once text rfl
      rcases begin_cases taken with ⟨_, disk, _, others⟩
      rw [others name apart] at there
      rw [disk]
      exact replaces.reads later there
  | kill =>
      cases Option.some.inj taken
      cases there
  | lose reached left =>
      cases Option.some.inj taken
      cases there
  | call other result =>
      rcases Option.map_eq_some_iff.mp taken with ⟨⟨reached, answer⟩, called, rfl⟩
      rcases call_cases called with ⟨saving, effect, move, busy, listed, disk, table, _⟩
      simp only [table] at there
      rw [disk]
      by_cases same : name = other
      · subst same
        rw [Function.update_self] at there
        rw [replaces.called busy listed]
        cases move with
        | answer ok => cases there
        | next stage =>
            cases Option.some.inj there
            exact ⟨(replaces.reads saving busy).1, rfl⟩
      · rw [Function.update_of_ne same] at there
        have isTarget := replaces.sound.targets name later there
        rw [replaces.sound.read busy listed isTarget, if_neg (fun both => same both.2)]
        exact replaces.reads later there

/-- A program answers that it has replaced its file exactly if readers find its content there; if
it answers that it failed, they find what was there before. -/
theorem Sound.answered (sound : machine.Sound naming writer)
    {begun middle final : Machine Name Content} {actions : List (Action Name Content)} {ok : Bool}
    (started : machine.step naming writer (.begin name content) = some begun)
    (run : Transition.exec (Machine.step naming writer) begun actions = some middle)
    (once : forall other, Action.begin name other ∉ actions)
    (called : middle.call naming writer name outcome = some (final, some ok)) :
    final.disk.read name = if ok then some content else machine.disk.read name := by
  have last : middle.Replaces naming writer name content (machine.disk.read name) := by
    refine Transition.exec_invariant_of_allowed ?_ (sound.begins started).2
      (fun _ listed => listed) run
    intro before action after held listed taken
    exact held.step (fun other same => once other (same ▸ listed)) taken
  rcases call_cases called with ⟨saving, effect, move, there, listed, disk, _, answer⟩
  rw [disk, last.called there listed]
  cases move with
  | next stage => cases answer
  | answer answered =>
      cases Option.some.inj answer
      rfl

end Machine

end DurableFiles

end Library
end Basement
