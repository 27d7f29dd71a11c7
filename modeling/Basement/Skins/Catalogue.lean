import Basement.Library.Transition
import Basement.Skins.Registry
import Mathlib.Data.List.Nodup

namespace Basement
namespace Skins

open Library

/-!
# The catalogue of skins

An upload checks the name against the registry, writes the file, and registers the skin; a
deletion looks for the file and then removes it.  These are separate steps, and those of other
requests come between them.  A deletion leaves the registry alone, and booting does not read the
files.  Writing a file is one step; a write that fails may leave any bytes behind.  The policy
files are left out.

`reported` is the model's own: the uploads that reported success and whose skin was not deleted
since.  `asUploaded_step_iff` says which steps keep the registry in agreement with it.
-/

variable {Look : Type*}

inductive UploadError where
  | invalidExtension
  | invalidSkin
  | duplicateName (name : String)

/-- What `uploadSkinHandler` makes of the file. -/
def readUpload (format : Format Look) (filename : String) (payload : List UInt8) :
    Except UploadError (Skin Look) :=
  if !(format.toLower filename).endsWith ".basement-skin.json" then .error .invalidExtension
  else
    match validateSkinJSON format payload with
    | none => .error .invalidSkin
    | some skin => .ok skin

/-- The checks of `uploadSkinHandler` before it writes. -/
def checkUpload (format : Format Look) (registry : Registry Look) (filename : String)
    (payload : List UInt8) : Except UploadError (Skin Look) :=
  match readUpload format filename payload with
  | .error error => .error error
  | .ok skin =>
      match registry.get? skin.name with
      | some _ => .error (.duplicateName skin.name)
      | none => .ok skin

/-- An upload that passed its checks, and whether it wrote its file. -/
structure Upload (Look : Type*) where
  payload : List UInt8
  skin : Skin Look
  written : Bool

structure Catalogue (Look : Type*) where
  registry : Registry Look
  files : SortedStore String (List UInt8)
  uploads : List (Upload Look)
  deletions : List String
  reported : List (String × List UInt8)

inductive CatalogueEvent where
  | upload (filename : String) (payload : List UInt8)
  | write (upload : Nat)
  | writeFails (upload : Nat) (left : Option (List UInt8))
  | register (upload : Nat)
  | delete (id : String)
  | remove (deletion : Nat) (removed : Bool)
  | restart

namespace Catalogue

variable (format : Format Look)

def step (state : Catalogue Look) : CatalogueEvent -> Option (Catalogue Look)
  | .upload filename payload =>
      match checkUpload format state.registry filename payload with
      | .error _ => some state
      | .ok skin => some { state with uploads := state.uploads ++ [⟨payload, skin, false⟩] }
  | .write index =>
      match state.uploads[index]? with
      | some ⟨payload, skin, false⟩ =>
          some { state with
            files := state.files.put skin.name payload
            uploads := state.uploads.set index ⟨payload, skin, true⟩ }
      | _ => none
  | .writeFails index left =>
      match state.uploads[index]? with
      | some ⟨_, skin, false⟩ =>
          some { state with
            files := left.elim state.files (state.files.put skin.name)
            uploads := state.uploads.eraseIdx index }
      | _ => none
  | .register index =>
      match state.uploads[index]? with
      | some ⟨payload, skin, true⟩ =>
          match state.registry.register skin with
          | .error .emptyName => some { state with uploads := state.uploads.eraseIdx index }
          -- a duplicate is reported as a success
          | _ =>
              some { state with
                registry := state.registry.add skin
                uploads := state.uploads.eraseIdx index
                reported := state.reported ++ [(skin.name, payload)] }
      | _ => none
  | .delete id =>
      if validSkinName id && (state.files.get? id).isSome then
        some { state with deletions := state.deletions ++ [id] }
      else some state
  | .remove index removed =>
      match state.deletions[index]? with
      | none => none
      | some id =>
          if removed && (state.files.get? id).isSome then
            some { state with
              files := state.files.erase id
              deletions := state.deletions.eraseIdx index
              reported := state.reported.filter fun entry => entry.1 ≠ id }
          else some { state with deletions := state.deletions.eraseIdx index }
  | .restart =>
      some { state with registry := boot format, uploads := [], deletions := [] }

/-- A first start. -/
def start : Catalogue Look := ⟨boot format, .empty, [], [], []⟩

/-- An upload of a skin of that name reported success, and it was not deleted since. -/
def Uploaded (state : Catalogue Look) (name : String) : Prop :=
  Exists fun payload => (name, payload) ∈ state.reported

/-- A skin of that name is built in or uploaded. -/
def Installed (state : Catalogue Look) (name : String) : Prop :=
  (boot format).get? name ≠ none ∨ state.Uploaded name

/-! ## What the catalogue is to be -/

/-- The registry has the built-in skins and the uploaded ones, each from the one upload of that
name, and their files hold what was uploaded.  A name is refused when it is installed. -/
structure AsUploaded (state : Catalogue Look) : Prop where
  served : forall name skin, state.registry.get? name = some skin ↔
    (boot format).get? name = some skin ∨ Exists fun payload =>
      (name, payload) ∈ state.reported ∧ validateSkinJSON format payload = some skin
  one : (state.reported.map Prod.fst).Nodup
  onDisk : forall name payload, (name, payload) ∈ state.reported ->
    state.files.get? name = some payload
  refused : forall filename payload skin, readUpload format filename payload = .ok skin ->
    (checkUpload format state.registry filename payload = .error (.duplicateName skin.name) ↔
      state.Installed format skin.name)

/-- What is so in every state. -/
structure Sound (state : Catalogue Look) : Prop where
  named : state.registry.Named
  builtIn : forall name skin, (boot format).get? name = some skin ->
    state.registry.get? name = some skin
  uploads : forall upload, upload ∈ state.uploads ->
    validateSkinJSON format upload.payload = some upload.skin ∧
      (boot format).get? upload.skin.name = none
  reported : forall name payload, (name, payload) ∈ state.reported ->
    (boot format).get? name = none ∧ Exists fun skin =>
      validateSkinJSON format payload = some skin ∧ skin.name = name

/-- The step leaves uploaded skins alone, or reports what is so. -/
def Undisturbed (state : Catalogue Look) : CatalogueEvent -> Prop
  | .write index => forall upload, upload ∈ state.uploads[index]? ->
      state.Uploaded upload.skin.name ->
        state.files.get? upload.skin.name = some upload.payload
  | .writeFails index left => forall upload, upload ∈ state.uploads[index]? ->
      forall bytes, bytes ∈ left -> state.Uploaded upload.skin.name ->
        state.files.get? upload.skin.name = some bytes
  | .register index => forall upload, upload ∈ state.uploads[index]? ->
      ¬ state.Uploaded upload.skin.name ∧
        state.files.get? upload.skin.name = some upload.payload
  | .remove index removed => forall id, id ∈ state.deletions[index]? -> removed = true ->
      ¬ state.Uploaded id
  | .restart => state.reported = []
  | .upload .. | .delete _ => True

instance (state : Catalogue Look) (name : String) : Decidable (state.Uploaded name) :=
  decidable_of_iff (name ∈ state.reported.map Prod.fst) (by simp [Uploaded])

instance (state : Catalogue Look) : DecidablePred state.Undisturbed := fun event => by
  cases event with
  | upload => exact isTrue trivial
  | delete => exact isTrue trivial
  | _ => unfold Undisturbed; infer_instance

/-! ## Agreement -/

variable {format} {state next : Catalogue Look}

theorem checkUpload_of_read {registry : Registry Look} {filename : String} {payload : List UInt8}
    {skin : Skin Look} (read : readUpload format filename payload = .ok skin) :
    checkUpload format registry filename payload = .error (.duplicateName skin.name) ↔
      registry.get? skin.name ≠ none := by
  unfold checkUpload
  simp only [read]
  cases registry.get? skin.name with
  | none => simp
  | some old => simp

theorem checkUpload_eq_ok {registry : Registry Look} {filename : String} {payload : List UInt8}
    {skin : Skin Look} (accepted : checkUpload format registry filename payload = .ok skin) :
    validateSkinJSON format payload = some skin ∧ registry.get? skin.name = none := by
  unfold checkUpload readUpload at accepted
  split_ifs at accepted
  cases valid : validateSkinJSON format payload with
  | none => simp [valid] at accepted
  | some read =>
      simp only [valid] at accepted
      cases fresh : registry.get? read.name with
      | some old => simp [fresh] at accepted
      | none =>
          simp only [fresh, Except.ok.injEq] at accepted
          subst accepted
          exact ⟨rfl, fresh⟩

/-- The names of the registry are those of the installed skins. -/
theorem get?_ne_none_iff (sound : state.Sound format)
    (served : forall name skin, state.registry.get? name = some skin ↔
      (boot format).get? name = some skin ∨ Exists fun payload =>
        (name, payload) ∈ state.reported ∧ validateSkinJSON format payload = some skin)
    (name : String) : state.registry.get? name ≠ none ↔ state.Installed format name := by
  constructor
  · intro registered
    rcases Option.ne_none_iff_exists'.mp registered with ⟨skin, found⟩
    rcases (served name skin).mp found with builtIn | ⟨payload, listed, _⟩
    · exact Or.inl (builtIn ▸ Option.some_ne_none skin)
    · exact Or.inr ⟨payload, listed⟩
  · rintro (builtIn | ⟨payload, listed⟩)
    · rcases Option.ne_none_iff_exists'.mp builtIn with ⟨skin, found⟩
      rw [(served name skin).mpr (Or.inl found)]
      exact Option.some_ne_none skin
    · rcases (sound.reported name payload listed).2 with ⟨skin, valid, _⟩
      rw [(served name skin).mpr (Or.inr ⟨payload, listed, valid⟩)]
      exact Option.some_ne_none skin

theorem asUploaded_of (sound : state.Sound format)
    (served : forall name skin, state.registry.get? name = some skin ↔
      (boot format).get? name = some skin ∨ Exists fun payload =>
        (name, payload) ∈ state.reported ∧ validateSkinJSON format payload = some skin)
    (one : (state.reported.map Prod.fst).Nodup)
    (onDisk : forall name payload, (name, payload) ∈ state.reported ->
      state.files.get? name = some payload) : state.AsUploaded format where
  served := served
  one := one
  onDisk := onDisk
  refused _ _ skin read :=
    (checkUpload_of_read read).trans (get?_ne_none_iff sound served skin.name)

theorem sound_start : (start format).Sound format where
  named := named_boot format
  builtIn _ _ found := found
  uploads _ listed := absurd listed List.not_mem_nil
  reported _ _ listed := absurd listed List.not_mem_nil

theorem asUploaded_start : (start format).AsUploaded format := by
  refine asUploaded_of sound_start ?_ List.nodup_nil ?_
  · intro name skin
    refine ⟨Or.inl, ?_⟩
    rintro (builtIn | ⟨payload, listed, _⟩)
    · exact builtIn
    · exact absurd listed List.not_mem_nil
  · intro name payload listed
    exact absurd listed List.not_mem_nil

/-- The upload that is written or registered, and what is kept of the others. -/
theorem upload_at (sound : state.Sound format) {index : Nat} {upload : Upload Look}
    (found : state.uploads[index]? = some upload) :
    validateSkinJSON format upload.payload = some upload.skin ∧
      (boot format).get? upload.skin.name = none :=
  sound.uploads upload (List.mem_of_getElem? found)

/-! ## Steps -/

/-- What a step can be. -/
inductive Moved (format : Format Look) (state : Catalogue Look) :
    CatalogueEvent -> Catalogue Look -> Prop where
  | refused (filename : String) (payload : List UInt8) :
      Moved format state (.upload filename payload) state
  | accepted (filename : String) (payload : List UInt8) (skin : Skin Look)
      (checked : checkUpload format state.registry filename payload = .ok skin) :
      Moved format state (.upload filename payload)
        { state with uploads := state.uploads ++ [⟨payload, skin, false⟩] }
  | written (index : Nat) (payload : List UInt8) (skin : Skin Look)
      (found : state.uploads[index]? = some ⟨payload, skin, false⟩) :
      Moved format state (.write index)
        { state with
          files := state.files.put skin.name payload
          uploads := state.uploads.set index ⟨payload, skin, true⟩ }
  | unwritten (index : Nat) (left : Option (List UInt8)) (payload : List UInt8) (skin : Skin Look)
      (found : state.uploads[index]? = some ⟨payload, skin, false⟩) :
      Moved format state (.writeFails index left)
        { state with
          files := left.elim state.files (state.files.put skin.name)
          uploads := state.uploads.eraseIdx index }
  | nameless (index : Nat) (payload : List UInt8) (skin : Skin Look)
      (found : state.uploads[index]? = some ⟨payload, skin, true⟩)
      (error : state.registry.register skin = .error .emptyName) :
      Moved format state (.register index) { state with uploads := state.uploads.eraseIdx index }
  | registered (index : Nat) (payload : List UInt8) (skin : Skin Look)
      (found : state.uploads[index]? = some ⟨payload, skin, true⟩) :
      Moved format state (.register index)
        { state with
          registry := state.registry.add skin
          uploads := state.uploads.eraseIdx index
          reported := state.reported ++ [(skin.name, payload)] }
  | found (id : String) :
      Moved format state (.delete id) { state with deletions := state.deletions ++ [id] }
  | notFound (id : String) : Moved format state (.delete id) state
  | removed (index : Nat) (id : String) (found : state.deletions[index]? = some id) :
      Moved format state (.remove index true)
        { state with
          files := state.files.erase id
          deletions := state.deletions.eraseIdx index
          reported := state.reported.filter fun entry => entry.1 ≠ id }
  | kept (index : Nat) (removed : Bool) (id : String) (found : state.deletions[index]? = some id)
      (absent : removed = true -> state.files.get? id = none) :
      Moved format state (.remove index removed)
        { state with deletions := state.deletions.eraseIdx index }
  | restarted :
      Moved format state .restart
        { state with registry := boot format, uploads := [], deletions := [] }

theorem moved_of_step {event : CatalogueEvent} (taken : step format state event = some next) :
    Moved format state event next := by
  cases event with
  | upload filename payload =>
      simp only [step] at taken
      split at taken
      · cases taken
        exact .refused filename payload
      · rename_i skin checked
        cases taken
        exact .accepted filename payload skin checked
  | write index =>
      simp only [step] at taken
      split at taken
      · rename_i payload skin found
        cases taken
        exact .written index payload skin found
      · cases taken
  | writeFails index left =>
      simp only [step] at taken
      split at taken
      · rename_i payload skin found
        cases taken
        exact .unwritten index left payload skin found
      · cases taken
  | register index =>
      simp only [step] at taken
      split at taken
      · rename_i payload skin found
        split at taken
        · rename_i error
          cases taken
          exact .nameless index payload skin found error
        · cases taken
          exact .registered index payload skin found
      · cases taken
  | delete id =>
      simp only [step] at taken
      split_ifs at taken
      · cases taken
        exact .found id
      · cases taken
        exact .notFound id
  | remove index removed =>
      simp only [step] at taken
      split at taken
      · cases taken
      · rename_i id found
        split_ifs at taken with gone
        · cases taken
          rw [(Bool.and_eq_true_iff.mp gone).1]
          exact .removed index id found
        · cases taken
          refine .kept index removed id found ?_
          rintro rfl
          simpa using gone
  | restart =>
      cases taken
      exact .restarted

/-- An upload that goes leaves the others as they were. -/
theorem Sound.eraseUpload (sound : state.Sound format) {index : Nat} {upload : Upload Look}
    (listed : upload ∈ state.uploads.eraseIdx index) :
    validateSkinJSON format upload.payload = some upload.skin ∧
      (boot format).get? upload.skin.name = none :=
  sound.uploads upload (List.mem_of_mem_eraseIdx listed)

theorem Sound.step (sound : state.Sound format) {event : CatalogueEvent}
    (taken : step format state event = some next) : next.Sound format := by
  cases moved_of_step taken with
  | refused _ _ => exact sound
  | accepted _ payload skin checked =>
      rcases checkUpload_eq_ok checked with ⟨valid, fresh⟩
      refine ⟨sound.named, sound.builtIn, ?_, sound.reported⟩
      intro upload listed
      rcases List.mem_append.mp listed with old | new
      · exact sound.uploads upload old
      · cases List.mem_singleton.mp new
        refine ⟨valid, Option.eq_none_iff_forall_ne_some.mpr ?_⟩
        intro builtIn found
        rw [sound.builtIn _ _ found] at fresh
        cases fresh
  | written index payload skin found =>
      refine ⟨sound.named, sound.builtIn, ?_, sound.reported⟩
      intro upload listed
      rcases List.mem_or_eq_of_mem_set listed with old | rfl
      · exact sound.uploads upload old
      · have same := upload_at sound found
        exact same
  | unwritten _ _ _ _ _ =>
      exact ⟨sound.named, sound.builtIn, fun _ listed => sound.eraseUpload listed, sound.reported⟩
  | nameless _ _ _ _ _ =>
      exact ⟨sound.named, sound.builtIn, fun _ listed => sound.eraseUpload listed, sound.reported⟩
  | registered _ payload skin found =>
      refine ⟨sound.named.add skin,
        fun name builtIn found => get?_add_of_some (sound.builtIn name builtIn found),
        fun _ listed => sound.eraseUpload listed, ?_⟩
      intro name bytes listed
      rcases List.mem_append.mp listed with old | new
      · exact sound.reported name bytes old
      · cases List.mem_singleton.mp new
        rcases upload_at sound found with ⟨valid, fresh⟩
        exact ⟨fresh, skin, valid, rfl⟩
  | found _ => exact ⟨sound.named, sound.builtIn, sound.uploads, sound.reported⟩
  | notFound _ => exact sound
  | removed _ _ _ =>
      exact ⟨sound.named, sound.builtIn, sound.uploads, fun name payload listed =>
        sound.reported name payload (List.mem_filter.mp listed).1⟩
  | kept _ _ _ _ _ => exact ⟨sound.named, sound.builtIn, sound.uploads, sound.reported⟩
  | restarted =>
      exact ⟨named_boot format, fun _ _ found => found, fun _ listed => absurd listed List.not_mem_nil,
        sound.reported⟩

/-! ## The steps that keep the agreement -/

/-- Only registry, files and reports matter. -/
theorem AsUploaded.congr (asUploaded : state.AsUploaded format)
    (registry : next.registry = state.registry) (files : next.files = state.files)
    (reported : next.reported = state.reported) : next.AsUploaded format := by
  refine ⟨?_, ?_, ?_, ?_⟩
  · rw [registry, reported]
    exact asUploaded.served
  · rw [reported]
    exact asUploaded.one
  · rw [files, reported]
    exact asUploaded.onDisk
  · intro filename payload skin read
    unfold Installed Uploaded
    rw [registry, reported]
    exact asUploaded.refused filename payload skin read

/-- Bytes may be put into the file of an uploaded skin if they are there already. -/
theorem asUploaded_put_iff (sound : next.Sound format) (asUploaded : state.AsUploaded format)
    {name : String} {bytes : List UInt8} (registry : next.registry = state.registry)
    (files : next.files = state.files.put name bytes) (reported : next.reported = state.reported) :
    next.AsUploaded format ↔ (state.Uploaded name -> state.files.get? name = some bytes) := by
  constructor
  · rintro after ⟨payload, listed⟩
    have now := after.onDisk name payload (reported ▸ listed)
    rw [files, SortedStore.get?_put_self] at now
    rw [asUploaded.onDisk name payload listed, now]
  · intro same
    refine asUploaded_of sound ?_ ?_ ?_
    · rw [registry, reported]
      exact asUploaded.served
    · rw [reported]
      exact asUploaded.one
    · intro other payload listed
      rw [reported] at listed
      have before := asUploaded.onDisk other payload listed
      rw [files, SortedStore.get?_put]
      by_cases here : other = name
      · subst here
        rw [if_pos rfl, ← before, same ⟨payload, listed⟩]
      · rwa [if_neg here]

/-- A skin may be registered if no other one of the name is, and its own bytes are in the file. -/
theorem asUploaded_register_iff (sound : state.Sound format) (after : next.Sound format)
    (asUploaded : state.AsUploaded format) {skin : Skin Look} {payload : List UInt8}
    (valid : validateSkinJSON format payload = some skin)
    (custom : (boot format).get? skin.name = none)
    (registry : next.registry = state.registry.add skin) (files : next.files = state.files)
    (reported : next.reported = state.reported ++ [(skin.name, payload)]) :
    next.AsUploaded format ↔
      ¬ state.Uploaded skin.name ∧ state.files.get? skin.name = some payload := by
  constructor
  · intro now
    have one := now.one
    rw [reported, List.map_append, List.nodup_append] at one
    refine ⟨?_, ?_⟩
    · rintro ⟨other, listed⟩
      exact one.2.2 _ (List.mem_map_of_mem listed) _ (List.mem_singleton_self _) rfl
    · rw [← files]
      refine now.onDisk skin.name payload ?_
      rw [reported]
      exact List.mem_append_right _ (List.mem_singleton_self _)
  · rintro ⟨unused, stored⟩
    have fresh : state.registry.get? skin.name = none := by
      by_contra taken
      rcases (get?_ne_none_iff sound asUploaded.served _).mp taken with builtIn | uploaded
      · exact builtIn custom
      · exact unused uploaded
    have put : next.registry = state.registry.put skin.name skin := by
      rw [registry, Registry.add, register_of_fresh (name_ne_empty_of_validate valid) fresh]
    refine asUploaded_of after ?_ ?_ ?_
    · intro name other
      rw [put, reported, SortedStore.get?_put]
      by_cases here : name = skin.name
      · rw [here, if_pos rfl, custom]
        constructor
        · rintro ⟨⟩
          exact Or.inr ⟨payload, List.mem_append_right _ (List.mem_singleton_self _), valid⟩
        · rintro (impossible | ⟨bytes, listed, read⟩)
          · cases impossible
          · rcases List.mem_append.mp listed with old | new
            · exact absurd ⟨bytes, old⟩ unused
            · cases List.mem_singleton.mp new
              exact valid.symm.trans read
      · rw [if_neg here, asUploaded.served]
        refine or_congr Iff.rfl (exists_congr fun bytes => and_congr ?_ Iff.rfl)
        rw [List.mem_append, List.mem_singleton, or_iff_left]
        rintro ⟨⟩
        exact here rfl
    · rw [reported, List.map_append, List.nodup_append]
      refine ⟨asUploaded.one, List.nodup_singleton _, ?_⟩
      rintro name listed other new rfl
      rcases List.mem_map.mp listed with ⟨⟨_, bytes⟩, old, rfl⟩
      cases List.mem_singleton.mp new
      exact unused ⟨bytes, old⟩
    · intro name bytes listed
      rw [reported] at listed
      rw [files]
      rcases List.mem_append.mp listed with old | new
      · exact asUploaded.onDisk name bytes old
      · cases List.mem_singleton.mp new
        exact stored

/-- A file may be removed if it is not that of an uploaded skin. -/
theorem asUploaded_remove_iff (sound : state.Sound format) (after : next.Sound format)
    (asUploaded : state.AsUploaded format) {id : String} (registry : next.registry = state.registry)
    (files : next.files = state.files.erase id)
    (reported : next.reported = state.reported.filter fun entry => entry.1 ≠ id) :
    next.AsUploaded format ↔ ¬ state.Uploaded id := by
  constructor
  · rintro now ⟨payload, listed⟩
    rcases sound.reported id payload listed with ⟨custom, skin, valid, _⟩
    have served := (asUploaded.served id skin).mpr (Or.inr ⟨payload, listed, valid⟩)
    rw [← registry] at served
    rcases (now.served id skin).mp served with builtIn | ⟨bytes, kept, _⟩
    · rw [custom] at builtIn
      cases builtIn
    · rw [reported] at kept
      exact absurd rfl (of_decide_eq_true (List.mem_filter.mp kept).2)
  · intro unused
    have same : next.reported = state.reported := by
      rw [reported, List.filter_eq_self]
      rintro ⟨name, payload⟩ listed
      refine decide_eq_true ?_
      rintro rfl
      exact unused ⟨payload, listed⟩
    refine asUploaded_of after ?_ ?_ ?_
    · rw [registry, same]
      exact asUploaded.served
    · rw [same]
      exact asUploaded.one
    · intro name payload listed
      rw [same] at listed
      rw [files, SortedStore.get?_erase, if_neg]
      · exact asUploaded.onDisk name payload listed
      · rintro rfl
        exact unused ⟨payload, listed⟩

/-- The server may be restarted when no skin is uploaded. -/
theorem asUploaded_restart_iff (sound : state.Sound format) (after : next.Sound format)
    (registry : next.registry = boot format) (reported : next.reported = state.reported) :
    next.AsUploaded format ↔ state.reported = [] := by
  constructor
  · intro now
    refine List.eq_nil_iff_forall_not_mem.mpr ?_
    rintro ⟨name, payload⟩ listed
    rcases sound.reported name payload listed with ⟨custom, skin, valid, _⟩
    have served := (now.served name skin).mpr (Or.inr ⟨payload, reported ▸ listed, valid⟩)
    rw [registry, custom] at served
    cases served
  · intro none
    rw [none] at reported
    refine asUploaded_of after ?_ ?_ ?_
    · intro name skin
      rw [registry, reported]
      refine ⟨Or.inl, ?_⟩
      rintro (builtIn | ⟨_, listed, _⟩)
      · exact builtIn
      · exact absurd listed List.not_mem_nil
    · rw [reported]
      exact List.nodup_nil
    · intro name payload listed
      rw [reported] at listed
      exact absurd listed List.not_mem_nil

/-- The steps that keep the agreement are those that leave uploaded skins alone. -/
theorem asUploaded_step_iff (sound : state.Sound format) (asUploaded : state.AsUploaded format)
    {event : CatalogueEvent} (taken : step format state event = some next) :
    next.AsUploaded format ↔ state.Undisturbed event := by
  have after := sound.step taken
  cases moved_of_step taken with
  | refused _ _ => exact iff_of_true asUploaded trivial
  | accepted _ _ _ _ => exact iff_of_true (asUploaded.congr rfl rfl rfl) trivial
  | written index payload skin found =>
      refine (asUploaded_put_iff after asUploaded rfl rfl rfl).trans ?_
      simp [Undisturbed, found]
  | unwritten index left payload skin found =>
      cases left with
      | none =>
          refine iff_of_true (asUploaded.congr rfl rfl rfl) ?_
          intro _ _ _ impossible
          cases impossible
      | some bytes =>
          refine (asUploaded_put_iff after asUploaded rfl rfl rfl).trans ?_
          simp [Undisturbed, found]
  | nameless index payload skin found error =>
      have valid := (upload_at sound found).1
      exact absurd error (register_ne_emptyName (name_ne_empty_of_validate valid))
  | registered index payload skin found =>
      rcases upload_at sound found with ⟨valid, custom⟩
      refine (asUploaded_register_iff sound after asUploaded valid custom rfl rfl rfl).trans ?_
      simp [Undisturbed, found]
  | found _ => exact iff_of_true (asUploaded.congr rfl rfl rfl) trivial
  | notFound _ => exact iff_of_true asUploaded trivial
  | removed index id found =>
      refine (asUploaded_remove_iff sound after asUploaded rfl rfl rfl).trans ?_
      simp [Undisturbed, found]
  | kept index removed id found absent =>
      refine iff_of_true (asUploaded.congr rfl rfl rfl) ?_
      rintro other same here ⟨payload, listed⟩
      cases found.symm.trans (Option.mem_def.mp same)
      rw [asUploaded.onDisk _ _ listed] at absent
      cases absent here
  | restarted => exact asUploaded_restart_iff sound after rfl rfl

end Catalogue

end Skins
end Basement
