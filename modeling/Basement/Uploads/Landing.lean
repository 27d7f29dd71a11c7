import Basement.Uploads.Multipart

namespace Basement
namespace Uploads

open Library
open PercentEncoding (Bytes encode decode percent decode_encode encode_eq_iff encode_eq_self_iff
  decode_of_plain decode_ne_self)

/-!
# Where an upload lands

The property of an upload has two halves.  What the dialog reports as done must be at the requested
key, and every call for a part or for the completion must name what the upload was initiated with.

The first half fails for some small files.  A handler unescapes a segment that the router has
unescaped before, unless the path has a byte that makes the URL keep it as it was sent.  The second
half fails for every large file that gets as far as its first part: the handlers of the parts and of
the completion do not tell the driver the key.
-/

/-! ## Names that survive the path -/

/-- The encoder of the browser and the default of the server differ on this byte. -/
def marked (byte : UInt8) : Bool := uriUnreserved byte != pathSafe byte

theorem pathUnescape_encodeURIComponent (text : Bytes) :
    pathUnescape (encodeURIComponent text) = text := by
  rw [pathUnescape, encodeURIComponent, decode_encode (by decide), Option.getD_some]

/-- The URL keeps the path as it was sent exactly if one of its names has a marked byte. -/
theorem rawPath_encoded (names : List Bytes) :
    rawPath (names.map encodeURIComponent) = names.any fun name => name.any marked := by
  rw [rawPath, List.any_map]
  apply List.any_congr rfl
  intro name
  rw [Bool.eq_iff_iff, List.any_eq_true]
  simp only [Function.comp_apply, encodeURIComponent, @decode_encode uriUnreserved (by decide),
    Option.map_some, decide_eq_true_eq, ne_eq, Option.some.injEq]
  rw [encode_eq_iff (by decide) (by decide)]
  simp only [marked, bne_iff_ne, ne_eq, not_forall, exists_prop]
  exact exists_congr fun byte => and_congr_right fun _ => not_congr eq_comm

theorem Router.param_raw (router : Router) {sent : List Bytes} (raw : rawPath sent = true)
    (segment : Bytes) : router.param sent segment = segment := by
  rw [Router.param, raw, router.ofRawPath]

theorem Router.param_path (router : Router) {sent : List Bytes} (path : rawPath sent = false)
    (segment : Bytes) : router.param sent segment = pathUnescape segment := by
  rw [Router.param, path, router.ofPath]

theorem encodeURIComponent_eq_nil {text : Bytes} (empty : encodeURIComponent text = []) :
    text = [] := by
  have shorter := PercentEncoding.length_le_encode uriUnreserved text
  rw [show encode uriUnreserved text = [] from empty] at shorter
  exact List.length_eq_zero_iff.mp (Nat.le_zero.mp shorter)

/-- A name is empty for a handler only if it is empty. -/
theorem Router.param_eq_nil (router : Router) (sent : List Bytes) (name : Bytes) :
    router.param sent (encodeURIComponent name) = [] ↔ name = [] := by
  constructor
  · intro empty
    cases raw : rawPath sent with
    | true =>
        rw [router.param_raw raw] at empty
        exact encodeURIComponent_eq_nil empty
    | false => rwa [router.param_path raw, pathUnescape_encodeURIComponent] at empty
  · rintro rfl
    cases raw : rawPath sent with
    | true => exact router.param_raw raw _
    | false => exact router.param_path raw _

/-- The signed URL of a small file is not the one of the requested key. -/
def Env.strays (env : Env) (key : Bytes) : Bool :=
  if [env.region, env.bid, key].any fun name => name.any marked then
    env.bid.any fun byte => !uriUnreserved byte
  else key.contains percent && (decode key).isSome

theorem Env.presignPut_eq {env : Env} {key : Bytes} {target : Location}
    (signed : env.presignPut key = .ok target) :
    target = ⟨env.bid, key⟩ ↔ env.strays key = false := by
  have sent : env.base ++ [encodeURIComponent key] = [env.region, env.bid, key].map
    encodeURIComponent := rfl
  have raw := rawPath_encoded [env.region, env.bid, key]
  simp only [Env.presignPut, Env.bucket, sent] at signed
  split at signed
  · cases signed
  · rename_i named
    rcases not_or.mp named with ⟨_, named⟩
    cases Except.ok.inj signed
    rw [Env.strays, ← raw]
    cases kept : rawPath ([env.region, env.bid, key].map encodeURIComponent) with
    | true =>
        rw [if_pos rfl, env.router.param_raw kept, env.router.param_raw kept,
          pathUnescape_encodeURIComponent, Location.mk.injEq, and_iff_left rfl, encodeURIComponent,
          encode_eq_self_iff]
        simp
    | false =>
        rw [env.router.param_path kept, pathUnescape_encodeURIComponent] at named
        rw [if_neg Bool.false_ne_true, env.router.param_path kept, env.router.param_path kept,
          pathUnescape_encodeURIComponent, pathUnescape_encodeURIComponent, Location.mk.injEq,
          and_iff_right rfl]
        cases read : decode key with
        | none =>
            rw [pathUnescape, read] at named
            exact absurd rfl named
        | some decoded =>
            rw [pathUnescape, read, Option.getD_some, Option.isSome_some, Bool.and_true]
            cases listed : key.contains percent with
            | true => simpa using decode_ne_self read (by simpa using listed)
            | false =>
                have plain : percent ∉ key := by simpa using listed
                rw [decode_of_plain plain] at read
                simpa using (Option.some.inj read).symm

/-! ## Right uploads -/

/-- What is reported as done is there, and the parts and the completion go to where the upload was
initiated. -/
structure Upload.Right (upload : Upload) : Prop where
  landed : forall found, upload.phase = .done found -> found = some upload.file
  addressed : forall call, call ∈ upload.calls ->
    upload.initiated = some call.upload.location ∧
      forall number, number ∈ call.numbers -> 1 ≤ number ∧ number ≤ 10000

def System.Right (system : System) : Prop :=
  forall id upload, system.uploads.get? id = some upload -> upload.Right

/-- The next request, with this answer, makes the upload wrong. -/
def Upload.spoils (env : Env) (upload : Upload) (answer : Answer) (storage : Storage) : Bool :=
  match upload.phase with
  | .putting _ =>
      answer.served && answer.delivered && env.strays upload.key &&
        storage.objects ⟨env.bid, upload.key⟩ ≠ some upload.file
  | .presigning _ => answer.admitted
  | _ => false

def System.spoils (env : Env) (system : System) : Event -> Bool
  | .request id answer =>
      (system.uploads.get? id).any fun upload => upload.spoils env answer system.storage
  | _ => false

/-! ## What holds of every upload -/

/-- The phases that come after a call for a part. -/
def Phase.called : Phase -> Bool
  | .sending _ _ | .aborting _ | .completing _ => true
  | _ => false

/-- The phases that come before the first answer of the service. -/
def Phase.early : Phase -> Bool
  | .starting | .putting _ => true
  | _ => false

/-- The locals of the loop, in the phases that are in it. -/
def Phase.cursor : Phase -> Option Cursor
  | .presigning cursor | .sending cursor _ | .aborting cursor | .completing cursor => some cursor
  | _ => none

/-- What is known of an upload. -/
structure Upload.Sound (env : Env) (upload : Upload) : Prop where
  keyless : forall call, call ∈ upload.calls -> call.upload.key = []
  keyed : forall location, upload.initiated = some location -> location.key ≠ []
  target : forall target, upload.phase = .putting target -> env.presignPut upload.key = .ok target
  early : upload.phase.early = true -> upload.calls = []
  called : upload.phase.called = true -> upload.calls ≠ []
  named : forall cursor, upload.phase.cursor = some cursor -> env.bid ≠ [] ∧ cursor.uploadId ≠ []
  first : forall cursor, upload.phase = .presigning cursor -> upload.calls = [] ->
    cursor.partNumber = 1

def System.Sound (env : Env) (system : System) : Prop :=
  forall id upload, system.uploads.get? id = some upload -> upload.Sound env

/-- An upload that has called the driver is not right. -/
theorem Upload.Sound.calls_of_right {env : Env} {upload : Upload} (sound : upload.Sound env)
    (right : upload.Right) : upload.calls = [] := by
  cases calls : upload.calls with
  | nil => rfl
  | cons call rest =>
      have listed : call ∈ upload.calls := by rw [calls]; exact List.mem_cons_self
      have keyed := sound.keyed _ (right.addressed call listed).1
      exact absurd (sound.keyless call listed) keyed

/-- An upload fails. -/
theorem Upload.Sound.fail {env : Env} {upload : Upload} (sound : upload.Sound env)
    (error : String) : (upload.fail error).Sound env := by
  refine { sound with target := ?_, early := ?_, called := ?_, named := ?_, first := ?_ }
  all_goals
    intros
    contradiction

theorem Upload.Sound.call {env : Env} {upload : Upload} (sound : upload.Sound env)
    (late : upload.phase.early = false) {target : MultipartUpload} (keyless : target.key = [])
    (numbers : List Nat) : (upload.call target numbers).Sound env := by
  have nonempty : upload.calls ++ [⟨target, numbers⟩] ≠ [] := by simp
  refine { sound with keyless := ?_, early := ?_, called := fun _ => nonempty, first := ?_ }
  · intro call member
    rcases List.mem_append.mp member with old | new
    · exact sound.keyless call old
    · rw [List.mem_singleton.mp new]
      exact keyless
  · intro early
    rw [show upload.phase.early = true from early] at late
    cases late
  · intro cursor _ impossible
    exact absurd impossible nonempty

/-- An upload that has called the driver goes on in the loop, or ends. -/
theorem Upload.Sound.enter {env : Env} {upload : Upload} (sound : upload.Sound env)
    (calls : upload.calls ≠ []) {phase : Phase} (late : phase.early = false)
    (named : forall cursor, phase.cursor = some cursor -> env.bid ≠ [] ∧ cursor.uploadId ≠ []) :
    (upload.enter phase).Sound env := by
  refine { sound with target := ?_, early := ?_, called := fun _ => calls, named, first := ?_ }
  · intro target impossible
    rw [show phase = .putting target from impossible] at late
    cases late
  · intro impossible
    rw [show phase.early = true from impossible] at late
    cases late
  · intro cursor _ impossible
    exact absurd impossible calls

theorem Upload.loop_late (upload : Upload) (cursor : Cursor) :
    (upload.loop cursor).early = false ∧ (upload.loop cursor).cursor = some cursor := by
  unfold Upload.loop
  split <;> exact ⟨rfl, rfl⟩

/-- After the put of a part the upload is in the loop with the same multipart upload, or it
has failed. -/
theorem Upload.received_late (upload : Upload) (cursor : Cursor) (answer : Answer) (stored : Bool) :
    (upload.received cursor answer stored).early = false ∧
      forall later, (upload.received cursor answer stored).cursor = some later ->
        later.uploadId = cursor.uploadId := by
  unfold Upload.received
  split
  · exact ⟨rfl, fun later impossible => by cases impossible⟩
  · split
    · unfold Cursor.retry
      split <;> exact ⟨rfl, fun later same => by cases Option.some.inj same; rfl⟩
    · split
      · exact ⟨rfl, fun later impossible => by cases impossible⟩
      · split
        · exact ⟨rfl, fun later impossible => by cases impossible⟩
        · have late := upload.loop_late {
            uploadId := cursor.uploadId
            offset := cursor.offset + min chunkSize (upload.file.length - cursor.offset)
            partNumber := cursor.partNumber + 1
            retries := 0
            uploaded := cursor.uploaded ++ [(cursor.partNumber, unquote answer.etag)] }
          refine ⟨late.1, ?_⟩
          intro later same
          cases Option.some.inj (late.2.symm.trans same)
          rfl

theorem Env.presignUploadPart_key {env : Env} {uploadId : Bytes} {number : Nat}
    {target : MultipartUpload} (signed : env.presignUploadPart uploadId number = .ok target) :
    target.key = [] ∧ 1 ≤ number ∧ number ≤ 10000 := by
  unfold Env.presignUploadPart at signed
  simp only at signed
  split at signed
  · cases signed
  · split at signed
    · cases signed
    · rename_i bounds
      cases Except.ok.inj signed
      exact ⟨rfl, by omega, by omega⟩

theorem Env.completeMultipart_key {env : Env} {uploadId : Bytes} {parts : List (Nat × Bytes)}
    {target : MultipartUpload} (accepted : env.completeMultipart uploadId parts = .ok target) :
    target.key = [] := by
  unfold Env.completeMultipart at accepted
  simp only at accepted
  split at accepted
  · cases accepted
  · split at accepted
    · cases accepted
    · cases Except.ok.inj accepted
      rfl

/-- The first part of an upload with names is signed. -/
theorem Env.presignUploadPart_first {env : Env} (bid : env.bid ≠ []) {uploadId : Bytes}
    (named : uploadId ≠ []) :
    Exists fun target => env.presignUploadPart uploadId 1 = .ok target := by
  unfold Env.presignUploadPart
  simp only
  rw [if_neg, if_neg (by omega)]
  · exact ⟨_, rfl⟩
  · rintro (empty | empty)
    · exact bid ((env.router.param_eq_nil _ _).mp empty)
    · exact named ((env.router.param_eq_nil _ _).mp empty)

theorem Env.initMultipart_names {env : Env} {key : Bytes} {location : Location}
    (accepted : env.initMultipart key = .ok location) :
    env.bid ≠ [] ∧ key ≠ [] ∧ location.key = key := by
  unfold Env.initMultipart at accepted
  split at accepted
  · cases accepted
  · rename_i bucket
    split at accepted
    · cases accepted
    · rename_i named
      cases Except.ok.inj accepted
      exact ⟨fun empty => bucket ((env.router.param_eq_nil _ _).mpr empty), named, rfl⟩

theorem Storage.createMultipart_named {storage after : Storage} {location : Location}
    {uploadId : Bytes} (created : storage.createMultipart location uploadId = some after) :
    uploadId ≠ [] := by
  unfold Storage.createMultipart at created
  split at created
  · cases created
  · rename_i allowed
    exact fun empty => allowed (.inl empty)

/-! ## Requests -/

/-- What the next request comes to, by the phase of the upload. -/
inductive Upload.Requested (env : Env) (upload : Upload) (answer : Answer) (storage : Storage) :
    Upload -> Storage -> Prop
  | begin (phase : upload.phase = .starting) :
      Requested env upload answer storage (upload.begin env answer storage).1
        (upload.begin env answer storage).2
  | put (target : Location) (phase : upload.phase = .putting target) :
      Requested env upload answer storage (upload.put env target answer storage).1
        (upload.put env target answer storage).2
  | presign (cursor : Cursor) (phase : upload.phase = .presigning cursor) :
      Requested env upload answer storage (upload.presign env cursor answer) storage
  | send (cursor : Cursor) (target : MultipartUpload)
      (phase : upload.phase = .sending cursor target) :
      Requested env upload answer storage (upload.send cursor target answer storage).1
        (upload.send cursor target answer storage).2
  | abort (cursor : Cursor) (phase : upload.phase = .aborting cursor) :
      Requested env upload answer storage (upload.abort env cursor answer storage).1
        (upload.abort env cursor answer storage).2
  | complete (cursor : Cursor) (phase : upload.phase = .completing cursor) :
      Requested env upload answer storage (upload.complete env cursor answer storage).1
        (upload.complete env cursor answer storage).2

theorem Upload.requested {env : Env} {upload next : Upload} {answer : Answer}
    {storage after : Storage} (taken : upload.request env answer storage = some (next, after)) :
    upload.Requested env answer storage next after := by
  suffices all : forall pair, upload.request env answer storage = some pair ->
      upload.Requested env answer storage pair.1 pair.2 from all _ taken
  intro pair taken
  unfold Upload.request at taken
  split at taken
  case h_1 phase =>
    cases taken
    exact .begin phase
  case h_2 target phase =>
    cases taken
    exact .put target phase
  case h_3 cursor phase =>
    cases taken
    exact .presign cursor phase
  case h_4 cursor target phase =>
    cases taken
    exact .send cursor target phase
  case h_5 cursor phase =>
    cases taken
    exact .abort cursor phase
  case h_6 cursor phase =>
    cases taken
    exact .complete cursor phase
  all_goals cases taken

/-- The ways the first request ends. -/
theorem Upload.begin_cases (env : Env) (upload : Upload) (answer : Answer) (storage : Storage) :
    (Exists fun error => (upload.begin env answer storage).1 = upload.fail error) ∨
    (Exists fun target => upload.file.length ≤ chunkSize ∧ env.presignPut upload.key = .ok target ∧
      (upload.begin env answer storage).1 = upload.enter (.putting target)) ∨
    (Exists fun location => env.initMultipart upload.key = .ok location ∧ answer.uploadId ≠ [] ∧
      (upload.begin env answer storage).1 =
        { upload with
          phase := .presigning { uploadId := answer.uploadId }, initiated := some location }) := by
  unfold Upload.begin
  split
  · rename_i small
    split
    · exact .inl ⟨_, rfl⟩
    · rename_i target signed
      split
      · exact .inr (.inl ⟨target, small, signed, rfl⟩)
      · exact .inl ⟨_, rfl⟩
  · rename_i large
    split
    · exact .inl ⟨_, rfl⟩
    · rename_i location accepted
      split
      · split
        · exact .inl ⟨_, rfl⟩
        · rename_i after created
          split
          · refine .inr (.inr ⟨location, accepted, Storage.createMultipart_named created, ?_⟩)
            have nonempty : 0 < upload.file.length := by omega
            rw [Upload.loop, if_pos nonempty]
          · exact .inl ⟨_, rfl⟩
      · exact .inl ⟨_, rfl⟩

theorem Upload.Sound.begin {env : Env} {upload : Upload} (sound : upload.Sound env)
    (phase : upload.phase = .starting) (answer : Answer) (storage : Storage) :
    (upload.begin env answer storage).1.Sound env := by
  have calls := sound.early (by rw [phase]; rfl)
  rcases upload.begin_cases env answer storage with
    ⟨error, next⟩ | ⟨target, _, signed, next⟩ | ⟨location, accepted, named, next⟩
  · rw [next]
    exact sound.fail error
  · rw [next]
    refine
      { sound with target := ?_, early := fun _ => calls, called := ?_, named := ?_, first := ?_ }
    · intro other same
      cases same
      exact signed
    all_goals
      intros
      contradiction
  · rw [next]
    have names := Env.initMultipart_names accepted
    refine ⟨sound.keyless, ?_, ?_, ?_, ?_, ?_, ?_⟩
    · intro other same
      cases Option.some.inj same
      rw [names.2.2]
      exact names.2.1
    · intro target impossible
      cases impossible
    · intro impossible
      cases impossible
    · intro impossible
      cases impossible
    · intro cursor same
      cases Option.some.inj same
      exact ⟨names.1, named⟩
    · intro cursor same _
      cases same
      rfl

theorem Upload.send_phase (upload : Upload) (cursor : Cursor) (target : MultipartUpload)
    (answer : Answer) (storage : Storage) :
    Exists fun stored => (upload.send cursor target answer storage).1 =
      upload.enter (upload.received cursor answer stored) := by
  unfold Upload.send
  split
  · split
    · exact ⟨false, rfl⟩
    · exact ⟨true, rfl⟩
  · exact ⟨false, rfl⟩

theorem Upload.abort_phase (env : Env) (upload : Upload) (cursor : Cursor) (answer : Answer)
    (storage : Storage) :
    (upload.abort env cursor answer storage).1 = upload.fail "Part failed after retries" := by
  unfold Upload.abort
  split <;> rfl

theorem Upload.completed_phase (env : Env) (upload : Upload) (cursor : Cursor)
    (target : MultipartUpload) (answer : Answer) (storage : Storage) :
    (upload.completed env cursor target answer storage).1 = upload.fail "Complete failed" ∨
      Exists fun found =>
        (upload.completed env cursor target answer storage).1 = upload.enter (.done found) := by
  unfold Upload.completed
  split
  · split
    · exact .inl rfl
    · split
      · exact .inr ⟨_, rfl⟩
      · exact .inl rfl
  · exact .inl rfl

/-- An upload whose service has answered is done. -/
theorem Upload.Sound.done {env : Env} {upload : Upload} (sound : upload.Sound env)
    (found : Option Bytes) : (upload.enter (.done found)).Sound env := by
  refine { sound with target := ?_, early := ?_, called := ?_, named := ?_, first := ?_ }
  all_goals
    intros
    contradiction

theorem Upload.Sound.presign {env : Env} {upload : Upload} {cursor : Cursor}
    (sound : upload.Sound env) (phase : upload.phase = .presigning cursor) (answer : Answer) :
    (upload.presign env cursor answer).Sound env := by
  unfold Upload.presign
  split
  · exact sound.fail _
  · rename_i target signed
    have called := sound.call (by rw [phase]; rfl) (Env.presignUploadPart_key signed).1
      [cursor.partNumber]
    split
    · split
      · refine called.enter (by simp [Upload.call]) rfl ?_
        intro later same
        cases Option.some.inj same
        exact sound.named cursor (by rw [phase]; rfl)
      · exact called.fail _
    · exact sound.fail _

theorem Upload.Sound.send {env : Env} {upload : Upload} {cursor : Cursor} {target : MultipartUpload}
    (sound : upload.Sound env) (phase : upload.phase = .sending cursor target) (answer : Answer)
    (storage : Storage) : (upload.send cursor target answer storage).1.Sound env := by
  rcases upload.send_phase cursor target answer storage with ⟨stored, next⟩
  have late := upload.received_late cursor answer stored
  have names := sound.named cursor (by rw [phase]; rfl)
  rw [next]
  refine sound.enter (sound.called (by rw [phase]; rfl)) late.1 ?_
  intro later same
  rw [late.2 later same]
  exact names

theorem Upload.Sound.complete {env : Env} {upload : Upload} {cursor : Cursor}
    (sound : upload.Sound env) (phase : upload.phase = .completing cursor) (answer : Answer)
    (storage : Storage) : (upload.complete env cursor answer storage).1.Sound env := by
  unfold Upload.complete
  split
  · exact sound.fail _
  · rename_i target accepted
    have called := sound.call (by rw [phase]; rfl) (Env.completeMultipart_key accepted)
      (cursor.uploaded.map Prod.fst)
    split
    · rcases Upload.completed_phase env (upload.call target (cursor.uploaded.map Prod.fst))
        cursor target answer storage with next | ⟨found, next⟩
      · rw [next]
        exact called.fail _
      · rw [next]
        exact called.done found
    · exact sound.fail _

theorem Upload.put_cases (env : Env) (upload : Upload) (target : Location) (answer : Answer)
    (storage : Storage) :
    ((answer.served && answer.delivered) = false ∧
        (upload.put env target answer storage).1 = upload.fail "Upload failed") ∨
      ((answer.served && answer.delivered) = true ∧
        (upload.put env target answer storage).1 =
          upload.enter (.done ((storage.putObject target upload.file).objects
            ⟨env.bid, upload.key⟩))) := by
  unfold Upload.put
  cases answer.served with
  | false => exact .inl ⟨rfl, rfl⟩
  | true =>
      cases answer.delivered with
      | false => exact .inl ⟨rfl, rfl⟩
      | true => exact .inr ⟨rfl, rfl⟩

/-- A request keeps what is known of its upload. -/
theorem Upload.Sound.request {env : Env} {upload next : Upload} {answer : Answer}
    {storage after : Storage} (sound : upload.Sound env)
    (taken : upload.request env answer storage = some (next, after)) : next.Sound env := by
  cases upload.requested taken with
  | begin phase => exact sound.begin phase answer storage
  | put target phase =>
      rcases upload.put_cases env target answer storage with ⟨_, failed⟩ | ⟨_, put⟩
      · rw [failed]
        exact sound.fail _
      · rw [put]
        exact sound.done _
  | presign cursor phase => exact sound.presign phase answer
  | send cursor target phase => exact sound.send phase answer storage
  | abort cursor phase =>
      rw [Upload.abort_phase]
      exact sound.fail _
  | complete cursor phase => exact sound.complete phase answer storage

/-! ## The exact condition -/

theorem Upload.Right.of_calls {upload : Upload} (calls : upload.calls = [])
    (undone : forall found, upload.phase ≠ .done found) : upload.Right := by
  refine ⟨fun found done => absurd done (undone found), ?_⟩
  intro call listed
  rw [calls] at listed
  cases listed

theorem Upload.right_done {upload : Upload} (calls : upload.calls = []) (found : Option Bytes) :
    (upload.enter (.done found)).Right ↔ found = some upload.file := by
  constructor
  · exact fun right => right.landed found rfl
  · intro here
    refine ⟨?_, ?_⟩
    · intro other done
      cases done
      exact here
    · intro call listed
      rw [show (upload.enter (.done found)).calls = [] from calls] at listed
      cases listed

theorem Storage.putObject_objects (storage : Storage) (target : Location) (body : Bytes)
    (location : Location) : (storage.putObject target body).objects location =
      if location = target then some body else storage.objects location :=
  Function.update_apply ..

/-- A request keeps an upload right exactly if it does not spoil it. -/
theorem Upload.right_request {env : Env} {upload next : Upload} {answer : Answer}
    {storage after : Storage} (sound : upload.Sound env) (right : upload.Right)
    (taken : upload.request env answer storage = some (next, after)) :
    next.Right ↔ upload.spoils env answer storage = false := by
  have calls := sound.calls_of_right right
  have known := sound.request taken
  cases upload.requested taken with
  | begin phase =>
      simp only [Upload.spoils, phase, iff_true]
      rcases upload.begin_cases env answer storage with
        ⟨error, begun⟩ | ⟨target, _, _, begun⟩ | ⟨location, _, _, begun⟩
      all_goals
        rw [begun]
        exact .of_calls calls (by simp [Upload.fail, Upload.enter])
  | put target phase =>
      have strayed := Env.presignPut_eq (sound.target target phase)
      simp only [Upload.spoils, phase]
      rcases upload.put_cases env target answer storage with
        ⟨unanswered, failed⟩ | ⟨answered, put⟩
      · rw [failed]
        refine ⟨fun _ => ?_, fun _ => .of_calls calls (by simp [Upload.fail, Upload.enter])⟩
        rw [unanswered, Bool.false_and, Bool.false_and]
      · rw [put, answered, Bool.true_and]
        rw [Upload.right_done calls, Storage.putObject_objects]
        by_cases here : target = ⟨env.bid, upload.key⟩
        · rw [strayed.mp here, Bool.false_and, if_pos here.symm]
          simp
        · have strays : env.strays upload.key = true := by
            cases strays : env.strays upload.key with
            | true => rfl
            | false => exact absurd (strayed.mpr strays) here
          rw [strays, Bool.true_and, if_neg (Ne.symm here)]
          simp
  | presign cursor phase =>
      have names := sound.named cursor (by rw [phase]; rfl)
      rcases Env.presignUploadPart_first names.1 names.2 with ⟨target, signed⟩
      have number := sound.first cursor phase calls
      simp only [Upload.spoils, phase]
      rw [Upload.presign, number, signed] at known ⊢
      cases admitted : answer.admitted with
      | false =>
          simp only [Bool.false_eq_true, if_false, iff_true]
          exact .of_calls calls (by simp [Upload.fail, Upload.enter])
      | true =>
          simp only [admitted, if_true, Bool.true_eq_false, iff_false] at known ⊢
          intro right
          have none_ := known.calls_of_right right
          split at none_ <;> simp [Upload.enter, Upload.fail, Upload.call] at none_
  | send cursor target phase => exact absurd calls (sound.called (by rw [phase]; rfl))
  | abort cursor phase => exact absurd calls (sound.called (by rw [phase]; rfl))
  | complete cursor phase => exact absurd calls (sound.called (by rw [phase]; rfl))

theorem System.Sound.step {env : Env} {system next : System} {event : Event}
    (sound : system.Sound env) (taken : step env system event = some next) : next.Sound env := by
  cases moved_of_step taken with
  | started id key file _ =>
      refine SortedStore.Every.put sound ⟨?_, ?_, ?_, fun _ => rfl, ?_, ?_, ?_⟩
      all_goals
        intros
        contradiction
  | requested id answer upload after storage present requested =>
      exact SortedStore.Every.put sound ((sound id upload present).request requested)
  | written location body => exact sound

theorem System.right_step {env : Env} {system next : System} {event : Event}
    (sound : system.Sound env) (right : system.Right) (taken : step env system event = some next) :
    next.Right ↔ system.spoils env event = false := by
  cases moved_of_step taken with
  | started id key file _ =>
      simp only [System.spoils, iff_true]
      exact SortedStore.Every.put right (.of_calls rfl (by simp))
  | requested id answer upload after storage present requested =>
      have exact_ := Upload.right_request (sound id upload present) (right id upload present)
        requested
      simp only [System.spoils, present, Option.any_some]
      rw [← exact_]
      exact SortedStore.every_put_iff right id after
  | written location body =>
      simp only [System.spoils, iff_true]
      exact right

/-- In every run, whatever the files, the keys, the answers and the order of the requests: all
uploads are right all the time exactly if no request spoils its upload. -/
theorem uploads_right_iff (env : Env) (storage : Storage) {events : List Event} {final : System}
    (run : Transition.exec (step env) (start storage) events = some final) :
    Transition.Throughout (step env) System.Right (start storage) events ↔
      Transition.Meets (step env) (fun system event => system.spoils env event = false)
        (start storage) events := by
  have none_ : forall id upload, (start storage).uploads.get? id = some upload -> False := by
    intro id upload found
    cases found
  exact @Transition.throughout_iff_meets _ _ (step env) _ (System.Sound env) System.Right
    (fun _ _ _ sound taken => sound.step taken)
    (fun _ _ _ sound right taken => System.right_step sound right taken) _ _ _
    (fun id upload found => (none_ id upload found).elim)
    (fun id upload found => (none_ id upload found).elim) run

/-! ## Large files -/

/-- No multipart upload in flight is for the empty key. -/
def Storage.Keyed (storage : Storage) : Prop :=
  forall uploadId upload, storage.uploads uploadId = some upload -> upload.location.key ≠ []

/-- What is known of the upload of a large file: no part of it is ever stored. -/
structure Upload.Stuck (upload : Upload) : Prop where
  unput : forall target, upload.phase ≠ .putting target
  undone : forall found, upload.phase ≠ .done found
  incomplete : forall cursor, upload.phase ≠ .completing cursor
  keyless : forall cursor target, upload.phase = .sending cursor target -> target.key = []

/-- The phases that say nothing of the service. -/
def Phase.resting : Phase -> Bool
  | .starting | .presigning _ | .aborting _ | .failed _ => true
  | _ => false

theorem Upload.Stuck.of_resting {upload : Upload} (resting : upload.phase.resting = true) :
    upload.Stuck := by
  refine ⟨?_, ?_, ?_, ?_⟩
  · intro target phase
    rw [phase] at resting
    cases resting
  · intro found phase
    rw [phase] at resting
    cases resting
  · intro cursor phase
    rw [phase] at resting
    cases resting
  · intro cursor target phase
    rw [phase] at resting
    cases resting

theorem Upload.Stuck.fail (upload : Upload) (error : String) : (upload.fail error).Stuck :=
  .of_resting rfl

/-- One upload of the service changes. -/
theorem Storage.Keyed.update {storage after : Storage} (keyed : storage.Keyed) {uploadId : Bytes}
    {value : Option Multipart}
    (changed : after.uploads = Function.update storage.uploads uploadId value)
    (named : forall upload, value = some upload -> upload.location.key ≠ []) : after.Keyed := by
  intro other upload found
  rw [changed, Function.update_apply] at found
  split at found
  · exact named upload found
  · exact keyed other upload found

theorem Storage.Keyed.create {storage after : Storage} (keyed : storage.Keyed) {location : Location}
    (named : location.key ≠ []) {uploadId : Bytes}
    (created : storage.createMultipart location uploadId = some after) : after.Keyed := by
  unfold Storage.createMultipart at created
  split at created
  · cases created
  · cases Option.some.inj created
    refine keyed.update rfl ?_
    intro upload same
    cases Option.some.inj same
    exact named

/-- A part for the empty key is rejected. -/
theorem Storage.Keyed.rejects {storage : Storage} (keyed : storage.Keyed) {target : MultipartUpload}
    (keyless : target.key = []) (number : Nat) (etag body : Bytes) :
    storage.uploadPart target.location target.uploadID number etag body = none := by
  unfold Storage.uploadPart
  split
  · rfl
  · rename_i upload found
    refine if_neg ?_
    intro same
    exact keyed _ _ found (by rw [same]; exact keyless)

theorem Storage.Keyed.send {storage after : Storage} (keyed : storage.Keyed) {location : Location}
    {uploadId : Bytes} {number : Nat} {etag body : Bytes}
    (stored : storage.uploadPart location uploadId number etag body = some after) :
    after.Keyed := by
  unfold Storage.uploadPart at stored
  split at stored
  · cases stored
  · rename_i upload found
    split at stored
    · cases Option.some.inj stored
      refine keyed.update rfl ?_
      intro later same
      cases Option.some.inj same
      exact keyed uploadId upload found
    · cases stored

theorem Storage.Keyed.abort {storage : Storage} (keyed : storage.Keyed) (location : Location)
    (uploadId : Bytes) : (storage.abortMultipart location uploadId).Keyed := by
  unfold Storage.abortMultipart
  split
  · exact keyed
  · split
    · exact keyed.update rfl fun upload impossible => by cases impossible
    · exact keyed

theorem Storage.Keyed.complete {storage after : Storage} (keyed : storage.Keyed)
    {location : Location} {uploadId : Bytes} {parts : List (Nat × Bytes)}
    (completed : storage.completeMultipart location uploadId parts = some after) : after.Keyed := by
  unfold Storage.completeMultipart at completed
  split at completed
  · cases completed
  · split at completed
    · rcases Option.map_eq_some_iff.mp completed with ⟨bodies, _, rfl⟩
      exact keyed.update rfl fun upload impossible => by cases impossible
    · cases completed

theorem Storage.Keyed.begin {storage : Storage} (keyed : storage.Keyed) (env : Env)
    (upload : Upload) (answer : Answer) : (upload.begin env answer storage).2.Keyed := by
  unfold Upload.begin
  split
  · split
    · exact keyed
    · split <;> exact keyed
  · split
    · exact keyed
    · rename_i location accepted
      have names := Env.initMultipart_names accepted
      split
      · split
        · exact keyed
        · rename_i created
          have kept := keyed.create (by rw [names.2.2]; exact names.2.1) created
          split <;> exact kept
      · exact keyed

theorem Storage.Keyed.finish {storage : Storage} (keyed : storage.Keyed) (env : Env)
    (upload : Upload) (cursor : Cursor) (answer : Answer) :
    (upload.complete env cursor answer storage).2.Keyed := by
  unfold Upload.complete
  split
  · exact keyed
  · split
    · unfold Upload.completed
      split
      · split
        · exact keyed
        · rename_i completed
          split <;> exact keyed.complete completed
      · exact keyed
    · exact keyed

theorem Upload.request_keyed {env : Env} {upload next : Upload} {answer : Answer}
    {storage after : Storage} (keyed : storage.Keyed)
    (taken : upload.request env answer storage = some (next, after)) : after.Keyed := by
  cases upload.requested taken with
  | begin phase => exact keyed.begin env upload answer
  | put target phase =>
      unfold Upload.put
      split
      · split <;> exact keyed
      · exact keyed
  | presign cursor phase => exact keyed
  | send cursor target phase =>
      unfold Upload.send
      split
      · split
        · exact keyed
        · rename_i stored
          exact keyed.send stored
      · exact keyed
  | abort cursor phase =>
      unfold Upload.abort
      split
      · exact keyed
      · simp only
        split
        · exact Storage.Keyed.abort keyed _ _
        · exact keyed
  | complete cursor phase => exact keyed.finish env upload cursor answer

theorem Upload.received_unstored (upload : Upload) (cursor : Cursor) (answer : Answer) :
    (Exists fun error => upload.received cursor answer false = .failed error) ∨
      upload.received cursor answer false = cursor.retry := by
  unfold Upload.received
  split
  · exact .inl ⟨_, rfl⟩
  · split
    · exact .inr rfl
    · rw [Bool.and_false, if_pos rfl]
      exact .inl ⟨_, rfl⟩

theorem Upload.Stuck.retry (upload : Upload) (cursor : Cursor) :
    (upload.enter cursor.retry).Stuck := by
  unfold Cursor.retry
  split <;> exact .of_resting rfl

theorem Upload.Stuck.begin {upload : Upload} (large : chunkSize < upload.file.length) (env : Env)
    (answer : Answer) (storage : Storage) : (upload.begin env answer storage).1.Stuck := by
  rcases upload.begin_cases env answer storage with
    ⟨error, next⟩ | ⟨target, small, _, _⟩ | ⟨location, _, _, next⟩
  · rw [next]
    exact .fail upload error
  · omega
  · rw [next]
    exact .of_resting rfl

theorem Upload.Stuck.presign (env : Env) (upload : Upload) (cursor : Cursor) (answer : Answer) :
    (upload.presign env cursor answer).Stuck := by
  unfold Upload.presign
  split
  · exact .fail upload _
  · rename_i target signed
    split
    · split
      · refine ⟨?_, ?_, ?_, ?_⟩
        · intro target impossible
          cases impossible
        · intro found impossible
          cases impossible
        · intro cursor impossible
          cases impossible
        · intro later other same
          cases same
          exact (Env.presignUploadPart_key signed).1
      · exact .fail _ _
    · exact .fail upload _

/-- No request brings the upload of a large file any further. -/
theorem Upload.Stuck.request {env : Env} {upload next : Upload} {answer : Answer}
    {storage after : Storage} (stuck : upload.Stuck) (large : chunkSize < upload.file.length)
    (keyed : storage.Keyed) (taken : upload.request env answer storage = some (next, after)) :
    next.Stuck := by
  cases upload.requested taken with
  | begin phase => exact .begin large env answer storage
  | put target phase => exact absurd phase (stuck.unput target)
  | presign cursor phase => exact .presign env upload cursor answer
  | send cursor target phase =>
      have rejected := keyed.rejects (stuck.keyless cursor target phase) cursor.partNumber
        answer.etag (upload.chunk cursor)
      have sent : (upload.send cursor target answer storage).1 =
          upload.enter (upload.received cursor answer false) := by
        unfold Upload.send
        rw [rejected]
        split <;> rfl
      rw [sent]
      rcases upload.received_unstored cursor answer with ⟨error, failed⟩ | retried
      · rw [failed]
        exact .fail upload error
      · rw [retried]
        exact .retry upload cursor
  | abort cursor phase =>
      rw [Upload.abort_phase]
      exact .fail upload _
  | complete cursor phase => exact absurd phase (stuck.incomplete cursor)

theorem Upload.request_file {env : Env} {upload next : Upload} {answer : Answer}
    {storage after : Storage} (taken : upload.request env answer storage = some (next, after)) :
    next.file = upload.file := by
  cases upload.requested taken with
  | begin phase =>
      rcases upload.begin_cases env answer storage with
        ⟨error, begun⟩ | ⟨target, _, _, begun⟩ | ⟨location, _, _, begun⟩ <;> rw [begun] <;> rfl
  | put target phase =>
      rcases upload.put_cases env target answer storage with ⟨_, put⟩ | ⟨_, put⟩ <;>
        rw [put] <;> rfl
  | presign cursor phase =>
      unfold Upload.presign
      split
      · rfl
      · split
        · split <;> rfl
        · rfl
  | send cursor target phase =>
      rcases upload.send_phase cursor target answer storage with ⟨stored, sent⟩
      rw [sent]
      rfl
  | abort cursor phase =>
      rw [Upload.abort_phase]
      rfl
  | complete cursor phase =>
      unfold Upload.complete
      split
      · rfl
      · rename_i target _
        split
        · rcases Upload.completed_phase env (upload.call target (cursor.uploaded.map Prod.fst))
            cursor target answer storage with ended | ⟨found, ended⟩ <;> rw [ended] <;> rfl
        · rfl

structure System.Stuck (system : System) : Prop where
  keyed : system.storage.Keyed
  stuck : forall id upload, system.uploads.get? id = some upload ->
    chunkSize < upload.file.length -> upload.Stuck

theorem System.Stuck.step {env : Env} {system next : System} {event : Event} (stuck : system.Stuck)
    (taken : step env system event = some next) : next.Stuck := by
  cases moved_of_step taken with
  | started id key file _ =>
      exact ⟨stuck.keyed, SortedStore.Every.put stuck.stuck fun _ => .of_resting rfl⟩
  | requested id answer upload after storage present requested =>
      refine ⟨Upload.request_keyed stuck.keyed requested, SortedStore.Every.put stuck.stuck ?_⟩
      intro large
      rw [Upload.request_file requested] at large
      exact (stuck.stuck id upload present large).request large stuck.keyed requested
  | written location body => exact ⟨stuck.keyed, stuck.stuck⟩

/-- The upload of a large file is never reported as done. -/
theorem large_upload_never_done (env : Env) {storage : Storage} (keyed : storage.Keyed)
    {events : List Event} {final : System}
    (run : Transition.exec (step env) (start storage) events = some final) {id : Nat}
    {upload : Upload} (found : final.uploads.get? id = some upload)
    (large : chunkSize < upload.file.length) (content : Option Bytes) :
    upload.phase ≠ .done content := by
  have stuck : final.Stuck :=
    Transition.exec_invariant (fun _ _ _ before taken => before.step taken)
      ⟨keyed, fun id upload found => by cases found⟩ run
  exact (stuck.stuck id upload found large).undone content

theorem step_request {env : Env} {system : System} {id : Nat} {answer : Answer}
    {upload next : Upload} {after : Storage} (present : system.uploads.get? id = some upload)
    (requested : upload.request env answer system.storage = some (next, after)) :
    step env system (.request id answer) = some ⟨after, system.uploads.put id next⟩ := by
  simp only [Uploads.step, present, requested, Option.map_some]

/-- The first request of a large file, with an answer that lets it through. -/
theorem step_begin_large {env : Env} {system : System} {id : Nat} {upload : Upload}
    (present : system.uploads.get? id = some upload) (phase : upload.phase = .starting)
    (large : chunkSize < upload.file.length) {location : Location}
    (accepted : env.initMultipart upload.key = .ok location) {after : Storage} {uploadId : Bytes}
    (created : system.storage.createMultipart location uploadId = some after) :
    step env system (.request id { uploadId }) =
      some ⟨after, system.uploads.put id
        { upload with phase := .presigning { uploadId }, initiated := some location }⟩ := by
  have nonempty : 0 < upload.file.length := by omega
  refine step_request present ?_
  simp only [Upload.request, phase, Upload.begin, if_neg (Nat.not_le.mpr large), accepted, created,
    Bool.and_self, if_true, Upload.loop, if_pos nonempty]

/-- The request for a part, with an answer that lets it through. -/
theorem step_presign {env : Env} {system : System} {id : Nat} {upload : Upload}
    (present : system.uploads.get? id = some upload) {cursor : Cursor}
    (phase : upload.phase = .presigning cursor) {target : MultipartUpload}
    (signed : env.presignUploadPart cursor.uploadId cursor.partNumber = .ok target) :
    step env system (.request id {}) =
      some ⟨system.storage, system.uploads.put id
        ((upload.call target [cursor.partNumber]).enter (.sending cursor target))⟩ := by
  refine step_request present ?_
  simp only [Upload.request, phase, Upload.presign, signed, Bool.and_self, if_true]

/-- The first part of every large file is asked for without the key. -/
theorem large_upload_keyless {env : Env} (bid : env.bid ≠ []) {storage : Storage}
    {key file uploadId : Bytes} (named : key ≠ []) (large : chunkSize < file.length)
    (issued : uploadId ≠ []) (fresh : storage.uploads uploadId = none) :
    Exists fun final =>
      Transition.exec (step env) (start storage)
        [.start 0 key file, .request 0 { uploadId }, .request 0 {}] = some final ∧
      Exists fun upload => final.uploads.get? 0 = some upload ∧
        Exists fun call => upload.calls = [call] ∧ call.upload.key = [] ∧
          upload.initiated = some ⟨env.bucket env.base, key⟩ := by
  have accepted : env.initMultipart key = .ok ⟨env.bucket env.base, key⟩ := by
    rw [Env.initMultipart, if_neg, if_neg named]
    exact fun empty => bid ((env.router.param_eq_nil _ _).mp empty)
  have created : Exists fun after =>
      storage.createMultipart ⟨env.bucket env.base, key⟩ uploadId = some after := by
    rw [Storage.createMultipart, if_neg]
    · exact ⟨_, rfl⟩
    · rintro (empty | taken)
      · exact issued empty
      · rw [fresh] at taken
        cases taken
  rcases created with ⟨after, created⟩
  rcases Env.presignUploadPart_first bid issued with ⟨target, signed⟩
  have first : step env (start storage) (.start 0 key file) =
      some ⟨storage, SortedStore.empty.put 0 { key, file }⟩ := rfl
  have second := @step_begin_large env ⟨storage, SortedStore.empty.put 0 { key, file }⟩ 0 _
    (SortedStore.get?_put_self ..) rfl large _ accepted after uploadId created
  have third := @step_presign env
    ⟨after, (SortedStore.empty.put 0 ⟨key, file, .starting, none, []⟩).put 0
      ⟨key, file, .presigning ⟨uploadId, 0, 1, 0, []⟩, some ⟨env.bucket env.base, key⟩, []⟩⟩ 0 _
    (SortedStore.get?_put_self ..) _ rfl target signed
  have run := Transition.exec_cons.mpr ⟨_, first, Transition.exec_cons.mpr ⟨_, second,
    (Transition.exec_single _ _).trans third⟩⟩
  refine ⟨_, run, _, SortedStore.get?_put_self .., ⟨target, [1]⟩, ?_⟩
  exact ⟨rfl, (Env.presignUploadPart_key signed).1, rfl⟩

/-! ## Runs -/

def sampleRouter : Router where
  urlParam raw sent decoded := if raw then sent else decoded
  ofRawPath _ _ := rfl
  ofPath _ _ := rfl

/-- The bucket `b` of the region `r`. -/
def sampleEnv : Env := ⟨sampleRouter, [114], [98]⟩

/-- The object of `a%20b` is stored as `a b`. -/
example : sampleEnv.presignPut [97, 37, 50, 48, 98] = .ok ⟨[98], [97, 32, 98]⟩ := rfl

def emptyStorage : Storage := ⟨fun _ => none, fun _ => none⟩

/-- Three bytes are put under the key `a/b`. -/
def smallEvents : List Event := [.start 0 [97, 47, 98] [1, 2, 3], .request 0 {}, .request 0 {}]

def sampleFinal (events : List Event) : System :=
  (Transition.exec (step sampleEnv) (start emptyStorage) events).getD (start emptyStorage)

theorem uploads_right_small :
    Transition.Throughout (step sampleEnv) System.Right (start emptyStorage) smallEvents ∧
      ((sampleFinal smallEvents).uploads.get? 0).map Upload.phase = some (.done (some [1, 2, 3])) :=
  ⟨(@uploads_right_iff sampleEnv emptyStorage smallEvents (sampleFinal smallEvents) rfl).mpr
    (by decide),
    by decide⟩

/-- A file with one byte more than fits in one part. -/
def largeFile : Bytes := List.replicate (chunkSize + 1) 0

theorem large_upload_wrong :
    ¬ forall (env : Env) (storage : Storage) (events : List Event) (final : System),
      Transition.exec (step env) (start storage) events = some final ->
        Transition.Throughout (step env) System.Right (start storage) events := by
  intro stated
  have size : chunkSize < largeFile.length := by
    rw [largeFile, List.length_replicate]
    exact Nat.lt_succ_self chunkSize
  rcases @large_upload_keyless sampleEnv (by decide) emptyStorage [98, 105, 103] largeFile
    [117] (by decide)
    size (by decide) rfl with ⟨final, run, upload, found, call, calls, keyless, initiated⟩
  have right := stated sampleEnv emptyStorage _ final run _ [] final (List.append_nil _).symm
    run 0 upload
    found
  have addressed := (right.addressed call (by rw [calls]; exact List.mem_singleton_self call)).1
  rw [initiated] at addressed
  have same := congrArg Location.key (Option.some.inj addressed)
  rw [show call.upload.location.key = [] from keyless] at same
  cases same

end Uploads
end Basement
