import Basement.Gateway.Paths

namespace Basement
namespace Gateway

open Library Drivers
open PercentEncoding (Bytes)

/-!
# Putting a file

A body is read in chunks and kept in memory, within the cap of the handler and that of the file.
The file is closed after the last chunk, and after a failed one too, and whenever it is closed it
stores what it holds.
-/

/-! ## Reading the body -/

/-- A body as it comes in: its chunks, and if it breaks off, whether the request's context is
cancelled then. -/
structure Body where
  chunks : List Bytes
  broken : Option Bool
  deriving DecidableEq, Repr

/-- The bytes that the client sends. -/
def Body.bytes (body : Body) : Bytes := body.chunks.flatten

/-- The chunks up to a number of bytes, and whether there are more. -/
def limitChunks : Nat -> List Bytes -> List Bytes × Bool
  | _, [] => ([], false)
  | left, chunk :: rest =>
      if chunk.length ≤ left then
        let limited := limitChunks (left - chunk.length) rest
        (chunk :: limited.1, limited.2)
      else ([chunk.take left], true)

/-- `http.MaxBytesReader`: too long a body breaks off, and the context stays. -/
def maxBytesReader (limit : Nat) (body : Body) : Body :=
  let limited := limitChunks limit body.chunks
  ⟨limited.1, if limited.2 then some false else body.broken⟩

/-! ## The file -/

/-- `writeFile`. -/
structure WriteFile where
  regionID : String
  bucket : String
  key : String
  buf : Bytes := []
  maxBytes : Nat
  closed : Bool := false
  deriving DecidableEq, Repr

/-- `Write`. -/
def WriteFile.write (file : WriteFile) (p : Bytes) : Except FsError WriteFile :=
  if file.closed then .error (.other "file already closed")
  else if 0 < file.maxBytes ∧ file.maxBytes < file.buf.length + p.length then .error .invalid
  else .ok { file with buf := file.buf ++ p }

/-- `Close`.  A call with a context that is done is not sent. -/
def WriteFile.close (site : Site) (file : WriteFile) (cancelled : Bool) (fault : Option Failure)
    (storage : Storage) : Reply :=
  if file.closed then (.ok (), storage)
  else
    site.putObject file.regionID file.bucket file.key file.buf "application/octet-stream"
      (if cancelled then some ⟨.invalid "context canceled", false⟩ else fault) storage

/-- `OpenFile`, for writing. -/
def openForWrite (regions : Except FsError (List Region)) (maxUploadBytes : Nat) (name : String) :
    Except FsError WriteFile :=
  match parsePath regions name with
  | .error error => .error error
  | .ok resolved =>
      match resolved with
      | .object region bucket key =>
          if endsWithSlash key then .error .permission
          else .ok { regionID := region.id, bucket := bucket, key := key, maxBytes := maxUploadBytes }
      | _ => .error .permission

/-! ## The request -/

/-- How copying a body into a file ends. -/
inductive Copied where
  | complete
  | failed (cancelled : Bool)
  deriving DecidableEq, Repr

/-- `io.Copy`. -/
def copyBody : WriteFile -> List Bytes -> Option Bool -> WriteFile × Copied
  | file, [], none => (file, .complete)
  | file, [], some cancels => (file, .failed cancels)
  | file, chunk :: rest, broken =>
      if chunk = [] then copyBody file rest broken
      else
        match file.write chunk with
        | .error _ => (file, .failed false)
        | .ok next => copyBody next rest broken

inductive PutReply where
  | tooLarge
  | notOpened (error : FsError)
  | copyFailed
  | closeFailed (error : FsError)
  | created
  deriving DecidableEq, Repr

structure PutRequest where
  name : String
  /-- The declared length, or -1. -/
  contentLength : Int
  body : Body
  deriving DecidableEq, Repr

/-- The PUT of the webdav package: open, copy, close, and the copy's error first. -/
def handlePut (site : Site) (regions : Except FsError (List Region)) (maxUploadBytes : Nat)
    (name : String) (body : Body) (fault : Option Failure) (storage : Storage) :
    PutReply × Storage :=
  match openForWrite regions maxUploadBytes name with
  | .error error => (.notOpened error, storage)
  | .ok file =>
      let copied := copyBody file body.chunks body.broken
      let closed := copied.1.close site (decide (copied.2 = .failed true)) fault storage
      match copied.2 with
      | .failed _ => (.copyFailed, closed.2)
      | .complete =>
          match closed.1 with
          | .error error => (.closeFailed error, closed.2)
          | .ok _ => (.created, closed.2)

/-- The caps of the handler and of its files, which `ServeHTTP` gives one value; zero is none. -/
structure PutCaps where
  handler : Nat
  file : Nat
  deriving DecidableEq, Repr

/-- The body that the handler lets through. -/
def PutCaps.received (caps : PutCaps) (body : Body) : Body :=
  if 0 < caps.handler then maxBytesReader caps.handler body else body

/-- `ServeHTTP`, for a PUT. -/
def servePut (site : Site) (regions : Except FsError (List Region)) (caps : PutCaps)
    (request : PutRequest) (fault : Option Failure) (storage : Storage) : PutReply × Storage :=
  if 0 < caps.handler ∧ (caps.handler : Int) < request.contentLength then (.tooLarge, storage)
  else
    handlePut site regions caps.file request.name (caps.received request.body) fault storage

/-! ## What a PUT is to do -/

/-- A number of bytes is within a cap. -/
def Within (cap size : Nat) : Prop := cap = 0 ∨ size ≤ cap

instance (cap size : Nat) : Decidable (Within cap size) := inferInstanceAs (Decidable (_ ∨ _))

/-- The handler takes the request, and its path is that of a file. -/
def PutRequest.Taken (regions : Except FsError (List Region)) (caps : PutCaps)
    (request : PutRequest) : Prop :=
  (caps.handler = 0 ∨ request.contentLength ≤ caps.handler) ∧
    Exists fun region => Exists fun bucket => Exists fun key =>
      parsePath regions request.name = .ok (.object region bucket key) ∧ endsWithSlash key = false

/-- The complete body gets into the file. -/
def PutRequest.Delivers (regions : Except FsError (List Region)) (caps : PutCaps)
    (request : PutRequest) : Prop :=
  request.Taken regions caps ∧ request.body.broken = none ∧
    Within caps.handler request.body.bytes.length ∧ Within caps.file request.body.bytes.length

/-- The objects are as they were unless the complete body was delivered, and a PUT that reports
success has stored it. -/
structure PutKeeps (site : Site) (regions : Except FsError (List Region)) (caps : PutCaps)
    (request : PutRequest) (storage : Storage) (reply : PutReply × Storage) : Prop where
  kept : ¬ request.Delivers regions caps -> reply.2.world = storage.world
  stored : reply.1 = .created -> Exists fun location =>
    Names site regions request.name location ∧ reply.2.world = Function.update storage.world location
      (some ⟨request.body.bytes, "application/octet-stream"⟩)

/-- The first chunks that fit into a file beside what it holds. -/
def fitting (cap : Nat) : Nat -> List Bytes -> List Bytes
  | _, [] => []
  | held, chunk :: rest =>
      if chunk = [] ∨ cap = 0 ∨ held + chunk.length ≤ cap then
        chunk :: fitting cap (held + chunk.length) rest
      else []

/-- The bytes of a body that get into the file. -/
def PutCaps.buffered (caps : PutCaps) (body : Body) : Bytes :=
  (fitting caps.file 0 (caps.received body).chunks).flatten

/-- The body breaks off before a cap is met, and the context is cancelled with it. -/
def PutCaps.Cancels (caps : PutCaps) (body : Body) : Prop :=
  (caps.received body).broken = some true ∧
    fitting caps.file 0 (caps.received body).chunks = (caps.received body).chunks

/-- What is stored of an incomplete body does no harm: the context is cancelled, the service does
not store it, or it is there already. -/
def Harmless (site : Site) (regions : Except FsError (List Region)) (caps : PutCaps)
    (request : PutRequest) (fault : Option Failure) (storage : Storage) : Prop :=
  request.Taken regions caps -> ¬ request.Delivers regions caps ->
    forall location, Names site regions request.name location ->
      caps.Cancels request.body ∨
        (Exists fun failure => fault = some failure ∧ failure.served = false) ∨
          storage.world location =
            some ⟨caps.buffered request.body, "application/octet-stream"⟩

/-! ## What gets into the file -/

theorem fitting_eq_self_iff {cap : Nat} : forall {chunks : List Bytes} {held : Nat},
    Within cap held ->
      (fitting cap held chunks = chunks ↔ Within cap (held + chunks.flatten.length)) := by
  intro chunks
  induction chunks with
  | nil =>
      intro held within
      exact iff_of_true rfl within
  | cons chunk rest ih =>
      intro held within
      rw [fitting, List.flatten_cons, List.length_append, ← Nat.add_assoc]
      by_cases fits : chunk = [] ∨ cap = 0 ∨ held + chunk.length ≤ cap
      · have next : Within cap (held + chunk.length) := by
          rcases fits with empty | fits
          · rw [empty]
            exact within
          · exact fits
        rw [if_pos fits, List.cons.injEq, and_iff_right rfl, ih next]
      · rw [if_neg fits]
        refine iff_of_false (List.cons_ne_nil chunk rest).symm ?_
        rintro (none | enough)
        · exact fits (Or.inr (Or.inl none))
        · exact fits (Or.inr (Or.inr (by omega)))

theorem write_eq {file : WriteFile} (unclosed : file.closed = false) (p : Bytes) :
    file.write p =
      if file.maxBytes = 0 ∨ file.buf.length + p.length ≤ file.maxBytes then
        .ok { file with buf := file.buf ++ p }
      else .error .invalid := by
  have opened : ¬ file.closed = true := by
    rw [unclosed]
    exact Bool.false_ne_true
  rw [WriteFile.write, if_neg opened]
  by_cases fits : file.maxBytes = 0 ∨ file.buf.length + p.length ≤ file.maxBytes
  · rw [if_pos fits, if_neg (by omega)]
  · rw [if_neg fits, if_pos (by omega)]

/-- A copy fills the file with the chunks that fit, and ends with them or with the body. -/
theorem copyBody_eq (broken : Option Bool) : forall (chunks : List Bytes) (file : WriteFile),
    file.closed = false -> copyBody file chunks broken =
      ({ file with buf := file.buf ++ (fitting file.maxBytes file.buf.length chunks).flatten },
        if fitting file.maxBytes file.buf.length chunks = chunks then
          match broken with
          | none => .complete
          | some cancels => .failed cancels
        else .failed false) := by
  intro chunks
  induction chunks with
  | nil =>
      intro file _
      cases broken with
      | none => simp [copyBody, fitting]
      | some cancels => simp [copyBody, fitting]
  | cons chunk rest ih =>
      intro file unclosed
      rw [copyBody, fitting]
      by_cases empty : chunk = []
      · rw [if_pos empty, if_pos (Or.inl empty), ih file unclosed, empty]
        simp
      · rw [if_neg empty, write_eq unclosed]
        simp only [empty, false_or]
        by_cases fits : file.maxBytes = 0 ∨ file.buf.length + chunk.length ≤ file.maxBytes
        · rw [if_pos fits, if_pos fits]
          dsimp only
          rw [ih { file with buf := file.buf ++ chunk } unclosed]
          simp
        · rw [if_neg fits, if_neg fits]
          simp

theorem limitChunks_whole : forall (chunks : List Bytes) (left : Nat),
    ((limitChunks left chunks).2 = false ↔ chunks.flatten.length ≤ left) ∧
      ((limitChunks left chunks).2 = false -> (limitChunks left chunks).1 = chunks) := by
  intro chunks
  induction chunks with
  | nil =>
      intro left
      exact ⟨iff_of_true rfl (Nat.zero_le left), fun _ => rfl⟩
  | cons chunk rest ih =>
      intro left
      rw [limitChunks, List.flatten_cons, List.length_append]
      by_cases fits : chunk.length ≤ left
      · rw [if_pos fits]
        have tail := ih (left - chunk.length)
        refine ⟨tail.1.trans (by omega), ?_⟩
        intro whole
        exact congrArg (chunk :: ·) (tail.2 whole)
      · rw [if_neg fits]
        refine ⟨iff_of_false (fun whole => by cases whole) (by omega), ?_⟩
        intro whole
        cases whole

/-- The handler lets a body through unbroken if it is whole and within the cap. -/
theorem received_whole_iff (caps : PutCaps) (body : Body) :
    (caps.received body).broken = none ↔
      body.broken = none ∧ Within caps.handler body.bytes.length := by
  rw [PutCaps.received]
  by_cases capped : 0 < caps.handler
  · have cut := (limitChunks_whole body.chunks caps.handler).1
    have within : Within caps.handler body.bytes.length ↔
        (limitChunks caps.handler body.chunks).2 = false := by
      rw [cut]
      exact or_iff_right (Nat.ne_of_gt capped)
    rw [if_pos capped, maxBytesReader, within]
    cases (limitChunks caps.handler body.chunks).2 with
    | false => exact (and_iff_left rfl).symm
    | true => exact iff_of_false (fun broken => by cases broken) (fun both => by cases both.2)
  · rw [if_neg capped]
    exact (and_iff_left (Or.inl (by omega))).symm

theorem received_chunks {caps : PutCaps} {body : Body}
    (within : Within caps.handler body.bytes.length) :
    (caps.received body).chunks = body.chunks := by
  rw [PutCaps.received]
  split
  · rename_i capped
    have cut := limitChunks_whole body.chunks caps.handler
    have fits : body.bytes.length ≤ caps.handler := within.resolve_left (Nat.ne_of_gt capped)
    exact cut.2 (cut.1.mpr fits)
  · rfl

/-- What a body leaves in a new file. -/
theorem copyBody_received (caps : PutCaps) (body : Body) {file : WriteFile}
    (unclosed : file.closed = false) (fresh : file.buf = []) (cap : file.maxBytes = caps.file) :
    (copyBody file (caps.received body).chunks (caps.received body).broken).1 =
        { file with buf := caps.buffered body } ∧
      ((copyBody file (caps.received body).chunks (caps.received body).broken).2 = .complete ↔
        body.broken = none ∧ Within caps.handler body.bytes.length ∧
          Within caps.file body.bytes.length) ∧
      ((copyBody file (caps.received body).chunks (caps.received body).broken).2 = .failed true ↔
        caps.Cancels body) := by
  have start : Within caps.file 0 := Or.inr (Nat.zero_le _)
  have whole := @fitting_eq_self_iff caps.file (caps.received body).chunks 0 start
  rw [Nat.zero_add] at whole
  rw [copyBody_eq _ _ _ unclosed, fresh, cap, PutCaps.buffered, PutCaps.Cancels]
  refine ⟨rfl, ?_, ?_⟩
  · dsimp only
    by_cases fits : fitting caps.file 0 (caps.received body).chunks = (caps.received body).chunks
    · rw [List.length_nil, if_pos fits]
      have ends : (match (caps.received body).broken with
          | none => Copied.complete
          | some cancels => Copied.failed cancels) = .complete ↔
          (caps.received body).broken = none := by
        cases (caps.received body).broken with
        | none => exact iff_of_true rfl rfl
        | some cancels => exact iff_of_false (fun same => by cases same) (fun same => by cases same)
      rw [ends, received_whole_iff, and_congr_right_iff]
      intro _
      refine ⟨fun within => ⟨within, ?_⟩, fun both => both.1⟩
      have room := whole.mp fits
      rw [received_chunks within] at room
      exact room
    · rw [List.length_nil, if_neg fits]
      refine iff_of_false (fun same => by cases same) ?_
      rintro ⟨-, within, room⟩
      apply fits
      rw [whole, received_chunks within]
      exact room
  · dsimp only
    by_cases fits : fitting caps.file 0 (caps.received body).chunks = (caps.received body).chunks
    · rw [List.length_nil, if_pos fits, and_iff_left fits]
      cases (caps.received body).broken with
      | none => exact iff_of_false (fun same => by cases same) (fun same => by cases same)
      | some cancels =>
          exact ⟨fun same => congrArg some (Copied.failed.inj same),
            fun same => congrArg Copied.failed (Option.some.inj same)⟩
    · rw [List.length_nil, if_neg fits]
      exact iff_of_false (fun same => by cases same) (fun both => fits both.2)

/-! ## What a PUT does -/

section Put

variable {site : Site} {regions : Except FsError (List Region)} {caps : PutCaps}
  {request : PutRequest} {fault : Option Failure} {storage : Storage}

/-- An open file is closed by one call of its driver. -/
theorem close_eq {file : WriteFile} {endpoint : String} (unclosed : file.closed = false)
    (driver : site.driverForRegion file.regionID = .ok endpoint) (cancelled : Bool) :
    file.close site cancelled fault storage =
      attempt (if cancelled then some ⟨.invalid "context canceled", false⟩ else fault) storage
        (putting (site.location endpoint file.bucket file.key)
          ⟨file.buf, "application/octet-stream"⟩) := by
  have opened : ¬ file.closed = true := by
    rw [unclosed]
    exact Bool.false_ne_true
  rw [WriteFile.close, if_neg opened, Site.putObject, driver]
  rfl

/-- A file is closed without a change if the context is done or the service does not store it;
otherwise its object is what the file holds. -/
theorem close_world_iff {file : WriteFile} {endpoint : String} (unclosed : file.closed = false)
    (driver : site.driverForRegion file.regionID = .ok endpoint) (cancelled : Bool) :
    (file.close site cancelled fault storage).2.world = storage.world ↔
      cancelled = true ∨ (Exists fun failure => fault = some failure ∧ failure.served = false) ∨
        storage.world (site.location endpoint file.bucket file.key) =
          some ⟨file.buf, "application/octet-stream"⟩ := by
  have written : (storage.put (site.location endpoint file.bucket file.key)
      ⟨file.buf, "application/octet-stream"⟩).world = storage.world ↔
        storage.world (site.location endpoint file.bucket file.key) =
          some ⟨file.buf, "application/octet-stream"⟩ := by
    rw [Storage.world_put, Function.update_eq_self_iff, @eq_comm (Option StoredObject)]
  rw [close_eq unclosed driver]
  cases cancelled with
  | true => exact iff_of_true rfl (Or.inl rfl)
  | false =>
      rw [if_neg Bool.false_ne_true, or_iff_right Bool.false_ne_true]
      have puts : putting (site.location endpoint file.bucket file.key)
          ⟨file.buf, "application/octet-stream"⟩ storage = .ok _ := rfl
      rcases attempt_ok fault puts with ⟨rfl, done⟩ | ⟨failure, rfl, broken⟩
      · rw [done, written, or_iff_right]
        rintro ⟨failure, absent, -⟩
        cases absent
      · rw [broken]
        dsimp only
        cases served : failure.served with
        | true =>
            rw [if_pos rfl, written, or_iff_right]
            rintro ⟨other, same, unserved⟩
            cases same
            rw [served] at unserved
            cases unserved
        | false => exact iff_of_true rfl (Or.inl ⟨failure, rfl, served⟩)

theorem close_without_driver {file : WriteFile} {error : FsError} (unclosed : file.closed = false)
    (driver : site.driverForRegion file.regionID = .error error) (cancelled : Bool) :
    file.close site cancelled fault storage = (.error error, storage) := by
  have opened : ¬ file.closed = true := by
    rw [unclosed]
    exact Bool.false_ne_true
  rw [WriteFile.close, if_neg opened, Site.putObject, driver]

theorem close_ok {file : WriteFile} {cancelled : Bool} (unclosed : file.closed = false)
    {after : Storage} {u : Unit} (closed : file.close site cancelled fault storage = (.ok u, after)) :
    Exists fun endpoint => site.driverForRegion file.regionID = .ok endpoint ∧
      after.world = Function.update storage.world (site.location endpoint file.bucket file.key)
        (some ⟨file.buf, "application/octet-stream"⟩) := by
  cases driver : site.driverForRegion file.regionID with
  | error error =>
      rw [close_without_driver unclosed driver] at closed
      cases closed
  | ok endpoint =>
      rw [close_eq unclosed driver] at closed
      have puts : putting (site.location endpoint file.bucket file.key)
          ⟨file.buf, "application/octet-stream"⟩ storage = .ok _ := rfl
      rcases attempt_ok (if cancelled = true then some ⟨.invalid "context canceled", false⟩
        else fault) puts with ⟨-, done⟩ | ⟨failure, -, broken⟩
      · rw [done] at closed
        cases closed
        exact ⟨endpoint, rfl, Storage.world_put _ _ _⟩
      · rw [broken] at closed
        cases closed

/-- The whole body is in the file once it is delivered. -/
theorem PutRequest.Delivers.buffered (delivers : request.Delivers regions caps) :
    caps.buffered request.body = request.body.bytes := by
  rcases delivers with ⟨-, -, handler, room⟩
  have whole := @fitting_eq_self_iff caps.file request.body.chunks 0 (Or.inr (Nat.zero_le _))
  rw [Nat.zero_add] at whole
  rw [PutCaps.buffered, received_chunks handler, whole.mpr room]
  rfl

/-- A request that is not taken changes nothing. -/
theorem servePut_not_taken (untaken : ¬ request.Taken regions caps) :
    (servePut site regions caps request fault storage).1 ≠ .created ∧
      (servePut site regions caps request fault storage).2 = storage := by
  rw [servePut]
  split
  · exact ⟨(fun same => by cases same), rfl⟩
  · rename_i declared
    have length : caps.handler = 0 ∨ request.contentLength ≤ caps.handler := by
      omega
    have refused : Exists fun error => openForWrite regions caps.file request.name = .error error := by
      rw [openForWrite]
      cases parsed : parsePath regions request.name with
      | error error => exact ⟨error, rfl⟩
      | ok resolved =>
          cases resolved with
          | root => exact ⟨_, rfl⟩
          | region region => exact ⟨_, rfl⟩
          | bucket region bucket => exact ⟨_, rfl⟩
          | object region bucket key =>
              dsimp only
              split
              · exact ⟨_, rfl⟩
              · rename_i plain
                exact absurd ⟨length, region, bucket, key, parsed, Bool.eq_false_iff.mpr plain⟩
                  untaken
    rcases refused with ⟨error, failed⟩
    rw [handlePut, failed]
    exact ⟨(fun same => by cases same), rfl⟩

/-- A request that is taken fills a file, closes it, and reports what became of the copy. -/
theorem servePut_taken {region : Region} {bucket key : String}
    (declared : caps.handler = 0 ∨ request.contentLength ≤ caps.handler)
    (parsed : parsePath regions request.name = .ok (.object region bucket key))
    (plain : endsWithSlash key = false) :
    Exists fun cancelled : Bool => (cancelled = true ↔ caps.Cancels request.body) ∧
      Exists fun closed => closed = WriteFile.close site
        ⟨region.id, bucket, key, caps.buffered request.body, caps.file, false⟩ cancelled fault
          storage ∧
        (servePut site regions caps request fault storage).2 = closed.2 ∧
        (request.Delivers regions caps ->
          ((servePut site regions caps request fault storage).1 = .created ↔ closed.1 = .ok ())) ∧
        (¬ request.Delivers regions caps ->
          (servePut site regions caps request fault storage).1 ≠ .created) := by
  have within : ¬ (0 < caps.handler ∧ (caps.handler : Int) < request.contentLength) := by
    omega
  have opened : openForWrite regions caps.file request.name =
      .ok ⟨region.id, bucket, key, [], caps.file, false⟩ := by
    rw [openForWrite, parsed]
    simp only [plain, Bool.false_eq_true, if_false]
  rcases @copyBody_received caps request.body ⟨region.id, bucket, key, [], caps.file, false⟩ rfl rfl
    rfl with ⟨filled, complete, cancels⟩
  have delivers : (copyBody ⟨region.id, bucket, key, [], caps.file, false⟩
      (caps.received request.body).chunks (caps.received request.body).broken).2 = .complete ↔
        request.Delivers regions caps := by
    rw [complete]
    exact (and_iff_right ⟨declared, region, bucket, key, parsed, plain⟩).symm
  rw [servePut, if_neg within, handlePut, opened]
  dsimp only
  generalize copyBody ⟨region.id, bucket, key, [], caps.file, false⟩
    (caps.received request.body).chunks (caps.received request.body).broken = copied at *
  refine ⟨decide (copied.2 = .failed true), ?_, _, rfl, ?_⟩
  · rw [decide_eq_true_eq]
    exact cancels
  · rw [filled]
    generalize WriteFile.close site _ _ fault storage = closed
    cases ended : copied.2 with
    | complete =>
        cases answer : closed.1 with
        | error error =>
            refine ⟨rfl, fun _ => ?_, fun _ => (fun same => by cases same)⟩
            exact iff_of_false (fun same => by cases same) (fun same => by cases same)
        | ok u =>
            refine ⟨rfl, fun _ => iff_of_true rfl rfl, ?_⟩
            intro undelivered
            exact absurd (delivers.mp ended) undelivered
    | failed cancelled =>
        refine ⟨rfl, ?_, fun _ => (fun same => by cases same)⟩
        intro delivered
        rw [ended] at delivers
        cases delivers.mpr delivered

/-- A PUT keeps the object, or stores the whole body, exactly if what it stores of an incomplete
one does no harm. -/
theorem put_keeps_object_iff (site : Site) (regions : Except FsError (List Region))
    (caps : PutCaps) (request : PutRequest) (fault : Option Failure) (storage : Storage) :
    PutKeeps site regions caps request storage (servePut site regions caps request fault storage) ↔
      Harmless site regions caps request fault storage := by
  by_cases taken : request.Taken regions caps
  · rcases taken with ⟨declared, region, bucket, key, parsed, plain⟩
    rcases @servePut_taken site regions caps request fault storage _ _ _ declared parsed plain with
      ⟨cancelled, cancels, closed, closing, after, created, failed⟩
    by_cases delivers : request.Delivers regions caps
    · refine iff_of_true ⟨fun undelivered => absurd delivers undelivered, ?_⟩ ?_
      · intro success
        have done : closed = (.ok (), closed.2) := Prod.ext ((created delivers).mp success) rfl
        rw [done] at closing
        rcases close_ok rfl closing.symm with ⟨endpoint, driver, stored⟩
        rw [delivers.buffered] at stored
        exact ⟨_, ⟨region, bucket, key, endpoint, parsed, driver, rfl⟩, after ▸ stored⟩
      · intro _ undelivered
        exact absurd delivers undelivered
    · have same : PutKeeps site regions caps request storage
          (servePut site regions caps request fault storage) ↔ closed.2.world = storage.world := by
        rw [← after]
        exact ⟨fun keeps => keeps.kept delivers,
          fun kept => ⟨fun _ => kept, fun success => absurd success (failed delivers)⟩⟩
      rw [same, closing]
      cases driver : site.driverForRegion region.id with
      | error error =>
          refine iff_of_true ?_ ?_
          · rw [close_without_driver rfl driver]
          · intro _ _ location named
            rcases (names_iff parsed).mp named with ⟨endpoint, found, -⟩
            rw [driver] at found
            cases found
      | ok endpoint =>
          rw [close_world_iff rfl driver, cancels]
          constructor
          · intro harmless _ _ location named
            rcases (names_iff parsed).mp named with ⟨other, found, rfl⟩
            rw [driver] at found
            cases found
            exact harmless
          · intro harmless
            exact harmless ⟨declared, region, bucket, key, parsed, plain⟩ delivers _
              ((names_iff parsed).mpr ⟨endpoint, driver, rfl⟩)
  · have unchanged := @servePut_not_taken site regions caps request fault storage taken
    refine iff_of_true ⟨fun _ => by rw [unchanged.2], fun success => absurd success unchanged.1⟩ ?_
    intro given
    exact absurd given taken

end Put

/-! ## A body that is too long -/

/-- A body of 20 bytes without a declared length. -/
def longPut : PutRequest := ⟨"/home/photos/a", -1, ⟨[List.replicate 20 7], none⟩⟩

/-- The object `a` before the request. -/
def savedPhoto : Storage :=
  Storage.put (fun _ => .empty) ⟨"s3.example", "photos", "a"⟩ ⟨[1, 2, 3], "image/png"⟩

/-- With a cap of 16 bytes the PUT fails, and the object is its first 16 bytes. -/
theorem long_put_replaces_object :
    (servePut homeSite homeRegions ⟨16, 16⟩ longPut none savedPhoto).1 = .copyFailed ∧
      (servePut homeSite homeRegions ⟨16, 16⟩ longPut none savedPhoto).2.world
          ⟨"s3.example", "photos", "a"⟩ =
        some ⟨List.replicate 16 7, "application/octet-stream"⟩ ∧
      ¬ PutKeeps homeSite homeRegions ⟨16, 16⟩ longPut savedPhoto
        (servePut homeSite homeRegions ⟨16, 16⟩ longPut none savedPhoto) := by
  have replaced : (servePut homeSite homeRegions ⟨16, 16⟩ longPut none savedPhoto).2.world
      ⟨"s3.example", "photos", "a"⟩ =
        some ⟨List.replicate 16 7, "application/octet-stream"⟩ := by
    decide
  refine ⟨by decide, replaced, ?_⟩
  intro keeps
  have kept := keeps.kept fun delivers => absurd delivers.2.2.1 (by decide)
  rw [kept] at replaced
  exact absurd replaced (by decide)

end Gateway
end Basement
