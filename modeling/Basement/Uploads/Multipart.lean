import Basement.Library.PercentEncoding
import Basement.Library.SortedStore
import Basement.Library.Transition

namespace Basement
namespace Uploads

open Library
open PercentEncoding (Bytes encode decode percent)

/-!
# Uploads from the browser

The upload dialog puts a file of up to 5 MiB with one signed URL.  A larger file is a multipart
upload: the dialog initiates it, has each part signed, puts the part, and completes.  The parts of
one file follow one another; several files are uploaded side by side.  The bodies go from the
browser to the S3 service directly, and the names go through the handlers of the region.

Names are texts of bytes.  A request brings some of them in its path, which the browser encodes and
which the URL parser and the router take apart.  What happens to a request on the way, whether the
service does what it is asked and whether the response arrives are answers of the environment.
-/

/-! ## Names in a path -/

def alphanumeric (byte : UInt8) : Bool :=
  48 ≤ byte && byte ≤ 57 || 65 ≤ byte && byte ≤ 90 || 97 ≤ byte && byte ≤ 122

/-- The bytes that `encodeURIComponent` keeps, with the marks `-_.!~*'()`. -/
def uriUnreserved (byte : UInt8) : Bool :=
  alphanumeric byte || [45, 95, 46, 33, 126, 42, 39, 40, 41].contains byte

/-- The bytes that Go keeps in a path, with `-_.~` and `$&+,/:;=@`. -/
def pathSafe (byte : UInt8) : Bool :=
  alphanumeric byte || [45, 95, 46, 126, 36, 38, 43, 44, 47, 58, 59, 61, 64].contains byte

def encodeURIComponent (text : Bytes) : Bytes := encode uriUnreserved text

/-- `URL.setPath`: the path is kept as it was sent if its default encoding is another one.  The
segments are the ones a request fills in; the others are plain letters. -/
def rawPath (sent : List Bytes) : Bool :=
  sent.any fun segment => (decode segment).map (encode pathSafe) ≠ some segment

/-- `url.PathUnescape`, with its error dropped. -/
def pathUnescape (text : Bytes) : Bytes := (decode text).getD []

/-- `URL.Query().Get`, for a value that the browser has encoded. -/
def queryGet (sent : Bytes) : Bytes :=
  (decode (sent.map fun byte => if byte = 43 then 32 else byte)).getD []

/-- The router: it routes on `RawPath` if the URL has one and on `Path` otherwise, and
`chi.URLParam` is the segment it has matched. -/
structure Router where
  urlParam : Bool -> Bytes -> Bytes -> Bytes
  ofRawPath : forall sent decoded, urlParam true sent decoded = sent
  ofPath : forall sent decoded, urlParam false sent decoded = decoded

/-- What a handler reads from a segment of the path. -/
def Router.param (router : Router) (sent : List Bytes) (segment : Bytes) : Bytes :=
  router.urlParam (rawPath sent) segment (pathUnescape segment)

/-! ## The S3 service -/

structure Location where
  bucket : Bytes
  key : Bytes
  deriving DecidableEq, Repr

/-- A multipart upload in flight, with the etag and the body of each part. -/
structure Multipart where
  location : Location
  parts : Nat -> Option (Bytes × Bytes)

structure Storage where
  objects : Location -> Option Bytes
  uploads : Bytes -> Option Multipart

def Storage.putObject (storage : Storage) (location : Location) (body : Bytes) : Storage :=
  { storage with objects := Function.update storage.objects location (some body) }

def Storage.createMultipart (storage : Storage) (location : Location) (uploadId : Bytes) :
    Option Storage :=
  if uploadId = [] ∨ (storage.uploads uploadId).isSome then none
  else
    some { storage with
      uploads := Function.update storage.uploads uploadId (some ⟨location, fun _ => none⟩) }

/-- A part of another bucket or key is rejected. -/
def Storage.uploadPart (storage : Storage) (location : Location) (uploadId : Bytes) (number : Nat)
    (etag body : Bytes) : Option Storage :=
  match storage.uploads uploadId with
  | none => none
  | some upload =>
      if upload.location = location then
        some { storage with
          uploads := Function.update storage.uploads uploadId
            (some
              { upload with parts := Function.update upload.parts number (some (etag, body)) }) }
      else none

/-- The quotes of an etag header. -/
def unquote (etag : Bytes) : Bytes :=
  let front := if etag.head? = some 34 then etag.tail else etag
  if front.getLast? = some 34 then front.dropLast else front

/-- The body of a listed part, if the upload has it with that etag. -/
def Multipart.listed (upload : Multipart) (part : Nat × Bytes) : Option Bytes :=
  match upload.parts part.1 with
  | none => none
  | some (etag, body) => if unquote etag = part.2 then some body else none

/-- The object is put together in the order of the list. -/
def Storage.completeMultipart (storage : Storage) (location : Location) (uploadId : Bytes)
    (parts : List (Nat × Bytes)) : Option Storage :=
  match storage.uploads uploadId with
  | none => none
  | some upload =>
      if upload.location = location ∧ parts ≠ [] then
        (parts.mapM upload.listed).map fun bodies =>
          { objects := Function.update storage.objects location (some bodies.flatten)
            uploads := Function.update storage.uploads uploadId none }
      else none

def Storage.abortMultipart (storage : Storage) (location : Location) (uploadId : Bytes) : Storage :=
  match storage.uploads uploadId with
  | none => storage
  | some upload =>
      if upload.location = location then
        { storage with uploads := Function.update storage.uploads uploadId none }
      else storage

/-! ## The handlers -/

/-- The region and the bucket of the dialog, and the server's router. -/
structure Env where
  router : Router
  region : Bytes
  bid : Bytes

/-- `uploadBaseFor`. -/
def Env.base (env : Env) : List Bytes := [encodeURIComponent env.region, encodeURIComponent env.bid]

/-- The bucket a handler reads from a path. -/
def Env.bucket (env : Env) (sent : List Bytes) : Bytes :=
  env.router.param sent (encodeURIComponent env.bid)

/-- What a handler tells the driver of a multipart upload. -/
structure MultipartUpload where
  uploadID : Bytes
  bucket : Bytes
  key : Bytes := []
  deriving DecidableEq, Repr

def MultipartUpload.location (upload : MultipartUpload) : Location := ⟨upload.bucket, upload.key⟩

/-- `userPresignPutRegionObjectHandler`: the object of the URL. -/
def Env.presignPut (env : Env) (key : Bytes) : Except String Location :=
  let sent := env.base ++ [encodeURIComponent key]
  let name := pathUnescape (env.router.param sent (encodeURIComponent key))
  if env.bucket sent = [] ∨ name = [] then .error "bucket id and key required"
  else .ok ⟨env.bucket sent, name⟩

/-- `userInitRegionMultipartHandler`; the key is in the body. -/
def Env.initMultipart (env : Env) (key : Bytes) : Except String Location :=
  if env.bucket env.base = [] then .error "bucket id required"
  else if key = [] then .error "key required in request body"
  else .ok ⟨env.bucket env.base, key⟩

/-- `userPresignRegionUploadPartHandler`. -/
def Env.presignUploadPart (env : Env) (uploadId : Bytes) (number : Nat) :
    Except String MultipartUpload :=
  let sent := env.base ++ [encodeURIComponent uploadId]
  let uploadID := env.router.param sent (encodeURIComponent uploadId)
  if env.bucket sent = [] ∨ uploadID = [] then .error "bucket id, uploadId, and partNum required"
  else if number < 1 ∨ 10000 < number then .error "part number must be between 1 and 10000"
  else .ok { uploadID, bucket := env.bucket sent }

/-- `userCompleteRegionMultipartHandler`. -/
def Env.completeMultipart (env : Env) (uploadId : Bytes) (parts : List (Nat × Bytes)) :
    Except String MultipartUpload :=
  let sent := env.base ++ [encodeURIComponent uploadId]
  let uploadID := env.router.param sent (encodeURIComponent uploadId)
  if env.bucket sent = [] ∨ uploadID = [] then .error "bucket id and uploadId required"
  else if parts.any fun part => part.1 < 1 || 10000 < part.1 then
    .error "part number must be between 1 and 10000"
  else .ok { uploadID, bucket := env.bucket sent }

/-- `userAbortRegionMultipartHandler`; the key is in the query. -/
def Env.abortMultipart (env : Env) (uploadId key : Bytes) : Except String MultipartUpload :=
  let sent := env.base ++ [encodeURIComponent uploadId]
  let uploadID := env.router.param sent (encodeURIComponent uploadId)
  if env.bucket sent = [] ∨ uploadID = [] then .error "bucket id and uploadId required"
  else if queryGet (encodeURIComponent key) = [] then
    .error "object key required (pass as ?key=<encoded> query param)"
  else .ok { uploadID, bucket := env.bucket sent, key := queryGet (encodeURIComponent key) }

/-! ## The dialog -/

/-- `CHUNK_SIZE`. -/
def chunkSize : Nat := 5 * 1024 * 1024

/-- `PART_MAX_RETRIES`. -/
def partMaxRetries : Nat := 1

/-- `RETRYABLE_STATUSES`. -/
def retryableStatuses : List Nat := [500, 502, 503, 504, 429]

/-- The locals of the loop over the parts. -/
structure Cursor where
  uploadId : Bytes
  offset : Nat := 0
  partNumber : Nat := 1
  retries : Nat := 0
  uploaded : List (Nat × Bytes) := []
  deriving DecidableEq, Repr

/-- The next request of an upload.  At the end, `found` is what the requested key holds when the
dialog reports success. -/
inductive Phase where
  | starting
  | putting (target : Location)
  | presigning (cursor : Cursor)
  | sending (cursor : Cursor) (target : MultipartUpload)
  | aborting (cursor : Cursor)
  | completing (cursor : Cursor)
  | done (found : Option Bytes)
  | failed (error : String)
  deriving DecidableEq, Repr

/-- A call of the driver for a part or for the completion, with its part numbers. -/
structure DriverCall where
  upload : MultipartUpload
  numbers : List Nat
  deriving DecidableEq, Repr

/-- A `doUpload`, where its multipart upload was initiated, and its calls so far. -/
structure Upload where
  key : Bytes
  file : Bytes
  phase : Phase := .starting
  initiated : Option Location := none
  calls : List DriverCall := []

/-- What becomes of one request: whether it gets to the driver call, whether the service does what
it is asked, and whether the response arrives.  The status is the one of a put, and the etag is
null if the browser does not see it. -/
structure Answer where
  admitted : Bool := true
  served : Bool := true
  delivered : Bool := true
  status : Nat := 200
  uploadId : Bytes := []
  etag : Bytes := []
  exposed : Bool := true

def Upload.enter (upload : Upload) (phase : Phase) : Upload := { upload with phase }

/-- A handler calls the driver. -/
def Upload.call (upload : Upload) (target : MultipartUpload) (numbers : List Nat) : Upload :=
  { upload with calls := upload.calls ++ [⟨target, numbers⟩] }

def Upload.fail (upload : Upload) (error : String) : Upload := upload.enter (.failed error)

/-- `file.slice`. -/
def Upload.chunk (upload : Upload) (cursor : Cursor) : Bytes :=
  (upload.file.drop cursor.offset).take chunkSize

/-- The loop over the parts: go on while the file has bytes left. -/
def Upload.loop (upload : Upload) (cursor : Cursor) : Phase :=
  if cursor.offset < upload.file.length then .presigning cursor else .completing cursor

/-- The loop over the attempts. -/
def Cursor.retry (cursor : Cursor) : Phase :=
  if cursor.retries + 1 ≤ partMaxRetries then
    .presigning { cursor with retries := cursor.retries + 1 }
  else .aborting { cursor with retries := cursor.retries + 1 }

/-- The part is uploaded. -/
def Upload.advance (upload : Upload) (cursor : Cursor) (etag : Bytes) : Phase :=
  upload.loop {
    uploadId := cursor.uploadId
    offset := cursor.offset + min chunkSize (upload.file.length - cursor.offset)
    partNumber := cursor.partNumber + 1
    retries := 0
    uploaded := cursor.uploaded ++ [(cursor.partNumber, etag)] }

/-- The first request. -/
def Upload.begin (env : Env) (upload : Upload) (answer : Answer) (storage : Storage) :
    Upload × Storage :=
  if upload.file.length ≤ chunkSize then
    match env.presignPut upload.key with
    | .error error => (upload.fail error, storage)
    | .ok target =>
        if answer.admitted && answer.served && answer.delivered then
          (upload.enter (.putting target), storage)
        else (upload.fail "Presign failed", storage)
  else
    match env.initMultipart upload.key with
    | .error error => (upload.fail error, storage)
    | .ok location =>
        if answer.admitted && answer.served then
          match storage.createMultipart location answer.uploadId with
          | none => (upload.fail "Init failed", storage)
          | some after =>
              if answer.delivered then
                ({ upload with
                  phase := upload.loop { uploadId := answer.uploadId }
                  initiated := some location }, after)
              else (upload.fail "Init failed", after)
        else (upload.fail "Init failed", storage)

/-- The put of a whole file. -/
def Upload.put (env : Env) (upload : Upload) (target : Location) (answer : Answer)
    (storage : Storage) : Upload × Storage :=
  if answer.served then
    if answer.delivered then
      (upload.enter (.done ((storage.putObject target upload.file).objects ⟨env.bid, upload.key⟩)),
        storage.putObject target upload.file)
    else (upload.fail "Upload failed", storage.putObject target upload.file)
  else (upload.fail "Upload failed", storage)

/-- The request for the URL of a part. -/
def Upload.presign (env : Env) (upload : Upload) (cursor : Cursor) (answer : Answer) : Upload :=
  match env.presignUploadPart cursor.uploadId cursor.partNumber with
  | .error error => upload.fail error
  | .ok target =>
      if answer.admitted then
        if answer.served && answer.delivered then
          (upload.call target [cursor.partNumber]).enter (.sending cursor target)
        else (upload.call target [cursor.partNumber]).fail "presign failed"
      else upload.fail "presign failed"

/-- What the dialog does with the answer to the put of a part. -/
def Upload.received (upload : Upload) (cursor : Cursor) (answer : Answer) (stored : Bool) : Phase :=
  if answer.delivered = false then .failed "Failed to fetch"
  else if retryableStatuses.contains answer.status then cursor.retry
  else if (200 ≤ answer.status && answer.status < 300 && stored) = false then .failed "Part failed"
  else if answer.exposed = false ∨ unquote answer.etag = [] then
    .failed "Part succeeded but no ETag"
  else upload.advance cursor (unquote answer.etag)

/-- The put of a part. -/
def Upload.send (upload : Upload) (cursor : Cursor) (target : MultipartUpload) (answer : Answer)
    (storage : Storage) : Upload × Storage :=
  if answer.served then
    match storage.uploadPart target.location target.uploadID cursor.partNumber answer.etag
        (upload.chunk cursor) with
    | none => (upload.enter (upload.received cursor answer false), storage)
    | some after => (upload.enter (upload.received cursor answer true), after)
  else (upload.enter (upload.received cursor answer false), storage)

/-- The abort, whose outcome is dropped. -/
def Upload.abort (env : Env) (upload : Upload) (cursor : Cursor) (answer : Answer)
    (storage : Storage) : Upload × Storage :=
  match env.abortMultipart cursor.uploadId upload.key with
  | .error _ => (upload.fail "Part failed after retries", storage)
  | .ok target =>
      (upload.fail "Part failed after retries",
        if answer.admitted && answer.served then
          storage.abortMultipart target.location target.uploadID
        else storage)

/-- The service completes the upload, or does not. -/
def Upload.completed (env : Env) (upload : Upload) (cursor : Cursor) (target : MultipartUpload)
    (answer : Answer) (storage : Storage) : Upload × Storage :=
  if answer.served then
    match storage.completeMultipart target.location target.uploadID cursor.uploaded with
    | none => (upload.fail "Complete failed", storage)
    | some after =>
        if answer.delivered then
          (upload.enter (.done (after.objects ⟨env.bid, upload.key⟩)), after)
        else (upload.fail "Complete failed", after)
  else (upload.fail "Complete failed", storage)

/-- The completion. -/
def Upload.complete (env : Env) (upload : Upload) (cursor : Cursor) (answer : Answer)
    (storage : Storage) : Upload × Storage :=
  match env.completeMultipart cursor.uploadId cursor.uploaded with
  | .error error => (upload.fail error, storage)
  | .ok target =>
      if answer.admitted then
        (upload.call target (cursor.uploaded.map Prod.fst)).completed env cursor target
          answer storage
      else (upload.fail "Complete failed", storage)

/-- The next request of an upload and its answer. -/
def Upload.request (env : Env) (upload : Upload) (answer : Answer) (storage : Storage) :
    Option (Upload × Storage) :=
  match upload.phase with
  | .starting => some (upload.begin env answer storage)
  | .putting target => some (upload.put env target answer storage)
  | .presigning cursor => some (upload.presign env cursor answer, storage)
  | .sending cursor target => some (upload.send cursor target answer storage)
  | .aborting cursor => some (upload.abort env cursor answer storage)
  | .completing cursor => some (upload.complete env cursor answer storage)
  | .done _ | .failed _ => none

/-! ## The system -/

structure System where
  storage : Storage
  uploads : SortedStore Nat Upload

/-- An upload starts or makes its next request, or somebody else writes or deletes an object. -/
inductive Event where
  | start (id : Nat) (key file : Bytes)
  | request (id : Nat) (answer : Answer)
  | write (location : Location) (body : Option Bytes)

def step (env : Env) (system : System) : Event -> Option System
  | .start id key file =>
      match system.uploads.get? id with
      | some _ => none
      | none => some { system with uploads := system.uploads.put id { key, file } }
  | .request id answer =>
      match system.uploads.get? id with
      | none => none
      | some upload =>
          (upload.request env answer system.storage).map fun result =>
            ⟨result.2, system.uploads.put id result.1⟩
  | .write location body =>
      some { system with
        storage := { system.storage with
          objects := Function.update system.storage.objects location body } }

def start (storage : Storage) : System := ⟨storage, .empty⟩

/-- What a step can be. -/
inductive Moved (env : Env) (system : System) : Event -> System -> Prop where
  | started (id : Nat) (key file : Bytes) (fresh : system.uploads.get? id = none) :
      Moved env system (.start id key file)
        { system with uploads := system.uploads.put id { key, file } }
  | requested (id : Nat) (answer : Answer) (upload after : Upload) (storage : Storage)
      (present : system.uploads.get? id = some upload)
      (requested : upload.request env answer system.storage = some (after, storage)) :
      Moved env system (.request id answer) ⟨storage, system.uploads.put id after⟩
  | written (location : Location) (body : Option Bytes) :
      Moved env system (.write location body)
        { system with
          storage := { system.storage with
            objects := Function.update system.storage.objects location body } }

theorem moved_of_step {env : Env} {system next : System} {event : Event}
    (taken : step env system event = some next) : Moved env system event next := by
  cases event with
  | start id key file =>
      simp only [step] at taken
      split at taken
      · cases taken
      · rename_i fresh
        cases Option.some.inj taken
        exact .started id key file fresh
  | request id answer =>
      simp only [step] at taken
      split at taken
      · cases taken
      · rename_i upload present
        rcases Option.map_eq_some_iff.mp taken with ⟨⟨after, storage⟩, requested, rfl⟩
        exact .requested id answer upload after storage present requested
  | write location body =>
      cases Option.some.inj taken
      exact .written location body

end Uploads
end Basement
