import Basement.Uploads.Landing

namespace Basement
namespace Uploads

open Library
open PercentEncoding (Bytes)

/-!
# Multipart uploads that are left behind

A run is what one upload does from its first request to its end, whatever becomes of each request.
Other uploads and other clients change the storage in between, so every request finds one of its
own.

An upload that the service has created is to be completed or aborted.  The dialog aborts it only
when a part has used up its retries; every other failure leaves it behind.
-/

/-! ## Runs -/

/-- A request of an upload, with its answer and the storage that it finds. -/
structure Exchange where
  before : Upload
  answer : Answer
  storage : Storage

/-- The number of requests that an upload can still make is no larger. -/
def Upload.budget (upload : Upload) : Nat :=
  match upload.phase with
  | .starting => 6 * upload.file.length + 10
  | .putting _ => 1
  | .presigning cursor =>
      6 * (upload.file.length - cursor.offset) + 2 * (partMaxRetries - cursor.retries) + 4
  | .sending cursor _ =>
      6 * (upload.file.length - cursor.offset) + 2 * (partMaxRetries - cursor.retries) + 3
  | .aborting _ | .completing _ => 1
  | .done _ | .failed _ => 0

/-- The requests of an upload, and the upload after them. -/
def Upload.runFor (env : Env) : Nat -> Upload -> (Nat -> Answer × Storage) -> List Exchange × Upload
  | 0, upload, _ => ([], upload)
  | fuel + 1, upload, outcomes =>
      match upload.request env (outcomes 0).1 (outcomes 0).2 with
      | none => ([], upload)
      | some (after, _) =>
          let rest := Upload.runFor env fuel after fun index => outcomes (index + 1)
          (⟨upload, (outcomes 0).1, (outcomes 0).2⟩ :: rest.1, rest.2)

/-- A `doUpload` of a file under a key. -/
def run (env : Env) (key file : Bytes) (outcomes : Nat -> Answer × Storage) :
    List Exchange × Upload :=
  Upload.runFor env (Upload.budget { key, file }) { key, file } outcomes

/-! ## What a request does -/

namespace Exchange

variable (env : Env)

/-- The ID of the multipart upload that the service creates. -/
def created (exchange : Exchange) : Option Bytes :=
  if exchange.before.phase = .starting ∧ chunkSize < exchange.before.file.length then
    match env.initMultipart exchange.before.key with
    | .error _ => none
    | .ok location =>
        if exchange.answer.admitted && exchange.answer.served then
          (exchange.storage.createMultipart location exchange.answer.uploadId).map fun _ =>
            exchange.answer.uploadId
        else none
  else none

/-- The service completes a cursor's upload. -/
def completed (exchange : Exchange) (cursor : Cursor) : Bool :=
  match env.completeMultipart cursor.uploadId cursor.uploaded with
  | .error _ => false
  | .ok target =>
      exchange.answer.admitted && exchange.answer.served &&
        (exchange.storage.completeMultipart target.location target.uploadID cursor.uploaded).isSome

/-- The URL of a cursor's part arrives. -/
def signed (exchange : Exchange) (cursor : Cursor) : Bool :=
  match env.presignUploadPart cursor.uploadId cursor.partNumber with
  | .error _ => false
  | .ok _ => exchange.answer.admitted && exchange.answer.served && exchange.answer.delivered

/-- The service stores a part and answers with its etag. -/
def stored (exchange : Exchange) (cursor : Cursor) (target : MultipartUpload) : Bool :=
  exchange.answer.served &&
    (exchange.storage.uploadPart target.location target.uploadID cursor.partNumber
      exchange.answer.etag (exchange.before.chunk cursor)).isSome

/-- The answer to the put of a part is a success that the dialog can use. -/
def accepted (exchange : Exchange) (cursor : Cursor) (target : MultipartUpload) : Bool :=
  exchange.answer.delivered && !retryableStatuses.contains exchange.answer.status &&
    (200 ≤ exchange.answer.status && exchange.answer.status < 300 && exchange.stored cursor target) &&
    exchange.answer.exposed && !(unquote exchange.answer.etag).isEmpty

/-- The answer to the put of a part asks for another attempt. -/
def retried (exchange : Exchange) : Bool :=
  exchange.answer.delivered && retryableStatuses.contains exchange.answer.status

/-- A request that completes the multipart upload with an ID. -/
def Completes (id : Bytes) (exchange : Exchange) : Prop :=
  Exists fun cursor => exchange.before.phase = .completing cursor ∧ cursor.uploadId = id ∧
    exchange.completed env cursor = true

/-- A request to abort it. -/
def Aborts (id : Bytes) (exchange : Exchange) : Prop :=
  Exists fun cursor => exchange.before.phase = .aborting cursor ∧ cursor.uploadId = id

/-- A request that puts a listed part: the chunk of the file at its place. -/
def Stores (id : Bytes) (part : Nat × Bytes) (exchange : Exchange) : Prop :=
  Exists fun cursor => Exists fun target =>
    exchange.before.phase = .sending cursor target ∧ cursor.uploadId = id ∧
      cursor.partNumber = part.1 ∧ cursor.offset = (part.1 - 1) * chunkSize ∧
      exchange.stored cursor target = true ∧ unquote exchange.answer.etag = part.2

/-- The request does not end the run on one of the exits that abort nothing. -/
def Fine (exchange : Exchange) : Prop :=
  match exchange.before.phase with
  | .starting => exchange.created env ≠ none -> exchange.answer.delivered = true
  | .presigning cursor => exchange.signed env cursor = true
  | .sending cursor target => exchange.retried = true ∨ exchange.accepted cursor target = true
  | .completing cursor => exchange.completed env cursor = true
  | .putting _ | .aborting _ | .done _ | .failed _ => True

end Exchange

/-- Nothing is left to be requested. -/
def Upload.over (upload : Upload) : Prop :=
  (Exists fun found => upload.phase = .done found) ∨ Exists fun error => upload.phase = .failed error

/-- What an upload can be after a request. -/
inductive Exchange.Leaves (env : Env) (exchange : Exchange) (after : Upload) : Prop where
  | putting (target : Location) (first : exchange.before.phase = .starting)
      (none : exchange.created env = none) (phase : after.phase = .putting target)
  | refused (first : exchange.before.phase = .starting) (none : exchange.created env = none)
      (ended : after.over)
  | begun (id : Bytes) (first : exchange.before.phase = .starting)
      (some : exchange.created env = some id) (delivered : exchange.answer.delivered = true)
      (file : after.file = exchange.before.file)
      (phase : after.phase = exchange.before.loop { uploadId := id })
  | lost (id : Bytes) (first : exchange.before.phase = .starting)
      (some : exchange.created env = some id) (lost : exchange.answer.delivered = false)
      (ended : after.over)
  | put (target : Location) (current : exchange.before.phase = .putting target) (ended : after.over)
  | signed (cursor : Cursor) (target : MultipartUpload)
      (current : exchange.before.phase = .presigning cursor)
      (signed : exchange.signed env cursor = true) (file : after.file = exchange.before.file)
      (phase : after.phase = .sending cursor target)
  | unsigned (cursor : Cursor) (current : exchange.before.phase = .presigning cursor)
      (unsigned : exchange.signed env cursor = false) (ended : after.over)
  | retried (cursor : Cursor) (target : MultipartUpload)
      (current : exchange.before.phase = .sending cursor target)
      (retried : exchange.retried = true) (file : after.file = exchange.before.file)
      (phase : after.phase = cursor.retry)
  | accepted (cursor : Cursor) (target : MultipartUpload)
      (current : exchange.before.phase = .sending cursor target)
      (accepted : exchange.accepted cursor target = true) (file : after.file = exchange.before.file)
      (phase : after.phase = exchange.before.advance cursor (unquote exchange.answer.etag))
  | rejected (cursor : Cursor) (target : MultipartUpload)
      (current : exchange.before.phase = .sending cursor target)
      (unretried : exchange.retried = false) (rejected : exchange.accepted cursor target = false)
      (ended : after.over)
  | aborted (cursor : Cursor) (current : exchange.before.phase = .aborting cursor)
      (ended : after.over)
  | completing (cursor : Cursor) (current : exchange.before.phase = .completing cursor)
      (ended : after.over)

section Requests

variable {env : Env} {upload after : Upload} {answer : Answer} {storage next : Storage}

theorem fail_over (upload : Upload) (error : String) : (upload.fail error).over :=
  Or.inr ⟨error, rfl⟩

theorem begin_leaves (first : upload.phase = .starting) :
    Exchange.Leaves env ⟨upload, answer, storage⟩ (upload.begin env answer storage).1 := by
  rw [Upload.begin]
  by_cases small : upload.file.length ≤ chunkSize
  · have none : Exchange.created env ⟨upload, answer, storage⟩ = none := by
      rw [Exchange.created, if_neg]
      intro large
      exact absurd large.2 (Nat.not_lt.mpr small)
    rw [if_pos small]
    cases env.presignPut upload.key with
    | error error => exact .refused first none (fail_over _ _)
    | ok target =>
        simp only
        split
        · exact .putting target first none rfl
        · exact .refused first none (fail_over _ _)
  · have large : upload.phase = .starting ∧ chunkSize < upload.file.length :=
      ⟨first, Nat.lt_of_not_le small⟩
    have created : Exchange.created env ⟨upload, answer, storage⟩ =
        match env.initMultipart upload.key with
        | .error _ => none
        | .ok location =>
            if answer.admitted && answer.served then
              (storage.createMultipart location answer.uploadId).map fun _ => answer.uploadId
            else none := by
      rw [Exchange.created, if_pos large]
    rw [if_neg small]
    cases init : env.initMultipart upload.key with
    | error error =>
        rw [init] at created
        exact .refused first created (fail_over _ _)
    | ok location =>
        simp only [init] at created ⊢
        by_cases reached : (answer.admitted && answer.served) = true
        · rw [if_pos reached] at created
          rw [if_pos reached]
          cases made : storage.createMultipart location answer.uploadId with
          | none =>
              rw [made] at created
              exact .refused first created (fail_over _ _)
          | some newer =>
              rw [made] at created
              simp only
              by_cases delivered : answer.delivered = true
              · rw [if_pos delivered]
                exact .begun answer.uploadId first created delivered rfl rfl
              · rw [if_neg delivered]
                exact .lost answer.uploadId first created (Bool.eq_false_iff.mpr delivered)
                  (fail_over _ _)
        · rw [if_neg reached] at created
          rw [if_neg reached]
          exact .refused first created (fail_over _ _)

theorem presign_leaves {cursor : Cursor} (current : upload.phase = .presigning cursor) :
    Exchange.Leaves env ⟨upload, answer, storage⟩ (upload.presign env cursor answer) := by
  have signed : Exchange.signed env ⟨upload, answer, storage⟩ cursor =
      match env.presignUploadPart cursor.uploadId cursor.partNumber with
      | .error _ => false
      | .ok _ => answer.admitted && answer.served && answer.delivered := rfl
  rw [Upload.presign]
  cases asked : env.presignUploadPart cursor.uploadId cursor.partNumber with
  | error error =>
      rw [asked] at signed
      exact .unsigned cursor current signed (fail_over _ _)
  | ok target =>
      simp only [asked] at signed ⊢
      cases admitted : answer.admitted with
      | false =>
          rw [admitted] at signed
          exact .unsigned cursor current signed (fail_over _ _)
      | true =>
          rw [admitted, Bool.true_and] at signed
          simp only [if_true]
          split
          · rename_i arrived
            exact .signed cursor target current (signed.trans arrived) rfl rfl
          · rename_i missing
            exact .unsigned cursor current (signed.trans (Bool.eq_false_iff.mpr missing))
              (fail_over _ _)

/-- The put of a part, by whether the service has stored it. -/
theorem send_eq {cursor : Cursor} {target : MultipartUpload} :
    (upload.send cursor target answer storage).1 =
      upload.enter (upload.received cursor answer
        (Exchange.stored ⟨upload, answer, storage⟩ cursor target)) := by
  rw [Upload.send, Exchange.stored]
  cases answer.served with
  | false => rfl
  | true =>
      simp only [if_true, Bool.true_and]
      cases storage.uploadPart target.location target.uploadID cursor.partNumber answer.etag
        (upload.chunk cursor) <;> rfl

theorem send_leaves {cursor : Cursor} {target : MultipartUpload}
    (current : upload.phase = .sending cursor target) :
    Exchange.Leaves env ⟨upload, answer, storage⟩ (upload.send cursor target answer storage).1 := by
  rw [send_eq, Upload.received]
  have retried : Exchange.retried ⟨upload, answer, storage⟩ =
      (answer.delivered && retryableStatuses.contains answer.status) := rfl
  have accepted : Exchange.accepted ⟨upload, answer, storage⟩ cursor target =
      (answer.delivered && !retryableStatuses.contains answer.status &&
        (200 ≤ answer.status && answer.status < 300 &&
          Exchange.stored ⟨upload, answer, storage⟩ cursor target) &&
        answer.exposed && !(unquote answer.etag).isEmpty) := rfl
  have ended (error : String) : (upload.enter (.failed error)).over := Or.inr ⟨error, rfl⟩
  by_cases delivered : answer.delivered = false
  · rw [if_pos delivered]
    rw [delivered] at retried accepted
    exact .rejected cursor target current retried accepted (ended _)
  · rw [Bool.not_eq_false] at delivered
    rw [if_neg (Bool.not_eq_false _ ▸ delivered)]
    rw [delivered, Bool.true_and] at retried accepted
    by_cases again : retryableStatuses.contains answer.status = true
    · rw [if_pos again]
      exact .retried cursor target current (retried.trans again) rfl rfl
    · rw [if_neg again]
      rw [Bool.not_eq_true] at again
      rw [again] at retried
      rw [again, Bool.not_false, Bool.true_and] at accepted
      by_cases failed : (200 ≤ answer.status && answer.status < 300 &&
          Exchange.stored ⟨upload, answer, storage⟩ cursor target) = false
      · rw [if_pos failed]
        rw [failed] at accepted
        exact .rejected cursor target current retried accepted (ended _)
      · rw [if_neg failed]
        rw [Bool.not_eq_false] at failed
        rw [failed, Bool.true_and] at accepted
        by_cases hidden : answer.exposed = false ∨ unquote answer.etag = []
        · rw [if_pos hidden]
          have useless : (answer.exposed && !(unquote answer.etag).isEmpty) = false := by
            rcases hidden with hidden | empty
            · rw [hidden, Bool.false_and]
            · rw [empty, List.isEmpty_nil, Bool.not_true, Bool.and_false]
          exact .rejected cursor target current retried (accepted.trans useless) (ended _)
        · rw [if_neg hidden]
          rw [not_or, Bool.not_eq_false] at hidden
          have useful : (answer.exposed && !(unquote answer.etag).isEmpty) = true := by
            rw [hidden.1, Bool.true_and, Bool.not_eq_true', List.isEmpty_eq_false_iff]
            exact hidden.2
          exact .accepted cursor target current (accepted.trans useful) rfl rfl

theorem complete_over (cursor : Cursor) : (upload.complete env cursor answer storage).1.over := by
  rw [Upload.complete]
  split
  · exact fail_over _ _
  · split
    · rw [Upload.completed]
      split
      · split
        · exact fail_over _ _
        · split
          · exact Or.inl ⟨_, rfl⟩
          · exact fail_over _ _
      · exact fail_over _ _
    · exact fail_over _ _

theorem put_over (target : Location) : (upload.put env target answer storage).1.over := by
  rw [Upload.put]
  split
  · split
    · exact Or.inl ⟨_, rfl⟩
    · exact fail_over _ _
  · exact fail_over _ _

theorem abort_over (cursor : Cursor) : (upload.abort env cursor answer storage).1.over := by
  rw [Upload.abort]
  split <;> exact fail_over _ _

/-- An upload either is over or makes a request, and a request leaves one of these. -/
theorem request_leaves :
    (upload.over ∧ upload.request env answer storage = none) ∨
      Exists fun after => Exists fun next =>
        upload.request env answer storage = some (after, next) ∧
          Exchange.Leaves env ⟨upload, answer, storage⟩ after := by
  rw [Upload.request]
  cases current : upload.phase with
  | starting => exact Or.inr ⟨_, _, rfl, begin_leaves current⟩
  | putting target => exact Or.inr ⟨_, _, rfl, .put target current (put_over target)⟩
  | presigning cursor => exact Or.inr ⟨_, _, rfl, presign_leaves current⟩
  | sending cursor target => exact Or.inr ⟨_, _, rfl, send_leaves current⟩
  | aborting cursor => exact Or.inr ⟨_, _, rfl, .aborted cursor current (abort_over cursor)⟩
  | completing cursor => exact Or.inr ⟨_, _, rfl, .completing cursor current (complete_over cursor)⟩
  | done found => exact Or.inl ⟨Or.inl ⟨found, current⟩, rfl⟩
  | failed error => exact Or.inl ⟨Or.inr ⟨error, current⟩, rfl⟩

end Requests

/-! ## Every run ends -/

/-- What the loop over the parts leaves to be requested. -/
theorem loop_budget {upload after : Upload} {cursor : Cursor} (file : after.file = upload.file)
    (phase : after.phase = upload.loop cursor) :
    (upload.file.length ≤ cursor.offset ∧ after.budget = 1) ∨
      (cursor.offset < upload.file.length ∧ after.budget =
        6 * (upload.file.length - cursor.offset) + 2 * (partMaxRetries - cursor.retries) + 4) := by
  rw [Upload.loop] at phase
  by_cases more : cursor.offset < upload.file.length
  · rw [if_pos more] at phase
    right
    rw [Upload.budget, phase, file]
    exact ⟨more, rfl⟩
  · rw [if_neg more] at phase
    left
    rw [Upload.budget, phase]
    exact ⟨Nat.le_of_not_lt more, rfl⟩

theorem Upload.over.budget {upload : Upload} (ended : upload.over) : upload.budget = 0 := by
  rcases ended with ⟨found, phase⟩ | ⟨error, phase⟩
  · rw [Upload.budget, phase]
  · rw [Upload.budget, phase]

/-- Every request leaves less to be done. -/
theorem Exchange.Leaves.budget_lt {env : Env} {exchange : Exchange} {after : Upload}
    (leaves : exchange.Leaves env after) : after.budget < exchange.before.budget := by
  cases leaves with
  | putting target first none phase =>
      simp only [Upload.budget, phase, first]
      omega
  | refused first none ended =>
      rw [ended.budget, Upload.budget, first]
      exact Nat.succ_pos _
  | begun id first some delivered file phase =>
      have left := loop_budget file phase
      rw [Upload.budget.eq_def exchange.before, first]
      simp only [partMaxRetries] at left ⊢
      omega
  | lost id first some lost ended =>
      rw [ended.budget, Upload.budget, first]
      exact Nat.succ_pos _
  | put target current ended =>
      rw [ended.budget, Upload.budget, current]
      exact Nat.one_pos
  | signed cursor target current signed file phase =>
      simp only [Upload.budget, phase, current, file]
      omega
  | unsigned cursor current unsigned ended =>
      rw [ended.budget, Upload.budget, current]
      exact Nat.succ_pos _
  | retried cursor target current retried file phase =>
      rw [Cursor.retry] at phase
      by_cases again : cursor.retries + 1 ≤ partMaxRetries
      · rw [if_pos again] at phase
        simp only [Upload.budget, phase, current, file]
        omega
      · rw [if_neg again] at phase
        simp only [Upload.budget, phase, current]
        omega
  | accepted cursor target current accepted file phase =>
      have left := loop_budget file phase
      rw [Upload.budget.eq_def exchange.before, current]
      simp only [partMaxRetries, chunkSize] at left ⊢
      omega
  | rejected cursor target current unretried rejected ended =>
      rw [ended.budget, Upload.budget, current]
      exact Nat.succ_pos _
  | aborted cursor current ended =>
      rw [ended.budget, Upload.budget, current]
      exact Nat.one_pos
  | completing cursor current ended =>
      rw [ended.budget, Upload.budget, current]
      exact Nat.one_pos

/-! ## From the initiation to the end -/

/-- The multipart upload that a request is about. -/
def Phase.uploadId (phase : Phase) : Option Bytes := phase.cursor.map Cursor.uploadId

theorem retry_cursor (cursor : Cursor) :
    cursor.retry.cursor = some { cursor with retries := cursor.retries + 1 } := by
  rw [Cursor.retry]
  split <;> rfl

theorem loop_uploadId (upload : Upload) (cursor : Cursor) :
    (upload.loop cursor).uploadId = some cursor.uploadId := by
  rw [Phase.uploadId, (upload.loop_late cursor).2, Option.map_some]

theorem retry_uploadId (cursor : Cursor) : cursor.retry.uploadId = some cursor.uploadId := by
  rw [Phase.uploadId, retry_cursor, Option.map_some]

theorem Upload.over.cursor {upload : Upload} (ended : upload.over) : upload.phase.cursor = none := by
  rcases ended with ⟨found, phase⟩ | ⟨error, phase⟩ <;> rw [phase] <;> rfl

theorem Upload.over.uploadId {upload : Upload} (ended : upload.over) :
    upload.phase.uploadId = none := by
  rw [Phase.uploadId, ended.cursor, Option.map_none]

section Settled

variable {env : Env} {id : Bytes}

/-- A request for a multipart upload either is fine and the upload goes on, or is the last one.
Then it is fine exactly if it completes or aborts the upload. -/
theorem Exchange.Leaves.settles {exchange : Exchange} {after : Upload}
    (leaves : exchange.Leaves env after) (about : exchange.before.phase.uploadId = some id) :
    (after.phase.uploadId = some id ∧ exchange.Fine env) ∨
      (after.over ∧ (exchange.Completes env id ∨ exchange.Aborts id ↔ exchange.Fine env)) := by
  cases leaves with
  | putting target first none phase =>
      rw [first] at about
      cases about
  | refused first none ended =>
      rw [first] at about
      cases about
  | begun other first some delivered file phase =>
      rw [first] at about
      cases about
  | lost other first some lost ended =>
      rw [first] at about
      cases about
  | put target current ended =>
      rw [current] at about
      cases about
  | signed cursor target current signed file phase =>
      left
      rw [current] at about
      rw [phase, Exchange.Fine, current]
      exact ⟨about, signed⟩
  | unsigned cursor current unsigned ended =>
      right
      refine ⟨ended, iff_of_false ?_ ?_⟩
      · rintro (⟨other, phase, -⟩ | ⟨other, phase, -⟩) <;> cases current.symm.trans phase
      · rw [Exchange.Fine, current]
        exact Bool.eq_false_iff.mp unsigned
  | retried cursor target current retried file phase =>
      left
      rw [current] at about
      rw [phase, retry_uploadId, Exchange.Fine, current]
      exact ⟨about, Or.inl retried⟩
  | accepted cursor target current accepted file phase =>
      left
      rw [current] at about
      rw [phase, Upload.advance, loop_uploadId, Exchange.Fine, current]
      exact ⟨about, Or.inr accepted⟩
  | rejected cursor target current unretried rejected ended =>
      right
      refine ⟨ended, iff_of_false ?_ ?_⟩
      · rintro (⟨other, phase, -⟩ | ⟨other, phase, -⟩) <;> cases current.symm.trans phase
      · rw [Exchange.Fine, current]
        rintro (again | taken)
        · exact Bool.eq_false_iff.mp unretried again
        · exact Bool.eq_false_iff.mp rejected taken
  | aborted cursor current ended =>
      right
      rw [current] at about
      refine ⟨ended, iff_of_true (Or.inr ⟨cursor, current, Option.some.inj about⟩) ?_⟩
      rw [Exchange.Fine, current]
      trivial
  | completing cursor current ended =>
      right
      rw [current] at about
      refine ⟨ended, ?_⟩
      rw [Exchange.Fine, current]
      constructor
      · rintro (⟨other, phase, -, completed⟩ | ⟨other, phase, -⟩)
        · cases current.symm.trans phase
          exact completed
        · cases current.symm.trans phase
      · intro completed
        exact Or.inl ⟨cursor, current, Option.some.inj about, completed⟩

theorem runFor_over {fuel : Nat} {upload : Upload} {outcomes : Nat -> Answer × Storage}
    (ended : upload.over) : upload.runFor env fuel outcomes = ([], upload) := by
  cases fuel with
  | zero => rfl
  | succ fuel =>
      rcases @request_leaves env upload (outcomes 0).1 (outcomes 0).2 with
        ⟨-, none⟩ | ⟨after, next, made, leaves⟩
      · rw [Upload.runFor, none]
      · have less := leaves.budget_lt
        rw [ended.budget] at less
        exact absurd less (Nat.not_lt_zero _)

/-- The first request of a run, and the rest of it. -/
theorem runFor_succ (fuel : Nat) {upload : Upload} (outcomes : Nat -> Answer × Storage)
    (running : ¬ upload.over) :
    Exists fun after : Upload =>
      Exchange.Leaves env ⟨upload, (outcomes 0).1, (outcomes 0).2⟩ after ∧
        upload.runFor env (fuel + 1) outcomes =
          (⟨upload, (outcomes 0).1, (outcomes 0).2⟩ ::
              (after.runFor env fuel fun index => outcomes (index + 1)).1,
            (after.runFor env fuel fun index => outcomes (index + 1)).2) := by
  rcases @request_leaves env upload (outcomes 0).1 (outcomes 0).2 with
    ⟨ended, -⟩ | ⟨after, next, made, leaves⟩
  · exact absurd ended running
  · refine ⟨after, leaves, ?_⟩
    rw [Upload.runFor, made]

theorem not_over_of_uploadId {upload : Upload} (about : upload.phase.uploadId = some id) :
    ¬ upload.over := by
  intro ended
  rw [ended.uploadId] at about
  cases about

theorem budget_pos {upload : Upload} (running : ¬ upload.over) : 0 < upload.budget := by
  rw [Upload.budget]
  cases phase : upload.phase with
  | done found => exact absurd (Or.inl ⟨found, phase⟩) running
  | failed error => exact absurd (Or.inr ⟨error, phase⟩) running
  | _ => exact Nat.succ_pos _

/-- A run of an upload has nothing left to be requested at its end. -/
theorem runFor_ends (fuel : Nat) {upload : Upload} (outcomes : Nat -> Answer × Storage)
    (enough : upload.budget ≤ fuel) : (upload.runFor env fuel outcomes).2.over := by
  induction fuel generalizing upload outcomes with
  | zero =>
      by_contra running
      have positive : 0 < upload.budget := budget_pos running
      omega
  | succ fuel ih =>
      by_cases ended : upload.over
      · rw [runFor_over ended]
        exact ended
      · rcases @runFor_succ env fuel upload outcomes ended with ⟨after, leaves, unrolled⟩
        rw [unrolled]
        have less := leaves.budget_lt
        exact ih _ (Nat.le_of_lt_succ (Nat.lt_of_lt_of_le less enough))

theorem runFor_ne_nil {fuel : Nat} {upload : Upload} (outcomes : Nat -> Answer × Storage)
    (enough : upload.budget ≤ fuel) (running : ¬ upload.over) :
    (upload.runFor env fuel outcomes).1 ≠ [] := by
  cases fuel with
  | zero =>
      have positive := budget_pos running
      omega
  | succ fuel =>
      rcases @runFor_succ env fuel upload outcomes running with ⟨after, -, unrolled⟩
      rw [unrolled]
      exact List.cons_ne_nil _ _

/-- Once the upload is under way, the run ends with its completion or its abort exactly if every
request is fine. -/
theorem runFor_settled (fuel : Nat) {upload : Upload} (outcomes : Nat -> Answer × Storage)
    (enough : upload.budget ≤ fuel) (about : upload.phase.uploadId = some id) :
    (Exists fun last => (upload.runFor env fuel outcomes).1.getLast? = some last ∧
        (last.Completes env id ∨ last.Aborts id)) ↔
      forall exchange, exchange ∈ (upload.runFor env fuel outcomes).1 -> exchange.Fine env := by
  induction fuel generalizing upload outcomes with
  | zero =>
      have positive := budget_pos (not_over_of_uploadId about)
      omega
  | succ fuel ih =>
      rcases @runFor_succ env fuel upload outcomes (not_over_of_uploadId about) with
        ⟨after, leaves, unrolled⟩
      rw [unrolled]
      simp only [List.forall_mem_cons]
      have left := Nat.le_of_lt_succ (Nat.lt_of_lt_of_le leaves.budget_lt enough)
      rcases leaves.settles about with ⟨going, fine⟩ | ⟨ended, last⟩
      · rw [and_iff_right fine, ← ih _ left going,
          List.getLast?_cons_of_ne_nil (runFor_ne_nil _ left (not_over_of_uploadId going))]
      · rw [runFor_over ended]
        simp only [List.getLast?_singleton, Option.some.injEq, List.not_mem_nil, false_implies,
          implies_true, and_true]
        rw [← last]
        constructor
        · rintro ⟨exchange, rfl, settled⟩
          exact settled
        · intro settled
          exact ⟨_, rfl, settled⟩

end Settled

/-! ## No part is missing -/

/-- The parts of a file. -/
def partCount (file : Bytes) : Nat := (file.length + chunkSize - 1) / chunkSize

/-- The parts before the current one are listed, and each was stored by one of the requests. -/
structure Covered (made : List Exchange) (file : Bytes) (cursor : Cursor) : Prop where
  number : 1 ≤ cursor.partNumber
  offset : cursor.offset = min file.length ((cursor.partNumber - 1) * chunkSize)
  needed : cursor.partNumber = 1 ∨ (cursor.partNumber - 2) * chunkSize < file.length
  numbers : cursor.uploaded.map Prod.fst = List.range' 1 (cursor.partNumber - 1)
  stored : forall part, part ∈ cursor.uploaded ->
    Exists fun exchange => exchange ∈ made ∧ exchange.Stores cursor.uploadId part

/-- What is known of an upload after some requests. -/
structure Upload.Reached (made : List Exchange) (upload : Upload) : Prop where
  covered : forall cursor, upload.phase.cursor = some cursor -> Covered made upload.file cursor
  left : forall cursor target, upload.phase = .sending cursor target ->
    cursor.offset < upload.file.length
  more : forall cursor, upload.phase = .presigning cursor -> cursor.offset < upload.file.length
  all : forall cursor, upload.phase = .completing cursor -> upload.file.length ≤ cursor.offset

section Covering

variable {env : Env} {made : List Exchange}

theorem reached_of_no_cursor {upload : Upload} (none : upload.phase.cursor = none) :
    upload.Reached made := by
  constructor
  case covered =>
    intro cursor current
    rw [none] at current
    cases current
  case left =>
    intro cursor target current
    rw [current] at none
    cases none
  case more =>
    intro cursor current
    rw [current] at none
    cases none
  case all =>
    intro cursor current
    rw [current] at none
    cases none

theorem Covered.append {file : Bytes} {cursor : Cursor} (covered : Covered made file cursor)
    (exchange : Exchange) : Covered (made ++ [exchange]) file cursor where
  number := covered.number
  offset := covered.offset
  needed := covered.needed
  numbers := covered.numbers
  stored := by
    intro part member
    rcases covered.stored part member with ⟨earlier, before, stores⟩
    exact ⟨earlier, List.mem_append_left _ before, stores⟩

/-- The loop goes on exactly while the file has bytes left. -/
theorem reached_of_loop {upload after : Upload} {cursor : Cursor} (file : after.file = upload.file)
    (phase : after.phase = upload.loop cursor) (covered : Covered made upload.file cursor) :
    after.Reached made := by
  have about := (upload.loop_late cursor).2
  rw [← phase] at about
  rw [Upload.loop] at phase
  constructor
  case covered =>
    intro other current
    cases about.symm.trans current
    rw [file]
    exact covered
  case left =>
    intro other target current
    split at phase <;> cases phase.symm.trans current
  case more =>
    intro other current
    split at phase
    · rename_i more
      cases phase.symm.trans current
      rw [file]
      exact more
    · cases phase.symm.trans current
  case all =>
    intro other current
    split at phase
    · cases phase.symm.trans current
    · rename_i none
      cases phase.symm.trans current
      rw [file]
      exact Nat.le_of_not_lt none

/-- A part that is tried again has bytes, and no other cursor. -/
theorem reached_of_retry {upload after : Upload} {cursor : Cursor} (file : after.file = upload.file)
    (phase : after.phase = cursor.retry) (covered : Covered made upload.file cursor)
    (left : cursor.offset < upload.file.length) : after.Reached made := by
  have about := retry_cursor cursor
  rw [← phase] at about
  rw [Cursor.retry] at phase
  constructor
  case covered =>
    intro other current
    cases about.symm.trans current
    rw [file]
    exact ⟨covered.number, covered.offset, covered.needed, covered.numbers, covered.stored⟩
  case left =>
    intro other target current
    split at phase <;> cases phase.symm.trans current
  case more =>
    intro other current
    split at phase
    · cases phase.symm.trans current
      rw [file]
      exact left
    · cases phase.symm.trans current
  case all =>
    intro other current
    split at phase <;> cases phase.symm.trans current

theorem stores_of_accepted {exchange : Exchange} {cursor : Cursor} {target : MultipartUpload}
    (current : exchange.before.phase = .sending cursor target)
    (accepted : exchange.accepted cursor target = true)
    (offset : cursor.offset = (cursor.partNumber - 1) * chunkSize) :
    exchange.Stores cursor.uploadId (cursor.partNumber, unquote exchange.answer.etag) := by
  simp only [Exchange.accepted, Bool.and_eq_true] at accepted
  exact ⟨cursor, target, current, rfl, rfl, offset, accepted.1.1.2.2, rfl⟩

/-- A part that was accepted is covered. -/
theorem Covered.advance {exchange : Exchange} {cursor : Cursor} {target : MultipartUpload}
    (covered : Covered made exchange.before.file cursor)
    (left : cursor.offset < exchange.before.file.length)
    (current : exchange.before.phase = .sending cursor target)
    (accepted : exchange.accepted cursor target = true) :
    Covered (made ++ [exchange]) exchange.before.file
      { uploadId := cursor.uploadId
        offset := cursor.offset + min chunkSize (exchange.before.file.length - cursor.offset)
        partNumber := cursor.partNumber + 1
        retries := 0
        uploaded := cursor.uploaded ++ [(cursor.partNumber, unquote exchange.answer.etag)] } := by
  have number := covered.number
  have place : cursor.offset = (cursor.partNumber - 1) * chunkSize := by
    have offset := covered.offset
    omega
  constructor
  case number => exact Nat.le_add_left 1 _
  case offset =>
    simp only [Nat.add_sub_cancel]
    simp only [chunkSize] at place ⊢
    omega
  case needed =>
    right
    rw [show cursor.partNumber + 1 - 2 = cursor.partNumber - 1 by omega, ← place]
    exact left
  case numbers =>
    rw [List.map_append, covered.numbers, List.map_singleton, Nat.add_sub_cancel,
      show cursor.partNumber = cursor.partNumber - 1 + 1 by omega, Nat.add_sub_cancel,
      List.range'_concat]
    simp only [Nat.one_mul, Nat.add_comm]
  case stored =>
    intro part member
    rcases List.mem_append.mp member with earlier | last
    · exact (covered.append exchange).stored part earlier
    · rw [List.mem_singleton.mp last]
      exact ⟨exchange, List.mem_append_right _ List.mem_cons_self,
        stores_of_accepted current accepted place⟩

theorem Exchange.Leaves.reached {exchange : Exchange} {after : Upload}
    (leaves : exchange.Leaves env after) (reached : exchange.before.Reached made) :
    after.Reached (made ++ [exchange]) := by
  cases leaves with
  | putting target first none phase =>
      apply reached_of_no_cursor
      rw [phase]
      rfl
  | refused first none ended => exact reached_of_no_cursor ended.cursor
  | begun id first some delivered file phase =>
      apply reached_of_loop file phase
      constructor
      case number => exact Nat.le_refl 1
      case offset => rw [Nat.sub_self, Nat.zero_mul, Nat.min_zero]
      case needed => exact Or.inl rfl
      case numbers => rfl
      case stored =>
        intro part member
        cases member
  | lost id first some lost ended => exact reached_of_no_cursor ended.cursor
  | put target current ended => exact reached_of_no_cursor ended.cursor
  | signed cursor target current signed file phase =>
      have covered := (reached.covered cursor (by rw [current]; rfl)).append exchange
      constructor
      case covered =>
        intro other now
        rw [phase] at now
        rw [← Option.some.inj now, file]
        exact covered
      case left =>
        intro other place now
        cases phase.symm.trans now
        rw [file]
        exact reached.more cursor current
      case more =>
        intro other now
        cases phase.symm.trans now
      case all =>
        intro other now
        cases phase.symm.trans now
  | unsigned cursor current unsigned ended => exact reached_of_no_cursor ended.cursor
  | retried cursor target current retried file phase =>
      have covered := (reached.covered cursor (by rw [current]; rfl)).append exchange
      exact reached_of_retry file phase covered (reached.left cursor target current)
  | accepted cursor target current accepted file phase =>
      apply reached_of_loop file phase
      have covered := reached.covered cursor (by rw [current]; rfl)
      exact covered.advance (reached.left cursor target current) current accepted
  | rejected cursor target current unretried rejected ended =>
      exact reached_of_no_cursor ended.cursor
  | aborted cursor current ended => exact reached_of_no_cursor ended.cursor
  | completing cursor current ended => exact reached_of_no_cursor ended.cursor

/-- The parts that a completion lists are all the parts of the file, stored before it. -/
def Whole (made : List Exchange) (exchange : Exchange) : Prop :=
  forall cursor, exchange.before.phase = .completing cursor ->
    cursor.uploaded.map Prod.fst = List.range' 1 (partCount exchange.before.file) ∧
      forall part, part ∈ cursor.uploaded ->
        Exists fun earlier => earlier ∈ made ∧ earlier.Stores cursor.uploadId part

theorem whole_of_reached {exchange : Exchange} (reached : exchange.before.Reached made) :
    Whole made exchange := by
  intro cursor current
  have covered := reached.covered cursor (by rw [current]; rfl)
  have all := reached.all cursor current
  refine ⟨?_, covered.stored⟩
  have count : cursor.partNumber - 1 = partCount exchange.before.file := by
    have number := covered.number
    have offset := covered.offset
    have needed := covered.needed
    rw [partCount]
    simp only [chunkSize] at offset needed ⊢
    omega
  rw [covered.numbers, count]

theorem runFor_whole (fuel : Nat) {upload : Upload} (outcomes : Nat -> Answer × Storage)
    (reached : upload.Reached made) {before : List Exchange} {exchange : Exchange}
    {later : List Exchange}
    (place : (upload.runFor env fuel outcomes).1 = before ++ exchange :: later) :
    Whole (made ++ before) exchange := by
  induction fuel generalizing upload outcomes made before with
  | zero => cases before <;> cases place
  | succ fuel ih =>
      by_cases ended : upload.over
      · rw [runFor_over ended] at place
        cases before <;> cases place
      · rcases @runFor_succ env fuel upload outcomes ended with ⟨after, leaves, unrolled⟩
        rw [unrolled] at place
        cases before with
        | nil =>
            rw [List.nil_append, List.cons.injEq] at place
            rw [← place.1, List.append_nil]
            exact whole_of_reached reached
        | cons first before =>
            rw [List.cons_append, List.cons.injEq] at place
            have rest := ih (fun index => outcomes (index + 1)) (leaves.reached reached) place.2
            rwa [List.append_assoc, List.singleton_append, place.1] at rest

end Covering

/-! ## When a run leaves nothing behind -/

/-- Whatever the service creates is completed or aborted by the last request of the run, and what
is completed has all its parts. -/
structure LeavesNothing (env : Env) (exchanges : List Exchange) : Prop where
  settled : forall exchange id, exchange ∈ exchanges -> exchange.created env = some id ->
    Exists fun last => exchanges.getLast? = some last ∧
      (last.Completes env id ∨ last.Aborts id)
  whole : forall before exchange later, exchanges = before ++ exchange :: later ->
    Whole before exchange

section Runs

variable {env : Env}

theorem Exchange.Leaves.not_starting {exchange : Exchange} {after : Upload}
    (leaves : exchange.Leaves env after) : after.phase ≠ .starting := by
  have notLoop (upload : Upload) (cursor : Cursor) : upload.loop cursor ≠ .starting := by
    intro first
    have about := loop_uploadId upload cursor
    rw [first] at about
    cases about
  have notOver (upload : Upload) (ended : upload.over) : upload.phase ≠ .starting := by
    rintro first
    rcases ended with ⟨found, phase⟩ | ⟨error, phase⟩ <;> cases phase.symm.trans first
  intro first
  cases leaves with
  | putting target start none phase => cases phase.symm.trans first
  | refused start none ended => exact notOver after ended first
  | begun id start some delivered file phase => exact notLoop _ _ (phase.symm.trans first)
  | lost id start some lost ended => exact notOver after ended first
  | put target current ended => exact notOver after ended first
  | signed cursor target current signed file phase => cases phase.symm.trans first
  | unsigned cursor current unsigned ended => exact notOver after ended first
  | retried cursor target current retried file phase =>
      have about := retry_uploadId cursor
      rw [← phase, first] at about
      cases about
  | accepted cursor target current accepted file phase => exact notLoop _ _ (phase.symm.trans first)
  | rejected cursor target current unretried rejected ended => exact notOver after ended first
  | aborted cursor current ended => exact notOver after ended first
  | completing cursor current ended => exact notOver after ended first

/-- Only the first request of a run creates an upload. -/
theorem runFor_creates_none (fuel : Nat) {upload : Upload} (outcomes : Nat -> Answer × Storage)
    (begun : upload.phase ≠ .starting) {exchange : Exchange}
    (member : exchange ∈ (upload.runFor env fuel outcomes).1) : exchange.created env = none := by
  induction fuel generalizing upload outcomes with
  | zero => cases member
  | succ fuel ih =>
      by_cases ended : upload.over
      · rw [runFor_over ended] at member
        cases member
      · rcases @runFor_succ env fuel upload outcomes ended with ⟨after, leaves, unrolled⟩
        rw [unrolled] at member
        rcases List.mem_cons.mp member with rfl | later
        · rw [Exchange.created, if_neg]
          intro first
          exact begun first.1
        · exact ih _ leaves.not_starting later

theorem runFor_putting (fuel : Nat) {upload : Upload} {target : Location}
    (outcomes : Nat -> Answer × Storage) (current : upload.phase = .putting target)
    {exchange : Exchange} (member : exchange ∈ (upload.runFor env fuel outcomes).1) :
    exchange.Fine env := by
  cases fuel with
  | zero => cases member
  | succ fuel =>
      have running : ¬ upload.over := by
        rintro (⟨found, phase⟩ | ⟨error, phase⟩) <;> cases current.symm.trans phase
      rcases @runFor_succ env fuel upload outcomes running with ⟨after, leaves, unrolled⟩
      have ended : after.over := by
        cases leaves with
        | put target phase ended => exact ended
        | putting _ phase => cases current.symm.trans phase
        | refused phase => cases current.symm.trans phase
        | begun _ phase => cases current.symm.trans phase
        | lost _ phase => cases current.symm.trans phase
        | signed _ _ phase => cases current.symm.trans phase
        | unsigned _ phase => cases current.symm.trans phase
        | retried _ _ phase => cases current.symm.trans phase
        | accepted _ _ phase => cases current.symm.trans phase
        | rejected _ _ phase => cases current.symm.trans phase
        | aborted _ phase => cases current.symm.trans phase
        | completing _ phase => cases current.symm.trans phase
      rw [unrolled, runFor_over ended, List.mem_singleton] at member
      rw [member, Exchange.Fine, current]
      trivial

/-- The first request of an upload, and the run after it. -/
theorem started_settled_iff {fuel : Nat} {first : Exchange} {after : Upload}
    (outcomes : Nat -> Answer × Storage) (enough : after.budget ≤ fuel)
    (starting : first.before.phase = .starting) (leaves : first.Leaves env after) :
    (forall exchange id, exchange ∈ first :: (after.runFor env fuel outcomes).1 ->
        exchange.created env = some id ->
          Exists fun last => (first :: (after.runFor env fuel outcomes).1).getLast? = some last ∧
            (last.Completes env id ∨ last.Aborts id)) ↔
      forall exchange, exchange ∈ first :: (after.runFor env fuel outcomes).1 ->
        exchange.Fine env := by
  have created {exchange : Exchange} {id : Bytes}
      (member : exchange ∈ first :: (after.runFor env fuel outcomes).1)
      (some : exchange.created env = some id) : exchange = first := by
    rcases List.mem_cons.mp member with same | later
    · exact same
    · rw [runFor_creates_none fuel outcomes leaves.not_starting later] at some
      cases some
  have nothing (none : first.created env = none) {exchange : Exchange} {id : Bytes}
      (member : exchange ∈ first :: (after.runFor env fuel outcomes).1) :
      exchange.created env ≠ some id := by
    intro some
    rw [created member some, none] at some
    cases some
  have fine : first.Fine env ↔
      (first.created env ≠ none -> first.answer.delivered = true) := by
    rw [Exchange.Fine, starting]
  rw [List.forall_mem_cons, fine]
  cases leaves with
  | putting target _ none phase =>
      refine iff_of_true ?_ ⟨fun some => absurd none some, ?_⟩
      · exact fun exchange id member some => absurd some (nothing none member)
      · intro exchange member
        exact runFor_putting fuel outcomes phase member
  | refused _ none ended =>
      refine iff_of_true ?_ ⟨fun some => absurd none some, ?_⟩
      · exact fun exchange id member some => absurd some (nothing none member)
      · intro exchange member
        rw [runFor_over ended] at member
        cases member
  | begun id _ some delivered file phase =>
      have about : after.phase.uploadId = Option.some id := by
        rw [phase, loop_uploadId]
      rw [← runFor_settled fuel outcomes enough about,
        List.getLast?_cons_of_ne_nil (runFor_ne_nil outcomes enough (not_over_of_uploadId about))]
      constructor
      · intro settled
        exact ⟨fun _ => delivered, settled first id List.mem_cons_self some⟩
      · rintro ⟨-, settled⟩ exchange other member made
        have same : Option.some id = Option.some other := by
          rw [← some, ← made, created member made]
        rw [← Option.some.inj same]
        exact settled
  | lost id _ some lost ended =>
      refine iff_of_false ?_ ?_
      · intro settled
        rcases settled first id List.mem_cons_self some with ⟨last, end_, outcome⟩
        rw [runFor_over ended, List.getLast?_singleton] at end_
        rw [← Option.some.inj end_] at outcome
        rcases outcome with ⟨cursor, phase, -⟩ | ⟨cursor, phase, -⟩ <;>
          cases starting.symm.trans phase
      · rintro ⟨arrives, -⟩
        rw [lost] at arrives
        have made : first.created env ≠ none := by
          rw [some]
          exact Option.some_ne_none id
        exact absurd (arrives made) Bool.false_ne_true
  | put target current => cases starting.symm.trans current
  | signed cursor target current => cases starting.symm.trans current
  | unsigned cursor current => cases starting.symm.trans current
  | retried cursor target current => cases starting.symm.trans current
  | accepted cursor target current => cases starting.symm.trans current
  | rejected cursor target current => cases starting.symm.trans current
  | aborted cursor current => cases starting.symm.trans current
  | completing cursor current => cases starting.symm.trans current

/-- A run leaves nothing behind exactly if its requests are all fine: the answer to an initiation
that was served arrives, every part is signed and put, if only to be tried again, and the
completion, if it comes to that, is served. -/
theorem leavesNothing_iff (env : Env) (key file : Bytes) (outcomes : Nat -> Answer × Storage) :
    (run env key file outcomes).2.over ∧ LeavesNothing env (run env key file outcomes).1 ↔
      forall exchange, exchange ∈ (run env key file outcomes).1 -> exchange.Fine env := by
  have ends : (run env key file outcomes).2.over := runFor_ends _ outcomes (Nat.le_refl _)
  rw [and_iff_right ends]
  have whole : forall before exchange later,
      (run env key file outcomes).1 = before ++ exchange :: later -> Whole before exchange := by
    intro before exchange later place
    have start : ({ key, file } : Upload).Reached [] := reached_of_no_cursor rfl
    have covered := runFor_whole _ outcomes start place
    rwa [List.nil_append] at covered
  have settledIff : LeavesNothing env (run env key file outcomes).1 ↔
      forall exchange id, exchange ∈ (run env key file outcomes).1 ->
        exchange.created env = some id ->
          Exists fun last => (run env key file outcomes).1.getLast? = some last ∧
            (last.Completes env id ∨ last.Aborts id) :=
    ⟨LeavesNothing.settled, fun settled => ⟨settled, whole⟩⟩
  rw [settledIff]
  have start : ¬ (({ key, file } : Upload).over) := by
    rintro (⟨found, phase⟩ | ⟨error, phase⟩) <;> cases phase
  rcases @runFor_succ env (6 * file.length + 9) { key, file } outcomes start with
    ⟨after, leaves, unrolled⟩
  have unrolledRun : run env key file outcomes = _ := unrolled
  have left : after.budget ≤ 6 * file.length + 9 := Nat.le_of_lt_succ leaves.budget_lt
  rw [unrolledRun]
  exact started_settled_iff _ left rfl leaves

/-- The first part of an upload is not signed, and nothing aborts it. -/
theorem unsigned_leaves_upload {key file : Bytes} {outcomes : Nat -> Answer × Storage} {id : Bytes}
    (large : chunkSize < file.length)
    (created : Exchange.created env ⟨{ key, file }, (outcomes 0).1, (outcomes 0).2⟩ = some id)
    (refused : (outcomes 1).1.admitted = false) :
    ¬ LeavesNothing env (run env key file outcomes).1 := by
  intro nothing
  have start : ¬ (({ key, file } : Upload).over) := by
    rintro (⟨found, phase⟩ | ⟨error, phase⟩) <;> cases phase
  rcases @runFor_succ env (6 * file.length + 9) { key, file } outcomes start with
    ⟨after, leaves, unrolled⟩
  have unrolledRun : run env key file outcomes = _ := unrolled
  have left : after.budget ≤ 6 * file.length + 9 := Nat.le_of_lt_succ leaves.budget_lt
  have settled := nothing.settled
  rw [unrolledRun] at settled
  have fine := (started_settled_iff _ left rfl leaves).mp settled
  have going : after.phase = .presigning { uploadId := id } := by
    cases leaves with
    | putting target _ none => cases none.symm.trans created
    | refused _ none => cases none.symm.trans created
    | lost other _ some lost =>
        have arrives := fine _ List.mem_cons_self
        rw [Exchange.Fine] at arrives
        exact absurd (arrives (by rw [some]; exact Option.some_ne_none other))
          (Bool.eq_false_iff.mp lost)
    | begun other _ some delivered same phase =>
        rw [phase, Upload.loop, if_pos (Nat.zero_lt_of_lt large),
          Option.some.inj (some.symm.trans created)]
    | put target current => cases current
    | signed cursor target current => cases current
    | unsigned cursor current => cases current
    | retried cursor target current => cases current
    | accepted cursor target current => cases current
    | rejected cursor target current => cases current
    | aborted cursor current => cases current
    | completing cursor current => cases current
  have running : ¬ after.over := by
    rintro (⟨found, phase⟩ | ⟨error, phase⟩) <;> cases going.symm.trans phase
  rcases @runFor_succ env (6 * file.length + 8) after (fun index => outcomes (index + 1)) running with
    ⟨last, -, again⟩
  rw [again] at fine
  have signed := fine _ (List.mem_cons_of_mem _ List.mem_cons_self)
  rw [Exchange.Fine, going] at signed
  simp only [Exchange.signed, Nat.zero_add, refused, Bool.false_and] at signed
  split at signed <;> cases signed

/-- The initiation succeeds, and the request for the URL of the first part is refused. -/
def refusedOutcomes : Nat -> Answer × Storage
  | 0 => ({ uploadId := [117] }, emptyStorage)
  | _ + 1 =>
      ({ admitted := false, served := false },
        (emptyStorage.createMultipart ⟨[98], [98, 105, 103]⟩ [117]).getD emptyStorage)

theorem refused_part_orphans :
    ¬ LeavesNothing sampleEnv (run sampleEnv [98, 105, 103] largeFile refusedOutcomes).1 := by
  have large : chunkSize < largeFile.length := by
    rw [largeFile, List.length_replicate]
    exact Nat.lt_succ_self chunkSize
  refine @unsigned_leaves_upload sampleEnv _ _ refusedOutcomes [117] large ?_ rfl
  rw [Exchange.created, if_pos ⟨rfl, large⟩]
  rfl

end Runs

end Uploads
end Basement
