import Basement.Api.Regions
import Basement.Library.Directory
import Basement.Library.Transition

namespace Basement
namespace Settings

open Api (trimSpace)
open Library (Directory)
open Library.Transition

/-!
# Group mappings and their file

The store keeps the mappings from OIDC groups to roles in memory and in a file.  `Replace` assigns
the memory under the lock.  After that, without the lock, it writes a temporary file, opens it
again for the sync, and renames it to the file.  All calls use the same temporary name.

Requests interleave at the assignment and at every call of the operating system, and each of these
can fail.  The bytes of a file may be written in any number of chunks.
-/

namespace GroupMappings

/-- `OIDCGroupMapping`. -/
structure OIDCGroupMapping where
  claim : String
  claimValue : String
  roleID : String
  scope : String
  deriving DecidableEq, Repr

/-- `OIDCGroupMappings`, with the time in nanoseconds. -/
structure OIDCGroupMappings where
  mappings : List OIDCGroupMapping
  updatedAt : Int
  deriving DecidableEq, Repr

/-- The mappings before any file is written, with the zero time. -/
def noMappings : OIDCGroupMappings := ⟨[], -62135596800000000000⟩

def newline : UInt8 := 10

/-- `json.MarshalIndent` and `json.Unmarshal` of the record, and what the store relies on. -/
structure Format where
  marshalIndent : OIDCGroupMappings -> Except String (List UInt8)
  unmarshal : List UInt8 -> Except String OIDCGroupMappings
  unmarshal_marshalIndent : forall {data text}, marshalIndent data = .ok text ->
    unmarshal (text ++ [newline]) = .ok data

/-- The mapping would match too much or grant nothing. -/
def OIDCGroupMapping.incomplete (m : OIDCGroupMapping) : Bool :=
  trimSpace m.claim = "" || trimSpace m.claimValue = "" || trimSpace m.roleID = "" ||
    trimSpace m.scope = ""

/-! ## Calls -/

/-- What is done with the temporary file after it is written. -/
inductive Stage where
  | written
  | reopened
  | synced
  | closed
  deriving DecidableEq, Repr

/-- How far a call of `Replace` is. -/
inductive Status where
  | waiting
  | assigned
  | writing (file : Nat) (text : List UInt8) (offset : Nat)
  | holding (stage : Stage)
  | done (result : Except String Unit)
  deriving DecidableEq

/-- A call of `Replace`, with the local copy of what it assigned. -/
structure Call where
  mappings : List OIDCGroupMapping
  pending : Option OIDCGroupMappings
  status : Status
  deriving DecidableEq

/-- `OIDCGroupMappingsStore`, the directory of its file, and the calls. -/
structure Server where
  data : OIDCGroupMappings
  directory : Directory String
  calls : List Call

/-- What happens next; an error is one that the operating system answers with. -/
inductive Event where
  | call (mappings : List OIDCGroupMapping)
  | assign (call : Nat) (now : Int)
  | create (call : Nat) (err : Option String)
  | write (call : Nat) (count : Nat) (err : Option String)
  | advance (call : Nat) (err : Option String)
  deriving DecidableEq, Repr

def tmp (path : String) : String := path ++ ".tmp"

theorem tmp_ne (path : String) : tmp path ≠ path := by
  intro same
  have lengths := congrArg String.length same
  unfold tmp at lengths
  rw [String.length_append] at lengths
  have four : ".tmp".length = 4 := rfl
  omega

def Server.proceed (server : Server) (index : Nat) (call : Call) (status : Status) : Server :=
  { server with calls := server.calls.set index { call with status := status } }

def Server.fail (server : Server) (index : Nat) (call : Call) (reason : String) : Server :=
  server.proceed index call (.done (.error ("oidc-group-mappings: " ++ reason)))

/-! ## The steps of `Replace` -/

/-- The mappings are checked and assigned under the lock. -/
def Server.assign (server : Server) (index : Nat) (call : Call) (now : Int) : Option Server :=
  match call.status with
  | .waiting =>
      match call.mappings.findIdx? OIDCGroupMapping.incomplete with
      | some i =>
          some (server.fail index call ("mapping " ++ toString i ++
            " has an empty claim/claimValue/roleId/scope"))
      | none =>
          some { server.proceed index { call with pending := some ⟨call.mappings, now⟩ }
            .assigned with
            data := ⟨call.mappings, now⟩ }
  | _ => none

/-- `os.WriteFile` creates or empties the temporary file. -/
def Server.create (format : Format) (path : String) (server : Server) (index : Nat) (call : Call)
    (err : Option String) : Option Server :=
  match call.status, call.pending with
  | .assigned, some pending =>
      match format.marshalIndent pending, err with
      | .error reason, _ => some (server.fail index call ("marshaling: " ++ reason))
      | .ok _, some reason => some (server.fail index call ("writing tmp file: " ++ reason))
      | .ok text, none =>
          some { server.proceed index call
              (.writing (server.directory.truncate (tmp path)).2 (text ++ [newline]) 0) with
            directory := (server.directory.truncate (tmp path)).1 }
  | _, _ => none

/-- `os.WriteFile` writes some more bytes. -/
def Server.write (server : Server) (index : Nat) (call : Call) (count : Nat)
    (err : Option String) : Option Server :=
  match call.status, err with
  | .writing _ _ _, some reason => some (server.fail index call ("writing tmp file: " ++ reason))
  | .writing file text offset, none =>
      some { server.proceed index call (.writing file text (offset + count)) with
        directory := server.directory.write file offset ((text.drop offset).take count) }
  | _, _ => none

def Stage.failure : Stage -> String
  | .written => "opening tmp for fsync: "
  | .reopened => "fsyncing tmp: "
  | .synced => "closing tmp: "
  | .closed => "renaming tmp to final: "

/-- The temporary file is opened again, synced, closed and renamed. -/
def Server.handle (path : String) (server : Server) (index : Nat) (call : Call) :
    Stage -> Option Server
  | .written =>
      if server.directory.entry (tmp path) = none then none
      else some (server.proceed index call (.holding .reopened))
  | .reopened => some (server.proceed index call (.holding .synced))
  | .synced => some (server.proceed index call (.holding .closed))
  | .closed =>
      (server.directory.rename (tmp path) path).map fun directory =>
        { server.proceed index call (.done (.ok ())) with directory := directory }

/-- `os.WriteFile` returns once all is written; then the next call on the temporary file returns.
If one of the later calls fails, the temporary file is removed. -/
def Server.advance (path : String) (server : Server) (index : Nat) (call : Call)
    (err : Option String) : Option Server :=
  match call.status, err with
  | .writing _ _ _, some reason => some (server.fail index call ("writing tmp file: " ++ reason))
  | .writing _ text offset, none =>
      if offset < text.length then none else some (server.proceed index call (.holding .written))
  | .holding stage, some reason =>
      some { server.fail index call (stage.failure ++ reason) with
        directory := server.directory.remove (tmp path) }
  | .holding stage, none => server.handle path index call stage
  | _, _ => none

def step (format : Format) (path : String) (server : Server) : Event -> Option Server
  | .call mappings => some { server with calls := server.calls ++ [⟨mappings, none, .waiting⟩] }
  | .assign index now =>
      (server.calls[index]?).bind fun call => server.assign index call now
  | .create index err =>
      (server.calls[index]?).bind fun call => server.create format path index call err
  | .write index count err =>
      (server.calls[index]?).bind fun call => server.write index call count err
  | .advance index err =>
      (server.calls[index]?).bind fun call => server.advance path index call err

/-- `load`, when the process starts again. -/
def load (format : Format) (path : String) (directory : Directory String) :
    Except String OIDCGroupMappings :=
  match directory.read path with
  | none | some [] => .ok noMappings
  | some data =>
      (format.unmarshal data).mapError fun reason =>
        "oidc-group-mappings: parsing " ++ path ++ ": " ++ reason

end GroupMappings

end Settings
end Basement
