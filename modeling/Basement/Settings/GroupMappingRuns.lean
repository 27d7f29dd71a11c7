import Basement.Settings.GroupMappings

namespace Basement
namespace Settings
namespace GroupMappings

open Library (Directory)
open Library.Directory
open Library.Transition

/-!
# Concurrent replacements of the group mappings

Every successful call takes the entry of the temporary name away when it renames it, and only
opening the temporary file brings the entry back.  So if all calls succeed, then no call opened the
temporary file while another one was still at work with it, and no file is ever mixed.  What can
still differ is the order: a call that assigned its mappings first can open the file last.
-/

/-! ## What a step can do -/

/-- The call has opened the temporary file and has not returned. -/
def Call.inSection (call : Call) : Bool :=
  match call.status with
  | .writing _ _ _ | .holding _ => true
  | _ => false

def Call.Failed (call : Call) : Prop := Exists fun reason => call.status = .done (.error reason)

/-- What a step does to the memory, the directory and the call it is about. -/
inductive Moved (format : Format) (path : String) (server : Server) : Event -> Server -> Prop where
  | arrived (mappings : List OIDCGroupMapping) :
      Moved format path server (.call mappings)
        { server with calls := server.calls ++ [⟨mappings, none, .waiting⟩] }
  | failed (event : Event) (index : Nat) (call : Call) (reason : String)
      (directory : Directory String) (current : server.calls[index]? = some call) :
      Moved format path server event { server.fail index call reason with directory := directory }
  | assigned (index : Nat) (now : Int) (call : Call) (current : server.calls[index]? = some call)
      (waiting : call.status = .waiting) :
      Moved format path server (.assign index now)
        { server.proceed index { call with pending := some ⟨call.mappings, now⟩ } .assigned with
          data := ⟨call.mappings, now⟩ }
  | created (index : Nat) (call : Call) (pending : OIDCGroupMappings) (text : List UInt8)
      (current : server.calls[index]? = some call) (assigned : call.status = .assigned)
      (copy : call.pending = some pending) (marshalled : format.marshalIndent pending = .ok text) :
      Moved format path server (.create index none)
        { server.proceed index call
            (.writing (server.directory.truncate (tmp path)).2 (text ++ [newline]) 0) with
          directory := (server.directory.truncate (tmp path)).1 }
  | wrote (index count : Nat) (call : Call) (file : Nat) (text : List UInt8) (offset : Nat)
      (current : server.calls[index]? = some call)
      (writing : call.status = .writing file text offset) :
      Moved format path server (.write index count none)
        { server.proceed index call (.writing file text (offset + count)) with
          directory := server.directory.write file offset ((text.drop offset).take count) }
  | held (index : Nat) (call : Call) (stage : Stage) (current : server.calls[index]? = some call)
      (inside : call.inSection = true)
      (written : forall file text offset, call.status = .writing file text offset ->
        text.length ≤ offset) :
      Moved format path server (.advance index none) (server.proceed index call (.holding stage))
  | renamed (index : Nat) (call : Call) (directory : Directory String)
      (current : server.calls[index]? = some call) (closed : call.status = .holding .closed)
      (moved : server.directory.rename (tmp path) path = some directory) :
      Moved format path server (.advance index none)
        { server.proceed index call (.done (.ok ())) with directory := directory }

theorem assign_moved {format : Format} {path : String} {server next : Server} {index : Nat}
    {call : Call} {now : Int} (current : server.calls[index]? = some call)
    (taken : server.assign index call now = some next) :
    Moved format path server (.assign index now) next := by
  unfold Server.assign at taken
  split at taken
  · rename_i waiting
    split at taken
    · cases Option.some.inj taken
      exact Moved.failed _ index call _ server.directory current
    · cases Option.some.inj taken
      exact Moved.assigned index now call current waiting
  · cases taken

theorem create_moved {format : Format} {path : String} {server next : Server} {index : Nat}
    {call : Call} {err : Option String} (current : server.calls[index]? = some call)
    (taken : server.create format path index call err = some next) :
    Moved format path server (.create index err) next := by
  unfold Server.create at taken
  split at taken
  · rename_i pending assigned copy
    split at taken
    · cases Option.some.inj taken
      exact Moved.failed _ index call _ server.directory current
    · cases Option.some.inj taken
      exact Moved.failed _ index call _ server.directory current
    · rename_i text marshalled
      cases Option.some.inj taken
      exact Moved.created index call pending text current assigned copy marshalled
  · cases taken

theorem write_moved {format : Format} {path : String} {server next : Server} {index count : Nat}
    {call : Call} {err : Option String} (current : server.calls[index]? = some call)
    (taken : server.write index call count err = some next) :
    Moved format path server (.write index count err) next := by
  unfold Server.write at taken
  split at taken
  · cases Option.some.inj taken
    exact Moved.failed _ index call _ server.directory current
  · rename_i file text offset writing
    cases Option.some.inj taken
    exact Moved.wrote index count call file text offset current writing
  · cases taken

theorem inSection_of_holding {call : Call} {stage : Stage}
    (holding : call.status = .holding stage) : call.inSection = true := by
  unfold Call.inSection
  rw [holding]

theorem inSection_of_writing {call : Call} {file : Nat} {text : List UInt8} {offset : Nat}
    (writing : call.status = .writing file text offset) : call.inSection = true := by
  unfold Call.inSection
  rw [writing]

theorem handle_moved {format : Format} {path : String} {server next : Server} {index : Nat}
    {call : Call} {stage : Stage} (current : server.calls[index]? = some call)
    (holding : call.status = .holding stage)
    (taken : server.handle path index call stage = some next) :
    Moved format path server (.advance index none) next := by
  have held := fun stage => @Moved.held format path server index call stage current
    (inSection_of_holding holding) fun file text offset writing => by
      cases holding.symm.trans writing
  cases stage with
  | written =>
      simp only [Server.handle] at taken
      split at taken
      · cases taken
      · cases Option.some.inj taken
        exact held .reopened
  | reopened =>
      cases Option.some.inj taken
      exact held .synced
  | synced =>
      cases Option.some.inj taken
      exact held .closed
  | closed =>
      rcases Option.map_eq_some_iff.mp taken with ⟨directory, moved, rfl⟩
      exact Moved.renamed index call directory current holding moved

theorem advance_moved {format : Format} {path : String} {server next : Server} {index : Nat}
    {call : Call} {err : Option String} (current : server.calls[index]? = some call)
    (taken : server.advance path index call err = some next) :
    Moved format path server (.advance index err) next := by
  unfold Server.advance at taken
  split at taken
  · cases Option.some.inj taken
    exact Moved.failed _ index call _ server.directory current
  · rename_i file text offset writing
    split at taken
    · cases taken
    · rename_i all
      cases Option.some.inj taken
      refine Moved.held index call .written current (inSection_of_writing writing) ?_
      intro other past at' same
      cases writing.symm.trans same
      exact Nat.le_of_not_lt all
  · cases Option.some.inj taken
    exact Moved.failed _ index call _ (server.directory.remove (tmp path)) current
  · rename_i stage holding
    exact handle_moved current holding taken
  · cases taken

theorem step_moved {format : Format} {path : String} {server next : Server} {event : Event}
    (taken : step format path server event = some next) : Moved format path server event next := by
  cases event with
  | call mappings =>
      cases Option.some.inj taken
      exact Moved.arrived mappings
  | assign index now =>
      rcases Option.bind_eq_some_iff.mp taken with ⟨call, current, assigned⟩
      exact assign_moved current assigned
  | create index err =>
      rcases Option.bind_eq_some_iff.mp taken with ⟨call, current, created⟩
      exact create_moved current created
  | write index count err =>
      rcases Option.bind_eq_some_iff.mp taken with ⟨call, current, wrote⟩
      exact write_moved current wrote
  | advance index err =>
      rcases Option.bind_eq_some_iff.mp taken with ⟨call, current, advanced⟩
      exact advance_moved current advanced

/-! ## Sections on the temporary file -/

/-- How many calls are at work with the temporary file. -/
def Server.sections (server : Server) : Nat := server.calls.countP Call.inSection

/-- Whether the temporary name has an entry, as a number. -/
def Server.entries (path : String) (server : Server) : Nat :=
  (server.directory.entry (tmp path)).toList.length

/-- A call failed, or more calls are at work with the temporary file than there are entries. -/
def Troubled (path : String) (server : Server) : Prop :=
  (Exists fun index : Nat => Exists fun call : Call =>
    server.calls[index]? = some call ∧ call.Failed) ∨
    server.entries path < server.sections

theorem countP_set_add {calls : List Call} {index : Nat} {old : Call}
    (current : calls[index]? = some old) (new : Call) :
    (calls.set index new).countP Call.inSection + old.inSection.toNat =
      calls.countP Call.inSection + new.inSection.toNat := by
  induction calls generalizing index with
  | nil => cases current
  | cons head rest ih =>
      cases index with
      | zero =>
          cases Option.some.inj current
          rw [List.set_cons_zero, List.countP_cons, List.countP_cons]
          cases new.inSection <;> cases old.inSection <;> simp
      | succ index =>
          have later := ih current
          rw [List.set_cons_succ, List.countP_cons, List.countP_cons]
          omega

theorem entries_le_one (path : String) (server : Server) : server.entries path ≤ 1 := by
  unfold Server.entries
  cases server.directory.entry (tmp path) with
  | none => exact Nat.zero_le 1
  | some file => exact Nat.le_refl 1

theorem entries_of_entry {path : String} {server : Server} {file : Nat}
    (found : server.directory.entry (tmp path) = some file) : server.entries path = 1 := by
  unfold Server.entries
  rw [found]
  rfl

theorem entries_of_none {path : String} {server : Server}
    (missing : server.directory.entry (tmp path) = none) : server.entries path = 0 := by
  unfold Server.entries
  rw [missing]
  rfl

theorem sections_pos {server : Server} {index : Nat} {call : Call}
    (current : server.calls[index]? = some call) (inside : call.inSection = true) :
    0 < server.sections :=
  List.countP_pos_iff.mpr ⟨call, List.mem_of_getElem? current, inside⟩

/-- One call goes on. -/
theorem sections_step {server next : Server} {index : Nat} {old new : Call}
    (current : server.calls[index]? = some old) (calls : next.calls = server.calls.set index new) :
    next.sections + old.inSection.toNat = server.sections + new.inSection.toNat := by
  unfold Server.sections
  rw [calls]
  exact countP_set_add current new

/-- It stays crowded if the entries do not come to outnumber the sections. -/
theorem crowded_step {path : String} {server next : Server} {index : Nat} {old new : Call}
    (current : server.calls[index]? = some old) (calls : next.calls = server.calls.set index new)
    (room : next.entries path + old.inSection.toNat ≤ server.entries path + new.inSection.toNat)
    (crowded : server.entries path < server.sections) : next.entries path < next.sections := by
  have count := sections_step current calls
  omega

/-- One more call goes to work with the file while another one is. -/
theorem crowded_enter {path : String} {server next : Server} {index : Nat} {old new : Call}
    (current : server.calls[index]? = some old) (calls : next.calls = server.calls.set index new)
    (outside : old.inSection = false) (inside : new.inSection = true) (busy : 0 < server.sections) :
    next.entries path < next.sections := by
  have count := sections_step current calls
  have entries := entries_le_one path next
  rw [outside, inside, Bool.toNat_false, Bool.toNat_true] at count
  omega

theorem inSection_of_waiting {call : Call} (waiting : call.status = .waiting) :
    call.inSection = false := by
  unfold Call.inSection
  rw [waiting]

theorem inSection_of_assigned {call : Call} (assigned : call.status = .assigned) :
    call.inSection = false := by
  unfold Call.inSection
  rw [assigned]

/-- A failed call stays failed when another call goes on. -/
theorem failed_set {calls : List Call} {index : Nat} {old : Call}
    (current : calls[index]? = some old) (unfailed : ¬ old.Failed) (new : Call)
    (failed : Exists fun other : Nat => Exists fun call : Call =>
      calls[other]? = some call ∧ call.Failed) :
    Exists fun other : Nat => Exists fun call : Call =>
      (calls.set index new)[other]? = some call ∧ call.Failed := by
  rcases failed with ⟨other, call, found, reason⟩
  have different : index ≠ other := by
    rintro rfl
    cases current.symm.trans found
    exact unfailed reason
  exact ⟨other, call, (List.getElem?_set_ne different).trans found, reason⟩

theorem failed_troubled {path : String} {server next : Server} {index : Nat} {old call : Call}
    {reason : String} (current : server.calls[index]? = some old)
    (calls : next.calls = server.calls.set index { call with status := .done (.error reason) }) :
    Troubled path next := by
  rcases List.getElem?_eq_some_iff.mp current with ⟨bound, _⟩
  refine Or.inl ⟨index, { call with status := .done (.error reason) }, ?_, reason, rfl⟩
  rw [calls, List.getElem?_set_self bound]

theorem unfailed_of_waiting {call : Call} (waiting : call.status = .waiting) : ¬ call.Failed :=
  fun ⟨_, failed⟩ => Status.noConfusion (waiting.symm.trans failed)

theorem unfailed_of_assigned {call : Call} (assigned : call.status = .assigned) : ¬ call.Failed :=
  fun ⟨_, failed⟩ => Status.noConfusion (assigned.symm.trans failed)

theorem unfailed_of_inSection {call : Call} (inside : call.inSection = true) : ¬ call.Failed := by
  rintro ⟨reason, failed⟩
  unfold Call.inSection at inside
  rw [failed] at inside
  cases inside

/-- Trouble never ends. -/
theorem Troubled.moved {format : Format} {path : String} {server next : Server} {event : Event}
    (troubled : Troubled path server) (moved : Moved format path server event next) :
    Troubled path next := by
  cases moved with
  | arrived mappings =>
      rcases troubled with ⟨index, call, found, failed⟩ | crowded
      · rcases List.getElem?_eq_some_iff.mp found with ⟨bound, _⟩
        exact Or.inl ⟨index, call, (List.getElem?_append_left bound).trans found, failed⟩
      · refine Or.inr (Nat.lt_of_lt_of_le crowded ?_)
        unfold Server.sections
        rw [List.countP_append]
        exact Nat.le_add_right _ _
  | failed event index call reason directory current => exact failed_troubled current rfl
  | assigned index now call current waiting =>
      refine troubled.imp (failed_set current (unfailed_of_waiting waiting) _)
        (crowded_step current rfl ?_)
      rw [inSection_of_waiting waiting]
      exact Nat.le_refl _
  | created index call pending text current assigned copy marshalled =>
      refine troubled.imp (failed_set current (unfailed_of_assigned assigned) _)
        (crowded_step current rfl ?_)
      rw [inSection_of_assigned assigned]
      exact Nat.le_add_left_of_le (entries_le_one path _)
  | wrote index count call file text offset current writing =>
      have inside := inSection_of_writing writing
      refine troubled.imp (failed_set current (unfailed_of_inSection inside) _)
        (crowded_step current rfl ?_)
      rw [inside]
      exact Nat.le_refl _
  | held index call stage current inside written =>
      refine troubled.imp (failed_set current (unfailed_of_inSection inside) _)
        (crowded_step current rfl ?_)
      rw [inside]
      exact Nat.le_refl _
  | renamed index call directory current closed moved =>
      have inside := inSection_of_holding closed
      have spec := rename_spec (tmp_ne path) moved
      refine troubled.imp (failed_set current (unfailed_of_inSection inside) _)
        (crowded_step current rfl ?_)
      rcases Option.ne_none_iff_exists'.mp spec.2.2 with ⟨file, found⟩
      rw [inside, entries_of_entry found, entries_of_none spec.2.1]
      exact Nat.le_refl _

/-! ## The order of a run -/

/-- The call that an event lets assign its mappings. -/
def Event.assigner : Event -> Option Nat
  | .assign index _ => some index
  | _ => none

/-- The call that an event lets open the temporary file for writing. -/
def Event.opener : Event -> Option Nat
  | .create index _ => some index
  | _ => none

def lastAssigner (events : List Event) : Option Nat := (events.filterMap Event.assigner).getLast?

def lastOpener (events : List Event) : Option Nat := (events.filterMap Event.opener).getLast?

theorem getLast?_filterMap_append (select : Event -> Option Nat) (events : List Event)
    (event : Event) : ((events ++ [event]).filterMap select).getLast? =
      (select event).or (events.filterMap select).getLast? := by
  rw [List.filterMap_append]
  cases selected : select event with
  | none => rw [List.filterMap_cons_none selected, List.filterMap_nil, List.append_nil, Option.none_or]
  | some call =>
      rw [List.filterMap_cons_some selected, List.filterMap_nil, List.getLast?_concat,
        Option.some_or]

theorem lastAssigner_append (events : List Event) (event : Event) :
    lastAssigner (events ++ [event]) = event.assigner.or (lastAssigner events) :=
  getLast?_filterMap_append Event.assigner events event

theorem lastOpener_append (events : List Event) (event : Event) :
    lastOpener (events ++ [event]) = event.opener.or (lastOpener events) :=
  getLast?_filterMap_append Event.opener events event

theorem get_set {calls : List Call} {index other : Nat} {old new call : Call}
    (current : calls[index]? = some old) (found : (calls.set index new)[other]? = some call) :
    other = index ∧ call = new ∨ other ≠ index ∧ calls[other]? = some call := by
  by_cases same : other = index
  · subst same
    rcases List.getElem?_eq_some_iff.mp current with ⟨bound, _⟩
    rw [List.getElem?_set_self bound] at found
    exact Or.inl ⟨rfl, (Option.some.inj found).symm⟩
  · rw [List.getElem?_set_ne (Ne.symm same)] at found
    exact Or.inr ⟨same, found⟩

theorem set_own {calls : List Call} {index : Nat} {old : Call}
    (current : calls[index]? = some old) (new : Call) :
    (calls.set index new)[index]? = some new := by
  rcases List.getElem?_eq_some_iff.mp current with ⟨bound, _⟩
  exact List.getElem?_set_self bound

theorem get_append {calls : List Call} {index : Nat} {call new : Call}
    (found : (calls ++ [new])[index]? = some call) : calls[index]? = some call ∨ call = new := by
  rcases Nat.lt_or_ge index calls.length with within | past
  · exact Or.inl ((List.getElem?_append_left within).symm.trans found)
  · rw [List.getElem?_append_right past] at found
    exact Or.inr (List.mem_singleton.mp (List.mem_of_getElem? found))

/-- What the calls and the memory hold, while no call has failed. -/
structure Recorded (events : List Event) (server : Server) : Prop where
  mappings : forall {index : Nat} {call : Call} {pending : OIDCGroupMappings},
    server.calls[index]? = some call ->
    call.pending = some pending -> pending.mappings = call.mappings
  pending : forall {index : Nat} {call : Call}, server.calls[index]? = some call ->
    call.status ≠ .waiting ->
    call.pending ≠ none
  memory : forall {index : Nat}, lastAssigner events = some index ->
    Exists fun call => server.calls[index]? = some call ∧ call.pending = some server.data
  unassigned : lastAssigner events = none -> forall {index : Nat} {call : Call},
    server.calls[index]? = some call -> call.status = .waiting

/-- A call that has assigned its mappings goes on. -/
theorem Recorded.proceed {events : List Event} {server next : Server} {event : Event} {index : Nat}
    {old : Call} {status : Status} (recorded : Recorded events server)
    (current : server.calls[index]? = some old) (assigned : old.status ≠ .waiting)
    (calls : next.calls = server.calls.set index { old with status := status })
    (data : next.data = server.data) (other : event.assigner = none) :
    Recorded (events ++ [event]) next := by
  have last : lastAssigner (events ++ [event]) = lastAssigner events := by
    rw [lastAssigner_append, other, Option.none_or]
  constructor
  · intro position call pending found copy
    rw [calls] at found
    rcases get_set current found with ⟨rfl, rfl⟩ | ⟨_, kept⟩
    · have same := recorded.mappings current copy
      exact same
    · exact recorded.mappings kept copy
  · intro position call found past
    rw [calls] at found
    rcases get_set current found with ⟨rfl, rfl⟩ | ⟨_, kept⟩
    · have held := recorded.pending current assigned
      exact held
    · exact recorded.pending kept past
  · intro position assigner
    rw [last] at assigner
    rcases recorded.memory assigner with ⟨call, found, copy⟩
    rw [calls, data]
    by_cases same : position = index
    · subst same
      cases current.symm.trans found
      exact ⟨_, set_own current _, copy⟩
    · exact ⟨call, (List.getElem?_set_ne (Ne.symm same)).trans found, copy⟩
  · intro none
    rw [last] at none
    exact absurd (recorded.unassigned none current) assigned

theorem Recorded.arrived {events : List Event} {server : Server}
    (recorded : Recorded events server) (mappings : List OIDCGroupMapping) :
    Recorded (events ++ [.call mappings])
      { server with calls := server.calls ++ [⟨mappings, none, .waiting⟩] } := by
  have last : lastAssigner (events ++ [.call mappings]) = lastAssigner events :=
    lastAssigner_append events _
  constructor
  · intro position call pending found copy
    rcases get_append found with kept | rfl
    · exact recorded.mappings kept copy
    · cases copy
  · intro position call found past
    rcases get_append found with kept | rfl
    · exact recorded.pending kept past
    · exact absurd rfl past
  · intro position assigner
    rw [last] at assigner
    rcases recorded.memory assigner with ⟨call, found, copy⟩
    rcases List.getElem?_eq_some_iff.mp found with ⟨bound, _⟩
    exact ⟨call, (List.getElem?_append_left bound).trans found, copy⟩
  · intro none position call found
    rw [last] at none
    rcases get_append found with kept | rfl
    · exact recorded.unassigned none kept
    · rfl

theorem Recorded.assigned {events : List Event} {server : Server} {index : Nat} {call : Call}
    (recorded : Recorded events server) (current : server.calls[index]? = some call) (now : Int) :
    Recorded (events ++ [.assign index now])
      { server.proceed index { call with pending := some ⟨call.mappings, now⟩ } .assigned with
        data := ⟨call.mappings, now⟩ } := by
  have last : lastAssigner (events ++ [.assign index now]) = some index :=
    lastAssigner_append events _
  constructor
  · intro position other pending found copy
    rcases get_set current found with ⟨rfl, rfl⟩ | ⟨_, kept⟩
    · cases Option.some.inj copy
      rfl
    · exact recorded.mappings kept copy
  · intro position other found past
    rcases get_set current found with ⟨rfl, rfl⟩ | ⟨_, kept⟩
    · exact Option.some_ne_none _
    · exact recorded.pending kept past
  · intro position assigner
    cases Option.some.inj (last.symm.trans assigner)
    exact ⟨_, set_own current _, rfl⟩
  · intro none
    cases last.symm.trans none

/-- How far the text of a call is, on the way to the file. -/
def Progress (format : Format) (path : String) (directory : Directory String) (call : Call) :
    Prop :=
  Exists fun pending => Exists fun text => call.pending = some pending ∧
    format.marshalIndent pending = .ok text ∧
    match call.status with
    | .writing file whole offset => whole = text ++ [newline] ∧
        directory.entry (tmp path) = some file ∧ directory.files[file]? = some (whole.take offset)
    | .holding _ => directory.read (tmp path) = some (text ++ [newline])
    | .done (.ok ()) => directory.read path = some (text ++ [newline])
    | _ => False

/-- Only the call that opened the temporary file last can be at work with it. -/
structure Sectioned (format : Format) (path : String) (events : List Event) (server : Server) :
    Prop where
  opener : forall {index : Nat}, lastOpener events = some index -> Exists fun call =>
    server.calls[index]? = some call ∧ Progress format path server.directory call
  alone : forall {index : Nat} {call : Call}, server.calls[index]? = some call ->
    call.inSection = true -> lastOpener events = some index
  unopened : lastOpener events = none -> forall {index : Nat} {call : Call},
    server.calls[index]? = some call -> call.status = .waiting ∨ call.status = .assigned

/-- The call at work with the temporary file goes on. -/
theorem Sectioned.proceed {format : Format} {path : String} {events : List Event}
    {server next : Server} {event : Event} {index : Nat} {old new : Call}
    (sectioned : Sectioned format path events server)
    (current : server.calls[index]? = some old) (inside : old.inSection = true)
    (calls : next.calls = server.calls.set index new) (other : event.opener = none)
    (progress : Progress format path server.directory old ->
      Progress format path next.directory new) :
    Sectioned format path (events ++ [event]) next := by
  have last : lastOpener (events ++ [event]) = some index := by
    rw [lastOpener_append, other, Option.none_or]
    exact sectioned.alone current inside
  constructor
  · intro position opener
    cases Option.some.inj (last.symm.trans opener)
    rcases sectioned.opener (sectioned.alone current inside) with ⟨call, found, before⟩
    cases current.symm.trans found
    rw [calls]
    exact ⟨new, set_own current new, progress before⟩
  · intro position call found within
    rw [calls] at found
    rcases get_set current found with ⟨rfl, rfl⟩ | ⟨_, kept⟩
    · exact last
    · cases (sectioned.alone current inside).symm.trans (sectioned.alone kept within)
      exact last
  · intro none
    cases last.symm.trans none

theorem Sectioned.arrived {format : Format} {path : String} {events : List Event}
    {server : Server} (sectioned : Sectioned format path events server)
    (mappings : List OIDCGroupMapping) :
    Sectioned format path (events ++ [.call mappings])
      { server with calls := server.calls ++ [⟨mappings, none, .waiting⟩] } := by
  have last : lastOpener (events ++ [.call mappings]) = lastOpener events :=
    lastOpener_append events _
  constructor
  · intro position opener
    rw [last] at opener
    rcases sectioned.opener opener with ⟨call, found, progress⟩
    rcases List.getElem?_eq_some_iff.mp found with ⟨bound, _⟩
    exact ⟨call, (List.getElem?_append_left bound).trans found, progress⟩
  · intro position call found inside
    rw [last]
    rcases get_append found with kept | rfl
    · exact sectioned.alone kept inside
    · cases inside
  · intro none position call found
    rw [last] at none
    rcases get_append found with kept | rfl
    · exact sectioned.unopened none kept
    · exact Or.inl rfl

theorem Sectioned.assigned {format : Format} {path : String} {events : List Event}
    {server : Server} {index : Nat} {call : Call}
    (sectioned : Sectioned format path events server)
    (current : server.calls[index]? = some call) (waiting : call.status = .waiting) (now : Int) :
    Sectioned format path (events ++ [.assign index now])
      { server.proceed index { call with pending := some ⟨call.mappings, now⟩ } .assigned with
        data := ⟨call.mappings, now⟩ } := by
  have last : lastOpener (events ++ [.assign index now]) = lastOpener events :=
    lastOpener_append events _
  constructor
  · intro position opener
    rw [last] at opener
    rcases sectioned.opener opener with ⟨other, found, progress⟩
    have different : index ≠ position := by
      rintro rfl
      cases current.symm.trans found
      rcases progress with ⟨pending, text, _, _, impossible⟩
      rw [waiting] at impossible
      exact impossible
    exact ⟨other, (List.getElem?_set_ne different).trans found, progress⟩
  · intro position other found inside
    rw [last]
    rcases get_set current found with ⟨rfl, rfl⟩ | ⟨_, kept⟩
    · cases inside
    · exact sectioned.alone kept inside
  · intro none position other found
    rw [last] at none
    rcases get_set current found with ⟨rfl, rfl⟩ | ⟨_, kept⟩
    · exact Or.inr rfl
    · exact sectioned.unopened none kept

/-- The temporary file is opened while no call is at work with it. -/
theorem Sectioned.created {format : Format} {path : String} {events : List Event}
    {server : Server} {index : Nat} {call : Call} {pending : OIDCGroupMappings}
    {text : List UInt8} (current : server.calls[index]? = some call)
    (copy : call.pending = some pending) (marshalled : format.marshalIndent pending = .ok text)
    (free : server.sections = 0) :
    Sectioned format path (events ++ [.create index none])
      { server.proceed index call
          (.writing (server.directory.truncate (tmp path)).2 (text ++ [newline]) 0) with
        directory := (server.directory.truncate (tmp path)).1 } := by
  have last : lastOpener (events ++ [.create index none]) = some index :=
    lastOpener_append events _
  constructor
  · intro position opener
    cases Option.some.inj (last.symm.trans opener)
    refine ⟨_, set_own current _, pending, text, copy, marshalled, rfl, ?_, ?_⟩
    · exact truncate_entry server.directory (tmp path)
    · exact truncate_files server.directory (tmp path)
  · intro position other found inside
    rcases get_set current found with ⟨rfl, rfl⟩ | ⟨_, kept⟩
    · exact last
    · have some := sections_pos kept inside
      rw [free] at some
      exact absurd some (Nat.lt_irrefl 0)
  · intro none
    cases last.symm.trans none

/-! ## Runs without a failure -/

theorem progress_wrote {format : Format} {path : String} {directory : Directory String}
    {call : Call} {file : Nat} {text : List UInt8} {offset : Nat}
    (writing : call.status = .writing file text offset) (count : Nat)
    (progress : Progress format path directory call) :
    Progress format path (directory.write file offset ((text.drop offset).take count))
      { call with status := .writing file text (offset + count) } := by
  rcases progress with ⟨pending, marshalled, copy, same, place⟩
  rw [writing] at place
  exact ⟨pending, marshalled, copy, same, place.1, place.2.1, write_take place.2.2 count⟩

theorem progress_held {format : Format} {path : String} {directory : Directory String} {call : Call}
    (inside : call.inSection = true)
    (written : forall file text offset, call.status = .writing file text offset ->
      text.length ≤ offset)
    (stage : Stage) (progress : Progress format path directory call) :
    Progress format path directory { call with status := .holding stage } := by
  rcases progress with ⟨pending, marshalled, copy, same, place⟩
  refine ⟨pending, marshalled, copy, same, ?_⟩
  unfold Call.inSection at inside
  split at inside
  · rename_i file text offset writing
    rw [writing] at place
    rcases place with ⟨rfl, entry, contents⟩
    rw [List.take_of_length_le (written _ _ _ writing)] at contents
    exact (read_of_entry entry).trans contents
  · rename_i before holding
    rw [holding] at place
    exact place
  · cases inside

theorem progress_renamed {format : Format} {path : String} {directory moved : Directory String}
    {call : Call} {stage : Stage} (holding : call.status = .holding stage)
    (renamed : directory.rename (tmp path) path = some moved)
    (progress : Progress format path directory call) :
    Progress format path moved { call with status := .done (.ok ()) } := by
  rcases progress with ⟨pending, marshalled, copy, same, place⟩
  rw [holding] at place
  exact ⟨pending, marshalled, copy, same, (rename_spec (tmp_ne path) renamed).1.trans place⟩

/-- Every run is in trouble or in order. -/
theorem moved_ordered {format : Format} {path : String} {events : List Event}
    {server next : Server} {event : Event} (recorded : Recorded events server)
    (sectioned : Sectioned format path events server)
    (moved : Moved format path server event next) :
    Troubled path next ∨
      Recorded (events ++ [event]) next ∧ Sectioned format path (events ++ [event]) next := by
  have past : forall {call : Call}, call.inSection = true -> call.status ≠ .waiting := by
    intro call inside waiting
    rw [inSection_of_waiting waiting] at inside
    cases inside
  cases moved with
  | arrived mappings => exact Or.inr ⟨recorded.arrived mappings, sectioned.arrived mappings⟩
  | failed event index call reason directory current => exact Or.inl (failed_troubled current rfl)
  | assigned index now call current waiting =>
      exact Or.inr ⟨recorded.assigned current now, sectioned.assigned current waiting now⟩
  | created index call pending text current assigned copy marshalled =>
      have unwaiting : call.status ≠ .waiting := assigned ▸ Status.noConfusion
      rcases Nat.eq_zero_or_pos server.sections with free | busy
      · exact Or.inr ⟨recorded.proceed current unwaiting rfl rfl rfl,
          Sectioned.created current copy marshalled free⟩
      · exact Or.inl (Or.inr (crowded_enter current rfl (inSection_of_assigned assigned) rfl busy))
  | wrote index count call file text offset current writing =>
      have inside := inSection_of_writing writing
      exact Or.inr ⟨recorded.proceed current (past inside) rfl rfl rfl,
        sectioned.proceed current inside rfl rfl (progress_wrote writing count)⟩
  | held index call stage current inside written =>
      exact Or.inr ⟨recorded.proceed current (past inside) rfl rfl rfl,
        sectioned.proceed current inside rfl rfl (progress_held inside written stage)⟩
  | renamed index call directory current closed moved =>
      have inside := inSection_of_holding closed
      exact Or.inr ⟨recorded.proceed current (past inside) rfl rfl rfl,
        sectioned.proceed current inside rfl rfl (progress_renamed closed moved)⟩

/-- A run without a failure keeps the order. -/
theorem ordered_of_run {format : Format} {path : String} {start final : Server}
    {events : List Event} (fresh : start.calls = [])
    (run : exec (step format path) start events = some final)
    (succeeded : forall call, call ∈ final.calls -> call.status = .done (.ok ())) :
    Recorded events final ∧ Sectioned format path events final := by
  have nothing : forall {index : Nat} {call : Call}, start.calls[index]? ≠ some call := by
    intro index call found
    rw [fresh] at found
    cases found
  have ordered : Troubled path final ∨
      Recorded ([] ++ events) final ∧ Sectioned format path ([] ++ events) final := by
    refine @exec_history _ _ (step format path) (fun events server => Troubled path server ∨
      Recorded events server ∧ Sectioned format path events server) ?_ events [] start final ?_ run
    · intro past server event next before taken
      rcases before with troubled | held
      · exact Or.inl (troubled.moved (step_moved taken))
      · exact moved_ordered held.1 held.2 (step_moved taken)
    · refine Or.inr ⟨⟨?_, ?_, ?_, ?_⟩, ⟨?_, ?_, ?_⟩⟩
      · exact fun found => absurd found nothing
      · exact fun found => absurd found nothing
      · exact fun last => absurd last.symm (Option.some_ne_none _)
      · exact fun _ _ _ found => absurd found nothing
      · exact fun last => absurd last.symm (Option.some_ne_none _)
      · exact fun found => absurd found nothing
      · exact fun _ _ _ found => absurd found nothing
  rw [List.nil_append] at ordered
  refine ordered.resolve_left ?_
  rintro (⟨index, call, found, reason, failed⟩ | crowded)
  · cases failed.symm.trans (succeeded call (List.mem_of_getElem? found))
  · have idle : final.sections = 0 := by
      refine List.countP_eq_zero.mpr fun call member inside => ?_
      unfold Call.inSection at inside
      rw [succeeded call member] at inside
      cases inside
    rw [idle] at crowded
    exact Nat.not_lt_zero _ crowded

/-! ## What is in force -/

/-- A restart would load the mappings in memory, and they are the argument of a call. -/
def InForce (format : Format) (path : String) (server : Server) : Prop :=
  load format path server.directory = .ok server.data ∧
    Exists fun call => call ∈ server.calls ∧ server.data.mappings = call.mappings

/-- What the call with the index has assigned. -/
def Server.assignedBy (server : Server) (index : Option Nat) : Option OIDCGroupMappings :=
  (index.bind fun index => server.calls[index]?).bind Call.pending

theorem assignedBy_of_get {server : Server} {index : Nat} {call : Call}
    {pending : OIDCGroupMappings} (found : server.calls[index]? = some call)
    (copy : call.pending = some pending) : server.assignedBy (some index) = some pending := by
  unfold Server.assignedBy
  rw [Option.bind_some, found, Option.bind_some, copy]

theorem load_of_read {format : Format} {path : String} {directory : Directory String}
    {pending : OIDCGroupMappings} {text : List UInt8}
    (marshalled : format.marshalIndent pending = .ok text)
    (read : directory.read path = some (text ++ [newline])) :
    load format path directory = .ok pending := by
  have parsed := format.unmarshal_marshalIndent marshalled
  unfold load
  rw [read]
  split
  · rename_i none
    cases none
  · rename_i empty
    exact absurd (Option.some.inj empty) (List.concat_ne_nil _ _)
  · rename_i data same
    cases Option.some.inj same
    rw [parsed]
    rfl

/-- Once all calls have succeeded, the file holds what one of them assigned; and it holds the
mappings in memory exactly if the call that opened the temporary file last assigned what the
last assigning call did. -/
theorem group_mappings_in_force_iff {format : Format} {path : String} {start final : Server}
    {events : List Event} (fresh : start.calls = [])
    (run : exec (step format path) start events = some final) (called : final.calls ≠ [])
    (succeeded : forall call, call ∈ final.calls -> call.status = .done (.ok ())) :
    (Exists fun call => Exists fun pending => call ∈ final.calls ∧ call.pending = some pending ∧
      pending.mappings = call.mappings ∧ load format path final.directory = .ok pending) ∧
    (InForce format path final ↔
      final.assignedBy (lastOpener events) = final.assignedBy (lastAssigner events)) := by
  rcases ordered_of_run fresh run succeeded with ⟨recorded, sectioned⟩
  rcases List.exists_mem_of_ne_nil _ called with ⟨some, member⟩
  rcases List.getElem?_of_mem member with ⟨place, there⟩
  have returned := succeeded some member
  have opened : lastOpener events ≠ none := by
    intro none
    rcases sectioned.unopened none there with waiting | assigned
    · cases waiting.symm.trans returned
    · cases assigned.symm.trans returned
  have stored : lastAssigner events ≠ none := by
    intro none
    cases (recorded.unassigned none there).symm.trans returned
  rcases Option.ne_none_iff_exists'.mp opened with ⟨opener, last⟩
  rcases Option.ne_none_iff_exists'.mp stored with ⟨assigner, newest⟩
  rcases sectioned.opener last with ⟨call, found, pending, text, copy, marshalled, place⟩
  rw [succeeded call (List.mem_of_getElem? found)] at place
  have loaded := load_of_read marshalled place
  rcases recorded.memory newest with ⟨other, known, current⟩
  refine ⟨⟨call, pending, List.mem_of_getElem? found, copy, recorded.mappings found copy, loaded⟩,
    ?_⟩
  rw [last, newest, assignedBy_of_get found copy, assignedBy_of_get known current]
  constructor
  · rintro ⟨same, _⟩
    rw [Except.ok.inj (loaded.symm.trans same)]
  · intro same
    cases Option.some.inj same
    exact ⟨loaded, other, List.mem_of_getElem? known, recorded.mappings known current⟩

/-! ## Two administrators -/

/-- The members of one group become administrators. -/
def adminsMapping : OIDCGroupMapping := ⟨"groups", "admins", "host_admin", "host:*"⟩

def bytesOf (text : String) : List UInt8 := text.toUTF8.data.toList

/-- A record and its JSON. -/
abbrev Document := OIDCGroupMappings × List UInt8

def documents : List Document :=
  [(⟨[adminsMapping], 1767225600000000000⟩, bytesOf
    ("\x7b\n  \"mappings\": [\n    \x7b\n      \"claim\": \"groups\",\n" ++
      "      \"claimValue\": \"admins\",\n      \"roleId\": \"host_admin\",\n" ++
      "      \"scope\": \"host:*\"\n    \x7d\n  ],\n" ++
      "  \"updatedAt\": \"2026-01-01T00:00:00Z\"\n\x7d")),
    (⟨[], 1767225601000000000⟩, bytesOf
      "\x7b\n  \"mappings\": [],\n  \"updatedAt\": \"2026-01-01T00:00:01Z\"\n\x7d")]

theorem documents_apart : forall first, first ∈ documents -> forall second, second ∈ documents ->
    first.2 ++ [newline] = second.2 ++ [newline] -> first.1 = second.1 := by
  decide +kernel

/-- JSON, on the records of `documents`. -/
def documentFormat : Format where
  marshalIndent data :=
    match documents.find? fun document => decide (document.1 = data) with
    | some document => .ok document.2
    | none => .error "json: unsupported value"
  unmarshal text :=
    match documents.find? fun document => decide (document.2 ++ [newline] = text) with
    | some document => .ok document.1
    | none => .error "invalid character"
  unmarshal_marshalIndent := by
    intro data text marshalled
    split at marshalled
    · rename_i document found
      cases Except.ok.inj marshalled
      have same : document.1 = data := of_decide_eq_true
        (List.find?_some (p := fun d : Document => decide (d.1 = data)) found)
      split
      · rename_i other again
        have equal := of_decide_eq_true (List.find?_some
          (p := fun d : Document => decide (d.2 ++ [newline] = document.2 ++ [newline])) again)
        rw [documents_apart other (List.mem_of_find?_eq_some again) document
          (List.mem_of_find?_eq_some found) equal, same]
      · rename_i missing
        exact absurd (decide_eq_true rfl)
          (List.find?_eq_none.mp missing document (List.mem_of_find?_eq_some found))
    · cases marshalled

def emptyServer : Server := ⟨noMappings, ⟨[], fun _ => none, fun found => by cases found⟩, []⟩

/-- The call writes its file in one piece. -/
def Event.finish (index : Nat) : List Event :=
  [.create index none, .write index 1000 none, .advance index none, .advance index none,
    .advance index none, .advance index none, .advance index none]

/-- Both calls assign before either writes the file. -/
def assigning : List Event :=
  [.call [adminsMapping], .call [], .assign 0 1767225600000000000, .assign 1 1767225601000000000]

def livePath : String := "/data/oidc_group_mappings.json"

/-- All calls of the run were answered with success. -/
def AllSucceed (events : List Event) : Prop :=
  ((exec (step documentFormat livePath) emptyServer events).any fun final =>
    decide (final.calls ≠ [] ∧ forall call, call ∈ final.calls -> call.status = .done (.ok ()))) =
      true

theorem group_mappings_in_force_iff_inTurn :
    Exists fun final => exec (step documentFormat livePath) emptyServer
        (assigning ++ Event.finish 0 ++ Event.finish 1) = some final ∧
      (Exists fun call => Exists fun pending => call ∈ final.calls ∧ call.pending = some pending ∧
        pending.mappings = call.mappings ∧
        load documentFormat livePath final.directory = .ok pending) ∧
      (InForce documentFormat livePath final ↔
        final.assignedBy (lastOpener (assigning ++ Event.finish 0 ++ Event.finish 1)) =
          final.assignedBy (lastAssigner (assigning ++ Event.finish 0 ++ Event.finish 1))) := by
  have all : AllSucceed (assigning ++ Event.finish 0 ++ Event.finish 1) := by
    unfold AllSucceed
    decide +kernel
  rcases (Option.any_eq_true_iff_get _ _).mp all with ⟨some, holds⟩
  have facts := of_decide_eq_true holds
  exact ⟨_, (Option.some_get some).symm,
    group_mappings_in_force_iff rfl (Option.some_get some).symm facts.1 facts.2⟩

/-- The call that assigned last writes its file first, and the other mappings come back at the
next start. -/
theorem group_mappings_out_of_force :
    ¬ forall (format : Format) (path : String) (start final : Server) (events : List Event),
      start.calls = [] -> exec (step format path) start events = some final ->
      final.calls ≠ [] -> (forall call, call ∈ final.calls -> call.status = .done (.ok ())) ->
      InForce format path final := by
  intro inForce
  have all : AllSucceed (assigning ++ Event.finish 1 ++ Event.finish 0) := by
    unfold AllSucceed
    decide +kernel
  rcases (Option.any_eq_true_iff_get _ _).mp all with ⟨some, holds⟩
  have facts := of_decide_eq_true holds
  have same := (inForce documentFormat livePath emptyServer _ _ rfl (Option.some_get some).symm
    facts.1 facts.2).1
  have different : (exec (step documentFormat livePath) emptyServer
      (assigning ++ Event.finish 1 ++ Event.finish 0)).any (fun final =>
        decide (load documentFormat livePath final.directory ≠ .ok final.data)) = true := by
    decide +kernel
  rcases (Option.any_eq_true_iff_get _ _).mp different with ⟨again, differs⟩
  exact of_decide_eq_true differs same

end GroupMappings
end Settings
end Basement
