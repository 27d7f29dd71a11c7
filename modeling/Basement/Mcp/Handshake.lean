import Basement.Mcp.Server
import Mathlib.Data.List.Forall2
import Mathlib.Data.List.Induction

namespace Basement
namespace Mcp

open Library Library.Json

/-!
# The session protocol

A host reads the responses of the server in the order of its own messages.  What a line is to it,
`Message.of`, is said without the server: a request with an id, a notification, or neither.  A
session conforms when the lines written answer, one for one and in order, the lines that need an
answer, and when no tool is listed or called before the handshake: an `initialize` request, and
after it the notification that it was received.  A line of white space holds no message.

The server marks the handshake as complete when the notification arrives, whatever came before it,
and answers nothing to a request of that method.  `session_conforms_iff` says for which inputs this
shows.
-/

/-! ## What a line is -/

inductive Message where
  | blank
  | malformed
  | notification (method : String) (params : Option Json)
  | request (id : Json) (method : String) (params : Option Json)

def RpcRequest.message (req : RpcRequest) : Message :=
  match req.id with
  | none | some .null => .notification req.method req.params
  | some id => .request id req.method req.params

/-- What a line is to a host. -/
def Message.of (codec : Codec) (line : List UInt8) : Message :=
  if isBlank line then .blank
  else
    match decodeRequest codec line with
    | none => .malformed
    | some req => if req.jsonrpc ≠ "2.0" then .malformed else req.message

namespace Message

def method : Message -> Option String
  | .notification method _ | .request _ method _ => some method
  | _ => none

/-- The message is to be answered. -/
def Answered : Message -> Prop
  | .malformed | .request .. => True
  | _ => False

instance : DecidablePred Answered
  | .malformed | .request .. => isTrue trivial
  | .blank | .notification .. => isFalse not_false

/-- A request of the method `notifications/initialized`. -/
def Swallowed : Message -> Prop
  | .request _ method _ => method = "notifications/initialized"
  | _ => False

instance : DecidablePred Swallowed
  | .request _ method _ => inferInstanceAs (Decidable (method = "notifications/initialized"))
  | .blank | .malformed | .notification .. => isFalse not_false

/-- The message asks for the tools, or for a call of one that there is. -/
def AsksForTools (server : Server) : Message -> Prop
  | .request _ method params =>
      method = "tools/list" ∨ method = "tools/call" ∧
        Exists fun call => decodeCall params = some call ∧ server.knows call.name = true
  | _ => False

end Message

/-! ## What the server is to do -/

/-- The messages of the lines. -/
def messages (codec : Codec) (arrivals : List Arrival) : List Message :=
  arrivals.map fun arrival => Message.of codec arrival.line

def member (frame : Json) (name : String) : Option Json :=
  match frame with
  | .obj entries => lookup entries name
  | _ => none

def code (frame : Json) : Option Json := (member frame "error").bind fun error => member error "code"

/-- The line answers the message. -/
def Answers : Message -> Json -> Prop
  | .malformed, frame =>
      code frame = some (.int errCodeParseError) ∨ code frame = some (.int errCodeInvalidRequest)
  | .request id _ _, frame => member frame "id" = some id
  | _, _ => False

/-- An `initialize` request, and a notification after it. -/
def Handshake (past : List Message) : Prop :=
  Exists fun id => Exists fun asked => Exists fun told =>
    List.Sublist [.request id "initialize" asked, .notification "notifications/initialized" told]
      past

/-- The line lists or calls a tool. -/
def UsesTool (codec : Codec) (server : Server) (before : List Arrival) (arrival : Arrival) : Prop :=
  (serve codec server (before ++ [arrival])).uses ≠ (serve codec server before).uses

structure Conforms (codec : Codec) (server : Server) (arrivals : List Arrival) : Prop where
  answered : List.Forall₂ Answers ((messages codec arrivals).filter (decide ·.Answered))
    (serve codec server arrivals).written
  guarded : forall before arrival after, arrivals = before ++ arrival :: after ->
    UsesTool codec server before arrival -> Handshake (messages codec before)

/-- What a line must be, after the lines before it, for the server to conform. -/
structure Orderly (server : Server) (past : List Message) (message : Message) : Prop where
  noId : ¬ message.Swallowed
  inOrder : message.AsksForTools server ->
    (Exists fun earlier => earlier ∈ past ∧
      earlier.method = some "notifications/initialized") -> Handshake past

/-! ## One line -/

theorem message_notification {req : RpcRequest} (silent : req.isNotification = true) :
    req.message = .notification req.method req.params := by
  rcases req with ⟨jsonrpc, id, method, params⟩
  cases id with
  | none => rfl
  | some id =>
      cases id with
      | null => rfl
      | _ => cases silent

theorem message_request {req : RpcRequest} (asks : req.isNotification = false) :
    Exists fun id => req.id = some id ∧ req.message = .request id req.method req.params := by
  rcases req with ⟨jsonrpc, id, method, params⟩
  cases id with
  | none => cases asks
  | some id =>
      cases id with
      | null => cases asks
      | _ => exact ⟨_, rfl, rfl⟩

theorem member_frame_id (resp : RpcResponse) : member resp.frame "id" = resp.id := by
  simp [member, RpcResponse.frame, lookup_cons, lookup_append, lookup_entry]

theorem code_frame (resp : RpcResponse) :
    code resp.frame = resp.error.map fun error => .int error.code := by
  have found : member resp.frame "error" = resp.error.map RpcError.json := by
    simp [member, RpcResponse.frame, lookup_cons, lookup_append, lookup_entry]
  rw [code, found]
  cases resp.error with
  | none => rfl
  | some error => simp [member, RpcError.json, lookup_cons, lookup_nil]

/-- The messages that the server does answer. -/
def Message.Served (message : Message) : Prop := message.Answered ∧ ¬ message.Swallowed

instance : DecidablePred Message.Served := fun message =>
  inferInstanceAs (Decidable (message.Answered ∧ ¬ message.Swallowed))

/-- What one line adds to the output. -/
def Adds (session : Session) (message : Message) (next : Session) : Prop :=
  Exists fun reply => next.written = session.written ++ reply ∧
    List.Forall₂ Answers ([message].filter (decide ·.Served)) reply

theorem adds_nothing {session next : Session} {message : Message} (quiet : ¬ message.Served)
    (same : next.written = session.written) : Adds session message next := by
  refine ⟨[], same.trans (List.append_nil _).symm, ?_⟩
  rw [List.filter_singleton, decide_eq_false quiet]
  exact .nil

theorem adds_one {session next : Session} {message : Message} {frame : Json}
    (served : message.Served) (written : next.written = session.written ++ [frame])
    (answers : Answers message frame) : Adds session message next := by
  refine ⟨[frame], written, ?_⟩
  rw [List.filter_singleton, decide_eq_true served]
  exact .cons answers .nil

theorem adds_handleMethod (codec : Codec) (server : Server) (outcome : Except String String)
    (session : Session) (req : RpcRequest) :
    Adds session req.message (handleMethod codec server outcome session req) := by
  cases asks : req.isNotification with
  | true =>
      rw [message_notification asks, handleMethod_notification _ _ _ _ asks]
      refine adds_nothing (fun served => served.1) ?_
      split_ifs <;> rfl
  | false =>
      rcases message_request asks with ⟨id, present, same⟩
      rw [same]
      by_cases told : req.method = "notifications/initialized"
      · rw [handleMethod_initialized _ _ _ _ told]
        exact adds_nothing (fun served => served.2 told) rfl
      · rcases replied_handleMethod codec server outcome session asks told with
          ⟨resp, echoed, written, _⟩
        refine adds_one ⟨trivial, told⟩ written ?_
        exact (member_frame_id resp).trans (echoed.trans present)

/-- A line is blank, or it is refused before its method is looked at, or its method is handled. -/
theorem receive_cases {codec : Codec} {server : Server} {session : Session} {arrival : Arrival}
    {motive : Message -> Session -> Prop} (blank : motive .blank session)
    (refused : forall (resp : RpcResponse) (error : RpcError), resp.error = some error ->
      error.code = errCodeParseError ∨ error.code = errCodeInvalidRequest ->
        motive .malformed (writeResponse session resp))
    (handled : forall req : RpcRequest,
      motive req.message (handleMethod codec server arrival.outcome session req)) :
    motive (Message.of codec arrival.line) (receive codec server session arrival) := by
  unfold Message.of receive
  cases isBlank arrival.line with
  | true => exact blank
  | false =>
      simp only [Bool.false_eq_true, if_false]
      unfold handleLine
      cases decodeRequest codec arrival.line with
      | none => exact refused _ _ rfl (Or.inl rfl)
      | some req =>
          by_cases old : req.jsonrpc ≠ "2.0"
          · simp only [if_pos old]
            exact refused _ _ rfl (Or.inr rfl)
          · simp only [if_neg old]
            exact handled req

theorem adds_receive (codec : Codec) (server : Server) (session : Session) (arrival : Arrival) :
    Adds session (Message.of codec arrival.line) (receive codec server session arrival) := by
  refine receive_cases (adds_nothing (fun served => served.1) rfl) ?_
    (adds_handleMethod codec server arrival.outcome session)
  intro resp error failed refused
  have answers : code resp.frame = some (.int error.code) := by
    rw [code_frame, failed]
    rfl
  refine adds_one ⟨trivial, not_false⟩ rfl ?_
  rcases refused with parse | invalid
  · exact Or.inl (parse ▸ answers)
  · exact Or.inr (invalid ▸ answers)

theorem handleMethod_sets (codec : Codec) (server : Server) (outcome : Except String String)
    (session : Session) (req : RpcRequest) :
    (handleMethod codec server outcome session req).initialized = true ↔
      session.initialized = true ∨ req.message.method = some "notifications/initialized" := by
  by_cases told : req.method = "notifications/initialized"
  · rw [handleMethod_initialized _ _ _ _ told]
    cases asks : req.isNotification with
    | true => simp [message_notification asks, Message.method, told]
    | false =>
        rcases message_request asks with ⟨id, present, same⟩
        simp [same, Message.method, told]
  · cases asks : req.isNotification with
    | true =>
        rw [handleMethod_notification _ _ _ _ asks, if_neg told, message_notification asks]
        simp [Message.method, told]
    | false =>
        rcases message_request asks with ⟨id, present, same⟩
        rcases replied_handleMethod codec server outcome session asks told with ⟨_, _, _, kept⟩
        simp [same, kept, Message.method, told]

/-- The flag is set by the method `notifications/initialized`, with an id or without. -/
theorem receive_initialized (codec : Codec) (server : Server) (session : Session)
    (arrival : Arrival) :
    (receive codec server session arrival).initialized = true ↔
      session.initialized = true ∨
        (Message.of codec arrival.line).method = some "notifications/initialized" := by
  refine @receive_cases codec server session arrival (fun message next =>
    next.initialized = true ↔ session.initialized = true ∨
      message.method = some "notifications/initialized") ?_ ?_
    (handleMethod_sets codec server arrival.outcome session)
  · simp [Message.method]
  · intro resp error _ _
    simp [Message.method]

theorem handleMethod_asks (codec : Codec) (server : Server) (outcome : Except String String)
    (session : Session) (req : RpcRequest) :
    (handleMethod codec server outcome session req).uses ≠ session.uses ↔
      session.initialized = true ∧ req.message.AsksForTools server := by
  cases asks : req.isNotification with
  | true =>
      rw [handleMethod_notification _ _ _ _ asks, message_notification asks]
      split_ifs <;> simp [Message.AsksForTools]
  | false =>
      rcases message_request asks with ⟨id, _, same⟩
      rw [same]
      exact handleMethod_uses _ _ _ _ asks

theorem receive_uses (codec : Codec) (server : Server) (session : Session) (arrival : Arrival) :
    (receive codec server session arrival).uses ≠ session.uses ↔
      session.initialized = true ∧ (Message.of codec arrival.line).AsksForTools server := by
  refine @receive_cases codec server session arrival (fun message next =>
    next.uses ≠ session.uses ↔ session.initialized = true ∧ message.AsksForTools server) ?_ ?_
    (handleMethod_asks codec server arrival.outcome session)
  · simp [Message.AsksForTools]
  · intro resp error _ _
    simp [Message.AsksForTools]

/-! ## Whole inputs -/

theorem messages_append (codec : Codec) (before : List Arrival) (arrival : Arrival) :
    messages codec (before ++ [arrival]) =
      messages codec before ++ [Message.of codec arrival.line] :=
  List.map_append

theorem serve_written (codec : Codec) (server : Server) (arrivals : List Arrival) :
    List.Forall₂ Answers ((messages codec arrivals).filter (decide ·.Served))
      (serve codec server arrivals).written := by
  induction arrivals using List.reverseRecOn with
  | nil => exact .nil
  | append_singleton before arrival ih =>
      rcases adds_receive codec server (serve codec server before) arrival with
        ⟨reply, written, answers⟩
      rw [messages_append, serve_append, written, List.filter_append]
      exact List.rel_append ih answers

theorem serve_initialized (codec : Codec) (server : Server) (arrivals : List Arrival) :
    (serve codec server arrivals).initialized = true ↔
      Exists fun message => message ∈ messages codec arrivals ∧
        message.method = some "notifications/initialized" := by
  induction arrivals using List.reverseRecOn with
  | nil => simp [serve, messages, Session.new]
  | append_singleton before arrival ih =>
      rw [serve_append, receive_initialized, ih, messages_append]
      simp [or_and_right, exists_or]

/-- A tool is used when it is asked for after the flag was set. -/
theorem usesTool_iff (codec : Codec) (server : Server) (before : List Arrival)
    (arrival : Arrival) :
    UsesTool codec server before arrival ↔
      (Exists fun earlier => earlier ∈ messages codec before ∧
        earlier.method = some "notifications/initialized") ∧
      (Message.of codec arrival.line).AsksForTools server := by
  rw [UsesTool, serve_append, receive_uses, serve_initialized]

/-- Every request is answered when none is swallowed. -/
theorem answered_iff (codec : Codec) (server : Server) (arrivals : List Arrival) :
    List.Forall₂ Answers ((messages codec arrivals).filter (decide ·.Answered))
        (serve codec server arrivals).written ↔
      forall message, message ∈ messages codec arrivals -> ¬ message.Swallowed := by
  have split : (messages codec arrivals).filter (decide ·.Served) =
      ((messages codec arrivals).filter (decide ·.Answered)).filter
        (decide <| ¬ ·.Swallowed) := by
    rw [List.filter_filter]
    congr 1
    funext message
    rw [Bool.eq_iff_iff, decide_eq_true_iff]
    simp [Message.Served, and_comm]
  have served := serve_written codec server arrivals
  constructor
  · intro all message listed swallowed
    have same := served.length_eq.trans all.length_eq.symm
    rw [split, List.length_filter_eq_length_iff] at same
    have answered : message.Answered := by
      cases message with
      | request _ _ _ => trivial
      | _ => exact swallowed.elim
    exact of_decide_eq_true
      (same message (List.mem_filter.mpr ⟨listed, decide_eq_true answered⟩)) swallowed
  · intro none
    rwa [split, List.filter_eq_self.mpr] at served
    intro message listed
    exact decide_eq_true (none message (List.mem_of_mem_filter listed))

/-- The server conforms on the inputs whose lines are all in order. -/
theorem session_conforms_iff (codec : Codec) (server : Server) (arrivals : List Arrival) :
    Conforms codec server arrivals ↔
      forall before arrival after, arrivals = before ++ arrival :: after ->
        Orderly server (messages codec before) (Message.of codec arrival.line) := by
  constructor
  · intro conforms before arrival after split
    refine ⟨?_, ?_⟩
    · refine (answered_iff codec server arrivals).mp conforms.answered _ ?_
      rw [split]
      exact List.mem_map_of_mem (List.mem_append_right _ List.mem_cons_self)
    · intro asks told
      exact conforms.guarded before arrival after split
        ((usesTool_iff codec server before arrival).mpr ⟨told, asks⟩)
  · intro orderly
    refine ⟨(answered_iff codec server arrivals).mpr ?_, ?_⟩
    · intro message listed
      rcases List.mem_map.mp listed with ⟨arrival, member, rfl⟩
      rcases List.append_of_mem member with ⟨before, after, split⟩
      exact (orderly before arrival after split).noId
    · intro before arrival after split uses
      rcases (usesTool_iff codec server before arrival).mp uses with ⟨told, asks⟩
      exact (orderly before arrival after split).inOrder asks told

/-! ## Two sessions that do not conform -/

namespace Sample

def notice : String := "\x7b\"jsonrpc\":\"2.0\",\"method\":\"notifications/initialized\"\x7d"

def noticeWithId : String :=
  "\x7b\"jsonrpc\":\"2.0\",\"id\":7,\"method\":\"notifications/initialized\"\x7d"

def listing : String := "\x7b\"jsonrpc\":\"2.0\",\"id\":1,\"method\":\"tools/list\"\x7d"

/-- The three texts and what they say. -/
def texts : List (String × Json) :=
  [(notice, .obj [("jsonrpc", .str "2.0"), ("method", .str "notifications/initialized")]),
    (noticeWithId,
      .obj [("jsonrpc", .str "2.0"), ("id", .int 7), ("method", .str "notifications/initialized")]),
    (listing, .obj [("jsonrpc", .str "2.0"), ("id", .int 1), ("method", .str "tools/list")])]

def bytes (text : String) : List UInt8 := text.toUTF8.data.toList

def codec : Codec where
  parse line := (texts.find? fun text => decide (bytes text.1 = line)).map Prod.snd
  frameError _ := "invalid character"
  paramsError _ _ := "unexpected end of JSON input"

def server : Server := ⟨[⟨"basement_search", "Search across buckets", .obj []⟩], "v1.8.0c"⟩

def arrival (text : String) : Arrival := ⟨bytes text, .error "NOT_IMPLEMENTED"⟩

theorem of_notice : Message.of codec (bytes notice) =
    .notification "notifications/initialized" none := by
  rfl

theorem of_noticeWithId : Message.of codec (bytes noticeWithId) =
    .request (.int 7) "notifications/initialized" none := by
  rfl

theorem of_listing : Message.of codec (bytes listing) = .request (.int 1) "tools/list" none := by
  rfl

end Sample

/-- The tools are listed without any `initialize`, and a request is not answered. -/
theorem handshake_is_not_guarded :
    ¬ Conforms Sample.codec Sample.server
        [Sample.arrival Sample.notice, Sample.arrival Sample.listing] ∧
      ¬ Conforms Sample.codec Sample.server [Sample.arrival Sample.noticeWithId] := by
  constructor
  · intro conforms
    have uses : UsesTool Sample.codec Sample.server [Sample.arrival Sample.notice]
        (Sample.arrival Sample.listing) := by
      refine (usesTool_iff ..).mpr ⟨⟨_, List.mem_singleton_self _, ?_⟩, ?_⟩
      · exact congrArg Message.method Sample.of_notice
      · exact Sample.of_listing ▸ Or.inl rfl
    rcases conforms.guarded _ _ [] rfl uses with ⟨id, asked, told, early⟩
    exact absurd early.length_le (by simp [messages])
  · intro conforms
    refine (answered_iff _ Sample.server _).mp conforms.answered _ (List.mem_singleton_self _) ?_
    change (Message.of Sample.codec (Sample.bytes Sample.noticeWithId)).Swallowed
    rw [Sample.of_noticeWithId]
    rfl

end Mcp
end Basement
