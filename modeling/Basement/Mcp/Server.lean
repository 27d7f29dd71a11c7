import Basement.Library.Json

namespace Basement
namespace Mcp

open Library Library.Json

/-!
# The stdio server

Each line of the input is one JSON-RPC message, and each response is one line of the output.  A
session is what the server keeps between two lines: the handshake flag, what the client said of
itself, the lines written so far, and which tools were listed or called.

The text of JSON is read by `Codec.parse`, about which nothing is assumed, and the texts of the
errors of `encoding/json` come from the codec as well.  What is read is decoded here.  A response
is written as a JSON value: what the server marshals has no part that cannot be marshalled.

A tool handler answers from a remote service.  What it returns comes with the line, and it returns.
-/

/-! ## Messages -/

/-- What `encoding/json` does with the text of a message. -/
structure Codec where
  parse : List UInt8 -> Option Json
  frameError : List UInt8 -> String
  paramsError : String -> Option Json -> String

/-- `rpcRequest`.  A member that is there may be `null`. -/
structure RpcRequest where
  jsonrpc : String
  id : Option Json
  method : String
  params : Option Json

structure RpcError where
  code : Int
  message : String

/-- `rpcResponse`. -/
structure RpcResponse where
  jsonrpc : String := "2.0"
  id : Option Json := none
  result : Option Json := none
  error : Option RpcError := none

def errCodeParseError : Int := -32700
def errCodeInvalidRequest : Int := -32600
def errCodeMethodNotFound : Int := -32601
def errCodeInvalidParams : Int := -32602

structure ServerInfo where
  name : String
  version : String

/-- A member that is kept as it is, `null` included. -/
def decodeRaw (_ : Option Json) (json : Json) : Option (Option Json) := some (some json)

def requestShape : Shape RpcRequest where
  fields := [
    .of "jsonrpc" decodeString (·.jsonrpc) fun v x => { v with jsonrpc := x },
    .of "id" decodeRaw (·.id) fun v x => { v with id := x },
    .of "method" decodeString (·.method) fun v x => { v with method := x },
    .of "params" decodeRaw (·.params) fun v x => { v with params := x }]
  distinct := by decide +kernel

def infoShape : Shape ServerInfo where
  fields := [
    .of "name" decodeString (·.name) fun v x => { v with name := x },
    .of "version" decodeString (·.version) fun v x => { v with version := x }]
  distinct := by decide +kernel

/-- The parameters of `initialize`. -/
structure InitializeParams where
  protocolVersion : String
  clientInfo : ServerInfo
  capabilities : Option Json

def initializeShape : Shape InitializeParams where
  fields := [
    .of "protocolVersion" decodeString (·.protocolVersion) fun v x =>
      { v with protocolVersion := x },
    .of "clientInfo" infoShape.decode (·.clientInfo) fun v x => { v with clientInfo := x },
    .of "capabilities" decodeRaw (·.capabilities) fun v x => { v with capabilities := x }]
  distinct := by decide +kernel

/-- The parameters of `tools/call`. -/
structure CallParams where
  name : String
  arguments : Option Json

def callShape : Shape CallParams where
  fields := [
    .of "name" decodeString (·.name) fun v x => { v with name := x },
    .of "arguments" decodeRaw (·.arguments) fun v x => { v with arguments := x }]
  distinct := by decide +kernel

def decodeRequest (codec : Codec) (line : List UInt8) : Option RpcRequest :=
  (codec.parse line).bind (requestShape.decode ⟨"", none, "", none⟩)

/-- Missing parameters of `initialize` are not decoded. -/
def decodeInitialize : Option Json -> Option InitializeParams
  | none => some ⟨"", ⟨"", ""⟩, none⟩
  | some json => initializeShape.decode ⟨"", ⟨"", ""⟩, none⟩ json

/-- Missing parameters of `tools/call` are an error. -/
def decodeCall (params : Option Json) : Option CallParams :=
  params.bind (callShape.decode ⟨"", none⟩)

def RpcError.json (error : RpcError) : Json :=
  .obj [("code", .int error.code), ("message", .str error.message)]

/-- A member that is there. -/
def entry (name : String) : Option Json -> List (String × Json)
  | some json => [(name, json)]
  | none => []

/-- The line of a response. -/
def RpcResponse.frame (resp : RpcResponse) : Json :=
  .obj (("jsonrpc", .str resp.jsonrpc) :: entry "id" resp.id ++ entry "result" resp.result ++
    entry "error" (resp.error.map RpcError.json))

/-! ## Lines of white space -/

/-- `strings.TrimSpace` leaves nothing of the line. -/
def isBlank : List UInt8 -> Bool
  | [] => true
  | 0xC2 :: second :: rest => (second = 0x85 || second = 0xA0) && isBlank rest
  | 0xE1 :: 0x9A :: 0x80 :: rest => isBlank rest
  | 0xE2 :: 0x80 :: third :: rest =>
      ((0x80 ≤ third && third ≤ 0x8A) || third = 0xA8 || third = 0xA9 || third = 0xAF) &&
        isBlank rest
  | 0xE2 :: 0x81 :: 0x9F :: rest => isBlank rest
  | 0xE3 :: 0x80 :: 0x80 :: rest => isBlank rest
  | byte :: rest => ((0x09 ≤ byte && byte ≤ 0x0D) || byte = 0x20) && isBlank rest

/-! ## The server -/

structure Tool where
  name : String
  description : String
  inputSchema : Json

/-- The tool catalog and the version of the build. -/
structure Server where
  tools : List Tool
  version : String

inductive ToolUse where
  | listed
  | called (name : String) (arguments : Json)

structure Session where
  initialized : Bool
  clientInfo : ServerInfo
  written : List Json
  uses : List ToolUse

/-- `NewServer`. -/
def Session.new : Session := ⟨false, ⟨"", ""⟩, [], []⟩

/-- A line, and what the handler returns if the line calls a tool. -/
structure Arrival where
  line : List UInt8
  outcome : Except String String

def writeResponse (session : Session) (resp : RpcResponse) : Session :=
  { session with written := session.written ++ [resp.frame] }

def replyError (session : Session) (id : Option Json) (code : Int) (message : String) : Session :=
  writeResponse session { id, error := some ⟨code, message⟩ }

def mcpProtocolVersion : String := "2024-11-05"

def instructions : String :=
  "basement-mcp exposes basement storage operations as MCP tools. " ++
    "Use basement_list_regions to discover what's available, then drill down into " ++
    "buckets and objects. Tools whose names start with basement_list_audit or " ++
    "basement_create_* require admin/user capabilities on the upstream service " ++
    "account."

def ServerInfo.json (info : ServerInfo) : Json :=
  .obj [("name", .str info.name), ("version", .str info.version)]

def initializeResult (server : Server) : Json :=
  .obj [("protocolVersion", .str mcpProtocolVersion),
    ("capabilities", .obj [("tools", .obj [("listChanged", .bool false)])]),
    ("serverInfo", (ServerInfo.mk "basement-mcp" server.version).json),
    ("instructions", .str instructions)]

def handleInitialize (codec : Codec) (server : Server) (session : Session) (req : RpcRequest) :
    Session :=
  match decodeInitialize req.params with
  | none =>
      replyError session req.id errCodeInvalidParams
        ("invalid initialize params: " ++ codec.paramsError req.method req.params)
  | some params =>
      writeResponse { session with clientInfo := params.clientInfo }
        { id := req.id, result := some (initializeResult server) }

def Tool.listed (tool : Tool) : Json :=
  .obj [("name", .str tool.name), ("description", .str tool.description),
    ("inputSchema", tool.inputSchema)]

def handleToolsList (server : Server) (session : Session) (req : RpcRequest) : Session :=
  writeResponse { session with uses := session.uses ++ [.listed] }
    { id := req.id, result := some (.obj [("tools", .arr (server.tools.map Tool.listed))]) }

def toolCallResult (text : String) (isError : Bool) : Json :=
  .obj (("content", .arr [.obj [("type", .str "text"), ("text", .str text)]]) ::
    omitEmpty isError "isError" (.bool true))

def callResult : Except String String -> Json
  | .ok text => toolCallResult text false
  | .error text => toolCallResult text true

/-- `toolByName` has the tool. -/
def Server.knows (server : Server) (name : String) : Bool :=
  server.tools.any fun tool => tool.name = name

def handleToolsCall (codec : Codec) (server : Server) (outcome : Except String String)
    (session : Session) (req : RpcRequest) : Session :=
  match decodeCall req.params with
  | none =>
      replyError session req.id errCodeInvalidParams
        ("invalid tools/call params: " ++ codec.paramsError req.method req.params)
  | some params =>
      if server.knows params.name then
        let args := params.arguments.getD (.obj [])
        writeResponse { session with uses := session.uses ++ [.called params.name args] }
          { id := req.id, result := some (callResult outcome) }
      else
        replyError session req.id errCodeMethodNotFound ("unknown tool: " ++ params.name)

def RpcRequest.isNotification (req : RpcRequest) : Bool :=
  match req.id with
  | none | some .null => true
  | some _ => false

def notInitialized : String := "server not initialized: complete the initialize handshake first"

/-- The branches of `handleLine` on the method of a request of version 2.0. -/
def handleMethod (codec : Codec) (server : Server) (outcome : Except String String)
    (session : Session) (req : RpcRequest) : Session :=
  if req.method = "initialize" then
    if req.isNotification then session else handleInitialize codec server session req
  else if req.method = "notifications/initialized" then { session with initialized := true }
  else if req.method = "ping" then
    if req.isNotification then session
    else writeResponse session { id := req.id, result := some (.obj []) }
  else if req.method = "tools/list" then
    if req.isNotification then session
    else if !session.initialized then
      replyError session req.id errCodeInvalidRequest notInitialized
    else handleToolsList server session req
  else if req.method = "tools/call" then
    if req.isNotification then session
    else if !session.initialized then
      replyError session req.id errCodeInvalidRequest notInitialized
    else handleToolsCall codec server outcome session req
  else if req.isNotification then session
  else replyError session req.id errCodeMethodNotFound ("method not found: " ++ req.method)

def handleLine (codec : Codec) (server : Server) (session : Session) (arrival : Arrival) :
    Session :=
  match decodeRequest codec arrival.line with
  | none =>
      writeResponse session
        { error := some ⟨errCodeParseError, "Parse error: " ++ codec.frameError arrival.line⟩ }
  | some req =>
      if req.jsonrpc ≠ "2.0" then
        replyError session req.id errCodeInvalidRequest "jsonrpc version must be \"2.0\""
      else handleMethod codec server arrival.outcome session req

/-- One turn of the loop of `Serve`. -/
def receive (codec : Codec) (server : Server) (session : Session) (arrival : Arrival) : Session :=
  if isBlank arrival.line then session else handleLine codec server session arrival

def serve (codec : Codec) (server : Server) (arrivals : List Arrival) : Session :=
  arrivals.foldl (receive codec server) Session.new

theorem serve_append (codec : Codec) (server : Server) (before : List Arrival)
    (arrival : Arrival) :
    serve codec server (before ++ [arrival]) =
      receive codec server (serve codec server before) arrival := by
  rw [serve, List.foldl_append]
  rfl

/-! ## What a line does -/

theorem lookup_entry (name : String) (json : Option Json) (key : String) :
    lookup (entry name json) key = if name = key then json else none := by
  cases json with
  | none => exact (ite_self none).symm
  | some json => by_cases same : name = key <;> simp [entry, lookup_cons, lookup_nil, same]

@[simp] theorem writeResponse_written (session : Session) (resp : RpcResponse) :
    (writeResponse session resp).written = session.written ++ [resp.frame] := rfl

@[simp] theorem writeResponse_uses (session : Session) (resp : RpcResponse) :
    (writeResponse session resp).uses = session.uses := rfl

@[simp] theorem writeResponse_initialized (session : Session) (resp : RpcResponse) :
    (writeResponse session resp).initialized = session.initialized := rfl

/-- One response with the id of the request was written. -/
def Replied (session : Session) (id : Option Json) (next : Session) : Prop :=
  Exists fun resp : RpcResponse => resp.id = id ∧
    next.written = session.written ++ [resp.frame] ∧ next.initialized = session.initialized

theorem replied_replyError (session : Session) (id : Option Json) (code : Int)
    (message : String) : Replied session id (replyError session id code message) :=
  ⟨_, rfl, rfl, rfl⟩

theorem replied_handleInitialize (codec : Codec) (server : Server) (session : Session)
    (req : RpcRequest) : Replied session req.id (handleInitialize codec server session req) := by
  unfold handleInitialize
  cases decodeInitialize req.params with
  | none => exact replied_replyError ..
  | some params => exact ⟨_, rfl, rfl, rfl⟩

theorem handleInitialize_uses (codec : Codec) (server : Server) (session : Session)
    (req : RpcRequest) : (handleInitialize codec server session req).uses = session.uses := by
  unfold handleInitialize
  cases decodeInitialize req.params <;> rfl

theorem replied_handleToolsList (server : Server) (session : Session) (req : RpcRequest) :
    Replied session req.id (handleToolsList server session req) :=
  ⟨_, rfl, rfl, rfl⟩

theorem replied_handleToolsCall (codec : Codec) (server : Server)
    (outcome : Except String String) (session : Session) (req : RpcRequest) :
    Replied session req.id (handleToolsCall codec server outcome session req) := by
  unfold handleToolsCall
  cases decodeCall req.params with
  | none => exact replied_replyError ..
  | some params =>
      by_cases known : server.knows params.name = true
      · simp only [known, if_true]
        exact ⟨_, rfl, rfl, rfl⟩
      · simp only [known]
        exact replied_replyError ..

/-- A tool is called when the parameters name one. -/
theorem handleToolsCall_uses (codec : Codec) (server : Server) (outcome : Except String String)
    (session : Session) (req : RpcRequest) :
    (handleToolsCall codec server outcome session req).uses ≠ session.uses ↔
      Exists fun call => decodeCall req.params = some call ∧ server.knows call.name = true := by
  unfold handleToolsCall
  cases decodeCall req.params with
  | none => simp [replyError]
  | some params =>
      by_cases known : server.knows params.name = true
      · simp [known]
      · simp [known, replyError]

/-- A notification is not answered and uses no tool. -/
theorem handleMethod_notification (codec : Codec) (server : Server)
    (outcome : Except String String) (session : Session) {req : RpcRequest}
    (silent : req.isNotification = true) :
    handleMethod codec server outcome session req =
      if req.method = "notifications/initialized" then { session with initialized := true }
      else session := by
  unfold handleMethod
  simp only [silent, if_true]
  split_ifs with asked told
  · exact absurd (asked.symm.trans told) (by decide)
  all_goals rfl

theorem handleMethod_initialized (codec : Codec) (server : Server)
    (outcome : Except String String) (session : Session) {req : RpcRequest}
    (told : req.method = "notifications/initialized") :
    handleMethod codec server outcome session req = { session with initialized := true } := by
  simp [handleMethod, told]

/-- A request of any other method is answered. -/
theorem replied_handleMethod (codec : Codec) (server : Server) (outcome : Except String String)
    (session : Session) {req : RpcRequest} (asks : req.isNotification = false)
    (other : req.method ≠ "notifications/initialized") :
    Replied session req.id (handleMethod codec server outcome session req) := by
  unfold handleMethod
  simp only [asks, Bool.false_eq_true, if_false, if_neg other]
  split_ifs
  · exact replied_handleInitialize ..
  · exact ⟨_, rfl, rfl, rfl⟩
  · exact replied_replyError ..
  · exact replied_handleToolsList ..
  · exact replied_replyError ..
  · exact replied_handleToolsCall ..
  · exact replied_replyError ..

/-- The tools are used by the two methods for them, once the flag is set. -/
theorem handleMethod_uses (codec : Codec) (server : Server) (outcome : Except String String)
    (session : Session) {req : RpcRequest} (asks : req.isNotification = false) :
    (handleMethod codec server outcome session req).uses ≠ session.uses ↔
      session.initialized = true ∧ (req.method = "tools/list" ∨ req.method = "tools/call" ∧
        Exists fun call => decodeCall req.params = some call ∧ server.knows call.name = true) := by
  unfold handleMethod
  simp only [asks, Bool.false_eq_true, if_false]
  cases session.initialized with
  | false => split_ifs <;> simp_all [handleInitialize_uses, replyError]
  | true =>
      split_ifs with first second third list gate call
      · simp [handleInitialize_uses, first]
      · simp [second]
      · simp [third]
      · simp_all
      · simp [handleToolsList, list]
      · simp_all
      · simp [handleToolsCall_uses, call]
      · simp [replyError, list, call]

end Mcp
end Basement
