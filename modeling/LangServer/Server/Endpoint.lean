import LangServer.Json.Arithmetic
import LangServer.Server.Basic

/-!
# Incoming messages

A message of the client is a notification if it has no identifier, the answer to a request of the
server if it has one but no method, and otherwise a request.

* What goes wrong in the handler of a notification is passed over.
* A request is answered by its result or by a failure.
* An answer goes to the request that it names.

A message that is not of this protocol is passed over; one that is malformed stops with a fault.

Main definition: `Server.consume`.
-/

namespace LangServer.Server

/-! ### Notifications and requests -/

/-- The notification that a request need not be answered any more. -/
def cancelMethod : String := "$/cancelRequest"

def notified (env : Environment) (method params : Json) : Run Unit := do
  if method.same (.str cancelMethod) then
    let _ ← lift (params.field "id")
    return
  match Handler.choose (← get).stopping method with
  | .error .unhandled => return
  | .error f => throw f
  | .ok h =>
    let _ ← attempt (call env h params)

/-- The code of a failure for which no handler is known. -/
def methodNotFound : Int := -32601

/-- The code of a failure of a handler. -/
def internalError : Int := -32602

/-- The failure of a request that stopped with a fault. -/
def failure (id : Json) (f : Fault) : Rpc.Message :=
  .failure id internalError f.summary

/-- The failure of a request without a handler. -/
def noHandler (id method : Json) : Rpc.Message :=
  match method with
  | .str s => .failure id methodNotFound ("Method Not Found: " ++ s)
  | v => failure id (.wrongKind
      ("the name of a method is a text, not '" ++ v.kindName ++ "'"))

def requested (env : Environment) (id method params : Json) : Run Unit := do
  match Handler.choose (← get).stopping method with
  | .error .unhandled => send (noHandler id method)
  | .error f => send (failure id f)
  | .ok h =>
    match ← attempt (call env h params) with
    | .ok result => send (.response id result)
    | .error f => send (failure id f)

/-! ### Answers -/

/-- The codes of the failures that have a text of their own. -/
def namedCodes : List Int := [-32700, -32600, -32601, -32602, -32800]

/-- The parts that a failure may have. -/
def failureParts : List String := ["message", "code", "data"]

/-- Whether a code is one of those kept for servers. -/
def isServerCode (code : Json) : Outcome Bool := do
  if ← code.ltInt (-32099) then return false
  return !(← code.gtInt (-32000))

/-- A failure that the client reports must have a code and, unless its code is a named one, a
text. -/
def checkFailure (failure : Json) : Outcome Unit := do
  let code ← failure.field "code"
  let parts := match failure with
    | .obj members => members
    | _ => []
  let text := (parts.lookup "message").getD .null
  let known := parts.all fun p => failureParts.contains p.1
  let unknownPart := Fault.wrongKind "a failure has no such part"
  if namedCodes.any code.eqInt then
    if !known then throw unknownPart
  else if ← isServerCode code then
    if !known then throw unknownPart
    if (parts.lookup "message").isNone then
      throw (.wrongKind "a failure of a server has a text")
    if !text.truthy then throw .absent
  else
    if !known then throw unknownPart
    if !text.truthy then throw .absent
    if !code.truthy then throw .absent

/-- Takes the request that an answer names from those that are pending. -/
def takePending (id : Json) : Run (Option Pending) := do
  let pending := (← get).session.pending
  if pending.isEmpty then return none
  if !id.isKey then throw id.notKey
  let named (p : Pending) : Bool := id.same (.str (Rpc.Message.requestId p.number))
  modify fun s =>
    { s with session := { s.session with pending := pending.filter fun p => !named p } }
  return pending.find? named

def answered (env : Environment) (id result failure : Json) : Run Unit := do
  match ← takePending id, env.checker with
  | some p, some c =>
    if failure.isNull then
      let _ ← attempt (inSession
        (Session.interpreterAnswered env.machine c p.workspace (.value result)))
    else
      lift (checkFailure failure)
      let _ ← attempt (inSession
        (Session.interpreterAnswered env.machine c p.workspace .refused))
  | _, _ => return

/-! ### Messages -/

/-- Whether a value mentions a name: as a member, as an item or within its text. -/
def mentions (name : String) (v : Json) : Outcome Bool :=
  match v with
  | .obj members => return members.any fun m => m.1 == name
  | .arr items => return items.any fun i => i.same (.str name)
  | .str s => return Text.occursIn name.toList s.toList
  | v => throw (.wrongKind ("argument of type '" ++ v.kindName ++ "' is not iterable"))

/-- Whether a message is of this protocol. -/
def isOurs (message : Json) : Outcome Bool := do
  if ← mentions "jsonrpc" message then return (← message.field "jsonrpc").same (.str "2.0")
  else return false

/-- Takes in a message of the client. -/
def consume (env : Environment) (message : Json) : Run Unit := do
  if !(← lift (isOurs message)) then return
  let params := message.memberOr "params" .null
  match message.member? "id", message.member? "method" with
  | none, _ => notified env (← lift (message.field "method")) params
  | some id, none =>
    answered env id (message.memberOr "result" .null) (message.memberOr "error" .null)
  | some id, some method => requested env id method params

end LangServer.Server
