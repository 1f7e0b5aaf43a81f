import LangServer.Rpc.Body

/-!
# Outgoing messages

What the server sends to a client: notifications, requests with a number of their own, answers to
the client's requests and reports of failed ones.
-/

namespace LangServer.Rpc

inductive Message where
  | notification (method : String) (params : Json)
  | request (number : Nat) (method : String) (params : Json)
  | response (id result : Json)
  | failure (id : Json) (code : Int) (text : String)

namespace Message

/-- The identifier of a request by its number. -/
def requestId (number : Nat) : String :=
  "request-" ++ toString number

/-- Parameters that are null are left out. -/
def paramsMember (params : Json) : List (String × Json) :=
  if params.isNull then [] else [("params", params)]

/-- The message as it is sent. -/
def toJson : Message → Json
  | notification method params =>
    .obj ([("jsonrpc", .str "2.0"), ("method", .str method)] ++ paramsMember params)
  | request number method params =>
    .obj ([("jsonrpc", .str "2.0"), ("id", .str (requestId number)), ("method", .str method)] ++
      paramsMember params)
  | response id result => .obj [("jsonrpc", .str "2.0"), ("id", id), ("result", result)]
  | failure id code text =>
    .obj [("jsonrpc", .str "2.0"), ("id", id),
      ("error", .obj [("code", .int code), ("message", .str text)])]

/-- Whether the message can be written. -/
def isWritable (m : Message) : Bool :=
  Body.isWritable m.toJson

end Message

end LangServer.Rpc
