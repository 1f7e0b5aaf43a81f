import LangServer.Json.Access
import LangServer.Rpc.Method

/-!
# Handlers

The methods that the server answers.  A handler is chosen by the plain form of the method's name.
After the client has asked the server to stop, only the method `exit` gets through.

Main definitions: `Handler`, `Handler.choose`, `Handler.parameters`.
-/

namespace LangServer

inductive Handler where
  | setUp
  | ready
  | stop
  | exit
  | opened
  | changed
  | closed
  | saved
  | configured
  | hover
  | definition
deriving DecidableEq, Repr

namespace Handler

def all : List Handler :=
  [setUp, ready, stop, exit, opened, changed, closed, saved, configured, hover, definition]

/-- The plain name of the method that a handler answers. -/
def method : Handler → String
  | setUp => "initialize"
  | ready => "initialized"
  | stop => "shutdown"
  | exit => "exit"
  | opened => "text_document__did_open"
  | changed => "text_document__did_change"
  | closed => "text_document__did_close"
  | saved => "text_document__did_save"
  | configured => "workspace__did_change_configuration"
  | hover => "text_document__hover"
  | definition => "text_document__definition"

/-- The name of a handler. -/
def name (h : Handler) : String :=
  "m_" ++ h.method

/-- The handler of a method. -/
def ofMethod? (method : String) : Option Handler :=
  all.find? fun h => h.method.toList = Rpc.Method.plain method.toList

/-- The handler of a method, as long as it gets through. -/
def choose (stopping : Bool) (method : Json) : Outcome Handler :=
  if stopping && !method.same (.str "exit") then .error .unhandled
  else do
    match ofMethod? (← method.asText) with
    | some h => return h
    | none => throw .unhandled

/-- Whether a handler takes a parameter; most pass over those they do not know. -/
def takes (h : Handler) (parameter : String) : Bool :=
  parameter != "self" && (h != configured || parameter == "settings")

/-- The parameters of a call. -/
def parameters (h : Handler) (params : Json) : Outcome (List (String × Json)) :=
  if !params.truthy then return []
  else match params with
    | .obj members =>
      if members.all fun p => h.takes p.1 then return members
      else throw (.wrongKind (h.method ++ " has no such parameter"))
    | v => throw (.wrongKind ("parameters are an object, not '" ++ v.kindName ++ "'"))

end Handler

end LangServer
