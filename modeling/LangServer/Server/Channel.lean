import LangServer.Rpc.Body
import LangServer.Rpc.Frame
import LangServer.Server.Endpoint

/-!
# Listening on a channel

The server takes one frame after the other from its channel until the channel ends or is closed.  A
body that holds no message is passed over.  Where a frame is unreadable, the last body is taken
again.

Main definitions: `Server.deliver`, `Server.listen`.
-/

namespace LangServer.Server

/-- The message that a body holds. -/
def messageOf? (body : List Nat) : Option Json :=
  (Text.Utf8.decode? body).bind fun text => (Rpc.Body.read text).toOption

/-- Whether the channel passes over a fault: it does so with values that an operation refuses. -/
def isPassedOver : Fault → Bool
  | .badValue _ | .undecodable | .malformedJson => true
  | _ => false

/-- Takes in the message of a body. -/
def deliver (env : Environment) (body : List Nat) : Run Unit := do
  match messageOf? body with
  | none => return
  | some message =>
    match ← attempt (consume env message) with
    | .ok () => return
    | .error f => if isPassedOver f then return else throw f

/-- Takes up to `limit` frames from a channel; `last` is the body taken last. -/
def listenFor (env : Environment) : Nat → List Nat → Option (List Nat) → Run Unit
  | 0, _, _ => pure ()
  | limit + 1, input, last => do
    if (← get).session.closed then return
    match Rpc.Frame.read input with
    | .finished => return
    | .tooLarge => throw .tooLarge
    | .message body rest =>
      deliver env body
      listenFor env limit rest (some body)
    | .unreadable rest =>
      match last with
      | none => throw .unset
      | some body =>
        deliver env body
        listenFor env limit rest last

/-- Takes all frames from a channel.  Each takes at least one octet, so there are no more frames
than octets. -/
def listen (env : Environment) (input : List Nat) : Run Unit :=
  listenFor env (input.length + 1) input none

/-! ### Services -/

/-- What can be put behind a channel. -/
inductive Service where
  | languageServer
  | other
deriving DecidableEq, Repr

/-- Only a language server is put behind a channel. -/
def Service.check : Service → Outcome Unit
  | .languageServer => return
  | .other => throw (.badValue "Handler class must be an instance of PythonLanguageServer")

end LangServer.Server
