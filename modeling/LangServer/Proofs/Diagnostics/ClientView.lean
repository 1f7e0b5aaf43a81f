import LangServer.Checker.Session
import Mathlib.Logic.Function.Basic

/-!
# What a client shows

A client shows for each document the list of the last message that published diagnostics for it,
and nothing before such a message.  The view of a client is a function of the messages it receives.

Two kinds of messages matter here: `announcement` publishes the diagnostics of a document, and
`retraction` clears them.
-/

namespace LangServer

/-- The diagnostics that are shown for each document. -/
abbrev ClientView := String → List Json

namespace ClientView

/-- The view of a client that has received nothing. -/
def initial : ClientView := fun _ => []

/-- The document and the diagnostics that a message publishes. -/
def published? (message : Rpc.Message) : Option (String × List Json) :=
  match message with
  | .notification method params =>
    if method = "textDocument/publishDiagnostics" then
      match params.member? "uri", params.member? "diagnostics" with
      | some (.str uri), some (.arr ds) => some (uri, ds)
      | _, _ => none
    else none
  | _ => none

/-- A list that is published takes the place of the one shown before. -/
def receive (v : ClientView) (message : Rpc.Message) : ClientView :=
  match published? message with
  | some (uri, ds) => Function.update v uri ds
  | none => v

def receiveAll (v : ClientView) (messages : List Rpc.Message) : ClientView :=
  messages.foldl receive v

/-- Some diagnostics are shown for a document. -/
def Shows (v : ClientView) (uri : String) : Prop :=
  v uri ≠ []

instance (v : ClientView) (uri : String) : Decidable (v.Shows uri) :=
  inferInstanceAs (Decidable (¬ v uri = []))

theorem receiveAll_cons (v : ClientView) (message : Rpc.Message) (rest : List Rpc.Message) :
    v.receiveAll (message :: rest) = (v.receive message).receiveAll rest := rfl

theorem receiveAll_append (v : ClientView) (xs ys : List Rpc.Message) :
    v.receiveAll (xs ++ ys) = (v.receiveAll xs).receiveAll ys :=
  List.foldl_append

/-! ### Publishing and clearing -/

/-- The message that publishes the diagnostics of a document. -/
def announcement (entry : String × List Diagnostic) : Rpc.Message :=
  Workspace.publishDiagnostics (.str entry.1) (.arr (entry.2.map Diagnostic.toJson))

def retraction (uri : String) : Rpc.Message :=
  Workspace.publishDiagnostics (.str uri) (.arr [])

theorem receive_publishDiagnostics (v : ClientView) (uri : String) (ds : List Json) :
    v.receive (Workspace.publishDiagnostics (.str uri) (.arr ds)) = Function.update v uri ds := rfl

theorem shows_update (v : ClientView) (uri u : String) (ds : List Json) :
    Shows (Function.update v uri ds) u ↔ if u = uri then ds ≠ [] else v.Shows u := by
  by_cases h : u = uri
  · simp [Shows, h]
  · simp [Shows, h]

/-- Announcements with diagnostics show their documents and hide no other. -/
theorem shows_receiveAll_announcement {entries : List (String × List Diagnostic)}
    (h : ∀ e ∈ entries, e.2 ≠ []) (v : ClientView) (uri : String) :
    (v.receiveAll (entries.map announcement)).Shows uri ↔
      uri ∈ entries.map Prod.fst ∨ v.Shows uri := by
  induction entries generalizing v with
  | nil => simp [receiveAll]
  | cons e rest ih =>
    have hrest : ∀ x ∈ rest, x.2 ≠ [] := fun x hx => h x (List.mem_cons_of_mem _ hx)
    have he : e.2.map Diagnostic.toJson ≠ [] := by
      simpa using h e List.mem_cons_self
    rw [List.map_cons, receiveAll_cons, ih hrest, announcement, receive_publishDiagnostics,
      shows_update]
    by_cases hu : uri = e.1
    · simp [hu, he]
    · simp [hu]

theorem receiveAll_retraction (uris : List String) (v : ClientView) (uri : String) :
    v.receiveAll (uris.map retraction) uri = if uri ∈ uris then [] else v uri := by
  induction uris generalizing v with
  | nil => rfl
  | cons x rest ih =>
    rw [List.map_cons, receiveAll_cons, ih, retraction, receive_publishDiagnostics,
      Function.update_apply]
    by_cases hu : uri = x
    · simp [hu]
    · simp [hu]

/-- Retractions hide their documents and no other, in whatever order they arrive. -/
theorem shows_receiveAll_retraction (uris : List String) (v : ClientView) (uri : String) :
    (v.receiveAll (uris.map retraction)).Shows uri ↔ uri ∉ uris ∧ v.Shows uri := by
  rw [Shows, receiveAll_retraction]
  by_cases hu : uri ∈ uris
  · simp [hu]
  · simp [hu, Shows]

/-- Of several announcements for a document the last one counts. -/
theorem receiveAll_announcement (entries : List (String × List Diagnostic)) (v : ClientView)
    (uri : String) :
    v.receiveAll (entries.map announcement) uri =
      ((entries.filter (·.1 = uri)).getLast?.map fun e => e.2.map Diagnostic.toJson).getD
        (v uri) := by
  induction entries generalizing v with
  | nil => rfl
  | cons e rest ih =>
    rw [List.map_cons, receiveAll_cons, ih, announcement, receive_publishDiagnostics,
      Function.update_apply]
    by_cases hu : e.1 = uri
    · rw [List.filter_cons_of_pos (by simpa using hu), List.getLast?_cons, if_pos hu.symm]
      cases (rest.filter (·.1 = uri)).getLast? with
      | none => rfl
      | some last => rfl
    · rw [List.filter_cons_of_neg (by simpa using hu), if_neg (Ne.symm hu)]

end ClientView

namespace Session

/-- The view of a client that has received all that a session has sent. -/
def view (s : Session) : ClientView :=
  ClientView.initial.receiveAll s.sent

end Session

end LangServer
