import LangServer.Proofs.Server.Handling

/-!
# Calls about documents

A client opens, changes and closes documents.  Each call names one URI.  What it does is said twice:
by its effect on the document that is held for that URI, and by the handler that runs on the server.
The handler acts as the effect says on the document of the URI, and on no other.

Main statement: `Server.acts_run`.
-/

namespace LangServer

/-! ### Calls about documents -/

inductive DocumentCall.Kind where
  | opened
  | changed
  | closed

/-- A call about a document, whose URI is a text. -/
structure DocumentCall where
  kind : DocumentCall.Kind
  params : List (String × Json)
  uri : String
  names : (Server.parameter params "textDocument").member? "uri" = some (.str uri)

namespace DocumentCall

variable (m : Machine) (env : Environment) (c : DocumentCall)

def Kind.handler : Kind → Handler
  | opened => .opened
  | changed => .changed
  | closed => .closed

def document : Json :=
  Server.parameter c.params "textDocument"

def version : Json :=
  c.document.memberOr "version" .null

def changes : Outcome (List Json) :=
  (Server.parameter c.params "contentChanges").iterate

/-- The same call with other changes. -/
def withChanges (items : List Json) : DocumentCall :=
  { c with
    params := ("contentChanges", .arr items) :: c.params
    names := c.names }

/-- A call with a URI, a text, a version and changes. -/
def ofParts (kind : Kind) (uri text : String) (version : Int)
    (changes : List Json) : DocumentCall where
  kind
  params := [("textDocument", .obj [("uri", .str uri), ("text", .str text),
    ("version", .int version)]), ("contentChanges", .arr changes)]
  uri
  names := rfl

def run : Server.Run Json :=
  Server.handle env c.kind.handler c.params

/-! ### What a call makes of the document of its URI -/

/-- The document that a call opens, with the text and the version that it brings. -/
def opened : Outcome Document := do
  let source ← c.document.field "text"
  let path ← Uri.pathOf m.windows (.str c.uri)
  return {
    uri := .str c.uri, version := c.version, path
    name := String.ofList (Path.basename path.toList), source }

/-- One change, after which the document has the version of the call. -/
def change (item : Json) (held : Option Document) : Except Fault Unit × Option Document :=
  match held with
  | none => (.error (.missingKey (Json.str c.uri).quoted), none)
  | some d =>
    match d.applyChange m item with
    | .ok d' => (.ok (), some { d' with version := c.version })
    | .error e => (.error e, some d)

/-- Changes in order, up to the first that fails. -/
def changeAll : List Json → Option Document → Except Fault Unit × Option Document
  | [], held => (.ok (), held)
  | item :: rest, held =>
    match c.change m item held with
    | (.ok (), held') => changeAll rest held'
    | (.error e, held') => (.error e, held')

/-- Whether a call fails on what is held for its URI, and what is held afterwards. -/
def effect (held : Option Document) : Except Fault Unit × Option Document :=
  match c.kind with
  | .opened =>
    match c.opened m with
    | .ok d => (.ok (), some d)
    | .error e => (.error e, held)
  | .changed =>
    match c.changes with
    | .ok items => c.changeAll m items held
    | .error e => (.error e, held)
  | .closed =>
    match held with
    | some _ => (.ok (), none)
    | none => (.error (.missingKey (Json.str c.uri).quoted), none)

end DocumentCall

/-! ### The server's side -/

namespace Server

/-- The document that is open under a URI. -/
def held (s : Server) (uri : String) : Option Document :=
  s.workspace.bind fun w => w.documents.get? (.str uri)

/-- A workspace is set up, and no URI has two documents. -/
def Stores (s : Server) : Prop :=
  ∃ w, s.workspace = some w ∧ w.documents.Distinct

def withDocuments (s : Server) (w : Workspace) (t : Table Document) : Server :=
  { s with workspace := some { w with documents := t } }

/-- The outcome of a step that does to the document of one URI what an effect says, and nothing to
the others. -/
structure Acts {α : Type} (s : Server) (uri : String) (outcome : Except Fault α × Server)
    (effect : Except Fault Unit × Option Document) : Prop where
  result : outcome.1.map (fun _ => ()) = effect.1
  stores : outcome.2.Stores
  held : ∀ u, outcome.2.held u = if u = uri then effect.2 else s.held u

variable {s : Server} {w : Workspace} {env : Environment}

theorem held_eq (hw : s.workspace = some w) (uri : String) :
    s.held uri = w.documents.get? (.str uri) := by
  rw [held, hw, Option.bind_some]

theorem acts_unchanged {α : Type} (hs : s.Stores) {uri : String} {d : Option Document}
    (hd : s.held uri = d) (r : Except Fault α) : Acts s uri (r, s) (r.map fun _ => (), d) where
  result := rfl
  stores := hs
  held := by
    intro u
    split
    · next h => rw [h, hd]
    · rfl

theorem Acts.trans {α β : Type} {uri : String} {r : Except Fault α} {s' : Server}
    {x : Except Fault β × Server} {y z : Except Fault Unit × Option Document}
    (h : Acts s uri (r, s') y) (h' : Acts s' uri x z) : Acts s uri x z where
  result := h'.result
  stores := h'.stores
  held := by
    intro u
    rw [h'.held u]
    split
    · rfl
    · next hu => rw [h.held u, if_neg hu]

theorem acts_insert {α : Type} (hw : s.workspace = some w) (ht : w.documents.Distinct)
    (uri : String) (d : Document) (a : α) :
    Acts s uri (.ok a, s.withDocuments w (w.documents.insert (.str uri) d)) (.ok (), some d) where
  result := rfl
  stores := ⟨_, rfl, ht.insert_str uri d⟩
  held := by
    intro u
    rw [held_eq rfl, held_eq hw, Table.get?_insert_str]

theorem acts_erase {α : Type} (hw : s.workspace = some w) (ht : w.documents.Distinct)
    (uri : String) (a : α) :
    Acts s uri (.ok a, s.withDocuments w (w.documents.erase (.str uri))) (.ok (), none) where
  result := rfl
  stores := ⟨_, rfl, ht.erase _⟩
  held := by
    intro u
    rw [held_eq rfl, held_eq hw, Table.get?_erase_str ht]

/-! ### The three handlers -/

variable {c : DocumentCall}

theorem parameter_textDocument : parameter c.params "textDocument" = c.document := rfl

theorem iterate_contentChanges : (parameter c.params "contentChanges").iterate = c.changes := rfl

theorem field_uri : c.document.field "uri" = .ok (.str c.uri) := by
  have hnames : c.document.member? "uri" = some (.str c.uri) := c.names
  unfold Json.field
  cases hdoc : c.document with
  | obj members =>
    rw [hdoc, Json.member?] at hnames
    simp only [hnames]
  | _ => simp [hdoc, Json.member?] at hnames

theorem getOr_version : c.document.getOr "version" .null = .ok c.version := by
  have hnames : c.document.member? "uri" = some (.str c.uri) := c.names
  unfold DocumentCall.version
  cases hdoc : c.document with
  | obj members => rfl
  | _ => simp [hdoc, Json.member?] at hnames

theorem put_eq_ok {source : Json} {d : Document} {uri : String} {version : Json}
    (h : Document.create env.machine (.str uri) source version = .ok d) :
    w.put env.machine (.str uri) source version =
      .ok { w with documents := w.documents.insert (.str uri) d } := by
  rw [Workspace.put, h]
  rfl

theorem put_eq_error {source : Json} {e : Fault} {uri : String} {version : Json}
    (h : Document.create env.machine (.str uri) source version = .error e) :
    w.put env.machine (.str uri) source version = .error e := by
  rw [Workspace.put, h]
  rfl

theorem handleOpened_eq (hw : s.workspace = some w) :
    handleOpened env c.params s =
      match c.opened env.machine with
      | .ok d => (.ok .null, s.withDocuments w (w.documents.insert (.str c.uri) d))
      | .error e => (.error e, s) := by
  unfold handleOpened
  rw [parameter_textDocument, Step.bind_of_ok (theWorkspace_eq hw),
    Step.bind_of_ok (lift_ok field_uri s)]
  cases htext : c.document.field "text" with
  | error e =>
    have hopened : c.opened env.machine = .error e := by rw [DocumentCall.opened, htext]; rfl
    rw [Step.bind_of_error (lift_error rfl s), hopened]
  | ok source =>
    have hopened : c.opened env.machine =
        Document.create env.machine (.str c.uri) source c.version := by
      rw [DocumentCall.opened, htext]
      rfl
    rw [Step.bind_of_ok (lift_ok rfl s), Step.bind_of_ok (lift_ok getOr_version s), hopened]
    cases hcreate : Document.create env.machine (.str c.uri) source c.version with
    | error e => rw [Step.bind_of_error (lift_error (put_eq_error hcreate) s)]
    | ok d =>
      rw [Step.bind_of_ok (lift_ok (put_eq_ok hcreate) s)]
      rfl

theorem remove_str (w : Workspace) (uri : String) :
    w.remove (.str uri) =
      match w.documents.get? (.str uri) with
      | some _ => .ok { w with documents := w.documents.erase (.str uri) }
      | none => .error (.missingKey (Json.str uri).quoted) := by
  unfold Workspace.remove
  cases hdocs : w.documents with
  | nil => rfl
  | cons e rest => rfl

theorem handleClosed_eq (hw : s.workspace = some w) :
    handleClosed c.params s =
      match w.documents.get? (.str c.uri) with
      | some _ => (.ok .null, s.withDocuments w (w.documents.erase (.str c.uri)))
      | none => (.error (.missingKey (Json.str c.uri).quoted), s) := by
  have hremove := remove_str w c.uri
  unfold handleClosed
  rw [parameter_textDocument, Step.bind_of_ok (theWorkspace_eq hw),
    Step.bind_of_ok (lift_ok field_uri s)]
  cases hheld : w.documents.get? (.str c.uri) with
  | none =>
    rw [hheld] at hremove
    rw [Step.bind_of_error (lift_error hremove s)]
  | some d =>
    rw [hheld] at hremove
    rw [Step.bind_of_ok (lift_ok hremove s)]
    rfl

theorem applyChange_eq (hw : s.workspace = some w) (item : Json) :
    applyChange env c.document item s =
      match w.documents.get? (.str c.uri) with
      | none => (.error (.missingKey (Json.str c.uri).quoted), s)
      | some d =>
        match d.applyChange env.machine item with
        | .ok d' => (.ok (), s.withDocuments w
            (w.documents.insert (.str c.uri) { d' with version := c.version }))
        | .error e => (.error e, s) := by
  have hfind : w.find (.str c.uri) = .ok (w.documents.get? (.str c.uri)) := rfl
  unfold applyChange
  rw [Step.bind_of_ok (theWorkspace_eq hw), Step.bind_of_ok (lift_ok field_uri s),
    Step.bind_of_ok (lift_ok getOr_version s), Workspace.update, hfind]
  cases w.documents.get? (.str c.uri) with
  | none => rfl
  | some d =>
    cases hitem : d.applyChange env.machine item with
    | error e => simp only [hitem, bind, Except.bind]; rfl
    | ok d' => simp only [hitem, bind, Except.bind]; rfl

/-! ### One call -/

theorem acts_handleOpened (hs : s.Stores) :
    Acts s c.uri (handleOpened env c.params s)
      (match c.opened env.machine with
      | .ok d => (.ok (), some d)
      | .error e => (.error e, s.held c.uri)) := by
  obtain ⟨w, hw, ht⟩ := hs
  rw [handleOpened_eq hw]
  cases c.opened env.machine with
  | ok d => exact acts_insert hw ht c.uri d _
  | error e => exact acts_unchanged ⟨w, hw, ht⟩ rfl (.error e)

theorem acts_handleClosed (hs : s.Stores) :
    Acts s c.uri (handleClosed c.params s)
      (match s.held c.uri with
      | some _ => (.ok (), none)
      | none => (.error (.missingKey (Json.str c.uri).quoted), none)) := by
  obtain ⟨w, hw, ht⟩ := hs
  rw [handleClosed_eq hw, ← held_eq hw]
  cases hheld : s.held c.uri with
  | some d => exact acts_erase hw ht c.uri _
  | none => exact acts_unchanged ⟨w, hw, ht⟩ hheld (.error _)

theorem acts_applyChange (env : Environment) (c : DocumentCall) (hs : s.Stores) (item : Json) :
    Acts s c.uri (applyChange env c.document item s)
      (c.change env.machine item (s.held c.uri)) := by
  obtain ⟨w, hw, ht⟩ := hs
  rw [applyChange_eq hw, ← held_eq hw]
  unfold DocumentCall.change
  cases hheld : s.held c.uri with
  | none => exact acts_unchanged ⟨w, hw, ht⟩ hheld (.error _)
  | some d =>
    simp only
    cases d.applyChange env.machine item with
    | ok d' => exact acts_insert hw ht c.uri _ ()
    | error e => exact acts_unchanged ⟨w, hw, ht⟩ hheld (.error e)

theorem acts_applyChanges (env : Environment) (c : DocumentCall) (hs : s.Stores)
    (items : List Json) :
    Acts s c.uri (applyChanges env c.document items s)
      (c.changeAll env.machine items (s.held c.uri)) := by
  -- The rest of the changes starts from the server that the first has left.
  induction items generalizing s with
  | nil => exact acts_unchanged hs rfl (.ok ())
  | cons item rest ih =>
    have hfirst := acts_applyChange env c hs item
    rw [applyChanges, DocumentCall.changeAll]
    rcases hstep : applyChange env c.document item s with ⟨r, s'⟩
    rcases heffect : c.change env.machine item (s.held c.uri) with ⟨r', d⟩
    rw [hstep, heffect] at hfirst
    obtain rfl := hfirst.result
    cases r with
    | error e =>
      rw [Step.bind_of_error hstep]
      exact ⟨rfl, hfirst.stores, hfirst.held⟩
    | ok u =>
      rw [Step.bind_of_ok hstep]
      have hd : s'.held c.uri = d := by rw [hfirst.held, if_pos rfl]
      subst hd
      exact hfirst.trans (ih hfirst.stores)

theorem handleChanged_eq_ok {items : List Json} (h : c.changes = .ok items) (s : Server) :
    handleChanged env c.params s = ((applyChanges env c.document items s).1.map fun _ => .null,
      (applyChanges env c.document items s).2) := by
  unfold handleChanged
  rw [parameter_textDocument, iterate_contentChanges, Step.bind_of_ok (lift_ok h s)]
  rcases hall : applyChanges env c.document items s with ⟨r, s'⟩
  cases r with
  | error e => rw [Step.bind_of_error hall]; rfl
  | ok u => rw [Step.bind_of_ok hall]; rfl

theorem handleChanged_eq_error {e : Fault} (h : c.changes = .error e) (s : Server) :
    handleChanged env c.params s = (.error e, s) := by
  unfold handleChanged
  rw [iterate_contentChanges, Step.bind_of_error (lift_error h s)]

theorem acts_handleChanged (hs : s.Stores) :
    Acts s c.uri (handleChanged env c.params s)
      (match c.changes with
      | .ok items => c.changeAll env.machine items (s.held c.uri)
      | .error e => (.error e, s.held c.uri)) := by
  cases hchanges : c.changes with
  | error e =>
    rw [handleChanged_eq_error hchanges]
    exact acts_unchanged hs rfl (.error e)
  | ok items =>
    rw [handleChanged_eq_ok hchanges]
    have hall := acts_applyChanges env c hs items
    refine ⟨?_, hall.stores, hall.held⟩
    rw [← hall.result]
    cases (applyChanges env c.document items s).1 <;> rfl

theorem acts_run (env : Environment) (c : DocumentCall) (hs : s.Stores) :
    Acts s c.uri (c.run env s) (c.effect env.machine (s.held c.uri)) := by
  unfold DocumentCall.run DocumentCall.effect
  cases c.kind with
  | opened => exact acts_handleOpened hs
  | changed => exact acts_handleChanged hs
  | closed => exact acts_handleClosed hs

end Server

end LangServer
