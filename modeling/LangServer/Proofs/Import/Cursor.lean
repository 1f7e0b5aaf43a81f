import LangServer.Proofs.Import.Search

/-!
# The name under the cursor

`Statement.Selects` says what a cursor selects in an import statement, without saying how it is
searched for: up to the component that it is on, the name of a module; an imported name, together
with the module from which it is imported; nothing elsewhere.  Names that do not touch leave no
choice, so that the search, which stops at the first name that holds the position, may go through
them in any order.

Main statement: `select_under_cursor`.
-/

namespace LangServer.Import

variable {line column : Int}

/-! ### Statements -/

namespace Statement

/-- The module that a dotted name means: in an import of modules that name itself. -/
def corrected (correct : String → Json) : Statement → String → Json
  | modules _ _, name => .str name
  | _, name => correct name

/-- What the cursor selects: the module up to the component under it, an imported name with its
module, or nothing. -/
inductive Selects (id : String) (correct : String → Json) (line column : Int) (s : Statement) :
    Selection → Prop
  | module {d : DottedName} {j : Nat} (hd : d ∈ s.dottedNames) (h : d.HoldsAt line column j) :
      Selects id correct line column s { module := s.corrected correct (d.upTo j) }
  | name {w : Word} (hw : w ∈ s.importedNames) (h : w.extent.Holds line column) :
      Selects id correct line column s { module := correct id, name := .str w.text }
  | nothing (hd : ∀ d ∈ s.dottedNames, ¬ d.extent.Holds line column)
      (hw : ∀ w ∈ s.importedNames, ¬ w.extent.Holds line column) :
      Selects id correct line column s {}

/-- The checker is asked which module the name means. -/
inductive IsAsked (id : String) : Statement → String → Prop
  | all {origin : Origin} {star : Spot} {d : DottedName} (hd : origin.module = some d) (j : Nat) :
      IsAsked id (all origin star) (d.upTo j)
  | module {origin : Origin} {brackets : Option (Spot × Spot)} {clauses : List (Clause Word)}
      {d : DottedName} (hd : origin.module = some d) (j : Nat) :
      IsAsked id (names origin brackets clauses) (d.upTo j)
  | id {origin : Origin} {brackets : Option (Spot × Spot)} {clauses : List (Clause Word)} :
      IsAsked id (names origin brackets clauses) id

/-- The statements have the same names in the same places, listed in another order. -/
inductive IsReordered : Statement → Statement → Prop
  | modules {word : Spot} {clauses clauses' : List (Clause DottedName)}
      (h : clauses.Perm clauses') : IsReordered (modules word clauses) (modules word clauses')
  | names {origin : Origin} {brackets : Option (Spot × Spot)}
      {clauses clauses' : List (Clause Word)} (h : clauses.Perm clauses') :
      IsReordered (names origin brackets clauses) (names origin brackets clauses')

/-- The first name at which a search for the position stops. -/
def selected? (id : String) (correct : String → Json) (line column : Int) (s : Statement) :
    Option Selection :=
  ((s.dottedNames.findSome? fun d => d.at? line column).map fun name =>
      { module := s.corrected correct name }).or
    ((s.importedNames.find? fun w => w.extent.Holds line column).map fun w =>
      { module := correct id, name := .str w.text })

variable {id : String} {correct : String → Json} {s : Statement}

theorem selects_selected? (id : String) (correct : String → Json) (line column : Int)
    (s : Statement) :
    s.Selects id correct line column ((s.selected? id correct line column).getD {}) := by
  rw [selected?]
  cases hname : s.dottedNames.findSome? fun d => d.at? line column with
  | some name =>
    obtain ⟨d, hd, hat⟩ := List.exists_of_findSome?_eq_some hname
    obtain ⟨j, hj, rfl⟩ := DottedName.at?_eq_some_iff.1 hat
    exact .module hd hj
  | none =>
    have hdotted : ∀ d ∈ s.dottedNames, ¬ d.extent.Holds line column := fun d hd =>
      DottedName.at?_eq_none_iff.1 (List.findSome?_eq_none_iff.1 hname d hd)
    cases hword : s.importedNames.find? fun w => w.extent.Holds line column with
    | some w =>
      exact .name (List.mem_of_find?_eq_some hword) (by simpa using List.find?_some hword)
    | none => exact .nothing hdotted (by simpa using hword)

/-- No two names hold the position, so that it does not matter which is looked at first. -/
theorem Selects.unique (hs : s.IsSeparated) {a b : Selection}
    (ha : s.Selects id correct line column a) (hb : s.Selects id correct line column b) :
    a = b := by
  obtain ⟨hdotted, hwords, hboth⟩ := List.pairwise_append.1 hs
  have hnot : ∀ d ∈ s.dottedNames, d.extent.Holds line column → ∀ w ∈ s.importedNames,
      ¬ w.extent.Holds line column := by
    intro d hd hholds w hw
    exact (hboth _ (List.mem_map_of_mem hd) _ (List.mem_map_of_mem hw)).not_holds hholds
  cases ha with
  | module hd hj =>
    cases hb with
    | module hd' hj' =>
      obtain rfl := Extent.eq_of_holds hdotted hd hd' hj.holds hj'.holds
      rw [DottedName.holdsAt_unique hj hj']
    | name hw hholds => exact absurd hholds (hnot _ hd hj.holds _ hw)
    | nothing hnone _ => exact absurd hj.holds (hnone _ hd)
  | name hw hholds =>
    cases hb with
    | module hd hj => exact absurd hholds (hnot _ hd hj.holds _ hw)
    | name hw' hholds' => rw [Extent.eq_of_holds hwords hw hw' hholds hholds']
    | nothing _ hnone => exact absurd hholds (hnone _ hw)
  | nothing hdotted hwords =>
    cases hb with
    | module hd hj => exact absurd hj.holds (hdotted _ hd)
    | name hw hholds => exact absurd hholds (hwords _ hw)
    | nothing => rfl

theorem Selects.of_isReordered {s' : Statement} (h : s.IsReordered s') {sel : Selection}
    (hsel : s'.Selects id correct line column sel) : s.Selects id correct line column sel := by
  have hdotted : ∀ d, d ∈ s'.dottedNames ↔ d ∈ s.dottedNames := by
    cases h with
    | modules h => exact fun d => (h.map Clause.name).mem_iff.symm
    | names h => exact fun d => Iff.rfl
  have hwords : ∀ w, w ∈ s'.importedNames ↔ w ∈ s.importedNames := by
    cases h with
    | modules h => exact fun w => Iff.rfl
    | names h => exact fun w => (h.map Clause.name).mem_iff.symm
  have hcorrected : s'.corrected correct = s.corrected correct := by
    cases h with
    | modules h => rfl
    | names h => rfl
  cases hsel with
  | module hd hj => exact hcorrected ▸ .module ((hdotted _).1 hd) hj
  | name hw hholds => exact .name ((hwords _).1 hw) hholds
  | nothing hd hw =>
    exact .nothing (fun d h => hd d ((hdotted d).2 h)) fun w h => hw w ((hwords w).2 h)

theorem IsAsked.of_isReordered {s' : Statement} {name : String} (h : s'.IsAsked id name)
    (hs : s.IsReordered s') : s.IsAsked id name := by
  cases hs with
  | modules hperm => cases h
  | names hperm =>
    cases h with
    | module hd j => exact .module hd j
    | id => exact .id

theorem statementOf_suite (s : Statement) (behind below : List Json) :
    statementOf (s.suite behind below) = .ok (.arr [.str "import_stmt", s.tree]) := by
  rfl

theorem selected?_modules (word : Spot) (clauses : List (Clause DottedName)) :
    (modules word clauses).selected? id correct line column =
      (clauses.findSome? fun c => c.name.at? line column).map fun name =>
        { module := .str name } := by
  have hdotted : (modules word clauses).dottedNames = clauses.map Clause.name := rfl
  have hwords : (modules word clauses).importedNames = [] := rfl
  rw [selected?, hdotted, hwords, List.findSome?_map, List.find?_nil, Option.map_none,
    Option.or_none]
  rfl

theorem selected?_all (origin : Origin) (star : Spot) :
    (all origin star).selected? id correct line column =
      (origin.at? line column).map fun name => { module := correct name } := by
  have hwords : (all origin star).importedNames = [] := rfl
  rw [selected?, hwords, List.find?_nil, Option.map_none, Option.or_none]
  rfl

theorem selected?_names (origin : Origin) (brackets : Option (Spot × Spot))
    (clauses : List (Clause Word)) :
    (names origin brackets clauses).selected? id correct line column =
      ((origin.at? line column).map fun name => { module := correct name }).or
        ((clauses.find? fun c => c.name.extent.Holds line column).map fun c =>
          { module := correct id, name := .str c.name.text }) := by
  have hwords : (names origin brackets clauses).importedNames = clauses.map Clause.name := rfl
  rw [selected?, hwords, List.find?_map, Option.map_map]
  rfl

section Run

variable {p : Program} {file : Option NodeId} {path fullName isPackage level : Json}
variable {symbols : SymbolTable}

theorem select_modules (word : Spot) (clauses : List (Clause DottedName)) (behind below : List Json)
    (t : List Event) :
    select p file .importModules ((modules word clauses).suite behind below) (.int line)
        (.int column) t =
      (.ok (((modules word clauses).selected? id correct line column).getD {}), t) := by
  have hitem : (Json.arr [.str "import_stmt", (modules word clauses).tree]).item 1 =
      .ok (modules word clauses).tree := rfl
  have hkind : expectKind "import_name" (modules word clauses).tree = .ok () := expectKind_arr _ _
  have hitems : (modules word clauses).tree.item 2 >>= Json.itemsFrom 1 =
      .ok (clauses.flatMap (Clause.trees "dotted_as_name" DottedName.tree)) := rfl
  simp only [select, statementOf_suite, selectIn, hitem, hkind, hitems, selectModule_clauses,
    lift_ok_bind, selected?_modules]
  cases clauses.findSome? fun c => c.name.at? line column with
  | none => rfl
  | some name => rfl

theorem select_all {origin : Origin} {star : Spot} {found : Option Selection} {t t' : List Event}
    (h : selectAll p file level (.int line) (.int column)
      (origin.parts ++ [token "STAR" "*" star]) t = (.ok found, t')) (behind below : List Json) :
    select p file (.importAll level) ((all origin star).suite behind below) (.int line)
      (.int column) t = (.ok (found.getD {}), t') := by
  have hparts : partsFrom (.arr [.str "import_stmt", (all origin star).tree]) =
      .ok (origin.parts ++ [token "STAR" "*" star]) := rfl
  simp only [select, statementOf_suite, selectIn, hparts, lift_ok_bind]
  exact Step.bind_of_ok h

theorem select_names {origin : Origin} {brackets : Option (Spot × Spot)}
    {clauses : List (Clause Word)} {module : Json} {found : Option Selection} {t t' : List Event}
    (h : selectFrom p file level module (.int line) (.int column)
      (origin.parts ++ bracketed brackets (.arr (.str "import_as_names" ::
        clauses.flatMap (Clause.trees "import_as_name" Word.tree)))) t = (.ok found, t'))
    (behind below : List Json) :
    select p file (.importNames level module) ((names origin brackets clauses).suite behind below)
      (.int line) (.int column) t = (.ok (found.getD {}), t') := by
  have hparts : partsFrom (.arr [.str "import_stmt", (names origin brackets clauses).tree]) =
      .ok (origin.parts ++ bracketed brackets (.arr (.str "import_as_names" ::
        clauses.flatMap (Clause.trees "import_as_name" Word.tree)))) := rfl
  simp only [select, statementOf_suite, selectIn, hparts, lift_ok_bind]
  exact Step.bind_of_ok h

/-- The search through the syntax tree comes to the first name that holds the position. -/
theorem select_eq (hfile : p.shape? file = some (.file path fullName isPackage symbols))
    (hcorrect : ∀ name, s.IsAsked id name → Corrects p name (correct name))
    (behind below : List Json) (t : List Event) :
    ∃ t', select p file (s.shape level id) (s.suite behind below) (.int line) (.int column) t =
      (.ok ((s.selected? id correct line column).getD {}), t') := by
  cases s with
  | modules word clauses => exact ⟨t, select_modules word clauses behind below t⟩
  | all origin star =>
    obtain ⟨t', hall⟩ := selectAll_origin hfile (fun d hd j => hcorrect _ (.all hd j))
      [token "STAR" "*" star] t
    rw [selected?_all]
    exact ⟨t', select_all hall behind below⟩
  | names origin brackets clauses =>
    rw [selected?_names]
    cases hat : origin.at? line column with
    | some name =>
      obtain ⟨t', hfrom⟩ := selectFrom_origin_of_some hfile
        (fun d hd j => hcorrect _ (.module hd j)) hat _ t
      exact ⟨t', select_names hfrom behind below⟩
    | none =>
      obtain ⟨t', hname⟩ := selectName_clauses hfile (hcorrect id .id) clauses t
      refine ⟨t', select_names ?_ behind below⟩
      rw [selectFrom_origin_of_none hat]
      exact selectFrom_bracketed brackets _ t hname

end Run

end Statement

/-- What is selected in an import statement whose names are apart is what the cursor is on, and
nothing else could be: each position of a dotted name belongs to one component, each position to one
name at most, and names in another order give the same. -/
theorem select_under_cursor {p : Program} {file : Option NodeId}
    {path fullName isPackage level : Json} {symbols : SymbolTable} {id : String}
    {correct : String → Json} {s : Statement}
    (hfile : p.shape? file = some (.file path fullName isPackage symbols))
    (hseparated : s.IsSeparated)
    (hcorrect : ∀ name, s.IsAsked id name → Corrects p name (correct name))
    (behind below : List Json) (line column : Int) (t : List Event) :
    (∀ d ∈ s.dottedNames, d.extent.Holds line column ↔ ∃! j, d.HoldsAt line column j) ∧
    ∃ sel, s.Selects id correct line column sel ∧
      (∀ sel', s.Selects id correct line column sel' → sel' = sel) ∧
      (∃ t', select p file (s.shape level id) (s.suite behind below) (.int line) (.int column) t =
        (.ok sel, t')) ∧
      ∀ s', s.IsReordered s' → ∃ t', select p file (s'.shape level id) (s'.suite behind below)
        (.int line) (.int column) t = (.ok sel, t') := by
  have hselects := s.selects_selected? id correct line column
  refine ⟨fun d _ => d.holds_iff_existsUnique, _, hselects,
    fun sel' hsel' => hsel'.unique hseparated hselects,
    Statement.select_eq hfile hcorrect behind below t, ?_⟩
  intro s' hs'
  obtain ⟨t', hrun⟩ := Statement.select_eq hfile
    (fun name hname => hcorrect name (hname.of_isReordered hs')) behind below t
  -- What is selected in the other order could be selected in this one too.
  have hsame := (Statement.Selects.of_isReordered hs'
    (s'.selects_selected? id correct line column)).unique hseparated hselects
  rw [hsame] at hrun
  exact ⟨t', hrun⟩

/-- `from ..a.bc import (d as e,` and on the next line, behind four blanks, `f)`. -/
def twoLines : Statement :=
  .names
    { fromWord := ⟨1, 0⟩
      dots := [.one ⟨1, 5⟩, .one ⟨1, 6⟩]
      module := some
        { words := [⟨⟨1, 7⟩, "a", by decide⟩, ⟨⟨1, 9⟩, "bc", by decide⟩]
          ne_nil := List.cons_ne_nil _ _
          consecutive := List.isChain_cons_cons.2 ⟨⟨rfl, rfl⟩, .singleton _⟩ }
      importWord := ⟨1, 12⟩ }
    (some (⟨1, 19⟩, ⟨2, 5⟩))
    [{ name := ⟨⟨1, 20⟩, "d", by decide⟩
       renamed := some (⟨1, 22⟩, ⟨⟨1, 25⟩, "e", by decide⟩)
       comma := some ⟨1, 26⟩ },
      { name := ⟨⟨2, 4⟩, "f", by decide⟩ }]

/-- A file of a package in which `a` and `a.bc` are found two packages up. -/
def nested : Program where
  nodes := #[{ shape := .file (.str "/w/p/q/r.py") (.str "p.q.r") (.bool false) [] }]
  relatives := [("a", .arr [.str "p.a", .bool true]), ("a.bc", .arr [.str "p.a.bc", .bool true])]

theorem corrects_nested {name : String} (h : twoLines.IsAsked "a.bc" name) :
    Corrects nested name (.str ("p." ++ name)) := by
  have hlong : Corrects nested "a.bc" (.str ("p." ++ "a.bc")) := .inr ⟨.bool true, rfl, rfl⟩
  cases h with
  | module hd j =>
    obtain rfl := Option.some.inj hd
    cases j with
    | zero => exact .inr ⟨.bool true, rfl, rfl⟩
    | succ j =>
      have hname : ∀ d : DottedName, d.words.length ≤ 2 → d.upTo (j + 1) = d.upTo 1 := by
        intro d hd
        rw [DottedName.upTo, DottedName.upTo, List.take_of_length_le (by omega),
          List.take_of_length_le hd]
      rw [hname _ (by decide)]
      exact hlong
  | id => exact hlong

theorem select_under_cursor_twoLines :
    twoLines.IsSeparated ∧ ∃ t', select nested (some 0) (.importNames (.int 2) (.str "a.bc"))
      (twoLines.suite [] []) (.int 2) (.int 4) [] =
        (.ok { module := .str "p.a.bc", name := .str "f" }, t') := by
  have hseparated : twoLines.IsSeparated := by
    rw [Statement.IsSeparated]
    decide +kernel
  have hword : ⟨⟨2, 4⟩, "f", by decide⟩ ∈ twoLines.importedNames :=
    List.mem_cons_of_mem _ List.mem_cons_self
  have hselects : twoLines.Selects "a.bc" (fun name => .str ("p." ++ name)) 2 4
      { module := .str "p.a.bc", name := .str "f" } := .name hword (by decide)
  have hfile : nested.shape? (some 0) =
      some (.file (.str "/w/p/q/r.py") (.str "p.q.r") (.bool false) []) := rfl
  obtain ⟨-, sel, -, hunique, hrun, -⟩ := select_under_cursor hfile hseparated
    (fun _ => corrects_nested) [] [] 2 4 []
  rw [← hunique _ hselects] at hrun
  exact ⟨hseparated, hrun⟩

end LangServer.Import
