import LangServer.Program.Hover
import LangServer.Proofs.Program.Walk
import LangServer.Proofs.Step

/-!
# Hovering and going to a definition agree

Where something is shown over a position, the definition of what stands there is found: the place is
the start of the node that is shown, or of the definition of the class that is shown for the type of
an object.

The search for a definition looks at more than a description does.  It counts the column of the node
at the position from one, takes the full name of a variable apart, and may walk through every file
to the end.  So it needs a program whose columns are numbers, whose variables have texts as their
full names, and in which no node is made of an absent one.

Main statement: `findDefinition_of_describe`.
-/

namespace LangServer

theorem Json.exists_addInt_one {v : Json} (h : v.number?.isSome = true) :
    ∃ w, v.addInt 1 = .ok w := by
  cases v with
  | int n => exact ⟨_, Json.addInt_int n 1⟩
  | bool b => exact ⟨_, rfl⟩
  | double x =>
    obtain ⟨y, hone⟩ : ∃ y, (Number.int 1).toDouble = .ok y := by
      have hsome : (Number.int 1).toDouble.toOption.isSome = true := by decide +kernel
      cases hone : (Number.int 1).toDouble with
      | error f => simp [hone, Except.toOption] at hsome
      | ok y => exact ⟨y, rfl⟩
    have hsum : (Json.double x).addInt 1 =
        ((Number.int 1).toDouble.map fun y => Number.double (x.add y)).map Json.ofNumber := rfl
    exact ⟨.double (x.add y), by rw [hsum, hone]; rfl⟩
  | null => cases h
  | str s => cases h
  | arr xs => cases h
  | obj members => cases h

namespace Program

variable {p : Program} {fs : FileSystem} {path : String} {line column : Json}
variable {t t' : List Event}

/-! ### Programs with sound values -/

/-- The values of the nodes are of the kinds that the checker gives them. -/
structure IsTyped (p : Program) : Prop where
  isWhole : p.IsWhole
  isSome_column : ∀ n ∈ p.nodes, n.span.column.number?.isSome = true
  isText_fullName : ∀ n ∈ p.nodes, ∀ name fullName type, n.shape = .var name fullName type →
    ∃ s, fullName = .str s

/-! ### The node that is shown -/

/-- The description `d` is of the node `described`, which is shown for the node `n` that stands at
the position. -/
def Describes (p : Program) (fs : FileSystem) (path : String) (line column : Json)
    (t t' : List Event) (d : Hover.Description) (n : Node) (described : Option NodeId) : Prop :=
  ∃ row ref file, line.addInt 1 = .ok row ∧
    p.locate (.str path) row column = .ok (some (ref, file)) ∧ p.node? ref = some n ∧
    p.shown fs n file path row column t = (.ok described, t') ∧
    p.describeNode ref described = .ok (some d)

/-- The node to go to: that which is shown, but for the type of an object the definition of the
class that is shown. -/
def goal (p : Program) (n : Node) (described : Option NodeId) : Option NodeId :=
  match n.shape, p.shape? described with
  | .instanceOf _, some (.classInfo _ _ definition) => definition
  | _, _ => described

theorem lift_eq_ok {α : Type} {r : Outcome α} {a : α} (h : Traced.lift r t = (.ok a, t')) :
    r = .ok a ∧ t = t' := by
  cases r with
  | error f => cases (Prod.mk.inj h).1
  | ok b =>
    obtain ⟨hvalue, htrace⟩ := Prod.mk.inj h
    exact ⟨hvalue, htrace⟩

theorem exists_describes_of_describe {d : Hover.Description}
    (h : p.describe fs path line column t = (.ok (some d), t')) :
    ∃ n described, p.Describes fs path line column t t' d n described := by
  obtain ⟨row, u, hrun, h⟩ := Step.bind_eq_ok h
  obtain ⟨hrow, rfl⟩ := lift_eq_ok hrun
  obtain ⟨found, u, hrun, h⟩ := Step.bind_eq_ok h
  obtain ⟨hlocate, rfl⟩ := lift_eq_ok hrun
  cases found with
  | none => cases (Prod.mk.inj h).1
  | some e =>
    obtain ⟨ref, file⟩ := e
    cases hn : p.node? ref with
    | none =>
      simp only [hn] at h
      cases (Prod.mk.inj h).1
    | some n =>
      simp only [hn] at h
      obtain ⟨described, u, hshown, h⟩ := Step.bind_eq_ok h
      obtain ⟨hdescribe, rfl⟩ := lift_eq_ok h
      exact ⟨n, described, row, ref, file, hrow, hlocate, hn, hshown, hdescribe⟩

/-! ### The node that is gone to -/

theorem isSome_node?_of_describeNode {ref described : Option NodeId} {d : Hover.Description}
    (h : p.describeNode ref described = .ok (some d)) : ∃ g, p.node? described = some g := by
  cases hnode : p.node? described with
  | some g => exact ⟨g, rfl⟩
  | none =>
    have hshape : p.shape? described = none := by rw [shape?, hnode]; rfl
    rw [describeNode, hshape] at h
    cases h

theorem goal_of_not_instanceOf {n : Node} (h : ∀ info, n.shape ≠ .instanceOf info)
    (described : Option NodeId) : p.goal n described = described := by
  cases hn : n.shape with
  | instanceOf info => exact absurd hn (h info)
  | _ => simp only [goal, hn]

/-- The definition that is searched for is the node to go to. -/
theorem referent_of_shown (hp : p.IsRegular) {ref described : Option NodeId} {n : Node}
    {file : NodeId} {d : Hover.Description} (hn : p.node? ref = some n)
    (hshown : p.shown fs n file path line column t = (.ok described, t'))
    (hdescribe : p.describeNode ref described = .ok (some d)) :
    ∃ g, p.node? (p.goal n described) = some g ∧
      p.referent fs n file path line column t = (.ok (p.goal n described), t') := by
  obtain ⟨g, hg⟩ := isSome_node?_of_describeNode hdescribe
  cases hshape : n.shape with
  | name fullName target =>
    -- Only the built-in none shows something else than it refers to, and that is nothing.
    rw [goal_of_not_instanceOf (by simp [hshape])]
    refine ⟨g, hg, ?_⟩
    simp only [shown, hshape] at hshown
    obtain ⟨hvalue, htrace⟩ := Prod.mk.inj hshown
    have htarget : target = described := by
      have hvalue := Except.ok.inj hvalue
      by_cases hnone : fullName = some "builtins.None"
      · rw [if_pos hnone] at hvalue
        subst hvalue
        cases hg
      · rwa [if_neg hnone] at hvalue
    rw [referent, hshape, htarget, ← htrace]
    rfl
  | instanceOf info =>
    simp only [shown, hshape] at hshown
    obtain ⟨hvalue, htrace⟩ := Prod.mk.inj hshown
    obtain rfl : info = described := Except.ok.inj hvalue
    cases info with
    | none => cases hg
    | some id =>
      obtain ⟨fullName, symbols, definition, hclass⟩ :=
        hp.isClass_of_instanceOf n (mem_nodes_of_node? hn) id hshape
      have hgoal : p.goal n (some id) = definition := by simp only [goal, hshape, hclass]
      have hginfo : g.shape = .classInfo fullName symbols definition := by
        rw [shape?, hg] at hclass
        exact Option.some.inj hclass
      have hsome :=
        hp.isSome_definition g (mem_nodes_of_node? hg) fullName symbols definition hginfo
      obtain ⟨c, hc⟩ := Option.isSome_iff_exists.1 hsome
      have hdefinition : p.classDefinition (some id) = .ok definition := by
        simp only [classDefinition, hclass]
        rfl
      rw [hgoal]
      refine ⟨c, hc, ?_⟩
      simp only [referent, hshape, hdefinition, ← htrace]
      rfl
  | _ =>
    rw [goal_of_not_instanceOf (by simp [hshape])]
    refine ⟨g, hg, ?_⟩
    simpa only [shown, hshape] using hshown

theorem checkReference_eq_ok (hp : p.IsRegular) (htyped : p.IsTyped) {n : Node} (hn : n ∈ p.nodes)
    (hclass : ∀ info, n.shape = .instanceOf info → info ≠ none) :
    p.checkReference n = .ok () := by
  obtain ⟨c, hc⟩ := Json.exists_addInt_one (htyped.isSome_column n hn)
  have hcolumn : (do let _ ← n.span.column.addInt 1 : Outcome Unit) = .ok () := by
    rw [hc]
    rfl
  cases hshape : n.shape with
  | name _ _ | member _ _ _ | importModules | importNames _ _ | importAll _ =>
    simpa only [checkReference, hshape] using hcolumn
  | instanceOf info =>
    cases info with
    | none => exact absurd rfl (hclass none hshape)
    | some id =>
      obtain ⟨fullName, symbols, definition, hinfo⟩ := hp.isClass_of_instanceOf n hn id hshape
      simpa only [checkReference, hshape, classDefinition, hinfo, pure_bind] using hcolumn
  | _ =>
    simp only [checkReference, hshape]
    rfl

theorem candidates_of_not_isSource {tree : NodeId} (h : ¬ p.IsSource (some tree)) :
    p.candidates tree = [.absent] := by
  rw [candidates, depth, walk]
  cases hn : p.nodes[tree]? with
  | none => rfl
  | some n =>
    have hsource : n.isSource ≠ true := fun hsource => h ⟨n, hn, hsource⟩
    exact if_neg hsource

/-- A file in which a position is looked for is a node of the source. -/
theorem isSource_of_locate {path : Json} {ref : Option NodeId} {file : NodeId}
    (h : p.locate path line column = .ok (some (ref, file))) : p.IsSource (some file) := by
  rw [locate] at h
  cases hfind : p.sources.find? fun source => source.1.same path with
  | none =>
    rw [hfind] at h
    cases hcheck : p.checkPaths with
    | error f => simp [hcheck, bind, Except.bind] at h
    | ok u => simp [hcheck, bind, Except.bind, pure, Except.pure] at h
  | some source =>
    obtain ⟨name, tree⟩ := source
    cases tree with
    | none =>
      rw [hfind] at h
      cases h
    | some tree =>
      rw [hfind] at h
      cases hholding : p.firstHolding line column (p.candidates tree) with
      | error f => simp [hholding, bind, Except.bind] at h
      | ok found =>
        simp only [hholding, bind, Except.bind, pure, Except.pure, Except.ok.injEq,
          Option.some.injEq, Prod.mk.injEq] at h
        obtain ⟨-, rfl⟩ := h
        by_contra habsent
        rw [candidates_of_not_isSource habsent] at hholding
        cases hholding

/-! ### Agreement -/

theorem findDefinition_eq {row home : Json} {ref definition : Option NodeId} {file : NodeId}
    {n g : Node} (hrow : line.addInt 1 = .ok row)
    (hlocate : p.locate (.str path) row column = .ok (some (ref, file)))
    (hn : p.node? ref = some n) (hcheck : p.checkReference n = .ok ())
    (hreferent : p.referent fs n file path row column t = (.ok definition, t'))
    (hg : p.node? definition = some g) (hhome : p.homeFile definition (some file) = .ok home) :
    p.findDefinition fs path line column t =
      (.ok (some (placeOf (if home.isNull then .str path else home) g)), t') := by
  have hlift : ∀ {α : Type} (a : α) (u : List Event), Traced.lift (.ok a) u = (.ok a, u) :=
    fun _ _ => rfl
  rw [findDefinition, hrow, Step.bind_of_ok (hlift row t), hlocate, Step.bind_of_ok (hlift _ t)]
  simp only [hn, hcheck]
  rw [Step.bind_of_ok (hlift () t), Step.bind_of_ok hreferent]
  simp only [hg, hhome]
  rw [Step.bind_of_ok (hlift home t')]
  rfl

/-- Where something is shown over a position, its definition is found, with the same records.  The
place has the line and the column of the node that is shown, or of the definition of the class that
is shown if the type of an object stands at the position; a column that is not known is the first
one. -/
theorem findDefinition_of_describe (hp : p.IsRegular) (htyped : p.IsTyped)
    {d : Hover.Description} (h : p.describe fs path line column t = (.ok (some d), t')) :
    ∃ n described g place,
      p.Describes fs path line column t t' d n described ∧
      p.node? (p.goal n described) = some g ∧
      p.findDefinition fs path line column t = (.ok (some place), t') ∧
      place.line = g.span.line ∧
      place.column = if g.span.column.eqInt (-1) then .int 0 else g.span.column := by
  obtain ⟨n, described, hdescribes⟩ := exists_describes_of_describe h
  obtain ⟨row, ref, file, hrow, hlocate, hn, hshown, hdescribe⟩ := id hdescribes
  obtain ⟨g, hg, hreferent⟩ := referent_of_shown hp hn hshown hdescribe
  have hclass : ∀ info, n.shape = .instanceOf info → info ≠ none := by
    rintro info hshape rfl
    simp only [shown, hshape] at hshown
    obtain rfl : none = described := Except.ok.inj (Prod.mk.inj hshown).1
    obtain ⟨c, hc⟩ := isSome_node?_of_describeNode hdescribe
    cases hc
  have hcheck := checkReference_eq_ok hp htyped (mem_nodes_of_node? hn) hclass
  have hname : ∀ name fullName type,
      p.shape? (p.goal n described) = some (.var name fullName type) → ∃ s, fullName = .str s := by
    intro name fullName type hshape
    rw [shape?, hg] at hshape
    exact htyped.isText_fullName g (mem_nodes_of_node? hg) name fullName type
      (Option.some.inj hshape)
  obtain ⟨home, hhome⟩ := exists_homeFile_eq_ok hp htyped.isWhole (isSource_of_locate hlocate) hname
  exact ⟨n, described, g, _, hdescribes, hg,
    findDefinition_eq hrow hlocate hn hcheck hreferent hg hhome, rfl, rfl⟩

/-- A file with a class and an assignment that is annotated with the class.  The column of the class
is not known. -/
def annotated : Program :=
  { nodes := #[
      { shape := .file (.str "/w/a.py") (.str "a") (.bool false) [("C", some 3)],
        children := [some 4, some 1] },
      { shape := .assignment (some 2), span := .between 5 0 5 8 },
      { shape := .instanceOf (some 3), span := .between 5 3 5 4 },
      { shape := .classInfo (.str "a.C") [] (some 4) },
      { shape := .other, span := { line := .int 2 } }],
    modules := [("a", some 0)],
    sources := [(.str "/w/a.py", some 0)] }

theorem findDefinition_of_describe_annotated :
    annotated.IsRegular ∧ annotated.IsTyped ∧
    ∃ d n described g place,
      annotated.Describes {} "/w/a.py" (.int 4) (.int 3) [] [] d n described ∧
      annotated.node? (annotated.goal n described) = some g ∧
      annotated.findDefinition {} "/w/a.py" (.int 4) (.int 3) [] = (.ok (some place), []) ∧
      place.line = g.span.line ∧
      place.column = if g.span.column.eqInt (-1) then .int 0 else g.span.column := by
  have hregular : annotated.IsRegular := isRegular_of_isOrdered (by decide +kernel)
  have htyped : annotated.IsTyped := ⟨by simp [IsWhole, annotated],
    by simp [annotated, Span.between, Json.number?, Json.toInt?], by simp [annotated]⟩
  have hshown : annotated.describe {} "/w/a.py" (.int 4) (.int 3) [] =
      (.ok (some (.source "class a.C".toList)), []) :=
    Prod.ext (by decide +kernel) (List.isEmpty_iff.1 (by decide +kernel))
  exact ⟨hregular, htyped, _, findDefinition_of_describe hregular htyped hshown⟩

/-- A file with a name that refers to a variable, and what else the file is made of. -/
def naming (column fullName : Json) (others : List (Option NodeId)) : Program :=
  { nodes := #[
      { shape := .file (.str "/w/a.py") (.str "a") (.bool false) [("x", some 2), ("y", none)],
        children := some 1 :: others },
      { shape := .name none (some 2), span := { Span.between 1 0 3 3 with column } },
      { shape := .var (.str "x") fullName none, span := .between 7 3 7 4 }],
    modules := [("a", some 0)],
    sources := [(.str "/w/a.py", some 0)] }

/-- Something is shown over a position, but the search for its definition stops with a fault. -/
def FailsToAgree (p : Program) : Prop :=
  (p.describe {} "/w/a.py" (.int 1) (.int 0) []).1 = .ok (some (.source "x: Unknown".toList)) ∧
    (p.findDefinition {} "/w/a.py" (.int 1) (.int 0) []).1.isOk = false

/-- A column that is no number, a full name that is no text, and an absent node among the parts of a
file: each of them keeps a definition from being found. -/
theorem failsToAgree_naming :
    ((naming .null (.str "a.x") []).IsRegular ∧ (naming .null (.str "a.x") []).FailsToAgree) ∧
    ((naming (.int 0) (.int 7) []).IsRegular ∧ (naming (.int 0) (.int 7) []).FailsToAgree) ∧
    ((naming (.int 0) (.str "a.y") [none]).IsRegular ∧
      (naming (.int 0) (.str "a.y") [none]).FailsToAgree) := by
  refine ⟨⟨isRegular_of_isOrdered ?_, ?_, ?_⟩, ⟨isRegular_of_isOrdered ?_, ?_, ?_⟩,
    ⟨isRegular_of_isOrdered ?_, ?_, ?_⟩⟩
  all_goals decide +kernel

end Program

end LangServer
