import LangServer.Program.Lookup

/-!
# Members by the type of the object and by its declaration

A member of an object is searched for in one of two ways: in the class of the object's type, where
the checker has given the object a type, and else by what the object's name refers to.  The second
way goes from a variable to its declared type and from there to the class, but among the nodes that
have members it counts files only.  So for an object with a declared type the two ways agree exactly
if the class has no definition under the name, however the checker finds the symbols of a class.

Main statement: `memberDefinition_agrees_iff`.
-/

namespace LangServer.Program

/-- The expression is a member of an object; the object is the name of a variable that is declared
with the type of a class. -/
structure IsMemberOfVariable (p : Program) (expression object type info : NodeId)
    (name : String) : Prop where
  isMember : p.shape? (some expression) = some (.member (.str name) none (some object))
  isVariable : ∃ objectName var varName varFullName,
    p.shape? (some object) = some (.name objectName (some var)) ∧
      p.shape? (some var) = some (.var varName varFullName (some type))
  isObject : p.shape? (some type) = some (.instanceOf (some info))
  isClass : ∃ fullName symbols definition,
    p.shape? (some info) = some (.classInfo fullName symbols definition)

variable {p : Program} {expression object type info : NodeId} {name : String}

theorem lt_size_of_shape? {id : Nat} {shape : Shape} (h : p.shape? (some id) = some shape) :
    id < p.nodes.size := by
  obtain ⟨n, hn, -⟩ := Option.map_eq_some_iff.1 h
  exact (Array.getElem?_eq_some_iff.1 hn).1

theorem ne_of_shape? {a b : Nat} {s t : Shape} (ha : p.shape? (some a) = some s)
    (hb : p.shape? (some b) = some t) (hne : s ≠ t) : a ≠ b := by
  rintro rfl
  exact hne (Option.some.inj (ha.symm.trans hb))

namespace IsMemberOfVariable

/-- The way through the declaration ends at the class, three nodes behind the object. -/
theorem member_eq (h : p.IsMemberOfVariable expression object type info name) :
    p.member (some object) (.str name) = .ok none := by
  obtain ⟨objectName, var, varName, varFullName, hobject, hvar⟩ := h.isVariable
  obtain ⟨fullName, symbols, definition, hinfo⟩ := h.isClass
  have htype := h.isObject
  -- The three are different nodes, so that the search is deep enough.
  have hsize : 3 ≤ p.nodes.size := by
    have hobject_lt := lt_size_of_shape? hobject
    have hvar_lt := lt_size_of_shape? hvar
    have htype_lt := lt_size_of_shape? htype
    have hobject_ne_var := ne_of_shape? hobject hvar (by simp)
    have hobject_ne_type := ne_of_shape? hobject htype (by simp)
    have hvar_ne_type := ne_of_shape? hvar htype (by simp)
    omega
  obtain ⟨depth, hdepth⟩ : ∃ depth, p.depth = depth + 4 := by
    rw [Program.depth]
    exact ⟨p.nodes.size - 3, by omega⟩
  rw [member, hdepth]
  simp only [memberWithin, hobject, hvar, htype, hinfo]
  rfl

theorem classMember_eq (h : p.IsMemberOfVariable expression object type info name) :
    p.classMember (some info) (.str name) = p.classSymbol info (.str name) := by
  obtain ⟨fullName, symbols, definition, hinfo⟩ := h.isClass
  simp only [classMember, hinfo]

theorem memberDefinition_of_typeOf (h : p.IsMemberOfVariable expression object type info name)
    (htype : p.typeOf (some object) = some type) :
    p.memberDefinition (some expression) =
      (p.classSymbol info (.str name)).map Option.join := by
  simp only [memberDefinition, h.isMember, definitionOf, htype, h.isObject, h.classMember_eq]
  cases p.classSymbol info (.str name) with
  | error f => rfl
  | ok symbol => rfl

theorem memberDefinition_of_untyped (h : p.IsMemberOfVariable expression object type info name)
    (htype : p.typeOf (some object) = none) :
    p.memberDefinition (some expression) = .ok none := by
  simp only [memberDefinition, h.isMember, definitionOf, htype, h.member_eq]
  rfl

/-- The types of expressions do not matter. -/
theorem retype (h : p.IsMemberOfVariable expression object type info name)
    (types : List (NodeId × Option NodeId)) :
    { p with types := types }.IsMemberOfVariable expression object type info name :=
  ⟨h.isMember, h.isVariable, h.isObject, h.isClass⟩

end IsMemberOfVariable

/-- Where the checker has given the object its declared type, its member is the one of the class;
where it has given none, the member is not found.  So the two agree exactly if the class has no such
member, or it has no node. -/
theorem memberDefinition_agrees_iff
    (h : p.IsMemberOfVariable expression object type info name)
    (given missing : List (NodeId × Option NodeId))
    (hgiven : given.lookup object = some (some type))
    (hmissing : (missing.lookup object).join = none) :
    { p with types := given }.memberDefinition (some expression) =
        (p.classSymbol info (.str name)).map Option.join ∧
      { p with types := missing }.memberDefinition (some expression) = .ok none ∧
      ({ p with types := given }.memberDefinition (some expression) =
          { p with types := missing }.memberDefinition (some expression) ↔
        ∃ symbol, p.classSymbol info (.str name) = .ok symbol ∧
          ∀ node, symbol ≠ some (some node)) := by
  have htyped : { p with types := given }.memberDefinition (some expression) =
      (p.classSymbol info (.str name)).map Option.join :=
    (h.retype given).memberDefinition_of_typeOf (Option.join_eq_some_iff.2 hgiven)
  have huntyped : { p with types := missing }.memberDefinition (some expression) = .ok none :=
    (h.retype missing).memberDefinition_of_untyped hmissing
  refine ⟨htyped, huntyped, ?_⟩
  rw [htyped, huntyped]
  cases p.classSymbol info (.str name) with
  | error f => simp [Except.map]
  | ok symbol =>
    simp only [Except.map, Except.ok.injEq, exists_eq_left', Option.eq_none_iff_forall_ne_some]
    exact forall_congr' fun node => not_congr Option.join_eq_some_iff

/-- The member `x` of a variable whose class has a definition of `x`, with the types of some
expressions. -/
def declaredObject (types : List (NodeId × Option NodeId)) : Program where
  nodes := #[
    { shape := .member (.str "x") none (some 1) },
    { shape := .name (some "a.c") (some 2) },
    { shape := .var (.str "c") (.str "a.c") (some 3) },
    { shape := .instanceOf (some 4) },
    { shape := .classInfo (.str "a.C") [("x", some 5)] none },
    { shape := .var (.str "x") (.str "a.C.x") none }]
  types := types

theorem isMemberOfVariable_declaredObject (types : List (NodeId × Option NodeId)) :
    (declaredObject types).IsMemberOfVariable 0 1 3 4 "x" :=
  ⟨rfl, ⟨_, 2, _, _, rfl, rfl⟩, rfl, _, _, _, rfl⟩

theorem memberDefinition_agrees_declaredObject :
    (declaredObject []).IsMemberOfVariable 0 1 3 4 "x" ∧
      (declaredObject [(1, some 3)]).memberDefinition (some 0) = .ok (some 5) ∧
      (declaredObject [(1, none)]).memberDefinition (some 0) = .ok none := by
  obtain ⟨hgiven, hmissing, -⟩ := memberDefinition_agrees_iff
    (isMemberOfVariable_declaredObject []) [(1, some 3)] [(1, none)] rfl rfl
  exact ⟨isMemberOfVariable_declaredObject [], hgiven, hmissing⟩

/-- With its type the member is found, and without it nothing is. -/
theorem memberDefinition_ne_declaredObject :
    (declaredObject [(1, some 3)]).memberDefinition (some 0) ≠
      (declaredObject []).memberDefinition (some 0) := by
  have hgiven : (declaredObject [(1, some 3)]).memberDefinition (some 0) = .ok (some 5) := rfl
  have hmissing : (declaredObject []).memberDefinition (some 0) = .ok none := rfl
  simp [hgiven, hmissing]

end LangServer.Program
