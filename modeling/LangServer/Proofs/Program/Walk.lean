import LangServer.Proofs.Program.FullName
import Mathlib.Data.List.Nodup
import Mathlib.Data.List.Perm.Subperm
import Mathlib.Logic.Relation

/-!
# Walks and searches come to their end

In a program whose nodes are made of nodes of the source, and of which no node is made of itself, a
walk meets no fault: the nodes above one another are distinct, so there are never more of them than
the program has nodes, and the bound on the depth of a walk is not reached.  It visits the nodes
below its start and no others.  Hence the search for the file of a node always has an answer.

Main statements: `mem_reached_iff`, `exists_homeFile_eq_ok`.
-/

namespace LangServer.Program

/-! ### Programs as the checker makes them -/

/-- The reference is to a node of the source. -/
def IsSource (p : Program) (ref : Option NodeId) : Prop :=
  ∃ n, p.node? ref = some n ∧ n.isSource = true

/-- The first node is made of the second, among others. -/
def HasPart (p : Program) (a b : NodeId) : Prop :=
  ∃ n, p.nodes[a]? = some n ∧ some b ∈ n.children

/-- The node is made of nodes of the source, and not of itself.  Parts of it may be absent. -/
structure IsSound (p : Program) (id : NodeId) : Prop where
  isSource_of_hasPart : ∀ part, p.HasPart id part → p.IsSource (some part)
  acyclic : ¬ Relation.TransGen p.HasPart id id

/-- The node is sound and has no absent part. -/
structure IsComplete (p : Program) (id : NodeId) : Prop extends IsSound p id where
  isWhole : ∀ n, p.nodes[id]? = some n → none ∉ n.children

/-- What can be relied on in every analysed program. -/
structure IsRegular (p : Program) : Prop where
  isSound : ∀ id, p.IsSound id
  isSource_module : ∀ e ∈ p.modules, p.IsSource e.2
  /-- The class of an object's type is a class, if it is known. -/
  isClass_of_instanceOf : ∀ n ∈ p.nodes, ∀ info, n.shape = .instanceOf (some info) →
    ∃ fullName symbols definition,
      p.shape? (some info) = some (.classInfo fullName symbols definition)
  isSome_definition : ∀ n ∈ p.nodes, ∀ fullName symbols definition,
    n.shape = .classInfo fullName symbols definition → (p.node? definition).isSome = true

/-- No node is made of an absent one. -/
def IsWhole (p : Program) : Prop :=
  ∀ n ∈ p.nodes, none ∉ n.children

/-- Nodes are made of nodes of the source, and none of itself.  Absent parts are excluded: a program
may be regular and have some. -/
def IsAcyclic (p : Program) : Prop :=
  ∀ id, p.IsComplete id

theorem IsRegular.isAcyclic {p : Program} (hp : p.IsRegular) (hwhole : p.IsWhole) : p.IsAcyclic :=
  fun id => ⟨hp.isSound id, fun n hn => hwhole n (Array.mem_of_getElem? hn)⟩

theorem IsComplete.exists_hasPart {p : Program} {id : NodeId} {n : Node} {child : Option NodeId}
    (h : p.IsComplete id) (hn : p.nodes[id]? = some n) (hchild : child ∈ n.children) :
    ∃ part, child = some part ∧ p.HasPart id part := by
  cases child with
  | none => exact absurd hchild (h.isWhole n hn)
  | some part => exact ⟨part, rfl, n, hn, hchild⟩

theorem mem_nodes_of_node? {p : Program} {ref : Option NodeId} {n : Node}
    (h : p.node? ref = some n) : n ∈ p.nodes := by
  obtain ⟨id, -, hid⟩ := Option.bind_eq_some_iff.1 h
  exact Array.mem_of_getElem? hid

theorem acyclic_of_lt {p : Program} (h : ∀ a b, p.HasPart a b → a < b) (a : NodeId) :
    ¬ Relation.TransGen p.HasPart a a := by
  intro hcycle
  have hlt : ∀ c, Relation.TransGen p.HasPart a c → a < c := by
    intro c hc
    induction hc with
    | single hpart => exact h _ _ hpart
    | tail _ hpart ih => exact Nat.lt_trans ih (h _ _ hpart)
  exact Nat.lt_irrefl a (hlt a hcycle)

/-- Whether a node comes before the nodes it is made of, and refers to nodes as it should. -/
def isOrderedAt (p : Program) (n : Node) (id : NodeId) : Bool :=
  (n.children.all fun child => child.all fun part =>
    id < part && (p.node? (some part)).any Node.isSource) &&
  match n.shape with
  | .instanceOf (some info) =>
    match p.shape? (some info) with
    | some (.classInfo _ _ _) => true
    | _ => false
  | .classInfo _ _ definition => (p.node? definition).isSome
  | _ => true

/-- A test that regular programs may fail, but only if a node comes after one of its parts. -/
def isOrdered (p : Program) : Bool :=
  (p.nodes.toList.zipIdx.all fun e => p.isOrderedAt e.1 e.2) &&
    p.modules.all fun e => (p.node? e.2).any Node.isSource

theorem isSource_of_any {p : Program} {ref : Option NodeId}
    (h : (p.node? ref).any Node.isSource = true) : p.IsSource ref :=
  (Option.any_eq_true _ _).1 h

theorem isRegular_of_isOrdered {p : Program} (h : p.isOrdered = true) : p.IsRegular := by
  rw [isOrdered, Bool.and_eq_true, List.all_eq_true, List.all_eq_true] at h
  have hnode : ∀ a n, p.nodes[a]? = some n → p.isOrderedAt n a = true := by
    intro a n hn
    refine h.1 (n, a) (List.mem_zipIdx_iff_getElem?.2 ?_)
    rwa [Array.getElem?_toList]
  have hpart : ∀ a b, p.HasPart a b → a < b ∧ p.IsSource (some b) := by
    rintro a b ⟨n, hn, hb⟩
    have hordered := hnode a n hn
    rw [isOrderedAt, Bool.and_eq_true, List.all_eq_true] at hordered
    have hchild := (Option.all_eq_true _ _).1 (hordered.1 (some b) hb) b rfl
    rw [Bool.and_eq_true, decide_eq_true_eq] at hchild
    exact ⟨hchild.1, isSource_of_any hchild.2⟩
  have hacyclic := acyclic_of_lt fun a b hb => (hpart a b hb).1
  refine ⟨fun a => ⟨fun b hb => (hpart a b hb).2, hacyclic a⟩,
    fun e he => isSource_of_any (h.2 e he), ?_, ?_⟩
  · intro n hn info hshape
    obtain ⟨a, ha⟩ := Array.mem_iff_getElem?.1 hn
    have hordered := hnode a n ha
    simp only [isOrderedAt, hshape, Bool.and_eq_true] at hordered
    have hclass := hordered.2
    split at hclass
    · next fullName symbols definition hinfo => exact ⟨fullName, symbols, definition, hinfo⟩
    · cases hclass
  · intro n hn fullName symbols definition hshape
    obtain ⟨a, ha⟩ := Array.mem_iff_getElem?.1 hn
    have hordered := hnode a n ha
    simp only [isOrderedAt, hshape, Bool.and_eq_true] at hordered
    exact hordered.2

/-! ### Walks -/

variable {p : Program}

/-- The nodes above a node in a walk: each has it below itself, and none occurs twice. -/
structure IsAbove (p : Program) (above : List NodeId) (id : NodeId) : Prop where
  nodup : above.Nodup
  bound : ∀ a ∈ above, a < p.nodes.size
  path : ∀ a ∈ above, Relation.TransGen p.HasPart a id

theorem IsAbove.length_le {above : List NodeId} {id : NodeId} (h : p.IsAbove above id) :
    above.length ≤ p.nodes.size := by
  have hsub : above ⊆ List.range p.nodes.size := fun a ha => List.mem_range.2 (h.bound a ha)
  have hle := (List.subperm_of_subset h.nodup hsub).length_le
  rwa [List.length_range] at hle

theorem IsAbove.cons {above : List NodeId} {id part : NodeId} (h : p.IsAbove above id)
    (hacyclic : ¬ Relation.TransGen p.HasPart id id) (hpart : p.HasPart id part) :
    p.IsAbove (id :: above) part where
  nodup := List.nodup_cons.2 ⟨fun hmem => hacyclic (h.path id hmem), h.nodup⟩
  bound := by
    obtain ⟨n, hn, -⟩ := hpart
    obtain ⟨hlt, -⟩ := Array.getElem?_eq_some_iff.1 hn
    simpa [hlt] using h.bound
  path := by
    intro a ha
    rcases List.mem_cons.1 ha with rfl | ha
    · exact .single hpart
    · exact (h.path a ha).tail hpart

theorem mem_walk_iff (hp : p.IsAcyclic) {depth : Nat} {above : List NodeId} {id : NodeId}
    (habove : p.IsAbove above id) (hdepth : p.nodes.size < depth + above.length)
    (hid : p.IsSource (some id)) {v : Visit} :
    v ∈ p.walk (fun _ => []) Node.children depth (some id) ↔
      ∃ c, v = .node c ∧ Relation.ReflTransGen p.HasPart id c := by
  -- The depth that is left and the nodes above are together more than all nodes, so that the depth
  -- is not used up before the nodes are.
  induction depth generalizing above id with
  | zero =>
    have hle := habove.length_le
    omega
  | succ depth ih =>
    obtain ⟨n, hn, hsource⟩ := hid
    have hget : p.nodes[id]? = some n := hn
    have hleft : p.nodes.size < depth + (id :: above).length := by
      rw [List.length_cons]
      omega
    have hpart : ∀ part, some part ∈ n.children →
        (v ∈ p.walk (fun _ => []) Node.children depth (some part) ↔
          ∃ c, v = .node c ∧ Relation.ReflTransGen p.HasPart part c) := by
      intro part hmem
      exact ih (habove.cons (hp id).acyclic ⟨n, hget, hmem⟩) hleft
        ((hp id).isSource_of_hasPart part ⟨n, hget, hmem⟩)
    simp only [walk, hget, hsource, if_true, List.nil_append, List.mem_append, List.mem_flatMap,
      List.mem_singleton]
    constructor
    · rintro (⟨child, hchild, hv⟩ | rfl)
      · obtain ⟨part, rfl, hhas⟩ := (hp id).exists_hasPart hget hchild
        obtain ⟨c, rfl, hc⟩ := (hpart part hchild).1 hv
        exact ⟨c, rfl, .head hhas hc⟩
      · exact ⟨id, rfl, .refl⟩
    · rintro ⟨c, rfl, hc⟩
      rcases hc.cases_head with rfl | ⟨part, ⟨n', hn', hmem⟩, hc⟩
      · exact .inr rfl
      · obtain rfl : n = n' := Option.some.inj (hget.symm.trans hn')
        exact .inl ⟨some part, hmem, (hpart part hmem).2 ⟨c, rfl, hc⟩⟩

theorem mem_reached_iff (hp : p.IsAcyclic) {id : NodeId} (hid : p.IsSource (some id)) {v : Visit} :
    v ∈ p.reached (some id) ↔ ∃ c, v = .node c ∧ Relation.ReflTransGen p.HasPart id c :=
  have habove : p.IsAbove [] id := ⟨List.nodup_nil, by simp, by simp⟩
  mem_walk_iff hp habove (Nat.lt_succ_self _) hid

/-! ### Searches -/

theorem exists_reaches_eq_ok (hp : p.IsAcyclic) {id : NodeId} (hid : p.IsSource (some id))
    (target : Option NodeId) :
    ∃ found, reaches target (p.reached (some id)) = .ok found ∧
      (found = true ↔ ∃ c ∈ target, Relation.ReflTransGen p.HasPart id c) := by
  have hnone : (p.reached (some id)).findSome? Visit.fault? = none := by
    refine List.findSome?_eq_none_iff.2 fun v hv => ?_
    obtain ⟨c, rfl, -⟩ := (mem_reached_iff hp hid).1 hv
    rfl
  refine ⟨_, by rw [reaches, hnone], ?_⟩
  rw [Option.any_eq_true]
  simp only [List.contains_iff_mem, mem_reached_iff hp hid, Visit.node.injEq, exists_eq_left',
    Option.mem_def]

theorem exists_firstReaching_eq_ok (hp : p.IsAcyclic) (target : Option NodeId)
    {files : List (Option NodeId)} (h : ∀ file ∈ files, p.IsSource file) :
    ∃ path, p.firstReaching target files = .ok path := by
  induction files with
  | nil => exact ⟨_, rfl⟩
  | cons file rest ih =>
    have hfile := h file List.mem_cons_self
    cases file with
    | none =>
      obtain ⟨n, hn, -⟩ := hfile
      cases hn
    | some id =>
      obtain ⟨found, hfound, -⟩ := exists_reaches_eq_ok hp hfile target
      rw [firstReaching, hfound]
      cases found with
      | true => exact ⟨_, rfl⟩
      | false => exact ih fun f hf => h f (List.mem_cons_of_mem _ hf)

theorem isSource_of_mem_searchOrder (hp : p.IsRegular) {first : List (Option NodeId)}
    (h : ∀ file ∈ first, p.IsSource file) : ∀ file ∈ p.searchOrder first, p.IsSource file := by
  intro file hfile
  rcases List.mem_append.1 hfile with hfile | hfile
  · exact h file hfile
  · obtain ⟨e, he, rfl⟩ := List.mem_map.1 (List.mem_filter.1 hfile).1
    exact hp.isSource_module e he

/-- The module in which a symbol is found is one of the program's. -/
theorem exists_mem_modules_of_lookup {name : String} {found : Option NodeId} {file : NodeId}
    (h : p.lookup name = some (found, file)) : ∃ e ∈ p.modules, e.2 = some file := by
  obtain ⟨k, m, hlongest, -⟩ := resolve_eq_ok_iff.1 (lookup_eq_some_iff.1 h)
  have hlookup := Option.join_eq_some_iff.1 hlongest.isModule
  obtain ⟨before, after, hmodules, -⟩ := List.lookup_eq_some_iff.1 hlookup
  exact ⟨_, hmodules ▸ List.mem_append_right before List.mem_cons_self, rfl⟩

theorem isSource_of_lookup (hp : p.IsRegular) {name : String} {found : Option NodeId}
    {file : NodeId} (h : p.lookup name = some (found, file)) : p.IsSource (some file) := by
  obtain ⟨e, he, hfile⟩ := exists_mem_modules_of_lookup h
  exact hfile ▸ hp.isSource_module e he

theorem homeFile_var {ref current : Option NodeId} {name : Json} {fullName : String}
    {type : Option NodeId} (hshape : p.shape? ref = some (.var name (.str fullName) type)) :
    p.homeFile ref current =
      ((p.lookup fullName).map fun e =>
        if e.1 = ref then .ok (p.pathOf (some e.2))
        else if some e.2 = current then p.firstReaching ref (p.searchOrder [current])
        else p.firstReaching ref (p.searchOrder [current, some e.2])).getD (.ok .null) := by
  simp only [homeFile, hshape, lookupValue]
  cases p.lookup fullName with
  | none => rfl
  | some e => rfl

/-- The file of a node can always be searched for, if a variable has a text as its full name. -/
theorem exists_homeFile_eq_ok (hp : p.IsRegular) (hwhole : p.IsWhole) {current : Option NodeId}
    (hcurrent : p.IsSource current) {ref : Option NodeId}
    (hname : ∀ name fullName type, p.shape? ref = some (.var name fullName type) →
      ∃ s, fullName = .str s) :
    ∃ home, p.homeFile ref current = .ok home := by
  have hsearch : ∀ target, ∃ home,
      p.firstReaching target (p.searchOrder [current]) = .ok home := fun target =>
    exists_firstReaching_eq_ok (hp.isAcyclic hwhole) target
      (isSource_of_mem_searchOrder hp (by simpa using hcurrent))
  cases hshape : p.shape? ref with
  | none => simpa only [homeFile, hshape] using hsearch ref
  | some shape =>
    cases shape with
    | file path fullName isPackage symbols => exact ⟨path, by rw [homeFile, hshape]; rfl⟩
    | classInfo fullName symbols definition =>
      simpa only [homeFile, hshape] using hsearch definition
    | var name fullName type =>
      obtain ⟨s, rfl⟩ := hname name fullName type hshape
      rw [homeFile_var hshape]
      cases hlookup : p.lookup s with
      | none => exact ⟨.null, rfl⟩
      | some e =>
        obtain ⟨found, file⟩ := e
        rw [Option.map_some, Option.getD_some]
        by_cases hfound : found = ref
        · exact ⟨_, if_pos hfound⟩
        · rw [if_neg hfound]
          by_cases hfile : some file = current
          · rw [if_pos hfile]
            exact hsearch ref
          · rw [if_neg hfile]
            have hboth : ∀ f ∈ [current, some file], p.IsSource f := by
              simpa using ⟨hcurrent, isSource_of_lookup hp hlookup⟩
            exact exists_firstReaching_eq_ok (hp.isAcyclic hwhole) ref
              (isSource_of_mem_searchOrder hp hboth)
    | _ => simpa only [homeFile, hshape] using hsearch ref

end LangServer.Program
