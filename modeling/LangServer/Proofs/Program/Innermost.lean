import LangServer.Proofs.Program.Walk
import Mathlib.Data.Prod.Lex
import Mathlib.Data.Set.List

/-!
# The innermost node at a position

The nodes that a position may mean are those that a file is made of and the types that annotate
them.  They are tried in post-order: before a node come the types that annotate it, then the nodes
it is made of.  The first whose span holds the position is found.  Whatever the spans are, also
where they overlap or the span of a node does not hold those of its parts, nothing below the node
that is found holds the position.

`IsCandidate` and `PostOrder` say which nodes are tried and in which order, without a bound on the
depth.  A walk through the tree of a file goes through them in that order.

Main statement: `locate_finds_innermost`.
-/

namespace LangServer

/-! ### Spans -/

/-- The position is not before the start and not after the end, in the order of lines and then of
columns. -/
def Span.Covers (s : Span) (line column : Int) : Prop :=
  ∃ startLine startColumn endLine endColumn,
    s = .between startLine startColumn endLine endColumn ∧
      toLex (startLine, startColumn) ≤ toLex (line, column) ∧
      toLex (line, column) ≤ toLex (endLine, endColumn)

theorem Span.covers_between {l c el ec line column : Int} :
    (Span.between l c el ec).Covers line column ↔
      toLex (l, c) ≤ toLex (line, column) ∧ toLex (line, column) ≤ toLex (el, ec) := by
  constructor
  · rintro ⟨l', c', el', ec', hspan, hstart, hend⟩
    simp only [Span.between, Span.mk.injEq, Json.int.injEq] at hspan
    obtain ⟨rfl, rfl, rfl, rfl⟩ := hspan
    exact ⟨hstart, hend⟩
  · exact fun h => ⟨l, c, el, ec, rfl, h⟩

theorem Json.same_int (a b : Int) : (Json.int a).same (.int b) = decide (a = b) :=
  Json.eqInt_int a b

theorem Bounds.contains_of_ok {b : Bounds} {line column : Json} {outside before after : Bool}
    (houtside : b.outsideLines line = .ok outside)
    (hbefore : b.beforeStart line column = .ok before)
    (hafter : b.afterEnd line column = .ok after) :
    b.contains line column = .ok (!outside && !before && !after) := by
  rw [Bounds.contains, houtside, hbefore, hafter]
  cases outside <;> cases before <;> rfl

section Between

variable (l c el ec line column : Int)

theorem Span.outsideLines_between : (Span.between l c el ec).bounds.outsideLines (.int line) =
    .ok (decide (line < l ∨ el < line)) := by
  by_cases h : line < l <;>
    simp [Span.bounds, Span.between, Bounds.outsideLines, Bounds.known, Json.less_int, h, bind,
      Except.bind, pure, Except.pure]

theorem Span.beforeStart_between :
    (Span.between l c el ec).bounds.beforeStart (.int line) (.int column) =
      .ok (decide (l = line ∧ column < c)) := by
  by_cases h : l = line <;>
    simp [Span.bounds, Span.between, Bounds.beforeStart, Bounds.known, Json.less_int,
      Json.same_int, h, bind, Except.bind, pure, Except.pure]

theorem Span.afterEnd_between :
    (Span.between l c el ec).bounds.afterEnd (.int line) (.int column) =
      .ok (decide (el = line ∧ ec < column)) := by
  by_cases h : el = line <;>
    simp [Span.bounds, Span.between, Bounds.afterEnd, Bounds.known, Json.less_int,
      Json.same_int, h, bind, Except.bind, pure, Except.pure]

/-- Columns are compared only on the lines of the ends, which makes the order lexicographic. -/
theorem Span.contains_between :
    ∃ b, (Span.between l c el ec).contains (.int line) (.int column) = .ok b ∧
      (b = true ↔ (Span.between l c el ec).Covers line column) := by
  refine ⟨_, Bounds.contains_of_ok (outsideLines_between l c el ec line)
    (beforeStart_between l c el ec line column) (afterEnd_between l c el ec line column), ?_⟩
  rw [Span.covers_between, Prod.Lex.toLex_le_toLex, Prod.Lex.toLex_le_toLex]
  simp only [Bool.and_eq_true, Bool.not_eq_true', decide_eq_false_iff_not]
  omega

end Between

namespace Program

/-! ### Candidates -/

/-- The types that annotate a node, as they are written: the declared type of an assignment, and of
a function the types of its arguments and of its result. -/
inductive Annotated (p : Program) (n : Node) : List NodeId → Prop
  | assignment {type : NodeId} (h : n.shape = .assignment (some type)) : Annotated p n [type]
  | function {fullName : Json} {type : Option NodeId} {arguments : List NodeId} {result : NodeId}
      (h : n.shape = .function fullName type)
      (htype : p.shape? type = some (.callable (arguments.map some) (some result))) :
      Annotated p n (arguments ++ [result])
  | bare (h : ∀ type, n.shape ≠ .assignment (some type))
      (htype : ∀ fullName type arguments result, n.shape = .function fullName type →
        p.shape? type ≠ some (.callable arguments result)) : Annotated p n []

/-- The second node is below the first in its file, or is it. -/
def Reaches (p : Program) : NodeId → NodeId → Prop :=
  Relation.ReflTransGen p.HasPart

/-- The type is one of those that annotate the node. -/
def Annotates (p : Program) (type id : NodeId) : Prop :=
  ∃ n types, p.nodes[id]? = some n ∧ p.Annotated n types ∧ type ∈ types

/-- The node may be meant by a position in the file: the file is made of it, or it is a type that
annotates such a node. -/
def IsCandidate (p : Program) (tree c : NodeId) : Prop :=
  ∃ id, p.Reaches tree id ∧ (c = id ∨ p.Annotates c id)

/-- The second node is made of the first, at any depth, or the first is a type that annotates the
second or a node that it is made of.  A type is not gone into. -/
def IsBelow (p : Program) (c id : NodeId) : Prop :=
  p.IsSource (some id) ∧
    (Relation.TransGen p.HasPart id c ∨ ∃ a, p.Reaches id a ∧ p.Annotates c a)

/-- The nodes that some references lead to, types before parts before the node itself. -/
inductive PostOrder (p : Program) : List (Option NodeId) → List NodeId → Prop
  | nil : PostOrder p [] []
  | cons {id : NodeId} {n : Node} {rest : List (Option NodeId)} {types parts others : List NodeId}
      (hn : p.nodes[id]? = some n) (hsource : n.isSource = true) (htypes : p.Annotated n types)
      (hparts : PostOrder p n.children parts) (hothers : PostOrder p rest others) :
      PostOrder p (some id :: rest) (types ++ parts ++ [id] ++ others)

/-- The span of the node holds the position. -/
def IsAt (p : Program) (id : NodeId) (line column : Int) : Prop :=
  ∃ n, p.nodes[id]? = some n ∧ n.span.Covers line column

/-- What can be relied on in the syntax tree of a file. -/
structure IsTree (p : Program) (tree : NodeId) : Prop where
  isSource : p.IsSource (some tree)
  isComplete : ∀ id, p.Reaches tree id → p.IsComplete id
  /-- Where a function has the type of a function, its arguments and its result have types. -/
  annotated : ∀ id n, p.Reaches tree id → p.nodes[id]? = some n → ∃ types, p.Annotated n types
  /-- A type is not part of the source. -/
  not_isSource_of_annotates : ∀ type id, p.Reaches tree id → p.Annotates type id →
    ¬ p.IsSource (some type)
  hasSpan : ∀ c, p.IsCandidate tree c → ∃ n line column endLine endColumn,
    p.nodes[c]? = some n ∧ n.span = .between line column endLine endColumn

variable {p : Program}

/-! ### The order of the nodes -/

theorem annotations_eq {n : Node} {types : List NodeId} (h : p.Annotated n types) :
    p.annotations n = types.map Visit.node := by
  cases h with
  | assignment h => simp [annotations, h]
  | @function fullName type arguments result h htype =>
    have hrefs : Visit.ofRef ∘ some = Visit.node := rfl
    simp [annotations, h, htype, hrefs, Visit.ofRef]
  | bare h htype =>
    unfold annotations
    split
    · next type hshape => exact absurd hshape (h type)
    · next fullName type hshape =>
      split
      · next arguments result hcallable => exact absurd hcallable (htype _ _ _ _ hshape)
      · rfl
    · rfl

theorem Annotated.unique {n : Node} {types types' : List NodeId} (h : p.Annotated n types)
    (h' : p.Annotated n types') : types = types' := by
  have hsame : types.map Visit.node = types'.map Visit.node :=
    (annotations_eq h).symm.trans (annotations_eq h')
  exact List.map_injective_iff.2 (fun _ _ => Visit.node.inj) hsame

theorem annotates_iff {type id : NodeId} {n : Node} {types : List NodeId}
    (hn : p.nodes[id]? = some n) (h : p.Annotated n types) :
    p.Annotates type id ↔ type ∈ types := by
  constructor
  · rintro ⟨n', types', hn', h', hmem⟩
    obtain rfl : n = n' := Option.some.inj (hn.symm.trans hn')
    exact h.unique h' ▸ hmem
  · exact fun hmem => ⟨n, types, hn, h, hmem⟩

/-- The candidates below and at a node: its types, those that its parts lead to, itself. -/
theorem isCandidate_iff {id c : NodeId} {n : Node} {types : List NodeId}
    (hn : p.nodes[id]? = some n) (htypes : p.Annotated n types) :
    p.IsCandidate id c ↔
      c ∈ types ∨ (∃ part, some part ∈ n.children ∧ p.IsCandidate part c) ∨ c = id := by
  constructor
  · rintro ⟨a, hreach, hc⟩
    rcases hreach.cases_head with rfl | ⟨part, ⟨n', hn', hpart⟩, hreach⟩
    · rcases hc with rfl | hc
      · exact .inr (.inr rfl)
      · exact .inl ((annotates_iff hn htypes).1 hc)
    · obtain rfl : n = n' := Option.some.inj (hn.symm.trans hn')
      exact .inr (.inl ⟨part, hpart, a, hreach, hc⟩)
  · rintro (hc | ⟨part, hpart, a, hreach, hc⟩ | rfl)
    · exact ⟨id, .refl, .inr ((annotates_iff hn htypes).2 hc)⟩
    · exact ⟨a, .head ⟨n, hn, hpart⟩ hreach, hc⟩
    · exact ⟨c, .refl, .inl rfl⟩

namespace PostOrder

theorem unique {refs : List (Option NodeId)} {order order' : List NodeId}
    (h : p.PostOrder refs order) (h' : p.PostOrder refs order') : order = order' := by
  induction h generalizing order' with
  | nil => cases h'; rfl
  | @cons id n rest types parts others hn hsource htypes hparts hothers ihparts ihothers =>
    cases h' with
    | @cons _ n' _ types' parts' others' hn' hsource' htypes' hparts' hothers' =>
      obtain rfl : n = n' := Option.some.inj (hn.symm.trans hn')
      rw [htypes.unique htypes', ihparts hparts', ihothers hothers']

theorem append {id : NodeId} {rest : List (Option NodeId)} {order others : List NodeId}
    (h : p.PostOrder [some id] order) (hothers : p.PostOrder rest others) :
    p.PostOrder (some id :: rest) (order ++ others) := by
  cases h with
  | cons hn hsource htypes hparts hnone =>
    cases hnone with
    | nil =>
      rw [List.append_nil]
      exact .cons hn hsource htypes hparts hothers

theorem mem_iff {refs : List (Option NodeId)} {order : List NodeId} (h : p.PostOrder refs order)
    (c : NodeId) : c ∈ order ↔ ∃ id, some id ∈ refs ∧ p.IsCandidate id c := by
  induction h with
  | nil => simp
  | @cons id n rest types parts others hn hsource htypes hparts hothers ihparts ihothers =>
    have hid := isCandidate_iff (c := c) hn htypes
    rw [← ihparts] at hid
    simp only [List.mem_append, List.mem_cons, List.not_mem_nil, or_false, ihothers,
      Option.some.injEq, or_and_right, exists_or, exists_eq_left, hid, or_assoc]

theorem mem_of_isBelow {id c : NodeId} {n : Node} {types parts : List NodeId}
    (hn : p.nodes[id]? = some n) (htypes : p.Annotated n types)
    (hparts : p.PostOrder n.children parts) (hc : p.IsBelow c id) : c ∈ types ∨ c ∈ parts := by
  have hmem : ∀ part a, p.HasPart id part → p.Reaches part a → (c = a ∨ p.Annotates c a) →
      c ∈ parts := by
    rintro part a ⟨n', hn', hpart⟩ hreach hca
    obtain rfl : n = n' := Option.some.inj (hn.symm.trans hn')
    exact (hparts.mem_iff c).2 ⟨part, hpart, a, hreach, hca⟩
  rcases hc.2 with hbelow | ⟨a, hreach, hca⟩
  · obtain ⟨part, hpart, hreach⟩ := Relation.TransGen.head'_iff.1 hbelow
    exact .inr (hmem part c hpart hreach (.inl rfl))
  · rcases hreach.cases_head with rfl | ⟨part, hpart, hreach⟩
    · exact .inl ((annotates_iff hn htypes).1 hca)
    · exact .inr (hmem part a hpart hreach (.inr hca))

/-- Nothing below the first node that passes a test passes it: types and parts come before. -/
theorem not_of_isBelow {refs : List (Option NodeId)} {order : List NodeId}
    (h : p.PostOrder refs order)
    (htypes : ∀ id a type, some id ∈ refs → p.Reaches id a → p.Annotates type a →
      ¬ p.IsSource (some type))
    {test : NodeId → Bool} {found c : NodeId} (hfound : order.find? test = some found)
    (hc : p.IsBelow c found) : ¬ test c = true := by
  induction h with
  | nil => cases hfound
  | @cons id n rest types parts others hn hsource hannotated hparts hothers ihparts ihothers =>
    have hbelow : ∀ part a type, some part ∈ n.children → p.Reaches part a → p.Annotates type a →
        ¬ p.IsSource (some type) := fun part a type hpart hreach =>
      htypes id a type List.mem_cons_self (.head ⟨n, hn, hpart⟩ hreach)
    have hrest : ∀ id a type, some id ∈ rest → p.Reaches id a → p.Annotates type a →
        ¬ p.IsSource (some type) := fun id a type hid =>
      htypes id a type (List.mem_cons_of_mem _ hid)
    -- The first hit is among the types, among the parts, the node itself, or in what follows.
    simp only [List.find?_append] at hfound
    cases htype : types.find? test with
    | some type =>
      obtain rfl : type = found := by simpa [htype] using hfound
      have hmem : p.Annotates type id :=
        (annotates_iff hn hannotated).2 (List.mem_of_find?_eq_some htype)
      exact absurd hc.1 (htypes id id type List.mem_cons_self .refl hmem)
    | none =>
      cases hpart : parts.find? test with
      | some part =>
        obtain rfl : part = found := by simpa [htype, hpart] using hfound
        exact ihparts hbelow hpart
      | none =>
        by_cases hid : test id = true
        · obtain rfl : id = found := by simpa [htype, hpart, hid] using hfound
          rcases mem_of_isBelow hn hannotated hparts hc with hmem | hmem
          · exact List.find?_eq_none.1 htype c hmem
          · exact List.find?_eq_none.1 hpart c hmem
        · exact ihothers hrest (by simpa [htype, hpart, hid] using hfound)

end PostOrder

/-! ### The walk through a tree -/

theorem isSource_of_reaches {tree id : NodeId} (htree : p.IsSource (some tree))
    (hpart : ∀ a b, p.Reaches tree a → p.HasPart a b → p.IsSource (some b))
    (hid : p.Reaches tree id) : p.IsSource (some id) := by
  rcases hid.cases_tail with rfl | ⟨a, hreach, ha⟩
  · exact htree
  · exact hpart a id hreach ha

theorem PostOrder.exists_flatMap {visits : Option NodeId → List Visit}
    {refs : List (Option NodeId)}
    (h : ∀ ref ∈ refs, ∃ id order, ref = some id ∧ p.PostOrder [some id] order ∧
      visits ref = order.map Visit.node) :
    ∃ order, p.PostOrder refs order ∧ refs.flatMap visits = order.map Visit.node := by
  induction refs with
  | nil => exact ⟨[], .nil, rfl⟩
  | cons ref rest ih =>
    obtain ⟨id, order, rfl, horder, hvisits⟩ := h ref List.mem_cons_self
    obtain ⟨others, hothers, hrest⟩ := ih fun r hr => h r (List.mem_cons_of_mem _ hr)
    exact ⟨order ++ others, horder.append hothers, by
      rw [List.flatMap_cons, hvisits, hrest, List.map_append]⟩

namespace IsTree

variable {tree : NodeId}

/-- As in every walk, the depth is not used up before the nodes are. -/
theorem exists_walk_eq (h : p.IsTree tree) {depth : Nat} {above : List NodeId} {id : NodeId}
    (hid : p.Reaches tree id) (habove : p.IsAbove above id)
    (hdepth : p.nodes.size < depth + above.length) :
    ∃ order, p.PostOrder [some id] order ∧
      p.walk p.annotations Node.children depth (some id) = order.map Visit.node := by
  induction depth generalizing above id with
  | zero =>
    have hle := habove.length_le
    omega
  | succ depth ih =>
    obtain ⟨n, hn, hsource⟩ := isSource_of_reaches h.isSource
      (fun a b ha => (h.isComplete a ha).isSource_of_hasPart b) hid
    have hget : p.nodes[id]? = some n := hn
    obtain ⟨types, htypes⟩ := h.annotated id n hid hget
    have hleft : p.nodes.size < depth + (id :: above).length := by
      rw [List.length_cons]
      omega
    have hchildren : ∀ child ∈ n.children, ∃ part order, child = some part ∧
        p.PostOrder [some part] order ∧
        p.walk p.annotations Node.children depth child = order.map Visit.node := by
      intro child hchild
      obtain ⟨part, rfl, hpart⟩ := (h.isComplete id hid).exists_hasPart hget hchild
      obtain ⟨order, horder, hwalk⟩ :=
        ih (hid.tail hpart) (habove.cons (h.isComplete id hid).acyclic hpart) hleft
      exact ⟨part, order, rfl, horder, hwalk⟩
    obtain ⟨parts, hparts, hwalk⟩ := PostOrder.exists_flatMap hchildren
    refine ⟨_, .cons hget hsource htypes hparts .nil, ?_⟩
    simp only [walk, hget, hsource, if_true, annotations_eq htypes, hwalk, List.map_append,
      List.map_cons, List.map_nil, List.append_nil]

theorem exists_candidates_eq (h : p.IsTree tree) :
    ∃ order, p.PostOrder [some tree] order ∧ p.candidates tree = order.map Visit.node :=
  have habove : p.IsAbove [] tree := ⟨List.nodup_nil, by simp, by simp⟩
  h.exists_walk_eq .refl habove (Nat.lt_succ_self _)

open scoped Classical in
theorem holds_eq (h : p.IsTree tree) {c : NodeId} (hc : p.IsCandidate tree c) (line column : Int) :
    p.holds (.int line) (.int column) (.node c) = .ok (decide (p.IsAt c line column)) := by
  obtain ⟨n, l, k, el, ek, hn, hspan⟩ := h.hasSpan c hc
  obtain ⟨b, hcontains, hb⟩ := Span.contains_between l k el ek line column
  have hat : p.IsAt c line column ↔ b = true := by
    rw [hb, ← hspan]
    constructor
    · rintro ⟨n', hn', hcovers⟩
      exact Option.some.inj (hn'.symm.trans hn) ▸ hcovers
    · exact fun hcovers => ⟨n, hn, hcovers⟩
  rw [holds]
  simp only [hn, hspan, hcontains, hat, Bool.decide_eq_true]

end IsTree

/-! ### A test for trees -/

theorem exists_annotated {n : Node} (h : ∀ v ∈ p.annotations n, v.fault? = none) :
    ∃ types, p.Annotated n types := by
  unfold annotations at h
  split at h
  · next type hshape => exact ⟨[type], .assignment hshape⟩
  · next fullName type hshape =>
    split at h
    · next arguments result hcallable =>
      have hsome : ∀ ref ∈ arguments ++ [result], ∃ type, some type = ref := by
        intro ref href
        have hfault : (Visit.ofRef ref).fault? = none :=
          h _ (by simpa using List.mem_map_of_mem (f := Visit.ofRef) href)
        cases ref with
        | none => cases hfault
        | some type => exact ⟨type, rfl⟩
      obtain ⟨types, rfl⟩ : arguments ∈ Set.range (List.map some) := by
        rw [Set.range_list_map]
        exact fun ref href => hsome ref (List.mem_append_left _ href)
      obtain ⟨last, rfl⟩ := hsome result (by simp)
      exact ⟨types ++ [last], .function hshape hcallable⟩
    · next hother =>
      refine ⟨[], .bare (by simp [hshape]) ?_⟩
      intro fullName' type' arguments result hshape'
      obtain ⟨-, rfl⟩ := Shape.function.inj (hshape.symm.trans hshape')
      exact hother arguments result
  · next hassignment hfunction =>
    exact ⟨[], .bare hassignment fun fullName type _ _ hshape => absurd hshape (hfunction _ _)⟩

/-- Whether a visited node is a type or a class symbol. -/
def visitsType (p : Program) : Visit → Bool
  | .node id => (p.nodes[id]?).any fun t => !t.isSource
  | _ => false

/-- Whether no node it is made of is absent, types annotate it, and its span is known. -/
def isSoundAt (p : Program) (n : Node) : Bool :=
  !n.children.contains none && (p.annotations n).all p.visitsType &&
    match n.span with
    | ⟨.int _, .int _, .int _, .int _⟩ => true
    | _ => false

theorem isTree_of_isRegular {tree : NodeId} (hp : p.IsRegular) (htree : p.IsSource (some tree))
    (hsound : p.nodes.toList.all p.isSoundAt = true) : p.IsTree tree := by
  have hat : ∀ (id : NodeId) (n : Node), p.nodes[id]? = some n → none ∉ n.children ∧
      (∀ v ∈ p.annotations n, p.visitsType v = true) ∧
      ∃ line column endLine endColumn, n.span = .between line column endLine endColumn := by
    intro id n hn
    have hn' := List.all_eq_true.1 hsound n (Array.mem_toList_iff.2 (Array.mem_of_getElem? hn))
    simp only [isSoundAt, Bool.and_eq_true, Bool.not_eq_true', List.all_eq_true] at hn'
    obtain ⟨⟨hchildren, htypes⟩, hspan⟩ := hn'
    refine ⟨by simpa using hchildren, htypes, ?_⟩
    split at hspan
    · next l k el ek heq => exact ⟨l, k, el, ek, heq⟩
    · cases hspan
  have htype : ∀ type id, p.Annotates type id → p.visitsType (.node type) = true := by
    rintro type id ⟨n, types, hn, hannotated, hmem⟩
    refine (hat id n hn).2.1 _ ?_
    rw [annotations_eq hannotated]
    exact List.mem_map_of_mem hmem
  refine ⟨htree, fun id _ => ⟨hp.isSound id, fun n hn => (hat id n hn).1⟩, ?_, ?_, ?_⟩
  · intro id n _ hn
    refine exists_annotated fun v hv => ?_
    have hvisit := (hat id n hn).2.1 v hv
    cases v with
    | node => rfl
    | absent => cases hvisit
    | endless => cases hvisit
  · rintro type id - hannotates ⟨t, ht, hsource⟩
    have hget : p.nodes[type]? = some t := ht
    have hnot := htype type id hannotates
    simp [visitsType, hget, hsource] at hnot
  · intro c hc
    obtain ⟨n, hn⟩ : ∃ n, p.nodes[c]? = some n := by
      obtain ⟨id, hid, rfl | hannotates⟩ := hc
      · obtain ⟨n, hn, -⟩ :=
          isSource_of_reaches htree (fun a b _ => (hp.isSound a).isSource_of_hasPart b) hid
        exact ⟨n, hn⟩
      · obtain ⟨t, ht, -⟩ := (Option.any_eq_true _ _).1 (htype c id hannotates)
        exact ⟨t, ht⟩
    obtain ⟨l, k, el, ek, hspan⟩ := (hat c n hn).2.2
    exact ⟨n, l, k, el, ek, hn, hspan⟩

/-! ### The node that is found -/

theorem firstHolding_map {line column : Json} {test : NodeId → Bool} {order : List NodeId}
    (h : ∀ c ∈ order, p.holds line column (.node c) = .ok (test c)) :
    p.firstHolding line column (order.map Visit.node) = .ok (order.find? test) := by
  induction order with
  | nil => rfl
  | cons c rest ih =>
    have hrest := ih fun d hd => h d (List.mem_cons_of_mem _ hd)
    rw [List.map_cons, firstHolding, h c List.mem_cons_self, List.find?_cons]
    cases test c with
    | true => rfl
    | false => exact hrest

/-- The first file with a path is the one that is searched. -/
theorem locate_eq {path : String} {tree : NodeId} {before after : List (Json × Option NodeId)}
    (hsources : p.sources = before ++ (.str path, some tree) :: after)
    (hfirst : ∀ e ∈ before, e.1 ≠ .str path) (line column : Json) {found : Option NodeId}
    (hfound : p.firstHolding line column (p.candidates tree) = .ok found) :
    p.locate (.str path) line column = .ok (some (found, tree)) := by
  have hfind : p.sources.find? (fun source => source.1.same (.str path)) =
      some (.str path, some tree) := by
    refine List.find?_eq_some_iff_append.2 ⟨Json.same_str.2 rfl, before, after, hsources, ?_⟩
    intro e he
    rw [Bool.not_eq_true', Bool.eq_false_iff]
    exact fun hsame => hfirst e he (Json.same_str.1 hsame)
  rw [locate, hfind]
  simp only [hfound]
  rfl

/-- The search for a position comes to the first candidate in post-order whose span holds it, and to
none only if no candidate's span does.  What is found is innermost. -/
theorem locate_finds_innermost {path : String} {tree : NodeId}
    {before after : List (Json × Option NodeId)}
    (hsources : p.sources = before ++ (.str path, some tree) :: after)
    (hfirst : ∀ e ∈ before, e.1 ≠ .str path) (htree : p.IsTree tree) (line column : Int) :
    ∃ found order,
      p.locate (.str path) (.int line) (.int column) = .ok (some (found, tree)) ∧
      p.PostOrder [some tree] order ∧ (∀ order', p.PostOrder [some tree] order' → order' = order) ∧
      (∀ c, c ∈ order ↔ p.IsCandidate tree c) ∧
      (found = none ↔ ∀ c, p.IsCandidate tree c → ¬ p.IsAt c line column) ∧
      ∀ id, found = some id →
        p.IsCandidate tree id ∧ p.IsAt id line column ∧
        (∀ c, p.IsBelow c id → ¬ p.IsAt c line column) ∧
        ∃ earlier later, order = earlier ++ id :: later ∧
          ∀ c ∈ earlier, ¬ p.IsAt c line column := by
  classical
  obtain ⟨order, horder, hcandidates⟩ := htree.exists_candidates_eq
  have hmem : ∀ c, c ∈ order ↔ p.IsCandidate tree c := fun c => by
    simpa using horder.mem_iff c
  have hholds : p.firstHolding (.int line) (.int column) (p.candidates tree) =
      .ok (order.find? fun c => decide (p.IsAt c line column)) := by
    rw [hcandidates]
    exact firstHolding_map fun c hc => htree.holds_eq ((hmem c).1 hc) line column
  refine ⟨_, order, locate_eq hsources hfirst _ _ hholds, horder,
    fun order' horder' => horder'.unique horder, hmem, ?_, ?_⟩
  · simp only [List.find?_eq_none, hmem, decide_eq_true_eq]
  · intro id hid
    have htypes : ∀ r a type, some r ∈ [some tree] → p.Reaches r a → p.Annotates type a →
        ¬ p.IsSource (some type) := by
      intro r a type hr hreach hannotates
      obtain rfl : r = tree := by simpa using hr
      exact htree.not_isSource_of_annotates type a hreach hannotates
    obtain ⟨hat, earlier, later, hsplit, hearlier⟩ := List.find?_eq_some_iff_append.1 hid
    refine ⟨(hmem id).1 (List.mem_of_find?_eq_some hid), of_decide_eq_true hat, ?_,
      earlier, later, hsplit, ?_⟩
    · intro c hc
      exact decide_eq_true_iff.not.1 (horder.not_of_isBelow htypes hid hc)
    · intro c hc
      simpa using hearlier c hc

/-- A file with an annotated function, and behind it an annotated assignment whose span starts in
the function and does not hold that of its own type. -/
def overlapping : Program where
  nodes := #[
    { shape := .file (.str "a.py") (.str "a") (.bool false) [],
      span := .between 1 0 9 0, children := [some 1, some 5] },
    { shape := .function (.str "a.f") (some 2), span := .between 1 0 3 10, children := [some 6] },
    { shape := .callable [some 3] (some 4), span := .between 0 0 0 0 },
    { shape := .otherType, span := .between 1 6 1 9 },
    { shape := .otherType, span := .between 1 14 1 17 },
    { shape := .assignment (some 7), span := .between 1 0 4 3 },
    { shape := .name (some "x") none, span := .between 2 4 2 8 },
    { shape := .instanceOf none, span := .between 5 3 5 6 }]
  sources := [(.null, none), (.str "a.py", some 0), (.str "a.py", none)]

theorem isTree_overlapping : overlapping.IsTree 0 :=
  isTree_of_isRegular (isRegular_of_isOrdered (by decide +kernel))
    (isSource_of_any (by decide +kernel)) (by decide +kernel)

/-- The position is behind the type of the argument and before that of the result, and in the spans
of the function, of the assignment and of the file. -/
theorem locate_finds_function :
    overlapping.IsTree 0 ∧
      overlapping.locate (.str "a.py") (.int 1) (.int 12) = .ok (some (some 1, 0)) ∧
      overlapping.IsAt 1 1 12 ∧ ∀ c, overlapping.IsBelow c 1 → ¬ overlapping.IsAt c 1 12 := by
  have hlocate : overlapping.locate (.str "a.py") (.int 1) (.int 12) = .ok (some (some 1, 0)) := by
    rfl
  have hsources : overlapping.sources =
      [(.null, none)] ++ (.str "a.py", some 0) :: [(.str "a.py", none)] := rfl
  obtain ⟨found, order, hfound, -, -, -, -, hinnermost⟩ :=
    locate_finds_innermost hsources (by simp) isTree_overlapping 1 12
  obtain rfl : found = some 1 := by
    rw [hlocate] at hfound
    simpa using hfound.symm
  obtain ⟨-, hat, hbelow, -⟩ := hinnermost 1 rfl
  exact ⟨isTree_overlapping, hlocate, hat, hbelow⟩

end Program

end LangServer
