import LangServer.Proofs.Program.Innermost

/-!
# The file that holds a definition

A definition is searched for in the current file first and then in the modules in their order.  It
is found in the first file that is made of it, at any depth.  For a class the search is for its
definition.  A variable is looked up by its full name first: without a symbol there is no search,
the symbol itself ends it, and any other symbol only puts its module in front of the others.

Main statement: `homeFile_is_first_made_of`.
-/

namespace LangServer

/-- The node whose place defines a node: of a class that of its definition. -/
def Node.defining (n : Node) (id : NodeId) : Option NodeId :=
  match n.shape with
  | .classInfo _ _ definition => definition
  | _ => some id

namespace Program

/-! ### Files and what they hold -/

/-- The node is a file with a known path. -/
def IsFileAt (p : Program) (file : NodeId) (path : Json) : Prop :=
  path ≠ .null ∧ ∃ fullName isPackage symbols,
    p.shape? (some file) = some (.file path fullName isPackage symbols)

/-- What can be relied on in a search that starts from a file. -/
structure IsSearchable (p : Program) (current : NodeId) : Prop where
  isAcyclic : p.IsAcyclic
  isFile_current : ∃ path, p.IsFileAt current path
  isFile_module : ∀ e ∈ p.modules, ∃ file path, e.2 = some file ∧ p.IsFileAt file path

/-- The file is made of the node, at any depth; of an absent node none is. -/
def IsMadeOf (p : Program) (file : NodeId) (target : Option NodeId) : Prop :=
  ∃ id ∈ target, p.Reaches file id

/-- The path of the first of some files that is made of a node; null if none is. -/
inductive IsHome (p : Program) (target : Option NodeId) (files : List NodeId) : Json → Prop
  | first {before after : List NodeId} {file : NodeId} {path : Json}
      (hfiles : files = before ++ file :: after) (hbefore : ∀ f ∈ before, ¬ p.IsMadeOf f target)
      (hfile : p.IsMadeOf file target) (hpath : p.IsFileAt file path) : IsHome p target files path
  | nowhere (h : ∀ f ∈ files, ¬ p.IsMadeOf f target) : IsHome p target files .null

variable {p : Program}

namespace IsFileAt

variable {file : NodeId} {path : Json}

theorem isSource (h : p.IsFileAt file path) : p.IsSource (some file) := by
  obtain ⟨-, fullName, isPackage, symbols, hshape⟩ := h
  obtain ⟨n, hn, hfile⟩ := Option.map_eq_some_iff.1 hshape
  exact ⟨n, hn, by rw [Node.isSource, hfile]⟩

theorem pathOf_eq (h : p.IsFileAt file path) : p.pathOf (some file) = path := by
  obtain ⟨-, fullName, isPackage, symbols, hshape⟩ := h
  obtain ⟨n, hn, hfile⟩ := Option.map_eq_some_iff.1 hshape
  rw [pathOf, hn, Option.map_some, Option.getD_some, Node.path, hfile]

end IsFileAt

namespace IsHome

variable {target : Option NodeId} {files : List NodeId} {file : NodeId} {home : Json}

/-- A file that is not made of the node does not matter. -/
theorem cons (hfile : ¬ p.IsMadeOf file target) (h : p.IsHome target files home) :
    p.IsHome target (file :: files) home := by
  cases h with
  | @first before after found path hfiles hbefore hfound hpath =>
    have hsplit : file :: files = (file :: before) ++ found :: after := by
      rw [hfiles]
      rfl
    exact .first hsplit (List.forall_mem_cons.2 ⟨hfile, hbefore⟩) hfound hpath
  | nowhere hnone => exact .nowhere (List.forall_mem_cons.2 ⟨hfile, hnone⟩)

/-- It does not matter either that a file is named twice. -/
theorem cons_self (h : p.IsHome target (file :: files) home) :
    p.IsHome target (file :: file :: files) home := by
  by_cases hfile : p.IsMadeOf file target
  · cases h with
    | @first before after found path hfiles hbefore hfound hpath =>
      cases before with
      | nil =>
        obtain ⟨rfl, rfl⟩ := List.cons.inj hfiles
        exact .first (List.nil_append _).symm (List.forall_mem_nil _) hfound hpath
      | cons f before =>
        obtain ⟨rfl, -⟩ := List.cons.inj hfiles
        exact absurd hfile (hbefore file List.mem_cons_self)
    | nowhere hnone => exact absurd hfile (hnone file List.mem_cons_self)
  · exact h.cons hfile

end IsHome

/-! ### The search through the files -/

theorem exists_firstReaching_isHome (hp : p.IsAcyclic) (target : Option NodeId)
    {files : List NodeId} (h : ∀ file ∈ files, ∃ path, p.IsFileAt file path) :
    ∃ home, p.firstReaching target (files.map some) = .ok home ∧ p.IsHome target files home := by
  induction files with
  | nil => exact ⟨.null, rfl, .nowhere (List.forall_mem_nil _)⟩
  | cons file rest ih =>
    obtain ⟨path, hpath⟩ := h file List.mem_cons_self
    obtain ⟨found, hfound, hmade⟩ := exists_reaches_eq_ok hp hpath.isSource target
    rw [List.map_cons, firstReaching, hfound]
    cases found with
    | true =>
      refine ⟨path, ?_, .first (List.nil_append _).symm (List.forall_mem_nil _) (hmade.1 rfl) hpath⟩
      rw [← hpath.pathOf_eq]
      rfl
    | false =>
      obtain ⟨home, hhome, hfirst⟩ := ih fun f hf => h f (List.mem_cons_of_mem _ hf)
      have hnot : ¬ p.IsMadeOf file target := fun hfile => Bool.false_ne_true (hmade.2 hfile)
      exact ⟨home, hhome, hfirst.cons hnot⟩

/-- Where all modules have files, a search goes through files only. -/
theorem searchOrder_map (h : ∀ e ∈ p.modules, ∃ file, e.2 = some file) (first : List NodeId) :
    p.searchOrder (first.map some) =
      (first ++ (p.modules.filterMap Prod.snd).filter fun f => f ∉ first).map some := by
  have hmodules : p.modules.map Prod.snd = (p.modules.filterMap Prod.snd).map some := by
    rw [List.map_filterMap, eq_comm, List.filterMap_eq_map_iff_forall_eq_some]
    intro e he
    obtain ⟨file, hfile⟩ := h e he
    rw [hfile]
    rfl
  have hother : (fun file => !(first.map some).contains file) ∘ some =
      fun f => decide (f ∉ first) := by
    funext f
    simp
  rw [searchOrder, hmodules, List.map_append, List.filter_map, hother]

theorem IsSearchable.exists_isHome {current : NodeId} (hp : p.IsSearchable current)
    (target : Option NodeId) (first : List NodeId)
    (hfirst : ∀ file ∈ first, ∃ path, p.IsFileAt file path) :
    ∃ home, p.firstReaching target (p.searchOrder (first.map some)) = .ok home ∧
      p.IsHome target (first ++ (p.modules.filterMap Prod.snd).filter fun f => f ∉ first) home := by
  have hsome : ∀ e ∈ p.modules, ∃ file, e.2 = some file := by
    intro e he
    obtain ⟨file, path, hfile, -⟩ := hp.isFile_module e he
    exact ⟨file, hfile⟩
  rw [searchOrder_map hsome]
  refine exists_firstReaching_isHome hp.isAcyclic target fun f hf => ?_
  rcases List.mem_append.1 hf with hf | hf
  · exact hfirst f hf
  · obtain ⟨e, he, hef⟩ := List.mem_filterMap.1 (List.mem_filter.1 hf).1
    obtain ⟨file, path, hfile, hpath⟩ := hp.isFile_module e he
    obtain rfl : file = f := Option.some.inj (hfile.symm.trans hef)
    exact ⟨path, hpath⟩

/-! ### The home of a node -/

theorem IsSearchable.isFile_of_lookup {current : NodeId} (hp : p.IsSearchable current)
    {name : String} {found : Option NodeId} {file : NodeId}
    (h : p.lookup name = some (found, file)) : ∃ path, p.IsFileAt file path := by
  obtain ⟨e, he, hfile⟩ := exists_mem_modules_of_lookup h
  obtain ⟨file', path, hfile', hpath⟩ := hp.isFile_module e he
  obtain rfl : file' = file := Option.some.inj (hfile'.symm.trans hfile)
  exact ⟨path, hpath⟩

theorem shape?_of_getElem? {id : NodeId} {n : Node} (hn : p.nodes[id]? = some n) :
    p.shape? (some id) = some n.shape := by
  rw [shape?, node?, Option.bind_some, hn]
  rfl

theorem homeFile_of_not_var {id : NodeId} {n : Node} {current : Option NodeId}
    (hn : p.nodes[id]? = some n) (hfile : n.isFile = false)
    (hvar : ∀ name fullName type, n.shape ≠ .var name fullName type) :
    p.homeFile (some id) current = p.firstReaching (n.defining id) (p.searchOrder [current]) := by
  have hshape := shape?_of_getElem? hn
  cases h : n.shape with
  | file path fullName isPackage symbols => simp [Node.isFile, h] at hfile
  | var name fullName type => exact absurd h (hvar name fullName type)
  | _ => simp only [homeFile, hshape, h, Node.defining]

/-- What is searched for is found in the first file that is made of it: the current file comes
first, then the module in which a symbol with the name of a variable was found, then the others in
their order. -/
theorem homeFile_is_first_made_of {current id : NodeId} {n : Node} (hp : p.IsSearchable current)
    (hn : p.nodes[id]? = some n) (hfile : n.isFile = false) :
    ((∀ name fullName type, n.shape ≠ .var name fullName type) →
      ∃ home, p.homeFile (some id) (some current) = .ok home ∧
        p.IsHome (n.defining id)
          (current :: (p.modules.filterMap Prod.snd).filter fun f => f ≠ current) home) ∧
    ∀ name fullName type, n.shape = .var name (.str fullName) type →
      (p.lookup fullName = none → p.homeFile (some id) (some current) = .ok .null) ∧
      (∀ file, p.lookup fullName = some (some id, file) →
        ∃ path, p.homeFile (some id) (some current) = .ok path ∧ p.IsFileAt file path) ∧
      ∀ found file, p.lookup fullName = some (found, file) → found ≠ some id →
        ∃ home, p.homeFile (some id) (some current) = .ok home ∧
          p.IsHome (some id) (current :: file ::
            (p.modules.filterMap Prod.snd).filter fun f => f ≠ current ∧ f ≠ file) home := by
  have hcurrent : ∀ f ∈ [current], ∃ path, p.IsFileAt f path := by
    simpa using hp.isFile_current
  have hshape := shape?_of_getElem? hn
  refine ⟨?_, ?_⟩
  · intro hvar
    rw [homeFile_of_not_var hn hfile hvar]
    simpa using hp.exists_isHome (n.defining id) [current] hcurrent
  · intro name fullName type hn
    rw [hn] at hshape
    rw [homeFile_var hshape]
    refine ⟨?_, ?_, ?_⟩
    · intro hlookup
      rw [hlookup]
      rfl
    · intro file hlookup
      obtain ⟨path, hpath⟩ := hp.isFile_of_lookup hlookup
      rw [hlookup, Option.map_some, Option.getD_some, if_pos rfl, hpath.pathOf_eq]
      exact ⟨path, rfl, hpath⟩
    · intro found file hlookup hfound
      rw [hlookup, Option.map_some, Option.getD_some, if_neg hfound]
      by_cases hsame : file = current
      · -- The module of the symbol is then searched once, though the order names it twice.
        subst hsame
        rw [if_pos rfl]
        obtain ⟨home, hhome, hfirst⟩ := hp.exists_isHome (some id) [file] hcurrent
        refine ⟨home, hhome, .cons_self ?_⟩
        simpa using hfirst
      · rw [if_neg fun h => hsame (Option.some.inj h)]
        have hboth : ∀ f ∈ [current, file], ∃ path, p.IsFileAt f path := by
          simpa using ⟨hp.isFile_current, hp.isFile_of_lookup hlookup⟩
        simpa using hp.exists_isHome (some id) [current, file] hboth

/-- Three files.  The variable of the last module has the full name of another variable, which the
middle file holds; the class has its definition in the current file. -/
def scattered : Program where
  nodes := #[
    { shape := .file (.str "/w/a.py") (.str "a") (.bool false) [], children := [some 3] },
    { shape := .file (.str "/w/b.py") (.str "b") (.bool false) [("x", some 4)],
      children := [some 4] },
    { shape := .file (.str "/w/c.py") (.str "c") (.bool false) [], children := [some 5] },
    { shape := .other },
    { shape := .var (.str "x") (.str "b.x") none },
    { shape := .assignment none, children := [some 6] },
    { shape := .var (.str "x") (.str "b.x") none },
    { shape := .classInfo (.str "a.C") [] (some 3) }]
  modules := [("c", some 2), ("a", some 0), ("b", some 1)]

theorem isSearchable_scattered : scattered.IsSearchable 0 where
  isAcyclic := (isRegular_of_isOrdered (by decide +kernel)).isAcyclic (by simp [IsWhole, scattered])
  isFile_current := ⟨.str "/w/a.py", by simp, _, _, _, rfl⟩
  isFile_module := by
    intro e he
    simp only [scattered, List.mem_cons, List.not_mem_nil, or_false] at he
    rcases he with rfl | rfl | rfl
    · exact ⟨2, .str "/w/c.py", rfl, by simp, _, _, _, rfl⟩
    · exact ⟨0, .str "/w/a.py", rfl, by simp, _, _, _, rfl⟩
    · exact ⟨1, .str "/w/b.py", rfl, by simp, _, _, _, rfl⟩

/-- The name leads to the other variable, so its module comes before the one that holds the variable
searched for. -/
theorem homeFile_is_first_made_of_renamed :
    scattered.IsSearchable 0 ∧ scattered.lookup "b.x" = some (some 4, 1) ∧
      scattered.homeFile (some 6) (some 0) = .ok (.str "/w/c.py") ∧
      scattered.IsHome (some 6) [0, 1, 2] (.str "/w/c.py") := by
  have hlookup : scattered.lookup "b.x" = some (some 4, 1) := by decide +kernel
  have hhome : scattered.homeFile (some 6) (some 0) = .ok (.str "/w/c.py") := by rfl
  have hn : scattered.nodes[6]? = some { shape := .var (.str "x") (.str "b.x") none } := rfl
  obtain ⟨-, -, hother⟩ :=
    (homeFile_is_first_made_of isSearchable_scattered hn rfl).2 _ _ _ rfl
  obtain ⟨home, hfound, hfirst⟩ := hother (some 4) 1 hlookup (by simp)
  obtain rfl : home = .str "/w/c.py" := Except.ok.inj (hfound.symm.trans hhome)
  exact ⟨isSearchable_scattered, hlookup, hhome, hfirst⟩

end Program

end LangServer
