import LangServer.Program.Lookup

/-!
# Symbols by their full names

A full name is cut at its dots.  Of its proper beginnings, the longest that is the name of a module
decides: the symbol is searched in the table of that module and then from class to class, and where
the components behind the module lead nowhere, no shorter module name is tried.

`IsLongestModule` and `Leads` say this without the order in which a name is taken apart and put
together again.

Main statement: `lookupValue_longest_module`.
-/

namespace LangServer.Program

/-- The first `k` components name a module, and no longer proper beginning does. -/
structure IsLongestModule (p : Program) (parts : List (List Char)) (k : Nat) (file : NodeId) :
    Prop where
  pos : 0 < k
  lt : k < parts.length
  isModule : p.module? (String.ofList (['.'].intercalate (parts.take k))) = some file
  longest : ∀ j, k < j → j < parts.length →
    p.module? (String.ofList (['.'].intercalate (parts.take j))) = none

/-- Names lead from a table to a symbol: each but the last to a class, in whose table the next one
is looked up. -/
inductive Leads (p : Program) : SymbolTable → List (List Char) → Option NodeId → Prop
  | last {symbols : SymbolTable} {key : List Char} {node : Option NodeId}
      (h : symbols.lookup (String.ofList key) = some node) : Leads p symbols [key] node
  | within {symbols inner : SymbolTable} {key next : List Char} {rest : List (List Char)}
      {info : NodeId} {fullName : Json} {definition node : Option NodeId}
      (h : symbols.lookup (String.ofList key) = some (some info))
      (hclass : p.shape? (some info) = some (.classInfo fullName inner definition))
      (hrest : Leads p inner (next :: rest) node) : Leads p symbols (key :: next :: rest) node

/-! ### Components -/

theorem components_cons (c : Char) (name : List Char) : components (c :: name) =
    if c = '.' then [] :: components name else (components name).modifyHead (c :: ·) := by
  cases hparts : components name with
  | nil =>
    -- There is always a component, be it empty.
    cases name with
    | nil => cases hparts
    | cons d name =>
      rw [components, List.foldr_cons] at hparts
      split at hparts
      · cases hparts
      · split at hparts <;> cases hparts
  | cons part rest =>
    rw [components, List.foldr_cons]
    rw [components] at hparts
    rw [hparts]
    rfl

theorem components_eq_splitOn (name : List Char) : components name = name.splitOn '.' := by
  induction name with
  | nil => rfl
  | cons c name ih =>
    rw [components_cons, ih, List.splitOn_cons_eq_if_modifyHead]
    simp only [beq_iff_eq]

/-! ### The module -/

section Module

variable {p : Program} {parts behind : List (List Char)} {file : NodeId}

theorem reverse_take_succ {n : Nat} (hn : n < parts.length) :
    (parts.take (n + 1)).reverse = parts[n] :: (parts.take n).reverse := by
  rw [List.take_succ_eq_append_getElem hn, List.reverse_append]
  rfl

/-- One step of the search: the last component moves behind the name of the module. -/
theorem splitModule_take {n : Nat} (hpos : 0 < n) (hn : n < parts.length) :
    p.splitModule (parts.take (n + 1)).reverse (parts.drop (n + 1)) =
      ((p.module? (qualified (parts.take n))).map fun f => (f, parts.drop n)).or
        (p.splitModule (parts.take n).reverse (parts.drop n)) := by
  obtain ⟨first, front, hfront⟩ : ∃ first front, (parts.take n).reverse = first :: front := by
    refine List.exists_cons_of_ne_nil ?_
    rw [Ne, List.reverse_eq_nil_iff, List.take_eq_nil_iff, not_or]
    exact ⟨by omega, List.ne_nil_of_length_pos (by omega)⟩
  have hname : (first :: front).reverse = parts.take n := by
    rw [← hfront, List.reverse_reverse]
  rw [reverse_take_succ hn, hfront, splitModule, hname, ← List.drop_eq_getElem_cons hn]
  cases p.module? (qualified (parts.take n)) with
  | none => rfl
  | some f => rfl

/-- The search among the beginnings shorter than `n` finds the longest that names a module. -/
theorem splitModule_eq_some_iff {n : Nat} (hn : n ≤ parts.length) :
    p.splitModule (parts.take n).reverse (parts.drop n) = some (file, behind) ↔
      ∃ k, 0 < k ∧ k < n ∧ p.module? (qualified (parts.take k)) = some file ∧
        (∀ j, k < j → j < n → p.module? (qualified (parts.take j)) = none) ∧
        behind = parts.drop k := by
  induction n with
  | zero =>
    constructor
    · intro h
      cases h
    · rintro ⟨k, -, hlt, -⟩
      omega
  | succ n ih =>
    rcases Nat.eq_zero_or_pos n with rfl | hpos
    · -- One component alone has no proper beginning.
      constructor
      · intro h
        rw [reverse_take_succ hn] at h
        cases h
      · rintro ⟨k, hk, hlt, -⟩
        omega
    · rw [splitModule_take hpos hn]
      cases hmodule : p.module? (qualified (parts.take n)) with
      | some f =>
        constructor
        · intro h
          obtain ⟨rfl, rfl⟩ := Prod.mk.inj (Option.some.inj h)
          exact ⟨n, hpos, Nat.lt_succ_self n, hmodule, fun j hj hlt => by omega, rfl⟩
        · rintro ⟨k, hk, hlt, hfile, hlongest, rfl⟩
          rcases Nat.lt_succ_iff_lt_or_eq.1 hlt with hlt | rfl
          · have hnone := hlongest n hlt (Nat.lt_succ_self n)
            rw [hmodule] at hnone
            cases hnone
          · rw [hmodule] at hfile
            rw [Option.some.inj hfile]
            rfl
      | none =>
        rw [Option.map_none, Option.none_or, ih (Nat.le_of_succ_le hn)]
        constructor
        · rintro ⟨k, hk, hlt, hfile, hlongest, hbehind⟩
          refine ⟨k, hk, Nat.lt_succ_of_lt hlt, hfile, ?_, hbehind⟩
          intro j hj hjn
          rcases Nat.lt_succ_iff_lt_or_eq.1 hjn with hjn | rfl
          · exact hlongest j hj hjn
          · exact hmodule
        · rintro ⟨k, hk, hlt, hfile, hlongest, hbehind⟩
          have hkn : k ≠ n := by
            rintro rfl
            rw [hmodule] at hfile
            cases hfile
          exact ⟨k, hk, by omega, hfile, fun j hj hjn => hlongest j hj (by omega), hbehind⟩

theorem splitModule_reverse_eq_some_iff :
    p.splitModule parts.reverse [] = some (file, behind) ↔
      ∃ k, p.IsLongestModule parts k file ∧ behind = parts.drop k := by
  have hwhole : p.splitModule parts.reverse [] =
      p.splitModule (parts.take parts.length).reverse (parts.drop parts.length) := by
    rw [List.take_length, List.drop_length]
  rw [hwhole, splitModule_eq_some_iff (Nat.le_refl _)]
  constructor
  · rintro ⟨k, hpos, hlt, hfile, hlongest, hbehind⟩
    exact ⟨k, ⟨hpos, hlt, hfile, hlongest⟩, hbehind⟩
  · rintro ⟨k, ⟨hpos, hlt, hfile, hlongest⟩, hbehind⟩
    exact ⟨k, hpos, hlt, hfile, hlongest, hbehind⟩

end Module

/-! ### The components behind the module -/

theorem follow_eq_ok_iff {p : Program} {symbols : SymbolTable} {keys : List (List Char)}
    {node : Option NodeId} : p.follow symbols keys = .ok node ↔ p.Leads symbols keys node := by
  constructor
  · intro h
    fun_induction follow p symbols keys with
    | case1 => cases h
    | case2 symbols key found hfound =>
      obtain rfl := Except.ok.inj h
      exact .last hfound
    | case3 => cases h
    | case4 => cases h
    | case5 => cases h
    | case6 symbols key next rest ref hnone hlookup fullName inner definition hclass ih =>
      cases ref with
      | none => exact absurd rfl hnone
      | some info => exact .within hlookup hclass (ih h)
    | case7 => cases h
  · intro h
    induction h with
    | last h => simp only [follow, h]
    | within h hclass hrest ih => simp only [follow, h, hclass, ih]

/-! ### Full names -/

theorem not_leads_nil {p : Program} {keys : List (List Char)} {node : Option NodeId} :
    ¬ p.Leads [] keys node := by
  rintro (h | ⟨h, -, -⟩) <;> cases h

theorem resolve_eq_ok_iff {p : Program} {name : String} {node : Option NodeId} {file : NodeId} :
    p.resolve name = .ok (node, file) ↔
      ∃ k m, p.IsLongestModule (name.toList.splitOn '.') k file ∧ p.nodes[file]? = some m ∧
        p.Leads m.symbols ((name.toList.splitOn '.').drop k) node := by
  rw [← components_eq_splitOn]
  constructor
  · intro h
    cases hsplit : p.splitModule (components name.toList).reverse [] with
    | none => simp [resolve, hsplit] at h
    | some e =>
      obtain ⟨found, rest⟩ := e
      obtain ⟨k, hlongest, rfl⟩ := splitModule_reverse_eq_some_iff.1 hsplit
      simp only [resolve, hsplit] at h
      cases hfollow : p.follow (((p.node? (some found)).map Node.symbols).getD [])
          ((components name.toList).drop k) with
      | error reason =>
        rw [hfollow] at h
        cases h
      | ok node' =>
        rw [hfollow] at h
        obtain ⟨rfl, rfl⟩ := Prod.mk.inj (Except.ok.inj h)
        have hleads := follow_eq_ok_iff.1 hfollow
        cases hm : p.nodes[found]? with
        | none =>
          simp only [node?, Option.bind_some, hm] at hleads
          exact absurd hleads not_leads_nil
        | some m =>
          simp only [node?, Option.bind_some, hm] at hleads
          exact ⟨k, m, hlongest, rfl, hleads⟩
  · rintro ⟨k, m, hlongest, hm, hleads⟩
    have hsplit := splitModule_reverse_eq_some_iff.2 ⟨k, hlongest, rfl⟩
    have hfollow := follow_eq_ok_iff.2 hleads
    simp only [resolve, hsplit, node?, Option.bind_some, hm, Option.map_some, Option.getD_some,
      hfollow]
    rfl

theorem lookup_eq_some_iff {p : Program} {name : String} {found : Option NodeId × NodeId} :
    p.lookup name = some found ↔ p.resolve name = .ok found := by
  cases h : p.resolve name <;> simp [lookup, h, Except.toOption]

/-- Where a strict search does not agree with a plain one, it stops, and the plain one has found
nothing. -/
theorem lookupStrict_cases (p : Program) (name : String) :
    p.lookupStrict name = .ok (p.lookup name) ∨
      p.lookup name = none ∧ ∃ text, p.lookupStrict name = .error (.assertion text) := by
  cases h : p.resolve name with
  | ok found => exact .inl (by simp only [lookupStrict, lookup, h]; rfl)
  | error reason =>
    have hnone : p.lookup name = none := by
      rw [lookup, h]
      rfl
    cases reason with
    | notClass => exact .inl (by simp only [lookupStrict, hnone, h]; rfl)
    | _ => exact .inr ⟨hnone, _, by simp only [lookupStrict, h, Unresolved.fault?]; rfl⟩

/-- A search by a full name comes to a symbol exactly if the longest of its proper beginnings that
names a module leads to it by the components behind; in all other cases it comes to nothing.  A
strict search has the same result, or it stops, and does so only where there is no symbol. -/
theorem lookupValue_longest_module (p : Program) (name : String) :
    (∃ found, p.lookupValue (.str name) = .ok found) ∧
    (∀ node file, p.lookupValue (.str name) = .ok (some (node, file)) ↔
      ∃ k m, p.IsLongestModule (name.toList.splitOn '.') k file ∧ p.nodes[file]? = some m ∧
        p.Leads m.symbols ((name.toList.splitOn '.').drop k) node) ∧
    (p.lookupValueStrict (.str name) = p.lookupValue (.str name) ∨
      p.lookupValue (.str name) = .ok none ∧
        ∃ text, p.lookupValueStrict (.str name) = .error (.assertion text)) := by
  have hplain : p.lookupValue (.str name) = .ok (p.lookup name) := rfl
  have hstrict : p.lookupValueStrict (.str name) = p.lookupStrict name := rfl
  rw [hplain, hstrict]
  refine ⟨⟨_, rfl⟩, ?_, ?_⟩
  · intro node file
    rw [Except.ok.injEq, lookup_eq_some_iff, resolve_eq_ok_iff]
  · rcases lookupStrict_cases p name with hsame | ⟨hnone, text, hstop⟩
    · exact .inl hsame
    · exact .inr ⟨congrArg _ hnone, text, hstop⟩

/-- A module whose class has the name of its own submodule. -/
def shadowed : Program where
  nodes := #[
    { shape := .file (.str "/w/a/__init__.py") (.str "a") (.bool true) [("b", some 2)] },
    { shape := .file (.str "/w/a/b.py") (.str "a.b") (.bool false) [("y", none)] },
    { shape := .classInfo (.str "a.b") [("x", some 0)] none }]
  modules := [("a", some 0), ("a.b", some 1)]

-- The class leads to `x`, but the longer module name decides.
example : shadowed.lookup "a.b.x" = none ∧ shadowed.lookup "a.b.y" = some (none, 1) := by
  decide +kernel

end LangServer.Program
