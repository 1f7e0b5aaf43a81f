import LangServer.Proofs.Import.Layout
import LangServer.Proofs.Step

/-!
# Searching the tokens of an import statement

What each part of the search does on the tokens that a statement is laid out in.  `DottedName.at?`
is the dotted name up to the component to which a position belongs, and `moduleAt` gives it.  A
search through a list of clauses passes over the commas and stops at the first clause whose name
holds the position.  A search through the origin of imported names passes over the dots in front of
the module, and asks the checker which module a dotted name means there (`Corrects`).

Main statements: `selectModule_clauses`, `selectName_clauses`, `selectAll_origin`,
`selectFrom_origin_of_some`, `selectFrom_origin_of_none`.
-/

namespace LangServer.Import

variable {line column : Int}

/-! ### Tokens -/

/-- What passes over each of some trees passes over all of them. -/
theorem passes_append {γ : Type} {f : List Json → γ} {items : List Json}
    (h : ∀ item ∈ items, ∀ rest, f (item :: rest) = f rest) (rest : List Json) :
    f (items ++ rest) = f rest := by
  induction items with
  | nil => rfl
  | cons item items ih =>
    rw [List.cons_append, h item List.mem_cons_self]
    exact ih fun other hother => h other (List.mem_cons_of_mem _ hother)

theorem Clause.passes_comma {α γ : Type} {f : List Json → γ}
    (h : ∀ spot rest, f (token "COMMA" "," spot :: rest) = f rest) (c : Clause α)
    (rest : List Json) : f (c.comma.toList.map (token "COMMA" ",") ++ rest) = f rest := by
  refine passes_append (fun item hitem others => ?_) rest
  obtain ⟨spot, -, rfl⟩ := List.mem_map.1 hitem
  exact h spot others

theorem isKind_arr (kind k : String) (rest : List Json) :
    isKind kind (.arr (.str k :: rest)) = .ok (k == kind) := by
  have hsame : (Json.str k).same (.str kind) = (k == kind) := by
    simp [Json.same, Json.sameAtom, Json.number?, Json.toInt?]
  rw [← hsame]
  rfl

theorem expectKind_arr (kind : String) (rest : List Json) :
    expectKind kind (.arr (.str kind :: rest)) = .ok () := by
  rw [expectKind, isKind_arr, beq_self_eq_true]
  rfl

theorem tokenContains_word (w : Word) :
    tokenContains (.int w.line) (.int w.column) (.int w.text.length) (.int line) (.int column) =
      .ok (decide (w.extent.Holds line column)) := by
  have hsame : (Json.int w.line).same (.int line) = (w.line == line) := Json.eqInt_int _ _
  rw [tokenContains, hsame, Json.atMost_int, Json.add_int]
  by_cases hline : w.line = line
  · by_cases hstart : w.column ≤ column
    · simp [hline, hstart, Extent.Holds, Word.extent, bind, Except.bind, Json.atMost_int]
    · simp [hline, hstart, Extent.Holds, Word.extent, bind, Except.bind, pure, Except.pure]
  · simp [hline, Extent.Holds, Word.extent, pure, Except.pure]

/-! ### Dotted names -/

/-- The dotted name up to the component to which the position belongs. -/
def DottedName.at? (d : DottedName) (line column : Int) : Option String :=
  (d.words.findIdx? fun w => w.extent.Holds line column).map d.upTo

theorem joinNames_map (texts : List String) :
    joinNames (texts.map Json.str) = .ok (".".intercalate texts) := by
  have hlists : (texts.map Json.str).mapM (fun v => v.expectText.map String.toList) =
      .ok (texts.map String.toList) := by
    induction texts with
    | nil => rfl
    | cons text rest ih =>
      rw [List.map_cons, List.mapM_cons, ih]
      rfl
  have hjoined : String.ofList (['.'].intercalate (texts.map String.toList)) =
      ".".intercalate texts := by
    rw [← String.toList_inj, String.toList_ofList, String.toList_intercalate]
    rfl
  rw [joinNames, hlists, ← hjoined]
  rfl

theorem dottedFrom_dot (passed : List Json) (w : Word) (rest : List Json) :
    dottedFrom (.int line) (.int column) passed (w.dot :: rest) =
      dottedFrom (.int line) (.int column) passed rest := by
  rfl

theorem dottedFrom_word (passed : List String) (w : Word) (rest : List Json) :
    dottedFrom (.int line) (.int column) (passed.map Json.str) (w.tree :: rest) =
      if w.extent.Holds line column then .ok (some (".".intercalate (passed ++ [w.text])))
      else dottedFrom (.int line) (.int column) ((passed ++ [w.text]).map Json.str) rest := by
  have hstep : dottedFrom (.int line) (.int column) (passed.map Json.str) (w.tree :: rest) = (do
      if ← tokenContains (.int w.line) (.int w.column) (.int w.text.length) (.int line)
          (.int column) then
        return some (← joinNames (passed.map Json.str ++ [.str w.text]))
      else dottedFrom (.int line) (.int column) (passed.map Json.str ++ [.str w.text]) rest) := rfl
  have hpassed : passed.map Json.str ++ [.str w.text] = (passed ++ [w.text]).map Json.str := by
    rw [List.map_append]
    rfl
  rw [hstep, tokenContains_word, hpassed, joinNames_map]
  by_cases hholds : w.extent.Holds line column
  · rw [if_pos hholds, decide_eq_true hholds]
    rfl
  · rw [if_neg hholds, decide_eq_false hholds]
    rfl

theorem dottedFrom_tokens (passed : List String) (words : List Word) :
    dottedFrom (.int line) (.int column) (passed.map Json.str) (dottedTokens words) =
      .ok ((words.findIdx? fun w => w.extent.Holds line column).map fun j =>
        ".".intercalate (passed ++ (words.take (j + 1)).map Word.text)) := by
  induction words generalizing passed with
  | nil => rfl
  | cons w rest ih =>
    have htokens : ∃ front, dottedTokens (w :: rest) = w.tree :: (front ++ dottedTokens rest) ∧
        ∀ passed others, dottedFrom (.int line) (.int column) passed (front ++ others) =
          dottedFrom (.int line) (.int column) passed others := by
      cases rest with
      | nil => exact ⟨[], rfl, fun _ _ => rfl⟩
      | cons next rest => exact ⟨[w.dot], rfl, fun passed others => dottedFrom_dot passed w others⟩
    obtain ⟨front, htokens, hskip⟩ := htokens
    rw [htokens, dottedFrom_word, hskip, ih, List.findIdx?_cons]
    by_cases hholds : w.extent.Holds line column
    · simp [hholds]
    · simp [hholds, Option.map_map, Function.comp_def]

theorem intercalate_ne_empty {text : String} (h : text ≠ "") (texts : List String) :
    ".".intercalate (text :: texts) ≠ "" := by
  intro hempty
  have hlist := congrArg String.toList hempty
  rw [String.toList_intercalate, List.map_cons] at hlist
  cases texts with
  | nil => simp [List.intercalate, h] at hlist
  | cons next rest => simp [List.intercalate] at hlist

theorem DottedName.upTo_ne_empty (d : DottedName) (j : Nat) : d.upTo j ≠ "" := by
  obtain ⟨w, rest, hwords⟩ := List.exists_cons_of_ne_nil d.ne_nil
  rw [upTo, hwords, List.take_succ_cons, List.map_cons]
  exact intercalate_ne_empty w.ne_empty _

theorem moduleAt_tree (d : DottedName) :
    moduleAt d.tree (.int line) (.int column) = .ok (d.at? line column) := by
  have hname : dottedNameAt d.tree (.int line) (.int column) = .ok (d.at? line column) := by
    rw [dottedNameAt, DottedName.tree, expectKind_arr]
    exact dottedFrom_tokens [] d.words
  rw [moduleAt, hname]
  cases hat : d.at? line column with
  | none => rfl
  | some name =>
    obtain ⟨j, -, rfl⟩ := Option.map_eq_some_iff.1 hat
    show Except.ok ((some (d.upTo j)).filter fun name => name != "") = _
    simp [d.upTo_ne_empty j]

theorem DottedName.at?_eq_some_iff {d : DottedName} {name : String} :
    d.at? line column = some name ↔ ∃ j, d.HoldsAt line column j ∧ name = d.upTo j := by
  rw [at?, Option.map_eq_some_iff]
  constructor
  · rintro ⟨j, hj, rfl⟩
    obtain ⟨hlt, hholds, -⟩ := List.findIdx?_eq_some_iff_getElem.1 hj
    exact ⟨j, ⟨d.words[j], List.getElem?_eq_getElem hlt, of_decide_eq_true hholds⟩, rfl⟩
  · rintro ⟨j, hj, rfl⟩
    obtain ⟨w, hw, hholds⟩ := id hj
    obtain ⟨hlt, rfl⟩ := List.getElem?_eq_some_iff.1 hw
    refine ⟨j, List.findIdx?_eq_some_iff_getElem.2 ⟨hlt, decide_eq_true hholds, ?_⟩, rfl⟩
    -- An earlier component is another one, and the position belongs to one only.
    intro i hi hearlier
    have hsame : i = j := holdsAt_unique
      ⟨d.words[i], List.getElem?_eq_getElem (by omega), of_decide_eq_true hearlier⟩ hj
    omega

theorem DottedName.at?_eq_none_iff {d : DottedName} :
    d.at? line column = none ↔ ¬ d.extent.Holds line column := by
  rw [holds_iff_existsUnique]
  constructor
  · rintro hnone ⟨j, hj, -⟩
    have hsome := at?_eq_some_iff.2 ⟨j, hj, rfl⟩
    rw [hnone] at hsome
    cases hsome
  · intro hnot
    refine Option.eq_none_iff_forall_ne_some.2 fun name hname => ?_
    obtain ⟨j, hj, -⟩ := at?_eq_some_iff.1 hname
    exact hnot ⟨j, hj, fun i hi => holdsAt_unique hi hj⟩

/-! ### Lists of modules -/

theorem selectModule_comma (spot : Spot) (rest : List Json) :
    selectModule (.int line) (.int column) (token "COMMA" "," spot :: rest) =
      selectModule (.int line) (.int column) rest := by
  rfl

theorem selectModule_clause (d : DottedName) (others rest : List Json) :
    selectModule (.int line) (.int column)
        (.arr (.str "dotted_as_name" :: d.tree :: others) :: rest) =
      (d.at? line column).elim (selectModule (.int line) (.int column) rest) (.ok ∘ some) := by
  have hitem : (Json.arr (.str "dotted_as_name" :: d.tree :: others)).item 1 = .ok d.tree := rfl
  rw [selectModule, isKind_arr, beq_self_eq_true, hitem]
  simp only [bind, Except.bind, if_true, moduleAt_tree]
  cases d.at? line column with
  | none => rfl
  | some name => rfl

theorem selectModule_clauses (clauses : List (Clause DottedName)) :
    selectModule (.int line) (.int column)
        (clauses.flatMap (Clause.trees "dotted_as_name" DottedName.tree)) =
      .ok (clauses.findSome? fun c => c.name.at? line column) := by
  induction clauses with
  | nil => rfl
  | cons c rest ih =>
    have hcomma := c.passes_comma (f := selectModule (.int line) (.int column)) selectModule_comma
    rw [List.flatMap_cons, Clause.trees, List.cons_append, selectModule_clause, hcomma, ih,
      List.findSome?_cons]
    cases c.name.at? line column with
    | none => rfl
    | some name => rfl

/-! ### Modules that are corrected -/

/-- Asked for a name, the checker gives the module and says that there is one; of a name that it
does not know it says that it is the module. -/
def Corrects (p : Program) (name : String) (module : Json) : Prop :=
  p.relatives.lookup name = none ∧ module = .str name ∨
    ∃ found, p.relatives.lookup name = some (.arr [module, found]) ∧ found.truthy = true

section Corrected

variable {p : Program} {file : Option NodeId} {path fullName isPackage level module : Json}
variable {symbols : SymbolTable}

theorem lift_ok_bind {α β : Type} (a : α) (f : α → Traced β) : (Traced.lift (.ok a) >>= f) = f a :=
  rfl

theorem target_eq (hfile : p.shape? file = some (.file path fullName isPackage symbols))
    {name : String} {found : Json} (h : Corrects p name found) (t : List Event) :
    ∃ t', target p file level (.str name) t = (.ok (some found), t') := by
  rcases h with ⟨hnone, rfl⟩ | ⟨ok, hpair, hok⟩
  · simp only [target, hfile, Json.lookupIn_str, hnone]
    exact ⟨_, rfl⟩
  · have hunpack : (Json.arr [found, ok]).unpack 2 = .ok [found, ok] := rfl
    simp only [target, hfile, Json.lookupIn_str, hpair, lift_ok_bind, hunpack, hok, if_true]
    exact ⟨_, rfl⟩

theorem selectAll_token (text : String) (spot : Spot) (rest : List Json) {kind : String}
    (hname : kind ≠ "NAME") (hdotted : kind ≠ "dotted_name") :
    selectAll p file level (.int line) (.int column) (token kind text spot :: rest) =
      selectAll p file level (.int line) (.int column) rest := by
  rw [selectAll, token, isKind_arr, isKind_arr, lift_ok_bind, lift_ok_bind]
  simp [hname, hdotted]

theorem isKind_tree (kind : String) (d : DottedName) :
    isKind kind d.tree = .ok ("dotted_name" == kind) :=
  isKind_arr kind "dotted_name" _

theorem selectAll_of_at?_eq_none {d : DottedName} (h : d.at? line column = none)
    (rest : List Json) :
    selectAll p file level (.int line) (.int column) (d.tree :: rest) =
      selectAll p file level (.int line) (.int column) rest := by
  rw [selectAll, moduleAt_tree, isKind_tree, isKind_tree, h]
  rfl

theorem selectAll_of_at?_eq_some
    (hfile : p.shape? file = some (.file path fullName isPackage symbols)) {d : DottedName}
    {name : String} {found : Json} (h : d.at? line column = some name)
    (hfound : Corrects p name found) (rest : List Json) (t : List Event) :
    ∃ t', selectAll p file level (.int line) (.int column) (d.tree :: rest) t =
      (.ok (some { module := found }), t') := by
  obtain ⟨t', htarget⟩ := target_eq hfile hfound t
  refine ⟨t', ?_⟩
  rw [selectAll, moduleAt_tree, isKind_tree, isKind_tree, h, lift_ok_bind, lift_ok_bind,
    lift_ok_bind]
  simp only [beq_self_eq_true, if_true]
  have hname : ("dotted_name" == "NAME") = false := by decide
  rw [hname]
  exact Step.bind_of_ok htarget

theorem selectFrom_token (text : String) (spot : Spot) (rest : List Json) {kind : String}
    (hdotted : kind ≠ "dotted_name") (hnames : kind ≠ "import_as_names") :
    selectFrom p file level module (.int line) (.int column) (token kind text spot :: rest) =
      selectFrom p file level module (.int line) (.int column) rest := by
  rw [selectFrom, token, isKind_arr, isKind_arr, lift_ok_bind, lift_ok_bind]
  simp [hdotted, hnames]

theorem selectFrom_of_at?_eq_none {d : DottedName} (h : d.at? line column = none)
    (rest : List Json) :
    selectFrom p file level module (.int line) (.int column) (d.tree :: rest) =
      selectFrom p file level module (.int line) (.int column) rest := by
  rw [selectFrom, moduleAt_tree, isKind_tree, isKind_tree, h]
  rfl

theorem selectFrom_of_at?_eq_some
    (hfile : p.shape? file = some (.file path fullName isPackage symbols)) {d : DottedName}
    {name : String} {found : Json} (h : d.at? line column = some name)
    (hfound : Corrects p name found) (rest : List Json) (t : List Event) :
    ∃ t', selectFrom p file level module (.int line) (.int column) (d.tree :: rest) t =
      (.ok (some { module := found }), t') := by
  obtain ⟨t', htarget⟩ := target_eq hfile hfound t
  refine ⟨t', ?_⟩
  rw [selectFrom, moduleAt_tree, isKind_tree, isKind_tree, h, lift_ok_bind, lift_ok_bind]
  simp only [beq_self_eq_true, if_true]
  exact Step.bind_of_ok htarget

theorem selectAll_dots (dots : List Dots) (rest : List Json) :
    selectAll p file level (.int line) (.int column) (dots.map Dots.tree ++ rest) =
      selectAll p file level (.int line) (.int column) rest := by
  refine passes_append (fun item hitem others => ?_) rest
  obtain ⟨d, -, rfl⟩ := List.mem_map.1 hitem
  cases d with
  | one spot => exact selectAll_token _ _ _ (by decide) (by decide)
  | three spot => exact selectAll_token _ _ _ (by decide) (by decide)

theorem selectFrom_dots (dots : List Dots) (rest : List Json) :
    selectFrom p file level module (.int line) (.int column) (dots.map Dots.tree ++ rest) =
      selectFrom p file level module (.int line) (.int column) rest := by
  refine passes_append (fun item hitem others => ?_) rest
  obtain ⟨d, -, rfl⟩ := List.mem_map.1 hitem
  cases d with
  | one spot => exact selectFrom_token _ _ _ (by decide) (by decide)
  | three spot => exact selectFrom_token _ _ _ (by decide) (by decide)

/-! ### Lists of names -/

theorem importedNameAt_clause (w : Word) (others : List Json) :
    importedNameAt (.arr (.str "import_as_name" :: w.tree :: others)) (.int line) (.int column) =
      .ok (if w.extent.Holds line column then some (.str w.text) else none) := by
  have hstep : importedNameAt (.arr (.str "import_as_name" :: w.tree :: others)) (.int line)
      (.int column) = (do
        if ← tokenContains (.int w.line) (.int w.column) (.int w.text.length) (.int line)
          (.int column) then return some (.str w.text) else return none) := rfl
  rw [hstep, tokenContains_word]
  by_cases hholds : w.extent.Holds line column
  · rw [if_pos hholds, decide_eq_true hholds]
    rfl
  · rw [if_neg hholds, decide_eq_false hholds]
    rfl

theorem selectName_comma (spot : Spot) (rest : List Json) :
    selectName p file level module (.int line) (.int column) (token "COMMA" "," spot :: rest) =
      selectName p file level module (.int line) (.int column) rest := by
  rfl

theorem selectName_clauses
    (hfile : p.shape? file = some (.file path fullName isPackage symbols)) {id : String}
    {found : Json} (hfound : Corrects p id found) (clauses : List (Clause Word)) (t : List Event) :
    ∃ t', selectName p file level (.str id) (.int line) (.int column)
        (clauses.flatMap (Clause.trees "import_as_name" Word.tree)) t =
      (.ok ((clauses.find? fun c => c.name.extent.Holds line column).map fun c =>
        { module := found, name := .str c.name.text }), t') := by
  induction clauses with
  | nil => exact ⟨t, rfl⟩
  | cons c rest ih =>
    have hcomma := c.passes_comma (f := selectName p file level (.str id) (.int line) (.int column))
      selectName_comma
    rw [List.flatMap_cons, Clause.trees, List.cons_append, selectName, importedNameAt_clause,
      lift_ok_bind, hcomma]
    by_cases hholds : c.name.extent.Holds line column
    · rw [if_pos hholds, List.find?_cons_of_pos (by simpa using hholds)]
      obtain ⟨t', htarget⟩ := target_eq hfile hfound t
      exact ⟨t', Step.bind_of_ok htarget⟩
    · rw [if_neg hholds, List.find?_cons_of_neg (by simpa using hholds)]
      exact ih

theorem selectFrom_names (items rest : List Json) (t : List Event) {s : Option Selection}
    {t' : List Event}
    (h : selectName p file level module (.int line) (.int column) items t = (.ok s, t')) :
    selectFrom p file level module (.int line) (.int column)
        (.arr (.str "import_as_names" :: items) :: rest) t =
      s.elim (selectFrom p file level module (.int line) (.int column) rest t')
        (fun s => (.ok (some s), t')) := by
  have hitems : (Json.arr (.str "import_as_names" :: items)).itemsFrom 1 = .ok items := rfl
  rw [selectFrom, isKind_arr, isKind_arr, hitems, lift_ok_bind, lift_ok_bind]
  have hdotted : ("import_as_names" == "dotted_name") = false := by decide
  simp only [hdotted, beq_self_eq_true, if_true, Bool.false_eq_true, if_false]
  rw [lift_ok_bind, Step.bind_of_ok h]
  cases s with
  | none => rfl
  | some s => rfl

/-! ### Origins -/

def Origin.at? (o : Origin) (line column : Int) : Option String :=
  o.module.toList.findSome? fun d => d.at? line column

theorem selectAll_origin
    (hfile : p.shape? file = some (.file path fullName isPackage symbols)) {o : Origin}
    {correct : String → Json}
    (hcorrect : ∀ d, o.module = some d → ∀ j, Corrects p (d.upTo j) (correct (d.upTo j)))
    (rest : List Json) (t : List Event) :
    ∃ t', selectAll p file level (.int line) (.int column) (o.parts ++ rest) t =
      (.ok ((o.at? line column).map fun name => { module := correct name }), t') := by
  rw [Origin.parts, List.append_assoc, selectAll_dots, Origin.at?]
  cases hmodule : o.module with
  | none => exact ⟨t, rfl⟩
  | some d =>
    simp only [Option.toList_some, List.map_cons, List.map_nil, List.cons_append, List.nil_append,
      List.findSome?_cons, List.findSome?_nil]
    cases hat : d.at? line column with
    | none =>
      rw [selectAll_of_at?_eq_none hat]
      exact ⟨t, rfl⟩
    | some name =>
      obtain ⟨j, -, rfl⟩ := DottedName.at?_eq_some_iff.1 hat
      exact selectAll_of_at?_eq_some hfile hat (hcorrect d hmodule j) _ t

theorem selectFrom_origin_of_none {o : Origin} (h : o.at? line column = none) (rest : List Json) :
    selectFrom p file level module (.int line) (.int column) (o.parts ++ rest) =
      selectFrom p file level module (.int line) (.int column) rest := by
  rw [Origin.parts, List.append_assoc, selectFrom_dots]
  rw [Origin.at?] at h
  cases hmodule : o.module with
  | none => exact selectFrom_token _ _ _ (by decide) (by decide)
  | some d =>
    have hat : d.at? line column = none := List.findSome?_eq_none_iff.1 h d (by simp [hmodule])
    rw [Option.toList_some, List.map_singleton, List.append_assoc, List.singleton_append,
      selectFrom_of_at?_eq_none hat]
    exact selectFrom_token _ _ _ (by decide) (by decide)

theorem selectFrom_origin_of_some
    (hfile : p.shape? file = some (.file path fullName isPackage symbols)) {o : Origin}
    {correct : String → Json}
    (hcorrect : ∀ d, o.module = some d → ∀ j, Corrects p (d.upTo j) (correct (d.upTo j)))
    {name : String} (h : o.at? line column = some name) (rest : List Json) (t : List Event) :
    ∃ t', selectFrom p file level module (.int line) (.int column) (o.parts ++ rest) t =
      (.ok (some { module := correct name }), t') := by
  rw [Origin.parts, List.append_assoc, selectFrom_dots]
  obtain ⟨d, hd, hat⟩ := List.exists_of_findSome?_eq_some h
  have hmodule : o.module = some d := by simpa using hd
  obtain ⟨j, -, rfl⟩ := DottedName.at?_eq_some_iff.1 hat
  rw [hmodule, Option.toList_some, List.map_singleton, List.append_assoc, List.singleton_append]
  exact selectFrom_of_at?_eq_some hfile hat (hcorrect d hmodule j) _ t

theorem selectFrom_bracketed (brackets : Option (Spot × Spot)) (items : List Json)
    (t : List Event) {s : Option Selection} {t' : List Event}
    (h : selectName p file level module (.int line) (.int column) items t = (.ok s, t')) :
    selectFrom p file level module (.int line) (.int column)
      (bracketed brackets (.arr (.str "import_as_names" :: items))) t = (.ok s, t') := by
  have hopening : ∀ item ∈ brackets.toList.map (fun b => token "LPAR" "(" b.1), ∀ rest,
      selectFrom p file level module (.int line) (.int column) (item :: rest) =
        selectFrom p file level module (.int line) (.int column) rest := by
    intro item hitem rest
    obtain ⟨b, -, rfl⟩ := List.mem_map.1 hitem
    exact selectFrom_token _ _ _ (by decide) (by decide)
  have hclosing : selectFrom p file level module (.int line) (.int column)
      (brackets.toList.map fun b => token "RPAR" ")" b.2) t' = (.ok none, t') := by
    cases brackets with
    | none => rfl
    | some b => rfl
  rw [bracketed, List.append_assoc, passes_append hopening, List.singleton_append,
    selectFrom_names items _ t h, hclosing]
  cases s with
  | none => rfl
  | some s => rfl

end Corrected

end LangServer.Import
