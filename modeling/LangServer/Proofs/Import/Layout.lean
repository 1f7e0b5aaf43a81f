import LangServer.Program.Import
import Mathlib.Data.List.Pairwise

/-!
# The layout of import statements

An import statement names modules and what is imported from them.  A `Statement` is such a statement
with the places of all its tokens, and `Statement.suite` is its syntax tree.  A dotted name stands
on one line without blanks; everything else may stand anywhere, on one line or on several.

The position just behind a name still belongs to it.  Between two components of a dotted name there
is one dot, so that each position from the beginning of the name to just behind its end belongs to
exactly one component.

Main statement: `DottedName.holds_iff_existsUnique`.
-/

namespace LangServer.Import

/-! ### Extents -/

/-- The columns of a line that a name takes up, with the one just behind it. -/
structure Extent where
  line : Int
  start : Int
  stop : Int

namespace Extent

/-- The position is on the name or just behind it. -/
def Holds (e : Extent) (line column : Int) : Prop :=
  e.line = line ∧ e.start ≤ column ∧ column ≤ e.stop

instance (e : Extent) (line column : Int) : Decidable (e.Holds line column) :=
  inferInstanceAs (Decidable (_ ∧ _))

/-- On a line, at least one column is between the two names. -/
def IsApart (a b : Extent) : Prop :=
  a.line = b.line → a.stop < b.start ∨ b.stop < a.start

instance : DecidableRel IsApart := fun a b =>
  inferInstanceAs (Decidable (a.line = b.line → a.stop < b.start ∨ b.stop < a.start))

instance : Std.Symm IsApart where
  symm _ _ h := fun hline => (h hline.symm).symm

theorem IsApart.not_holds {a b : Extent} {line column : Int} (h : a.IsApart b)
    (ha : a.Holds line column) : ¬ b.Holds line column := by
  rintro ⟨hline, hstart, hstop⟩
  obtain ⟨hline', hstart', hstop'⟩ := ha
  rcases h (hline'.trans hline.symm) with h | h
  · omega
  · omega

/-- Of things that are apart from each other, the position is on one only. -/
theorem eq_of_holds {α : Type} {extent : α → Extent} {things : List α} {a b : α} {line column : Int}
    (h : (things.map extent).Pairwise IsApart) (ha : a ∈ things) (hb : b ∈ things)
    (hholds : (extent a).Holds line column) (hholds' : (extent b).Holds line column) : a = b := by
  have : Std.Symm fun a b => (extent a).IsApart (extent b) := ⟨fun _ _ => Std.Symm.symm _ _⟩
  by_contra hne
  exact ((List.pairwise_map.1 h).forall ha hb hne).not_holds hholds hholds'

end Extent

/-! ### Names -/

/-- Where a token begins. -/
structure Spot where
  line : Int
  column : Int

def token (kind text : String) (spot : Spot) : Json :=
  .arr [.str kind, .str text, .int spot.line, .int spot.column]

/-- A name without dots. -/
structure Word extends Spot where
  text : String
  ne_empty : text ≠ ""

namespace Word

def extent (w : Word) : Extent :=
  { line := w.line, start := w.column, stop := w.column + w.text.length }

def tree (w : Word) : Json :=
  token "NAME" w.text w.toSpot

/-- A dot just behind the name. -/
def dot (w : Word) : Json :=
  token "DOT" "." { line := w.line, column := w.extent.stop }

theorem start_le_stop (w : Word) : w.extent.start ≤ w.extent.stop := by
  simp only [extent]
  omega

def IsBefore (a b : Word) : Prop :=
  b.line = a.line ∧ a.extent.stop < b.extent.start

instance : Trans IsBefore IsBefore IsBefore where
  trans {a b c} hab hbc := by
    have hb := b.start_le_stop
    obtain ⟨hline, hstop⟩ := hab
    obtain ⟨hline', hstop'⟩ := hbc
    exact ⟨hline'.trans hline, by omega⟩

theorem IsBefore.not_holds {a b : Word} {line column : Int} (h : a.IsBefore b)
    (ha : a.extent.Holds line column) : ¬ b.extent.Holds line column :=
  Extent.IsApart.not_holds (fun _ => .inl h.2) ha

end Word

/-- Words on one line with one dot between each and the next. -/
structure DottedName where
  words : List Word
  ne_nil : words ≠ []
  consecutive : words.IsChain fun a b => b.line = a.line ∧ b.column = a.extent.stop + 1

def dottedTokens : List Word → List Json
  | [] => []
  | [w] => [w.tree]
  | w :: next :: rest => w.tree :: w.dot :: dottedTokens (next :: rest)

namespace DottedName

def tree (d : DottedName) : Json :=
  .arr (.str "dotted_name" :: dottedTokens d.words)

/-- The dotted name up to the component numbered `j`. -/
def upTo (d : DottedName) (j : Nat) : String :=
  ".".intercalate ((d.words.take (j + 1)).map Word.text)

/-- From the beginning of the first component to just behind the last. -/
def extent (d : DottedName) : Extent :=
  { line := (d.words.head d.ne_nil).line
    start := (d.words.head d.ne_nil).column
    stop := (d.words.getLast d.ne_nil).extent.stop }

/-- The position belongs to the component numbered `j`. -/
def HoldsAt (d : DottedName) (line column : Int) (j : Nat) : Prop :=
  ∃ w, d.words[j]? = some w ∧ w.extent.Holds line column

variable {d : DottedName} {line column : Int}

theorem pairwise_isBefore (d : DottedName) : d.words.Pairwise Word.IsBefore := by
  refine List.IsChain.pairwise (d.consecutive.imp fun a b h => ⟨h.1, ?_⟩)
  have hcolumn : b.extent.start = a.extent.stop + 1 := h.2
  omega

theorem holdsAt_unique {i j : Nat} (hi : d.HoldsAt line column i) (hj : d.HoldsAt line column j) :
    i = j := by
  obtain ⟨v, hv, hholds⟩ := hi
  obtain ⟨w, hw, hholds'⟩ := hj
  obtain ⟨hi, rfl⟩ := List.getElem?_eq_some_iff.1 hv
  obtain ⟨hj, rfl⟩ := List.getElem?_eq_some_iff.1 hw
  have hbefore := List.pairwise_iff_getElem.1 d.pairwise_isBefore
  rcases Nat.lt_trichotomy i j with hlt | heq | hlt
  · exact absurd hholds' ((hbefore i j hi hj hlt).not_holds hholds)
  · exact heq
  · exact absurd hholds ((hbefore j i hj hi hlt).not_holds hholds')

theorem eq_or_head_isBefore {w : Word} (hw : w ∈ d.words) :
    w = d.words.head d.ne_nil ∨ (d.words.head d.ne_nil).IsBefore w := by
  have hpairwise := d.pairwise_isBefore
  rw [← List.cons_head_tail d.ne_nil] at hpairwise hw
  rcases List.mem_cons.1 hw with hhead | htail
  · exact .inl hhead
  · exact .inr ((List.pairwise_cons.1 hpairwise).1 w htail)

theorem eq_or_isBefore_getLast {w : Word} (hw : w ∈ d.words) :
    w = d.words.getLast d.ne_nil ∨ w.IsBefore (d.words.getLast d.ne_nil) := by
  have hpairwise := d.pairwise_isBefore
  rw [← List.dropLast_concat_getLast d.ne_nil] at hpairwise hw
  rcases List.mem_append.1 hw with hfront | hlast
  · exact .inr ((List.pairwise_append.1 hpairwise).2.2 w hfront _ (List.mem_singleton.2 rfl))
  · exact .inl (List.mem_singleton.1 hlast)

theorem holds_of_mem {w : Word} (hw : w ∈ d.words) (h : w.extent.Holds line column) :
    d.extent.Holds line column := by
  obtain ⟨hline, hstart, hstop⟩ := h
  have hhead : (d.words.head d.ne_nil).line = w.line ∧
      (d.words.head d.ne_nil).extent.start ≤ w.extent.start := by
    rcases eq_or_head_isBefore hw with heq | hbefore
    · rw [← heq]
      exact ⟨rfl, Int.le_refl _⟩
    · have hle := (d.words.head d.ne_nil).start_le_stop
      have hlt := hbefore.2
      exact ⟨hbefore.1.symm, by omega⟩
  have hlast : w.extent.stop ≤ (d.words.getLast d.ne_nil).extent.stop := by
    rcases eq_or_isBefore_getLast hw with heq | hbefore
    · exact heq ▸ Int.le_refl _
    · have hle := (d.words.getLast d.ne_nil).start_le_stop
      have hlt := hbefore.2
      omega
  exact ⟨hhead.1.trans hline, Int.le_trans hhead.2 hstart, Int.le_trans hstop hlast⟩

theorem HoldsAt.holds {j : Nat} (h : d.HoldsAt line column j) : d.extent.Holds line column := by
  obtain ⟨w, hw, hholds⟩ := h
  exact holds_of_mem (List.mem_of_getElem? hw) hholds

theorem exists_mem_holds {words : List Word} (hne : words ≠ [])
    (hchain : words.IsChain fun a b => b.line = a.line ∧ b.column = a.extent.stop + 1)
    (hline : (words.head hne).line = line) (hstart : (words.head hne).column ≤ column)
    (hstop : column ≤ (words.getLast hne).extent.stop) :
    ∃ w ∈ words, w.extent.Holds line column := by
  -- There are no gaps: where a word ends its dot stands, and behind the dot the next word begins.
  induction words with
  | nil => exact absurd rfl hne
  | cons w rest ih =>
    by_cases hend : column ≤ w.extent.stop
    · exact ⟨w, List.mem_cons_self, hline, hstart, hend⟩
    · cases rest with
      | nil => exact absurd hstop hend
      | cons next rest =>
        obtain ⟨⟨hnext, hcolumn⟩, htail⟩ := List.isChain_cons_cons.1 hchain
        have hbehind : next.column ≤ column := by omega
        obtain ⟨v, hv, hholds⟩ := ih (List.cons_ne_nil _ _) htail (hnext.trans hline) hbehind hstop
        exact ⟨v, List.mem_cons_of_mem _ hv, hholds⟩

theorem holds_iff_existsUnique :
    d.extent.Holds line column ↔ ∃! j, d.HoldsAt line column j := by
  constructor
  · rintro ⟨hline, hstart, hstop⟩
    obtain ⟨w, hw, hholds⟩ := exists_mem_holds d.ne_nil d.consecutive hline hstart hstop
    obtain ⟨j, hj⟩ := List.mem_iff_getElem?.1 hw
    exact ⟨j, ⟨w, hj, hholds⟩, fun i hi => holdsAt_unique hi ⟨w, hj, hholds⟩⟩
  · rintro ⟨j, hj, -⟩
    exact hj.holds

end DottedName

/-! ### Statements -/

/-- A name in a list, perhaps with another name that it is given and with a comma behind. -/
structure Clause (α : Type) where
  name : α
  /-- The place of the word `as`, and the name behind it. -/
  renamed : Option (Spot × Word) := none
  comma : Option Spot := none

def Clause.trees {α : Type} (kind : String) (tree : α → Json) (c : Clause α) : List Json :=
  .arr (.str kind :: tree c.name ::
      c.renamed.toList.flatMap fun r => [token "NAME" "as" r.1, r.2.tree]) ::
    c.comma.toList.map (token "COMMA" ",")

/-- One dot or three in front of a module. -/
inductive Dots where
  | one (spot : Spot)
  | three (spot : Spot)

def Dots.tree : Dots → Json
  | one spot => token "DOT" "." spot
  | three spot => token "ELLIPSIS" "..." spot

/-- From where names are imported, with the words `from` and `import` around it. -/
structure Origin where
  fromWord : Spot
  dots : List Dots
  module : Option DottedName
  importWord : Spot

def Origin.parts (o : Origin) : List Json :=
  o.dots.map Dots.tree ++ (o.module.toList.map DottedName.tree ++
    [token "NAME" "import" o.importWord])

inductive Statement where
  | modules (word : Spot) (clauses : List (Clause DottedName))
  | all (origin : Origin) (star : Spot)
  | names (origin : Origin) (brackets : Option (Spot × Spot)) (clauses : List (Clause Word))

def bracketed (brackets : Option (Spot × Spot)) (tree : Json) : List Json :=
  brackets.toList.map (fun b => token "LPAR" "(" b.1) ++ [tree] ++
    brackets.toList.map fun b => token "RPAR" ")" b.2

namespace Statement

def tree : Statement → Json
  | modules word clauses => .arr [.str "import_name", token "NAME" "import" word,
      .arr (.str "dotted_as_names" ::
        clauses.flatMap (Clause.trees "dotted_as_name" DottedName.tree))]
  | all origin star => .arr (.str "import_from" :: token "NAME" "from" origin.fromWord ::
      (origin.parts ++ [token "STAR" "*" star]))
  | names origin brackets clauses =>
    .arr (.str "import_from" :: token "NAME" "from" origin.fromWord ::
      (origin.parts ++ bracketed brackets (.arr (.str "import_as_names" ::
        clauses.flatMap (Clause.trees "import_as_name" Word.tree)))))

/-- The syntax tree of a file that begins with the statement. -/
def suite (s : Statement) (behind below : List Json) : Json :=
  .arr (.str "file_input" :: .arr [.str "stmt", .arr (.str "simple_stmt" ::
    .arr [.str "small_stmt", .arr [.str "import_stmt", s.tree]] :: behind)] :: below)

/-- The statement as a node of the program. -/
def shape (level : Json) (id : String) : Statement → Shape
  | modules _ _ => .importModules
  | all _ _ => .importAll level
  | names _ _ _ => .importNames level (.str id)

/-- The dotted names of modules, less what they are renamed to. -/
def dottedNames : Statement → List DottedName
  | modules _ clauses => clauses.map Clause.name
  | all origin _ => origin.module.toList
  | names origin _ _ => origin.module.toList

/-- The names that are imported from a module, less what they are renamed to. -/
def importedNames : Statement → List Word
  | names _ _ clauses => clauses.map Clause.name
  | _ => []

/-- No two names touch. -/
def IsSeparated (s : Statement) : Prop :=
  (s.dottedNames.map DottedName.extent ++ s.importedNames.map Word.extent).Pairwise Extent.IsApart

end Statement

end LangServer.Import
