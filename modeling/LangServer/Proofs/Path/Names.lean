import LangServer.Path
import Mathlib.Data.List.TakeWhile

/-!
# Where a path leads

The names that lead from the root to a path do not depend on how the path is spelled: a path may
have slashes at its end or several in a row, and `.` among its names.  Joining two paths appends the
names of the second to those of the first, the directory of a path has all its names but the last,
and the way from a directory to one below it has the names between them.

Main statements: `Absolute.names_text`, `names_join`, `names_dirname`, `relative_of_names`.
-/

namespace LangServer.Path

/-! ### Components -/

/-- A name that leads one step down. -/
structure Component where
  text : List Char
  ne_nil : text ≠ []
  slash_not_mem : '/' ∉ text
  ne_dot : text ≠ ['.']
  ne_dots : text ≠ ['.', '.']

def texts (cs : List Component) : List (List Char) :=
  cs.map Component.text

/-- Components, each behind a slash. -/
def spelled (cs : List Component) : List Char :=
  cs.flatMap fun c => '/' :: c.text

theorem dots_not_mem_texts (cs : List Component) : ['.', '.'] ∉ texts cs := by
  intro hmem
  obtain ⟨c, -, hc⟩ := List.mem_map.1 hmem
  exact c.ne_dots hc

theorem texts_append (cs ds : List Component) : texts (cs ++ ds) = texts cs ++ texts ds :=
  List.map_append

theorem texts_take (cs : List Component) (k : Nat) : texts (cs.take k) = (texts cs).take k :=
  List.map_take

/-! ### Pieces -/

theorem pieces_ne_nil (p : List Char) : pieces p ≠ [] := by
  fun_cases pieces p with
  | case1 => exact List.cons_ne_nil _ _
  | case2 => exact List.cons_ne_nil _ _
  | case3 => exact List.cons_ne_nil _ _
  | case4 => exact List.cons_ne_nil _ _

theorem pieces_cons {c : Char} (hc : c ≠ '/') {p : List Char} {first : List Char}
    {rest : List (List Char)} (h : pieces p = first :: rest) :
    pieces (c :: p) = (c :: first) :: rest := by
  rw [pieces, h]
  intro heq
  exact hc heq

theorem pieces_append_slash (a b : List Char) : pieces (a ++ '/' :: b) = pieces a ++ pieces b := by
  induction a with
  | nil => rfl
  | cons c a ih =>
    by_cases hc : c = '/'
    · subst hc
      rw [List.cons_append, pieces, pieces, ih, List.cons_append]
    · obtain ⟨first, rest, hrest⟩ := List.exists_cons_of_ne_nil (pieces_ne_nil a)
      have htail : pieces (a ++ '/' :: b) = first :: (rest ++ pieces b) := by
        rw [ih, hrest, List.cons_append]
      rw [List.cons_append, pieces_cons hc htail, pieces_cons hc hrest, List.cons_append]

theorem pieces_of_not_mem {p : List Char} (h : '/' ∉ p) : pieces p = [p] := by
  induction p with
  | nil => rfl
  | cons c p ih =>
    simp only [List.mem_cons, not_or] at h
    exact pieces_cons (Ne.symm h.1) (ih h.2)

theorem pieces_append_spelled (a : List Char) (cs : List Component) :
    pieces (a ++ spelled cs) = pieces a ++ texts cs := by
  induction cs generalizing a with
  | nil => simp [spelled, texts]
  | cons c cs ih =>
    have hfirst : a ++ spelled (c :: cs) = (a ++ '/' :: c.text) ++ spelled cs := by
      simp [spelled]
    rw [hfirst, ih, pieces_append_slash, pieces_of_not_mem c.slash_not_mem, List.append_assoc]
    rfl

/-! ### Names -/

theorem names_append_slash (a b : List Char) :
    names (a ++ '/' :: b) = (pieces b).foldl descend (names a) := by
  rw [names, pieces_append_slash, List.foldl_append]
  rfl

theorem names_append_singleton_slash (a : List Char) : names (a ++ ['/']) = names a :=
  names_append_slash a []

theorem descend_component (start : List (List Char)) (c : Component) :
    descend start c.text = start ++ [c.text] := by
  simp [descend, c.ne_nil, c.ne_dot, c.ne_dots]

theorem foldl_descend_texts (start : List (List Char)) (cs : List Component) :
    (texts cs).foldl descend start = start ++ texts cs := by
  induction cs generalizing start with
  | nil => simp [texts]
  | cons c cs ih =>
    have hcons : texts (c :: cs) = c.text :: texts cs := rfl
    rw [hcons, List.foldl_cons, descend_component, ih, List.append_assoc, List.singleton_append]

theorem names_append_spelled (a : List Char) (cs : List Component) :
    names (a ++ spelled cs) = names a ++ texts cs := by
  rw [names, pieces_append_spelled, List.foldl_append, foldl_descend_texts]
  rfl

/-! ### Ends of paths -/

theorem getLast?_append_component_ne (a : List Char) (c : Component) :
    (a ++ c.text).getLast? ≠ some '/' := by
  have hlast : c.text.getLast? = some (c.text.getLast c.ne_nil) :=
    List.getLast?_eq_some_getLast c.ne_nil
  rw [List.getLast?_append, hlast, Option.some_or]
  intro heq
  exact c.slash_not_mem (List.mem_of_getLast? (hlast.trans heq))

theorem getLast?_append_spelled_ne {a : List Char} (ha : a.getLast? ≠ some '/')
    (cs : List Component) : (a ++ spelled cs).getLast? ≠ some '/' := by
  induction cs generalizing a with
  | nil => simpa [spelled] using ha
  | cons c cs ih =>
    have hfirst : a ++ spelled (c :: cs) = ((a ++ ['/']) ++ c.text) ++ spelled cs := by
      simp [spelled]
    rw [hfirst]
    exact ih (getLast?_append_component_ne _ c)

/-! ### Relative and absolute paths -/

/-- One or more components with slashes between them. -/
structure Relative where
  first : Component
  rest : List Component

namespace Relative

def components (n : Relative) : List Component :=
  n.first :: n.rest

def text (n : Relative) : List Char :=
  n.first.text ++ spelled n.rest

theorem pieces_text (n : Relative) : pieces n.text = texts n.components := by
  rw [text, pieces_append_spelled, pieces_of_not_mem n.first.slash_not_mem]
  rfl

theorem text_ne_nil (n : Relative) : n.text ≠ [] := by
  simp [text, n.first.ne_nil]

theorem head?_text_ne (n : Relative) : n.text.head? ≠ some '/' := by
  obtain ⟨c, cs, hc⟩ := List.exists_cons_of_ne_nil n.first.ne_nil
  rw [text, hc]
  intro hhead
  obtain rfl : c = '/' := Option.some.inj hhead
  exact n.first.slash_not_mem (by simp [hc])

theorem getLast?_append_text_ne (a : List Char) (n : Relative) :
    (a ++ n.text).getLast? ≠ some '/' := by
  rw [text, ← List.append_assoc]
  exact getLast?_append_spelled_ne (getLast?_append_component_ne a n.first) n.rest

end Relative

/-- A normalised absolute path.  Of the slashes in front one is kept, or two where there are just
two. -/
structure Absolute where
  doubled : Bool := false
  components : List Component

namespace Absolute

/-- What stands in front of the first slash: a slash or nothing. -/
def lead (p : Absolute) : List Char :=
  if p.doubled then ['/'] else []

def text (p : Absolute) : List Char :=
  p.lead ++ if p.components.isEmpty then ['/'] else spelled p.components

/-- The path that some components lead to from here. -/
def under (p : Absolute) (cs : List Component) : Absolute :=
  { p with components := p.components ++ cs }

theorem lead_under (p : Absolute) (cs : List Component) : (p.under cs).lead = p.lead := rfl

theorem components_under (p : Absolute) (cs : List Component) :
    (p.under cs).components = p.components ++ cs := rfl

theorem names_lead (p : Absolute) : Path.names p.lead = [] := by
  unfold lead
  split
  · rfl
  · rfl

theorem names_text (p : Absolute) : Path.names p.text = texts p.components := by
  unfold text
  split
  · next hempty =>
    rw [names_append_singleton_slash, names_lead, List.isEmpty_iff.1 hempty]
    rfl
  · rw [names_append_spelled, names_lead, List.nil_append]

theorem dots_not_mem_pieces_text (p : Absolute) : ['.', '.'] ∉ pieces p.text := by
  have hlead : ['.', '.'] ∉ pieces p.lead := by
    unfold lead
    split
    · decide
    · decide
  unfold text
  split
  · rw [pieces_append_slash]
    simpa [pieces] using hlead
  · rw [pieces_append_spelled, List.mem_append, not_or]
    exact ⟨hlead, dots_not_mem_texts _⟩

theorem exists_text_eq (p : Absolute) : ∃ rest, p.text = '/' :: rest := by
  unfold text lead
  cases p.doubled with
  | true => exact ⟨_, rfl⟩
  | false =>
    cases p.components with
    | nil => exact ⟨_, rfl⟩
    | cons c cs => exact ⟨_, rfl⟩

theorem text_of_ne_nil {p : Absolute} (h : p.components ≠ []) :
    p.text = p.lead ++ spelled p.components := by
  rw [text, if_neg (by simpa using h)]

theorem text_under_relative (p : Absolute) (n : Relative) :
    (p.under n.components).text = p.lead ++ spelled p.components ++ '/' :: n.text := by
  rw [text_of_ne_nil (by simp [under, Relative.components]), lead_under, components_under]
  simp [Relative.components, Relative.text, spelled]

theorem text_under_concat (p : Absolute) (cs : List Component) (c : Component) :
    (p.under (cs ++ [c])).text = p.lead ++ spelled (p.components ++ cs) ++ '/' :: c.text := by
  rw [text_of_ne_nil (by simp [under]), lead_under, components_under]
  simp [spelled]

end Absolute

/-! ### Joining -/

/-- A relative path is put behind the other, with a slash between them unless there is one. -/
theorem join_cases (a : List Char) {b : List Char} (hb : b.head? ≠ some '/') :
    (a = [] ∧ join a b = b) ∨ (∃ a', a = a' ++ ['/'] ∧ join a b = a' ++ '/' :: b) ∨
      join a b = a ++ '/' :: b := by
  have hjoin : join a b =
      if a.isEmpty || a.getLast? == some '/' then a ++ b else a ++ '/' :: b := by
    unfold join
    split
    · exact absurd rfl hb
    · rfl
  rw [hjoin]
  by_cases hempty : a = []
  · subst hempty
    exact .inl ⟨rfl, rfl⟩
  · by_cases hlast : a.getLast? = some '/'
    · obtain ⟨a', rfl⟩ := List.getLast?_eq_some_iff.1 hlast
      exact .inr (.inl ⟨a', rfl, by simp⟩)
    · exact .inr (.inr (by simp [hempty, hlast]))

theorem exists_join_eq_append (a : List Char) {b : List Char} (hb : b.head? ≠ some '/') :
    ∃ front, join a b = front ++ b := by
  rcases join_cases a hb with ⟨-, hjoin⟩ | ⟨a', -, hjoin⟩ | hjoin
  · exact ⟨[], hjoin⟩
  · exact ⟨a' ++ ['/'], by simp [hjoin]⟩
  · exact ⟨a ++ ['/'], by simp [hjoin]⟩

theorem names_join (a : List Char) {b : List Char} (hb : b.head? ≠ some '/') :
    names (join a b) = (pieces b).foldl descend (names a) := by
  rcases join_cases a hb with ⟨rfl, hjoin⟩ | ⟨a', rfl, hjoin⟩ | hjoin
  · rw [hjoin]
    rfl
  · rw [hjoin, names_append_slash, names_append_singleton_slash]
  · rw [hjoin, names_append_slash]

theorem mem_pieces_join {a b piece : List Char} (hb : b.head? ≠ some '/')
    (h : piece ∈ pieces (join a b)) : piece ∈ pieces a ∨ piece ∈ pieces b := by
  rcases join_cases a hb with ⟨rfl, hjoin⟩ | ⟨a', rfl, hjoin⟩ | hjoin
  · rw [hjoin] at h
    exact .inr h
  · rw [hjoin, pieces_append_slash, List.mem_append] at h
    rw [pieces_append_slash, List.mem_append]
    exact h.imp_left .inl
  · rw [hjoin, pieces_append_slash, List.mem_append] at h
    exact h

/-! ### The directory of a path -/

theorem basename_append {name : List Char} (h : '/' ∉ name) (front : List Char) :
    basename (front ++ '/' :: name) = name := by
  have hname : ∀ c ∈ name.reverse, (c != '/') = true :=
    fun c hc => bne_iff_ne.2 (ne_of_mem_of_not_mem (List.mem_reverse.1 hc) h)
  have hreverse : (front ++ '/' :: name).reverse = name.reverse ++ '/' :: front.reverse := by simp
  rw [basename, hreverse, List.takeWhile_append_of_pos hname]
  simp

theorem names_dropWhile_reverse (cs : List Char) :
    names (cs.dropWhile (· == '/')).reverse = names cs.reverse := by
  induction cs with
  | nil => rfl
  | cons c cs ih =>
    by_cases hc : c = '/'
    · subst hc
      rw [List.dropWhile_cons_of_pos (by rfl), ih, List.reverse_cons,
        names_append_singleton_slash]
    · rw [List.dropWhile_cons_of_neg (by simpa using hc)]

theorem dirname_eq {name : List Char} (h : '/' ∉ name) (front : List Char) :
    dirname (front ++ '/' :: name) =
      if (front ++ ['/']).all (· == '/') then front ++ ['/']
      else ((front ++ ['/']).reverse.dropWhile (· == '/')).reverse := by
  -- What stands in front of the name, its last slash included.
  have htake : (front ++ '/' :: name).take ((front ++ '/' :: name).length - name.length) =
      front ++ ['/'] := by
    have hsplit : front ++ '/' :: name = (front ++ ['/']) ++ name := by simp
    have hlength : ((front ++ ['/']) ++ name).length - name.length = (front ++ ['/']).length := by
      rw [List.length_append, Nat.add_sub_cancel]
    rw [hsplit, hlength, List.take_left]
  simp only [dirname, basename_append h, htake]

theorem names_dirname {name : List Char} (h : '/' ∉ name) (front : List Char) :
    names (dirname (front ++ '/' :: name)) = names front := by
  rw [dirname_eq h]
  split
  · exact names_append_singleton_slash front
  · rw [names_dropWhile_reverse, List.reverse_reverse, names_append_singleton_slash]

theorem dirname_ne_nil {name : List Char} (h : '/' ∉ name) (front : List Char) :
    dirname (front ++ '/' :: name) ≠ [] := by
  rw [dirname_eq h]
  split
  · simp
  · next hall =>
    intro hempty
    apply hall
    rw [List.reverse_eq_nil_iff, List.dropWhile_eq_nil_iff] at hempty
    exact List.all_eq_true.2 fun c hc => hempty c (List.mem_reverse.2 hc)

/-! ### The way down -/

theorem common_append {α : Type} [DecidableEq α] (as bs : List α) :
    common as (as ++ bs) = as := by
  induction as with
  | nil =>
    cases bs with
    | nil => rfl
    | cons b bs => rfl
  | cons a as ih => rw [List.cons_append, common, if_pos rfl, ih]

theorem relative_of_names {p start : List Char} {rest : List (List Char)}
    (h : names p = names start ++ rest) :
    relative p start = if rest.isEmpty then [['.']] else rest := by
  have hcommon : common (names start) (names p) = names start := by
    rw [h, common_append]
  simp only [relative, hcommon, Nat.sub_self, List.replicate_zero, List.nil_append]
  rw [h, List.drop_left]
  cases rest with
  | nil => rfl
  | cons name rest => rfl

theorem head?_ne_of_not_mem {name : List Char} (h : '/' ∉ name) : name.head? ≠ some '/' :=
  fun hhead => h (List.mem_of_head? hhead)

theorem names_joinAll {rest : List (List Char)} (h : ∀ name ∈ rest, '/' ∉ name) (a : List Char) :
    names (joinAll a rest) = rest.foldl descend (names a) := by
  induction rest generalizing a with
  | nil => rfl
  | cons name rest ih =>
    have hname := h name List.mem_cons_self
    have hrest := ih (fun x hx => h x (List.mem_cons_of_mem _ hx)) (join a name)
    rw [names_join a (head?_ne_of_not_mem hname), pieces_of_not_mem hname] at hrest
    exact hrest

theorem mem_pieces_joinAll {rest : List (List Char)} (h : ∀ name ∈ rest, '/' ∉ name)
    {a piece : List Char} (hpiece : piece ∈ pieces (joinAll a rest)) :
    piece ∈ pieces a ∨ piece ∈ rest := by
  induction rest generalizing a with
  | nil => exact .inl hpiece
  | cons name rest ih =>
    have hname := h name List.mem_cons_self
    rcases ih (fun x hx => h x (List.mem_cons_of_mem _ hx)) hpiece with hjoin | hrest
    · rcases mem_pieces_join (head?_ne_of_not_mem hname) hjoin with ha | hb
      · exact .inl ha
      · rw [pieces_of_not_mem hname, List.mem_singleton] at hb
        exact .inr (hb ▸ List.mem_cons_self)
    · exact .inr (List.mem_cons_of_mem _ hrest)

end LangServer.Path
