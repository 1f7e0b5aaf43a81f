import LangServer.Proofs.Uri.Coding
import LangServer.Uri.FilePath

/-!
# Reading back the URI of a file

A coded part holds letters, digits, a few marks and percent signs.  None of these divides the parts
of a URI, so a URI that is put together from coded parts is taken apart into the same parts.  Two
marks stay as they are: the slash, which is why the authority may have none, and the colon behind a
drive letter, which divides nothing within a path.

Main statements: `Parts.IsFile.parse_render`, `partsOf_renderValues_file`.
-/

namespace LangServer.Uri

/-! ### Characters of coded texts -/

namespace Percent

/-- The characters that coding leaves or makes. -/
def IsCoded (c : Char) : Prop :=
  isPlain c = true ∨ c = '%'

theorem isCoded_hexDigit {n : Nat} (h : n < 16) : IsCoded (hexDigit n) ∧ hexDigit n ≠ '/' := by
  have hall : ∀ n < 16, isPlain (hexDigit n) = true ∧ hexDigit n ≠ '/' := by decide
  exact ⟨.inl (hall n h).1, (hall n h).2⟩

theorem isCoded_of_mem_escape {b : Nat} (hb : b < 256) {c : Char} (h : c ∈ escape b) :
    IsCoded c ∧ c ≠ '/' := by
  simp only [escape, List.mem_cons, List.not_mem_nil, or_false] at h
  rcases h with rfl | rfl | rfl
  · exact ⟨.inr rfl, by decide⟩
  · exact isCoded_hexDigit (by omega)
  · exact isCoded_hexDigit (by omega)

theorem isCoded_of_mem_encodeChar {c d : Char} (h : c ∈ encodeChar d) :
    IsCoded c ∧ (c = '/' → d = '/') := by
  unfold encodeChar at h
  split at h
  · next hplain =>
    obtain rfl := List.mem_singleton.1 h
    exact ⟨.inl hplain, id⟩
  · obtain ⟨b, hb, hc⟩ := List.mem_flatMap.1 h
    obtain ⟨hcoded, hslash⟩ := isCoded_of_mem_escape (Text.Utf8.lt_of_mem_encodeChar hb) hc
    exact ⟨hcoded, fun heq => absurd heq hslash⟩

theorem isCoded_of_mem_encode {c : Char} {cs : List Char} (h : c ∈ encode cs) : IsCoded c := by
  obtain ⟨d, -, hc⟩ := List.mem_flatMap.1 h
  exact (isCoded_of_mem_encodeChar hc).1

theorem slash_mem_of_mem_encode {cs : List Char} (h : '/' ∈ encode cs) : '/' ∈ cs := by
  obtain ⟨d, hd, hc⟩ := List.mem_flatMap.1 h
  obtain rfl := (isCoded_of_mem_encodeChar hc).2 rfl
  exact hd

theorem exists_encodeChar_eq_cons (c : Char) : ∃ d more, encodeChar c = d :: more := by
  unfold encodeChar
  split
  · exact ⟨c, [], rfl⟩
  · obtain ⟨b, bs, hbs⟩ : ∃ b bs, Text.Utf8.encodeChar c = b :: bs := by
      unfold Text.Utf8.encodeChar
      simp only
      split
      · exact ⟨_, _, rfl⟩
      split
      · exact ⟨_, _, rfl⟩
      split
      · exact ⟨_, _, rfl⟩
      · exact ⟨_, _, rfl⟩
    rw [hbs]
    exact ⟨'%', _, rfl⟩

theorem IsCoded.lt {c : Char} (h : IsCoded c) : c.toNat < 0x80 := by
  rcases h with h | rfl
  · exact isPlain_lt h
  · decide

theorem IsCoded.ne {c : Char} (h : IsCoded c) {mark : Char} (hplain : isPlain mark = false)
    (hpercent : mark ≠ '%') : c ≠ mark := by
  rintro rfl
  rcases h with h | h
  · rw [hplain] at h
    cases h
  · exact hpercent h

theorem IsCoded.not_blank {c : Char} (h : IsCoded c) : 0x20 < c.toNat := by
  have hblank : ∀ n ≤ 0x20, isPlain (Char.ofNat n) = false ∧ Char.ofNat n ≠ '%' := by decide
  refine Nat.lt_of_not_le fun hle => ?_
  obtain ⟨hplain, hpercent⟩ := hblank c.toNat hle
  rw [Char.ofNat_toNat] at hplain hpercent
  exact h.ne hplain hpercent rfl

end Percent

open Percent

/-! ### Taking texts apart -/

theorem bne_of_not_mem {sep : Char} {a : List Char} (h : sep ∉ a) : ∀ c ∈ a, (c != sep) = true :=
  fun _ hc => bne_iff_ne.mpr (ne_of_mem_of_not_mem hc h)

theorem cut_append_cons {sep : Char} {a : List Char} (h : sep ∉ a) (b : List Char) :
    cut sep (a ++ sep :: b) = (a, b) := by
  simp [cut, List.takeWhile_append_of_pos (bne_of_not_mem h),
    List.dropWhile_append_of_pos (bne_of_not_mem h)]

theorem cut_append_marked {sep : Char} {a : List Char} (h : sep ∉ a) (b : List Char) :
    cut sep (a ++ Parts.marked sep b) = (a, b) := by
  cases b with
  | nil =>
    have hend : Parts.marked sep [] = [] := rfl
    rw [hend, cut, List.takeWhile_append_of_pos (bne_of_not_mem h),
      List.dropWhile_append_of_pos (bne_of_not_mem h)]
    simp
  | cons c b => exact cut_append_cons h (c :: b)

theorem clean_eq_self {s : List Char} (h : ∀ c ∈ s, 0x20 < c.toNat) : clean s = s := by
  have hfront : s.dropWhile (fun c => c.toNat ≤ 0x20) = s := by
    cases s with
    | nil => rfl
    | cons c rest =>
      have hc : ¬ c.toNat ≤ 0x20 := by
        have hlt := h c List.mem_cons_self
        omega
      simp [hc]
  have hkept : ∀ c ∈ s, (c != '\t' && c != '\r' && c != '\n') = true := by
    intro c hc
    have hlt := h c hc
    have hne : ∀ d : Char, d.toNat ≤ 0x20 → c ≠ d := by
      rintro d hd rfl
      omega
    simp [hne '\t' (by decide), hne '\r' (by decide), hne '\n' (by decide)]
  rw [clean, hfront, List.filter_eq_self.2 hkept]

theorem splitAuthority_append {a rest : List Char} (ha : ∀ c ∈ a, endsAuthority c = false)
    (hrest : ∀ c, rest.head? = some c → endsAuthority c = true) :
    splitAuthority ('/' :: '/' :: (a ++ rest)) = (a, rest) := by
  have hall : ∀ c ∈ a, (!endsAuthority c) = true := by
    intro c hc
    rw [ha c hc]
    rfl
  simp only [splitAuthority, List.takeWhile_append_of_pos hall, List.dropWhile_append_of_pos hall]
  cases rest with
  | nil => simp
  | cons c rest => simp [hrest c rfl]

/-! ### Checks on a coded authority -/

theorem checkBrackets_of_isCoded {a : List Char} (h : ∀ c ∈ a, IsCoded c) :
    checkBrackets a = .ok () := by
  have hopen : a.contains '[' = false := by
    simp only [List.contains_eq_mem, decide_eq_false_iff_not]
    exact fun hc => (h _ hc).ne (by decide) (by decide) rfl
  have hclose : a.contains ']' = false := by
    simp only [List.contains_eq_mem, decide_eq_false_iff_not]
    exact fun hc => (h _ hc).ne (by decide) (by decide) rfl
  simp only [checkBrackets, hopen, hclose, bne_self_eq_false, Bool.false_eq_true, if_false]

theorem checkDisguise_of_isCoded {a : List Char} (h : ∀ c ∈ a, IsCoded c) :
    checkDisguise a = .ok () := by
  have hbeyond : ∀ n ∈ disguised, 0x80 ≤ n := by decide
  have hnone : (a.any fun c => disguised.contains c.toNat) = false := by
    simp only [List.any_eq_false, List.contains_eq_mem, decide_eq_true_eq]
    intro c hc hmem
    have hlt := (h c hc).lt
    have hle := hbeyond _ hmem
    omega
  simp only [checkDisguise, hnone, Bool.false_eq_true, if_false]

/-! ### Coded parts of the URI of a file -/

namespace Parts

/-- Coded parts that are read back from a URI in which the authority is written. -/
structure IsReadable (p : Parts) : Prop where
  scheme : p.scheme = "file".toList
  params : p.params = []
  authority : ∀ c ∈ p.authority, IsCoded c
  slash : '/' ∉ p.authority
  path : ∀ c ∈ p.path, IsCoded c ∨ c = ':'
  rooted : p.path = [] ∨ p.path.head? = some '/'
  query : ∀ c ∈ p.query, IsCoded c
  fragment : ∀ c ∈ p.fragment, IsCoded c

/-- Parts of a file's URI in their coded form. -/
structure IsCodedFile (p : Parts) : Prop extends IsReadable p where
  unshared : p.authority = [] → p.path.take 2 ≠ ['/', '/']

/-- What stands behind the authority. -/
def tail (p : Parts) : List Char :=
  p.path ++ marked '?' p.query ++ marked '#' p.fragment

/-- The URI of a file in which the authority is written, even an empty one. -/
def text (p : Parts) : List Char :=
  "file".toList ++ ':' :: '/' :: '/' :: (p.authority ++ p.tail)

namespace IsReadable

variable {p : Parts} (h : p.IsReadable)
include h

theorem mem_tail {c : Char} (hc : c ∈ p.tail) : IsCoded c ∨ c = ':' ∨ c = '?' ∨ c = '#' := by
  have hmarked : ∀ {mark : Char} {part : List Char}, (∀ d ∈ part, IsCoded d) →
      c ∈ marked mark part → IsCoded c ∨ c = mark := by
    intro mark part hpart hmem
    cases part with
    | nil => cases hmem
    | cons d part =>
      rcases List.mem_cons.1 hmem with heq | hmem
      · exact .inr heq
      · exact .inl (hpart c hmem)
  rcases List.mem_append.1 hc with hc | hc
  · rcases List.mem_append.1 hc with hc | hc
    · rcases h.path c hc with hcoded | hcolon
      · exact .inl hcoded
      · exact .inr (.inl hcolon)
    · rcases hmarked h.query hc with hcoded | hmark
      · exact .inl hcoded
      · exact .inr (.inr (.inl hmark))
  · rcases hmarked h.fragment hc with hcoded | hmark
    · exact .inl hcoded
    · exact .inr (.inr (.inr hmark))

theorem clean_text : clean p.text = p.text := by
  refine clean_eq_self ?_
  intro c hc
  simp only [text, List.mem_append, List.mem_cons] at hc
  rcases hc with hc | rfl | rfl | rfl | hc | hc
  · have hscheme : ("file".toList.all fun c => decide (0x20 < c.toNat)) = true := by decide
    exact of_decide_eq_true (List.all_eq_true.mp hscheme c hc)
  · decide
  · decide
  · decide
  · exact (h.authority c hc).not_blank
  · rcases h.mem_tail hc with hcoded | rfl | rfl | rfl
    · exact hcoded.not_blank
    all_goals decide

omit h in
theorem splitScheme_text :
    splitScheme p.text = ("file".toList, '/' :: '/' :: (p.authority ++ p.tail)) := by
  have hcolon : ':' ∉ "file".toList := by decide
  have hcut := cut_append_cons hcolon ('/' :: '/' :: (p.authority ++ p.tail))
  have hcontains : ("file".toList ++ ':' :: '/' :: '/' :: (p.authority ++ p.tail)).contains ':' =
      true := by simp
  have hscheme : isScheme "file".toList = true := by decide
  have hlower : "file".toList.map Char.toLower = "file".toList := by decide
  simp only [text, splitScheme, hcontains, hcut, hscheme, hlower, Bool.and_self, if_true]

theorem endsAuthority_head_tail (c : Char) (hc : p.tail.head? = some c) :
    endsAuthority c = true := by
  unfold tail at hc
  rcases h.rooted with hempty | hhead
  · rw [hempty] at hc
    cases hquery : p.query with
    | cons d query =>
      rw [hquery] at hc
      obtain rfl : '?' = c := by simpa [marked] using hc
      rfl
    | nil =>
      cases hfragment : p.fragment with
      | nil => simp [marked, hquery, hfragment] at hc
      | cons d fragment =>
        rw [hquery, hfragment] at hc
        obtain rfl : '#' = c := by simpa [marked] using hc
        rfl
  · cases hpath : p.path with
    | nil => simp [hpath] at hhead
    | cons d path =>
      rw [hpath] at hhead hc
      obtain rfl : d = '/' := by simpa using hhead
      obtain rfl : '/' = c := by simpa using hc
      rfl

theorem splitAuthority_eq :
    splitAuthority ('/' :: '/' :: (p.authority ++ p.tail)) = (p.authority, p.tail) := by
  refine splitAuthority_append ?_ h.endsAuthority_head_tail
  intro c hc
  have hcoded := h.authority c hc
  have hslash : c ≠ '/' := by
    rintro rfl
    exact h.slash hc
  have hquery : c ≠ '?' := hcoded.ne (by decide) (by decide)
  have hfragment : c ≠ '#' := hcoded.ne (by decide) (by decide)
  simp [endsAuthority, hslash, hquery, hfragment]

theorem not_mem_path {mark : Char} (hplain : isPlain mark = false) (hpercent : mark ≠ '%')
    (hcolon : mark ≠ ':') : mark ∉ p.path := by
  intro hmem
  rcases h.path mark hmem with hcoded | heq
  · exact hcoded.ne hplain hpercent rfl
  · exact hcolon heq

theorem cut_fragment : cut '#' p.tail = (p.path ++ marked '?' p.query, p.fragment) := by
  refine cut_append_marked ?_ p.fragment
  intro hmem
  rcases List.mem_append.1 hmem with hmem | hmem
  · exact h.not_mem_path (by decide) (by decide) (by decide) hmem
  · cases hquery : p.query with
    | nil => simp [hquery, marked] at hmem
    | cons d query =>
      have hmem' : '#' ∈ p.query := by
        rw [hquery] at hmem ⊢
        simpa [marked] using hmem
      exact (h.query _ hmem').ne (by decide) (by decide) rfl

theorem cut_query : cut '?' (p.path ++ marked '?' p.query) = (p.path, p.query) :=
  cut_append_marked (h.not_mem_path (by decide) (by decide) (by decide)) p.query

theorem split_text : split p.text = .ok p := by
  have hscheme := h.scheme
  have hparams := h.params
  have hplain : paramSchemes.contains (String.ofList "file".toList) = false := by decide
  simp only [split, h.clean_text, splitScheme_text, h.splitAuthority_eq,
    checkBrackets_of_isCoded h.authority, checkDisguise_of_isCoded h.authority, h.cut_fragment,
    h.cut_query, hplain, Bool.false_eq_true, if_false, bind, Except.bind]
  cases p
  simp_all [pure, Except.pure]

end IsReadable

namespace IsCodedFile

variable {p : Parts} (h : p.IsCodedFile)
include h

theorem join_eq : p.join = p.text := by
  have hparams : marked ';' p.params = [] := by rw [h.params]; rfl
  have hknown : authoritySchemes.contains (String.ofList p.scheme) = true := by
    rw [h.scheme]
    decide
  have hwrites : writesAuthority { p with path := p.path } = true := by
    simp only [writesAuthority, hknown, Bool.true_and, Bool.or_eq_true, Bool.not_eq_true',
      List.isEmpty_eq_false_iff, bne_iff_ne]
    by_cases hauthority : p.authority = []
    · exact .inr (h.unshared hauthority)
    · exact .inl hauthority
  have hslash : (if p.path.isEmpty || p.path.head? == some '/' then p.path else '/' :: p.path) =
      p.path := by
    rcases h.rooted with hempty | hhead
    · simp [hempty]
    · simp [hhead]
  have hscheme : (if p.scheme.isEmpty then [] else p.scheme ++ [':']) = "file".toList ++ [':'] := by
    rw [h.scheme]
    rfl
  simp only [join, hparams, List.append_nil, hwrites, if_true, hslash, hscheme, text, tail]
  simp only [List.append_assoc, List.cons_append, List.nil_append]

theorem split_join : split p.join = .ok p := by
  rw [h.join_eq, h.toIsReadable.split_text]

end IsCodedFile

/-! ### Coding the parts of the URI of a file -/

/-- Parts of which a file's URI can be made: the authority has no slash, the path is empty or begins
with one, and without an authority it does not begin with two. -/
structure IsFile (p : Parts) : Prop where
  scheme : p.scheme = "file".toList
  params : p.params = []
  slash : '/' ∉ p.authority
  rooted : p.path = [] ∨ p.path.head? = some '/'
  unshared : p.authority = [] → p.path.take 2 ≠ ['/', '/']

/-- Parts in the form in which they are put together. -/
def coded (p : Parts) : Parts :=
  { p.map Percent.encode with path := encodePath p.path }

theorem hasDrive_cases {path : List Char} (h : hasDrive path = true) :
    ∃ letter rest, path = '/' :: letter :: ':' :: rest ∧ letter.isAlpha = true := by
  unfold hasDrive at h
  split at h
  · next letter rest => exact ⟨letter, rest, rfl, h⟩
  · cases h

theorem isPlain_of_isAlpha {c : Char} (h : c.isAlpha = true) : isPlain c = true := by
  simp [isPlain, Char.isAlphanum, h]

theorem mem_encodePath {path : List Char} {c : Char} (h : c ∈ encodePath path) :
    IsCoded c ∨ c = ':' := by
  unfold encodePath at h
  split at h
  · next hdrive =>
    obtain ⟨letter, rest, rfl, hletter⟩ := hasDrive_cases hdrive
    simp only [List.take_succ_cons, List.take_zero, List.drop_succ_cons, List.drop_zero,
      List.cons_append, List.nil_append, List.mem_cons] at h
    rcases h with rfl | rfl | rfl | h
    · exact .inl (.inl (by decide))
    · exact .inl (.inl (isPlain_of_isAlpha hletter))
    · exact .inr rfl
    · exact .inl (isCoded_of_mem_encode h)
  · exact .inl (isCoded_of_mem_encode h)

theorem encodePath_nil : encodePath [] = [] := rfl

/-- The slash that a path begins with stays, and coding the rest makes no other slash there. -/
theorem encodePath_cons_slash (path : List Char) :
    ∃ rest, encodePath ('/' :: path) = '/' :: rest ∧
      (rest.head? = some '/' → path.head? = some '/') := by
  unfold encodePath
  split
  · next hdrive =>
    obtain ⟨letter, rest, heq, hletter⟩ := hasDrive_cases hdrive
    obtain rfl := (List.cons.inj heq).2
    refine ⟨letter :: ':' :: Percent.encode rest, rfl, ?_⟩
    exact id
  · refine ⟨Percent.encode path, rfl, ?_⟩
    cases path with
    | nil => exact id
    | cons c path =>
      intro hhead
      obtain ⟨d, more, hc⟩ := exists_encodeChar_eq_cons c
      obtain rfl : d = '/' := by simpa [Percent.encode, hc] using hhead
      obtain rfl := (isCoded_of_mem_encodeChar (by rw [hc]; exact List.mem_cons_self)).2 rfl
      rfl

theorem decode_encodePath (path : List Char) : Percent.decode (encodePath path) = path := by
  unfold encodePath
  split
  · next hdrive =>
    obtain ⟨letter, rest, rfl, hletter⟩ := hasDrive_cases hdrive
    have hplain := isPlain_of_isAlpha hletter
    have hpercent : letter ≠ '%' := by
      rintro rfl
      cases hplain
    have hdecoded : Percent.decode ('/' :: letter :: ':' :: Percent.encode rest) =
        '/' :: letter :: ':' :: rest := by
      rw [decode_cons_of_lt (by decide) (by decide), decode_cons_of_lt hpercent (isPlain_lt hplain),
        decode_cons_of_lt (by decide) (by decide), decode_encode]
    exact hdecoded
  · exact decode_encode path

namespace IsFile

variable {p : Parts} (h : p.IsFile)
include h

theorem isCodedFile_coded : p.coded.IsCodedFile where
  scheme := by
    have hscheme : p.coded.scheme = Percent.encode p.scheme := rfl
    rw [hscheme, h.scheme]
    decide
  params := by
    have hparams : p.coded.params = Percent.encode p.params := rfl
    rw [hparams, h.params]
    rfl
  authority := fun _ hc => isCoded_of_mem_encode hc
  slash := fun hmem => h.slash (slash_mem_of_mem_encode hmem)
  path := fun _ hc => mem_encodePath hc
  rooted := by
    have hpath : p.coded.path = encodePath p.path := rfl
    rw [hpath]
    cases hp : p.path with
    | nil => exact .inl rfl
    | cons c path =>
      obtain rfl : c = '/' := by simpa [hp] using h.rooted
      obtain ⟨rest, hrest, -⟩ := encodePath_cons_slash path
      exact .inr (by rw [hrest]; rfl)
  unshared := by
    intro hauthority htwo
    have hempty : p.authority = [] := by
      rw [← decode_encode p.authority]
      exact congrArg Percent.decode hauthority
    have hpath : p.coded.path = encodePath p.path := rfl
    rw [hpath] at htwo
    cases hp : p.path with
    | nil => simp [hp, encodePath_nil] at htwo
    | cons c path =>
      obtain rfl : c = '/' := by simpa [hp] using h.rooted
      obtain ⟨rest, hrest, hsecond⟩ := encodePath_cons_slash path
      rw [hp, hrest] at htwo
      have hhead : rest.head? = some '/' := by
        cases rest with
        | nil => simp at htwo
        | cons d rest => simpa using htwo
      refine h.unshared hempty ?_
      cases path with
      | nil => cases hsecond hhead
      | cons d path =>
        obtain rfl : d = '/' := by simpa using hsecond hhead
        simp [hp]
  query := fun _ hc => isCoded_of_mem_encode hc
  fragment := fun _ hc => isCoded_of_mem_encode hc

theorem parse_render : parse p.render = .ok p := by
  have hrender : p.render = p.coded.join := rfl
  rw [parse, hrender, h.isCodedFile_coded.split_join]
  have hback : p.coded.map Percent.decode = p := by
    cases p
    simp [coded, map, decode_encode, decode_encodePath]
  exact congrArg Except.ok hback

end IsFile

end Parts

/-! ### Texts as values -/

theorem renderValues_str (scheme authority path params query fragment : String) :
    renderValues (.arr [.str scheme, .str authority, .str path, .str params, .str query,
      .str fragment]) = .ok (Parts.render {
        scheme := scheme.toList, authority := authority.toList, path := path.toList,
        params := params.toList, query := query.toList, fragment := fragment.toList }) := rfl

theorem partsOf_str_ofList (uri : List Char) :
    partsOf (.str (String.ofList uri)) = Parts.parse uri := by
  rw [partsOf, String.toList_ofList]

/-- The URI of a file can be made of any authority without a slash, any path that is empty or begins
with a slash, with two of them only behind an authority, and any query and fragment.  It is read
back as the parts it was made of. -/
theorem partsOf_renderValues_file (authority path query fragment : String)
    (hslash : '/' ∉ authority.toList)
    (hrooted : path = "" ∨ path.toList.head? = some '/')
    (hunshared : authority = "" → path.toList.take 2 ≠ ['/', '/']) :
    ∃ uri, renderValues (.arr [.str "file", .str authority, .str path, .str "", .str query,
        .str fragment]) = .ok uri ∧
      partsOf (.str (String.ofList uri)) = .ok {
        scheme := "file".toList, authority := authority.toList, path := path.toList, params := [],
        query := query.toList, fragment := fragment.toList } := by
  have hfile : Parts.IsFile {
      scheme := "file".toList, authority := authority.toList, path := path.toList, params := [],
      query := query.toList, fragment := fragment.toList } := {
    scheme := rfl
    params := rfl
    slash := hslash
    rooted := hrooted.imp_left (by rintro rfl; rfl)
    unshared := fun hempty => hunshared (String.toList_eq_nil_iff.1 hempty) }
  refine ⟨_, renderValues_str _ _ _ _ _ _, ?_⟩
  rw [partsOf_str_ofList, String.toList_empty, hfile.parse_render]

/-- Marks, blanks, brackets and characters beyond ASCII in every part. -/
theorem partsOf_renderValues_marks :
    '/' ∉ "[a]:℀@".toList ∧ ∃ uri,
      renderValues (.arr [.str "file", .str "[a]:℀@", .str "//C:/%2f;ß\t", .str "", .str "?#\n",
        .str "#%"]) = .ok uri ∧
      partsOf (.str (String.ofList uri)) = .ok {
        scheme := "file".toList, authority := "[a]:℀@".toList, path := "//C:/%2f;ß\t".toList,
        params := [], query := "?#\n".toList, fragment := "#%".toList } :=
  ⟨by decide, partsOf_renderValues_file "[a]:℀@" "//C:/%2f;ß\t" "?#\n" "#%" (by decide)
    (by decide) (by decide)⟩

end LangServer.Uri
