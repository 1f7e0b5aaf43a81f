import LangServer.Proofs.Uri.FilePath
import Mathlib.Data.List.TakeWhile

/-!
# The URI of a path that comes back

The path that comes back from the URI of a path has a URI again.  Whether it is the same URI depends
on how many slashes the path begins with.  A path with one slash or none, with three, or on a share
keeps its URI.  The name of a share with nothing behind it has no URI at all.  With four slashes or
more the authority is empty and the path begins with two slashes, so that the URI is written without
an authority and read with one.

Main statement: `ofPathValue_pathOf_iff`.
-/

namespace LangServer.Uri

open Percent

/-! ### Kinds of paths -/

/-- How a path with forward slashes begins. -/
inductive Kind : List Char → Prop where
  | unshared {path : List Char} (h : path.take 2 ≠ ['/', '/']) : Kind path
  | bare {name : List Char} (h : '/' ∉ name) : Kind ('/' :: '/' :: name)
  | share {host rest : List Char} (hhost : host ≠ []) (hslash : '/' ∉ host) :
      Kind ('/' :: '/' :: (host ++ '/' :: rest))
  | third {name : List Char} (h : name.head? ≠ some '/') : Kind ('/' :: '/' :: '/' :: name)
  | more {host rest : List Char} (hslash : '/' ∉ host) (hrest : rest = [] ∨ rest.head? = some '/') :
      Kind ('/' :: '/' :: '/' :: '/' :: (host ++ rest))

theorem exists_first_name (path : List Char) :
    ∃ name rest, path = name ++ rest ∧ '/' ∉ name ∧ (rest = [] ∨ rest.head? = some '/') := by
  refine ⟨path.takeWhile (· != '/'), path.dropWhile (· != '/'),
    List.takeWhile_append_dropWhile.symm, ?_, ?_⟩
  · intro hmem
    have hslash := List.mem_takeWhile_imp hmem
    simp at hslash
  · cases hrest : path.dropWhile (· != '/') with
    | nil => exact .inl rfl
    | cons c rest =>
      have hstop := List.head?_dropWhile_not (· != '/') path
      rw [hrest] at hstop
      exact .inr (by simpa using hstop)

theorem exists_cons_of_head? {path : List Char} {c : Char} (h : path.head? = some c) :
    ∃ rest, path = c :: rest := by
  cases path with
  | nil => cases h
  | cons d rest => exact ⟨rest, by rw [Option.some.inj h]⟩

theorem kind (path : List Char) : Kind path := by
  by_cases htwo : path.take 2 = ['/', '/']
  · obtain ⟨host, rest, hname, hslash, hrest⟩ := exists_first_name (path.drop 2)
    have hpath : path = '/' :: '/' :: (host ++ rest) := by
      calc path = path.take 2 ++ path.drop 2 := (List.take_append_drop 2 path).symm
        _ = ['/', '/'] ++ (host ++ rest) := by rw [htwo, hname]
    rcases hrest with rfl | hhead
    · rw [hpath, List.append_nil]
      exact .bare hslash
    · obtain ⟨name, rfl⟩ := exists_cons_of_head? hhead
      rw [hpath]
      by_cases hhost : host = []
      · -- The authority is empty: the third slash ends it.
        subst hhost
        by_cases hname : name.head? = some '/'
        · obtain ⟨more, rfl⟩ := exists_cons_of_head? hname
          obtain ⟨host, rest, rfl, hslash, hrest⟩ := exists_first_name more
          exact .more hslash hrest
        · exact .third hname
      · exact .share hhost hslash
  · exact .unshared htwo

/-! ### URIs of each kind -/

theorem encode_append (a b : List Char) : encode (a ++ b) = encode a ++ encode b :=
  List.flatMap_append

theorem encode_injective {a b : List Char} (h : encode a = encode b) : a = b := by
  rw [← decode_encode a, h, decode_encode]

/-- The URI of an authority and a path, both coded. -/
def written (authority path : List Char) : List Char :=
  "file".toList ++ ':' :: '/' :: '/' :: (authority ++ path)

theorem written_inj {a b a' b' : List Char} (h : written a b = written a' b') :
    a ++ b = a' ++ b' := by
  simpa [written] using h

theorem render_of_isFile {authority path : List Char} (h : (fileParts authority path).IsFile) :
    (fileParts authority path).render = written (encode authority) (encodePath path) := by
  have hrender : (fileParts authority path).render = (fileParts authority path).coded.text :=
    h.isCodedFile_coded.join_eq
  have htail : (fileParts authority path).coded.tail = encodePath path ++ [] ++ [] := rfl
  rw [hrender, Parts.text, htail, List.append_nil, List.append_nil]
  rfl

theorem encode_cons_slash (path : List Char) : encode ('/' :: path) = '/' :: encode path := rfl

theorem hasDrive_slashes (path : List Char) : hasDrive ('/' :: '/' :: path) = false := by
  rw [← Bool.not_eq_true, hasDrive_iff]
  rintro ⟨letter, rest, heq, halpha⟩
  obtain rfl : '/' = letter := (List.cons.inj (List.cons.inj heq).2).1
  cases halpha

/-- A path that begins with two slashes is written without its empty authority. -/
theorem render_slashes (path : List Char) :
    (fileParts [] ('/' :: '/' :: path)).render = written [] (encode path) := by
  have hcoded : encodePath ('/' :: '/' :: path) = '/' :: '/' :: encode path := by
    rw [encodePath, hasDrive_slashes, if_neg Bool.false_ne_true, encode_cons_slash,
      encode_cons_slash]
  have hcode : (fileParts [] ('/' :: '/' :: path)).coded =
      fileParts [] ('/' :: '/' :: encode path) := by
    rw [← hcoded]
    rfl
  have hrender : (fileParts [] ('/' :: '/' :: path)).render =
      (fileParts [] ('/' :: '/' :: path)).coded.join := rfl
  rw [hrender, hcode]
  simp [Parts.join, Parts.writesAuthority, fileParts, Parts.marked, written]

theorem fileUri_bare {name : List Char} (h : '/' ∉ name) :
    ∃ f, fileUri ('/' :: '/' :: name) = .error f := by
  have hcontains : name.contains '/' = false := by simpa using h
  refine ⟨.badValue "substring not found", ?_⟩
  simp only [fileUri, splitShare, hcontains]
  rfl

theorem fileUri_third (name : List Char) :
    fileUri ('/' :: '/' :: '/' :: name) = .ok (fileParts [] (lowered ('/' :: name))).render :=
  fileUri_share List.not_mem_nil name

theorem fileUri_more (name : List Char) :
    fileUri ('/' :: '/' :: '/' :: '/' :: name) = .ok (written [] (encode name)) := by
  rw [fileUri_third, lowered_of_not_hasDrive (hasDrive_slashes name), render_slashes]

/-- It is read as if the name behind the slashes were an authority. -/
theorem parse_written {host rest : List Char} (hslash : '/' ∉ host)
    (hrest : rest = [] ∨ rest.head? = some '/') :
    Parts.parse (written [] (encode (host ++ rest))) = .ok (fileParts host rest) := by
  have hreadable : (fileParts (encode host) (encode rest)).IsReadable := {
    scheme := rfl
    params := rfl
    authority := fun _ hc => isCoded_of_mem_encode hc
    slash := fun hmem => hslash (slash_mem_of_mem_encode hmem)
    path := fun _ hc => .inl (isCoded_of_mem_encode hc)
    rooted := by
      rcases hrest with rfl | hhead
      · exact .inl rfl
      · obtain ⟨name, rfl⟩ := exists_cons_of_head? hhead
        exact .inr rfl
    query := fun _ hc => absurd hc List.not_mem_nil
    fragment := fun _ hc => absurd hc List.not_mem_nil }
  have htext : written [] (encode (host ++ rest)) =
      (fileParts (encode host) (encode rest)).text := by
    have htail : (fileParts (encode host) (encode rest)).tail = encode rest ++ [] ++ [] := rfl
    rw [Parts.text, htail, List.append_nil, List.append_nil, encode_append]
    rfl
  have hback : (fileParts (encode host) (encode rest)).map decode = fileParts host rest := by
    simp only [fileParts, Parts.map, decode_encode]
    rfl
  rw [Parts.parse, htext, hreadable.split_text]
  exact congrArg Except.ok hback

/-! ### The second URI -/

theorem lowered_lowered (path : List Char) : lowered (lowered path) = lowered path := by
  cases h : hasDrive path with
  | false => rw [lowered_of_not_hasDrive h, lowered_of_not_hasDrive h]
  | true =>
    obtain ⟨letter, rest, rfl, hletter⟩ := hasDrive_iff.1 h
    obtain ⟨hlower, htwice⟩ := toLower_of_isAlpha hletter
    rw [lowered_drive hletter, lowered_drive hlower, htwice]

theorem length_lowered (path : List Char) : (lowered path).length = path.length := by
  cases h : hasDrive path with
  | false => rw [lowered_of_not_hasDrive h]
  | true =>
    obtain ⟨letter, rest, rfl, hletter⟩ := hasDrive_iff.1 h
    rw [lowered_drive hletter]
    rfl

theorem rooted_of_ne {c : Char} (h : c ≠ '/') (rest : List Char) :
    rooted (c :: rest) = '/' :: c :: rest := by
  unfold rooted
  split
  · next heq => exact absurd (List.cons.inj heq).1 h
  · rfl

theorem toLower_ne_slash {c : Char} (h : c.isAlpha = true) : c.toLower ≠ '/' := by
  intro heq
  have halpha := (toLower_of_isAlpha h).1
  rw [heq] at halpha
  cases halpha

theorem lowered_rooted_unrooted {path : List Char} (hroot : path.head? = some '/') :
    lowered (rooted (unrooted path)) = lowered path := by
  cases h : hasDrive path with
  | false =>
    obtain ⟨rest, rfl⟩ := exists_cons_of_head? hroot
    rw [unrooted_of_not_hasDrive h]
    rfl
  | true =>
    obtain ⟨letter, rest, rfl, hletter⟩ := hasDrive_iff.1 h
    rw [unrooted_drive hletter, rooted_of_ne (toLower_ne_slash hletter), ← lowered_drive hletter,
      lowered_lowered]

theorem take_unrooted_ne {path : List Char} (hpath : path.take 2 ≠ ['/', '/']) :
    (unrooted path).take 2 ≠ ['/', '/'] := by
  cases h : hasDrive path with
  | false =>
    rw [unrooted_of_not_hasDrive h]
    exact hpath
  | true =>
    obtain ⟨letter, rest, rfl, hletter⟩ := hasDrive_iff.1 h
    rw [unrooted_drive hletter]
    intro heq
    exact toLower_ne_slash hletter (List.cons.inj heq).1

theorem fileUri_filePath {host path : List Char} (hslash : '/' ∉ host)
    (hroot : path.head? = some '/') (hunshared : host = [] → path.take 2 ≠ ['/', '/']) :
    fileUri (fileParts host path).filePath = .ok (fileParts host (lowered path)).render := by
  obtain ⟨rest, rfl⟩ := exists_cons_of_head? hroot
  by_cases hhost : host = []
  · subst hhost
    rw [filePath_unshared (.inl rfl), fileUri_of_take_ne (take_unrooted_ne (hunshared rfl)),
      lowered_rooted_unrooted hroot]
  · rw [filePath_share hhost (List.cons_ne_nil _ _), fileUri_share hslash]

/-- The URI of the path that comes back is the URI itself. -/
def Settles (path : List Char) : Prop :=
  ∃ uri p, fileUri path = .ok uri ∧ Parts.parse uri = .ok p ∧ fileUri p.filePath = .ok uri

theorem settles_of_fileUri {path host rest : List Char}
    (huri : fileUri path = .ok (fileParts host (lowered rest)).render) (hslash : '/' ∉ host)
    (hroot : rest.head? = some '/') (hunshared : host = [] → rest.take 2 ≠ ['/', '/']) :
    Settles path := by
  have hroot' : (lowered rest).head? = some '/' := by
    rw [head?_lowered]
    exact hroot
  refine ⟨_, _, huri, (isFile_lowered hslash hroot hunshared).parse_render, ?_⟩
  rw [fileUri_filePath hslash hroot' fun hempty => take_lowered_ne (hunshared hempty),
    lowered_lowered]

/-! ### Four slashes and more -/

theorem encodePath_lowered_iff (path : List Char) :
    encodePath (lowered path) = encode path ↔ hasDrive path = false := by
  cases h : hasDrive path with
  | false =>
    rw [lowered_of_not_hasDrive h, encodePath, h, if_neg Bool.false_ne_true]
    simp
  | true =>
    obtain ⟨letter, rest, rfl, hletter⟩ := hasDrive_iff.1 h
    have hdrive : encodePath ('/' :: letter.toLower :: ':' :: rest) =
        '/' :: letter.toLower :: ':' :: encode rest := by
      have hlower : hasDrive ('/' :: letter.toLower :: ':' :: rest) = true :=
        (toLower_of_isAlpha hletter).1
      rw [encodePath, if_pos hlower]
      rfl
    have hcoded : encode ('/' :: letter :: ':' :: rest) =
        '/' :: letter :: '%' :: '3' :: 'A' :: encode rest := by
      have hplain : encodeChar letter = [letter] := by
        rw [encodeChar, if_pos (Parts.isPlain_of_isAlpha hletter)]
      have hcolon : encodeChar ':' = ['%', '3', 'A'] := by decide
      simp only [encode, List.flatMap_cons, hplain, hcolon]
      rfl
    rw [lowered_drive hletter, hdrive, hcoded]
    simp

/-- The URI of a path that begins with two slashes is not that path behind an empty authority. -/
theorem fileUri_ne_written {path : List Char} (h : path.head? = some '/')
    (htwo : path.take 2 = ['/', '/']) : fileUri path ≠ .ok (written [] (encode path)) := by
  intro huri
  have hread : Parts.parse (written [] (encode path)) = .ok (fileParts [] path) :=
    @parse_written [] path List.not_mem_nil (.inr h)
  cases kind path with
  | unshared hne => exact hne htwo
  | bare hslash =>
    obtain ⟨f, hf⟩ := fileUri_bare hslash
    rw [hf] at huri
    cases huri
  | @share host rest hhost hslash =>
    have hfile : (fileParts host (lowered ('/' :: rest))).IsFile :=
      isFile_lowered hslash rfl fun hempty => absurd hempty hhost
    rw [fileUri_share hslash] at huri
    rw [← Except.ok.inj huri, hfile.parse_render] at hread
    exact hhost (congrArg Parts.authority (Except.ok.inj hread))
  | @third name hname =>
    have hfile : (fileParts [] (lowered ('/' :: name))).IsFile :=
      isFile_lowered List.not_mem_nil rfl fun _ => take_cons_slash_ne hname
    rw [fileUri_third] at huri
    rw [← Except.ok.inj huri, hfile.parse_render] at hread
    have hlength := congrArg (List.length ∘ Parts.path) (Except.ok.inj hread)
    have hlowered := length_lowered ('/' :: name)
    simp only [Function.comp, fileParts, List.length_cons] at hlength hlowered
    omega
  | @more host rest hslash hrest =>
    rw [fileUri_more] at huri
    have hcode := encode_injective (written_inj (Except.ok.inj huri))
    have hlength := congrArg List.length hcode
    simp only [List.length_cons] at hlength
    omega

theorem settles_more_iff {host rest : List Char} (hslash : '/' ∉ host)
    (hrest : rest = [] ∨ rest.head? = some '/') :
    Settles ('/' :: '/' :: '/' :: '/' :: (host ++ rest)) ↔
      rest ≠ [] ∧ hasDrive rest = false ∧ (host = [] → rest.take 2 ≠ ['/', '/']) := by
  have hsecond : Settles ('/' :: '/' :: '/' :: '/' :: (host ++ rest)) ↔
      fileUri (fileParts host rest).filePath = .ok (written [] (encode (host ++ rest))) := by
    unfold Settles
    rw [fileUri_more]
    constructor
    · rintro ⟨uri, p, huri, hp, hback⟩
      obtain rfl := Except.ok.inj huri
      rw [parse_written hslash hrest] at hp
      rw [Except.ok.inj hp]
      exact hback
    · exact fun hback => ⟨_, _, rfl, parse_written hslash hrest, hback⟩
  rw [hsecond]
  rcases hrest with rfl | hhead
  · -- Nothing comes back of a name alone, and the URI of nothing has a slash.
    have hroot : fileUri [] = .ok (written [] (encode ['/'])) := rfl
    rw [filePath_unshared (.inr rfl), List.append_nil]
    constructor
    · intro heq
      have hname : fileUri [] = .ok (written [] (encode host)) := heq
      rw [hroot] at hname
      have hhost := encode_injective (written_inj (Except.ok.inj hname))
      exact absurd (hhost ▸ List.mem_cons_self) hslash
    · exact fun hne => absurd rfl hne.1
  by_cases hunshared : host = [] → rest.take 2 ≠ ['/', '/']
  · rw [fileUri_filePath hslash hhead hunshared,
      render_of_isFile (isFile_lowered hslash hhead hunshared), encode_append,
      ← encodePath_lowered_iff]
    constructor
    · intro heq
      have hcode : encode host ++ encodePath (lowered rest) = encode host ++ encode rest :=
        written_inj (Except.ok.inj heq)
      refine ⟨?_, List.append_cancel_left hcode, hunshared⟩
      rintro rfl
      cases hhead
    · rintro ⟨-, hcode, -⟩
      rw [hcode]
      rfl
  · -- Six slashes or more: what comes back begins with two and is read as the path of a share.
    obtain ⟨rfl, htwo⟩ : host = [] ∧ rest.take 2 = ['/', '/'] := by simpa using hunshared
    have hdrive : hasDrive rest = false := by
      rw [← List.take_append_drop 2 rest, htwo]
      exact hasDrive_slashes _
    rw [filePath_unshared (.inl rfl), unrooted_of_not_hasDrive hdrive]
    constructor
    · exact fun heq => absurd heq (fileUri_ne_written hhead htwo)
    · exact fun hne => absurd hne.2.2 hunshared

/-! ### All paths -/

/-- Whether the URI of a path with forward slashes is the URI of the path that comes back. -/
def isStable : List Char → Bool
  | '/' :: '/' :: '/' :: '/' :: '/' :: '/' :: _ => false
  | '/' :: '/' :: '/' :: '/' :: '/' :: name => !hasDrive ('/' :: name)
  | '/' :: '/' :: '/' :: '/' :: name =>
    name.contains '/' && !hasDrive (name.dropWhile (· != '/'))
  | '/' :: '/' :: '/' :: _ => true
  | '/' :: '/' :: name => name.contains '/'
  | _ => true

theorem isStable_unshared {path : List Char} (h : path.take 2 ≠ ['/', '/']) :
    isStable path = true := by
  unfold isStable
  split
  all_goals first
    | exact absurd rfl h
    | rfl

theorem isStable_two {name : List Char} (h : name.head? ≠ some '/') :
    isStable ('/' :: '/' :: name) = name.contains '/' := by
  cases name with
  | nil => rfl
  | cons c name =>
    have hc : c ≠ '/' := fun heq => h (congrArg some heq)
    simp [isStable, hc]

theorem isStable_third {name : List Char} (h : name.head? ≠ some '/') :
    isStable ('/' :: '/' :: '/' :: name) = true := by
  cases name with
  | nil => rfl
  | cons c name =>
    have hc : c ≠ '/' := fun heq => h (congrArg some heq)
    simp [isStable, hc]

theorem contains_slash {host rest : List Char} (hslash : '/' ∉ host)
    (hrest : rest = [] ∨ rest.head? = some '/') :
    (host ++ rest).contains '/' = true ↔ rest ≠ [] := by
  rcases hrest with rfl | hhead
  · simp [hslash]
  · obtain ⟨name, rfl⟩ := exists_cons_of_head? hhead
    simp

theorem dropWhile_name {host rest : List Char} (hslash : '/' ∉ host)
    (hrest : rest = [] ∨ rest.head? = some '/') :
    (host ++ rest).dropWhile (· != '/') = rest := by
  rw [List.dropWhile_append_of_pos (bne_of_not_mem hslash)]
  rcases hrest with rfl | hhead
  · rfl
  · obtain ⟨name, rfl⟩ := exists_cons_of_head? hhead
    simp

theorem isStable_more {host rest : List Char} (hslash : '/' ∉ host)
    (hrest : rest = [] ∨ rest.head? = some '/') :
    isStable ('/' :: '/' :: '/' :: '/' :: (host ++ rest)) = true ↔
      rest ≠ [] ∧ hasDrive rest = false ∧ (host = [] → rest.take 2 ≠ ['/', '/']) := by
  cases host with
  | nil =>
    rcases hrest with rfl | hhead
    · simp [isStable]
    · obtain ⟨name, rfl⟩ := exists_cons_of_head? hhead
      cases name with
      | nil => simp [isStable, hasDrive]
      | cons c name =>
        by_cases hc : c = '/'
        · subst hc
          simp [isStable]
        · simp [isStable, hc]
  | cons c host =>
    have hc : c ≠ '/' := fun heq => hslash (heq ▸ List.mem_cons_self)
    have hname : isStable ('/' :: '/' :: '/' :: '/' :: (c :: host ++ rest)) =
        ((c :: host ++ rest).contains '/' &&
          !hasDrive ((c :: host ++ rest).dropWhile (· != '/'))) := by
      simp [isStable, hc]
    rw [hname, dropWhile_name hslash hrest, Bool.and_eq_true, contains_slash hslash hrest]
    simp

theorem settles_iff_isStable (path : List Char) : Settles path ↔ isStable path = true := by
  cases kind path with
  | unshared h =>
    have hsettles : Settles path := settles_of_fileUri (fileUri_of_take_ne h) List.not_mem_nil
      (head?_rooted path) fun _ => take_rooted_ne h
    simp only [hsettles, isStable_unshared h]
  | @bare name h =>
    have hhead : name.head? ≠ some '/' := fun hhead => h (List.mem_of_mem_head? hhead)
    have hcontains : name.contains '/' = false := by simpa using h
    obtain ⟨f, hf⟩ := fileUri_bare h
    rw [isStable_two hhead, hcontains]
    constructor
    · rintro ⟨uri, p, huri, -⟩
      rw [hf] at huri
      cases huri
    · exact fun heq => absurd heq Bool.false_ne_true
  | @share host rest hhost hslash =>
    have hsettles := settles_of_fileUri (fileUri_share hslash rest) hslash rfl
      fun hempty => absurd hempty hhost
    have hhead : (host ++ '/' :: rest).head? ≠ some '/' := by
      intro hhead
      cases host with
      | nil => exact hhost rfl
      | cons c host => exact hslash (List.mem_of_mem_head? hhead)
    rw [isStable_two hhead]
    simp [hsettles]
  | @third name h =>
    have hsettles := settles_of_fileUri (fileUri_third name) List.not_mem_nil rfl
      fun _ => take_cons_slash_ne h
    simp only [hsettles, isStable_third h]
  | more hslash hrest => rw [settles_more_iff hslash hrest, isStable_more hslash hrest]

/-! ### Backslashes -/

theorem backslash_not_mem_forward (path : List Char) : '\\' ∉ forward true path := by
  intro hmem
  obtain ⟨c, -, hc⟩ := List.mem_map.1 hmem
  split at hc
  · cases hc
  · next hne => exact hne hc

theorem forward_native {windows : Bool} {path : List Char} (h : windows = true → '\\' ∉ path) :
    forward windows (native windows path) = path := by
  cases windows with
  | false => rfl
  | true =>
    have hpath := h rfl
    have hback : forward true (native true path) =
        path.map ((fun c => if c = '\\' then '/' else c) ∘ fun c => if c = '/' then '\\' else c) :=
      List.map_map
    have hsame : path.map ((fun c => if c = '\\' then '/' else c) ∘
        fun c => if c = '/' then '\\' else c) = path.map id := by
      refine List.map_congr_left fun c hc => ?_
      have hne : c ≠ '\\' := ne_of_mem_of_not_mem hc hpath
      by_cases hslash : c = '/'
      · simp [hslash]
      · simp [hslash, hne]
    rw [hback, hsame, List.map_id]

theorem backslash_not_mem_lowered {path : List Char} (h : '\\' ∉ path) : '\\' ∉ lowered path := by
  cases hdrive : hasDrive path with
  | false =>
    rw [lowered_of_not_hasDrive hdrive]
    exact h
  | true =>
    obtain ⟨letter, rest, rfl, hletter⟩ := hasDrive_iff.1 hdrive
    have hlower : letter.toLower ≠ '\\' := by
      intro heq
      have halpha := (toLower_of_isAlpha hletter).1
      rw [heq] at halpha
      cases halpha
    rw [lowered_drive hletter]
    simp only [List.mem_cons, not_or] at h ⊢
    exact ⟨h.1, hlower.symm, h.2.2⟩

theorem mem_lowered_of_mem_unrooted {path : List Char} {c : Char} (h : c ∈ unrooted path) :
    c ∈ lowered path := by
  cases hdrive : hasDrive path with
  | false =>
    rw [unrooted_of_not_hasDrive hdrive] at h
    rw [lowered_of_not_hasDrive hdrive]
    exact h
  | true =>
    obtain ⟨letter, rest, rfl, hletter⟩ := hasDrive_iff.1 hdrive
    rw [unrooted_drive hletter] at h
    rw [lowered_drive hletter]
    exact List.mem_cons_of_mem _ h

theorem backslash_not_mem_rooted {path : List Char} (h : '\\' ∉ path) : '\\' ∉ rooted path := by
  unfold rooted
  split
  · exact h
  · simpa using h

theorem backslash_not_mem_filePath {host rest : List Char} (hhost : '\\' ∉ host)
    (hrest : '\\' ∉ rest) : '\\' ∉ (fileParts host rest).filePath := by
  by_cases hempty : host = [] ∨ rest = []
  · rw [filePath_unshared hempty]
    exact fun hmem => backslash_not_mem_lowered hrest (mem_lowered_of_mem_unrooted hmem)
  · rw [not_or] at hempty
    rw [filePath_share hempty.1 hempty.2]
    simp [hhost, hrest]

/-- The URI of a path is read as an authority and a path, and no backslash comes in on the way. -/
theorem parse_fileUri {path uri : List Char} (h : fileUri path = .ok uri) :
    ∃ host rest, Parts.parse uri = .ok (fileParts host rest) ∧
      ('\\' ∉ path → '\\' ∉ host ∧ '\\' ∉ rest) := by
  cases kind path with
  | unshared hne =>
    have hfile := isFile_lowered List.not_mem_nil (head?_rooted path) fun _ => take_rooted_ne hne
    rw [fileUri_of_take_ne hne] at h
    rw [← Except.ok.inj h]
    exact ⟨_, _, hfile.parse_render, fun hpath =>
      ⟨List.not_mem_nil, backslash_not_mem_lowered (backslash_not_mem_rooted hpath)⟩⟩
  | bare hslash =>
    obtain ⟨f, hf⟩ := fileUri_bare hslash
    rw [hf] at h
    cases h
  | @share host rest hhost hslash =>
    have hfile : (fileParts host (lowered ('/' :: rest))).IsFile :=
      isFile_lowered hslash rfl fun hempty => absurd hempty hhost
    rw [fileUri_share hslash] at h
    rw [← Except.ok.inj h]
    refine ⟨_, _, hfile.parse_render, fun hpath => ?_⟩
    simp only [List.mem_cons, List.mem_append, not_or] at hpath
    obtain ⟨-, -, hhost, hrest⟩ := hpath
    exact ⟨hhost, backslash_not_mem_lowered (by simpa using hrest)⟩
  | @third name hname =>
    have hfile : (fileParts [] (lowered ('/' :: name))).IsFile :=
      isFile_lowered List.not_mem_nil rfl fun _ => take_cons_slash_ne hname
    rw [fileUri_third] at h
    rw [← Except.ok.inj h]
    refine ⟨_, _, hfile.parse_render, fun hpath => ⟨List.not_mem_nil, ?_⟩⟩
    simp only [List.mem_cons, not_or] at hpath
    exact backslash_not_mem_lowered (by simpa using hpath.2.2)
  | @more host rest hslash hrest =>
    rw [fileUri_more] at h
    rw [← Except.ok.inj h]
    refine ⟨host, rest, parse_written hslash hrest, fun hpath => ?_⟩
    simpa using hpath

/-! ### Texts as values -/

theorem settles_forward_iff (windows : Bool) (path : String) :
    Settles (forward windows path.toList) ↔
      ∃ uri back, ofPathValue windows (.str path) = .ok uri ∧
        pathOf windows (.str (String.ofList uri)) = .ok back ∧
        ofPathValue windows (.str back) = .ok uri := by
  have hagain : ∀ {uri p}, fileUri (forward windows path.toList) = .ok uri →
      Parts.parse uri = .ok p →
      ofPathValue windows (.str (String.ofList (native windows p.filePath))) =
        fileUri p.filePath := by
    intro uri p huri hp
    obtain ⟨host, rest, hparse, hplain⟩ := parse_fileUri huri
    obtain rfl := Except.ok.inj (hparse.symm.trans hp)
    have hback : windows = true → '\\' ∉ (fileParts host rest).filePath := by
      rintro rfl
      obtain ⟨hhost, hrest⟩ := hplain (backslash_not_mem_forward _)
      exact backslash_not_mem_filePath hhost hrest
    rw [ofPathValue_str, String.toList_ofList, forward_native hback]
  constructor
  · rintro ⟨uri, p, huri, hp, hsame⟩
    refine ⟨uri, _, (ofPathValue_str windows path).trans huri, pathOf_of_parse hp windows, ?_⟩
    rw [hagain huri hp]
    exact hsame
  · rintro ⟨uri, back, huri, hback, hsame⟩
    rw [ofPathValue_str] at huri
    obtain ⟨host, rest, hparse, -⟩ := parse_fileUri huri
    rw [pathOf_of_parse hparse] at hback
    rw [← Except.ok.inj hback, hagain huri hparse] at hsame
    exact ⟨uri, _, huri, hparse, hsame⟩

theorem fileUri_fails_iff (path : List Char) :
    (∃ f, fileUri path = .error f) ↔ ∃ name, '/' ∉ name ∧ path = '/' :: '/' :: name := by
  constructor
  · rintro ⟨f, hf⟩
    cases kind path with
    | unshared h =>
      rw [fileUri_of_take_ne h] at hf
      cases hf
    | @bare name h => exact ⟨name, h, rfl⟩
    | share hhost hslash =>
      rw [fileUri_share hslash] at hf
      cases hf
    | third h =>
      rw [fileUri_third] at hf
      cases hf
    | more hslash hrest =>
      rw [fileUri_more] at hf
      cases hf
  · rintro ⟨name, hname, rfl⟩
    exact fileUri_bare hname

/-- A path has no URI exactly if it is the name of a share with nothing behind it.  Its URI is that
of the path which comes back exactly if `isStable` says so of the path with forward slashes. -/
theorem ofPathValue_pathOf_iff (windows : Bool) (path : String) :
    ((∃ f, ofPathValue windows (.str path) = .error f) ↔
      ∃ name, '/' ∉ name ∧ forward windows path.toList = '/' :: '/' :: name) ∧
    ((∃ uri back, ofPathValue windows (.str path) = .ok uri ∧
        pathOf windows (.str (String.ofList uri)) = .ok back ∧
        ofPathValue windows (.str back) = .ok uri) ↔
      isStable (forward windows path.toList) = true) := by
  constructor
  · rw [ofPathValue_str]
    exact fileUri_fails_iff _
  · rw [← settles_forward_iff]
    exact settles_iff_isStable _

/-- The name of a share has no URI, and the URI of a path with four slashes leads to nothing. -/
theorem not_settles_slashes :
    (¬ ∃ uri, ofPathValue false (.str "//x") = .ok uri) ∧
    ¬ ∃ uri back, ofPathValue false (.str "////a") = .ok uri ∧
      pathOf false (.str (String.ofList uri)) = .ok back ∧
      ofPathValue false (.str back) = .ok uri := by
  constructor
  · rintro ⟨uri, huri⟩
    obtain ⟨f, hf⟩ := (fileUri_fails_iff "//x".toList).2 ⟨['x'], by decide, by decide⟩
    rw [ofPathValue_str] at huri
    cases hf.symm.trans huri
  · rw [← settles_forward_iff, settles_iff_isStable]
    decide

end LangServer.Uri
