import LangServer.Proofs.Uri.RoundTrip

/-!
# The way of a path through a URI

A path is made into the URI of a file and the URI into a path again.  What comes back is the path
itself, whatever characters it holds, up to its first few: a slash is put in front of a path that
has none, a drive letter is written in lower case, and the slash in front of a drive goes, unless
the drive stands on a share.

Main statement: `returns_ofPathValue`.
-/

namespace LangServer.Uri

/-! ### Slashes and backslashes -/

/-- A path with slashes where the machine writes backslashes. -/
def forward (windows : Bool) (path : List Char) : List Char :=
  if windows then replaceChar '\\' '/' path else path

/-- A path as the machine writes it. -/
def native (windows : Bool) (path : List Char) : List Char :=
  if windows then replaceChar '/' '\\' path else path

/-! ### Drives -/

/-- A path with a slash in front. -/
def rooted : List Char → List Char
  | '/' :: rest => '/' :: rest
  | path => '/' :: path

/-- A path whose drive letter, if it begins with a drive, is written in lower case. -/
def lowered : List Char → List Char
  | '/' :: letter :: ':' :: rest =>
    if letter.isAlpha then '/' :: letter.toLower :: ':' :: rest else '/' :: letter :: ':' :: rest
  | path => path

/-- A path without the slash in front of a drive, whose letter is written in lower case. -/
def unrooted : List Char → List Char
  | '/' :: letter :: ':' :: rest =>
    if letter.isAlpha then letter.toLower :: ':' :: rest else '/' :: letter :: ':' :: rest
  | path => path

theorem hasDrive_iff {path : List Char} :
    hasDrive path = true ↔
      ∃ letter rest, path = '/' :: letter :: ':' :: rest ∧ letter.isAlpha = true := by
  constructor
  · exact Parts.hasDrive_cases
  · rintro ⟨letter, rest, rfl, hletter⟩
    exact hletter

theorem toLower_of_isAlpha {c : Char} (h : c.isAlpha = true) :
    c.toLower.isAlpha = true ∧ c.toLower.toLower = c.toLower := by
  have hall : ∀ n < 0x80, (Char.ofNat n).isAlpha = true → (Char.ofNat n).toLower.isAlpha = true ∧
      (Char.ofNat n).toLower.toLower = (Char.ofNat n).toLower := by decide
  have hlt : c.toNat < 0x80 := Percent.isPlain_lt (Parts.isPlain_of_isAlpha h)
  have hc := hall c.toNat hlt
  rw [Char.ofNat_toNat] at hc
  exact hc h

theorem lowered_drive {letter : Char} (h : letter.isAlpha = true) (rest : List Char) :
    lowered ('/' :: letter :: ':' :: rest) = '/' :: letter.toLower :: ':' :: rest := by
  simp only [lowered, if_pos h]

theorem unrooted_drive {letter : Char} (h : letter.isAlpha = true) (rest : List Char) :
    unrooted ('/' :: letter :: ':' :: rest) = letter.toLower :: ':' :: rest := by
  simp only [unrooted, if_pos h]

theorem lowered_of_not_hasDrive {path : List Char} (h : hasDrive path = false) :
    lowered path = path := by
  unfold lowered
  split
  · next letter rest =>
    have hletter : letter.isAlpha = false := h
    rw [hletter, if_neg Bool.false_ne_true]
  · rfl

theorem unrooted_of_not_hasDrive {path : List Char} (h : hasDrive path = false) :
    unrooted path = path := by
  unfold unrooted
  split
  · next letter rest =>
    have hletter : letter.isAlpha = false := h
    rw [hletter, if_neg Bool.false_ne_true]
  · rfl

theorem lowerDrive_eq (path : List Char) : lowerDrive path = lowered path := by
  cases h : hasDrive path with
  | false => rw [lowered_of_not_hasDrive h, lowerDrive, h, if_neg Bool.false_ne_true]
  | true =>
    obtain ⟨letter, rest, rfl, hletter⟩ := hasDrive_iff.1 h
    rw [lowered_drive hletter, lowerDrive, if_pos h]
    rfl

theorem ensureSlash_eq (path : List Char) : ensureSlash path = rooted path := by
  unfold rooted
  split
  · rfl
  · next hpath =>
    have hhead : ¬ path.head? = some '/' := by
      intro hhead
      cases path with
      | nil => cases hhead
      | cons c rest =>
        obtain rfl : c = '/' := by simpa using hhead
        exact hpath rest rfl
    rw [ensureSlash, if_neg hhead]

theorem unrooted_lowered (path : List Char) : unrooted (lowered path) = unrooted path := by
  cases h : hasDrive path with
  | false => rw [lowered_of_not_hasDrive h]
  | true =>
    obtain ⟨letter, rest, rfl, hletter⟩ := hasDrive_iff.1 h
    obtain ⟨hlower, htwice⟩ := toLower_of_isAlpha hletter
    rw [lowered_drive hletter, unrooted_drive hletter, unrooted_drive hlower, htwice]

/-! ### Parts of the URI of a path -/

/-- The parts of the URI of a file. -/
def fileParts (authority path : List Char) : Parts :=
  { scheme := "file".toList, authority, path }

theorem isFile_fileParts {authority path : List Char} (hslash : '/' ∉ authority)
    (hrooted : path = [] ∨ path.head? = some '/')
    (hunshared : authority = [] → path.take 2 ≠ ['/', '/']) :
    (fileParts authority path).IsFile where
  scheme := rfl
  params := rfl
  slash := hslash
  rooted := hrooted
  unshared := hunshared

theorem filePath_share {host path : List Char} (hhost : host ≠ []) (hpath : path ≠ []) :
    (fileParts host path).filePath = '/' :: '/' :: (host ++ path) := by
  simp [Parts.filePath, fileParts, hhost, hpath]

theorem filePath_unshared {host path : List Char} (h : host = [] ∨ path = []) :
    (fileParts host path).filePath = unrooted path := by
  have hcond : (!host.isEmpty && !path.isEmpty && "file".toList == "file".toList) = false := by
    rcases h with rfl | rfl
    · rfl
    · simp
  have hpath : (fileParts host path).filePath =
      if hasDrive path then ((path.drop 1).take 1).map Char.toLower ++ path.drop 2 else path := by
    simp only [Parts.filePath, fileParts, hcond, Bool.false_eq_true, if_false]
    rfl
  rw [hpath]
  cases hdrive : hasDrive path with
  | false => rw [unrooted_of_not_hasDrive hdrive, if_neg Bool.false_ne_true]
  | true =>
    obtain ⟨letter, rest, rfl, hletter⟩ := hasDrive_iff.1 hdrive
    rw [unrooted_drive hletter]
    rfl

/-- The URI of a path with forward slashes. -/
def fileUri (path : List Char) : Outcome (List Char) :=
  (splitShare path).map fun s => (fileParts s.2 (lowered (rooted s.1))).render

theorem ofPath_eq (windows : Bool) (path : List Char) :
    ofPath windows path = fileUri (forward windows path) := by
  have hrun : ofPath windows path = ((splitShare (forward windows path)).bind fun s =>
      .ok (lowerDrive (ensureSlash s.1), s.2)).bind fun s => .ok (fileParts s.2 s.1).render := rfl
  rw [hrun, fileUri]
  cases splitShare (forward windows path) with
  | error f => rfl
  | ok s => simp only [Except.bind, Except.map, lowerDrive_eq, ensureSlash_eq]

/-! ### Paths that name no share -/

theorem fileUri_of_take_ne {path : List Char} (h : path.take 2 ≠ ['/', '/']) :
    fileUri path = .ok (fileParts [] (lowered (rooted path))).render := by
  have hsplit : splitShare path = .ok (path, []) := by
    unfold splitShare
    split
    · exact absurd rfl h
    · rfl
  rw [fileUri, hsplit]
  rfl

theorem take_lowered_ne {path : List Char} (h : path.take 2 ≠ ['/', '/']) :
    (lowered path).take 2 ≠ ['/', '/'] := by
  cases hdrive : hasDrive path with
  | false =>
    rw [lowered_of_not_hasDrive hdrive]
    exact h
  | true =>
    obtain ⟨letter, rest, rfl, hletter⟩ := hasDrive_iff.1 hdrive
    have halpha := (toLower_of_isAlpha hletter).1
    rw [lowered_drive hletter]
    intro heq
    obtain hslash : letter.toLower = '/' := by simpa using heq
    rw [hslash] at halpha
    cases halpha

theorem take_rooted_ne {path : List Char} (h : path.take 2 ≠ ['/', '/']) :
    (rooted path).take 2 ≠ ['/', '/'] := by
  unfold rooted
  split
  · exact h
  · next hpath =>
    intro heq
    cases path with
    | nil => cases heq
    | cons c rest =>
      obtain rfl : c = '/' := by simpa using heq
      exact hpath rest rfl

theorem take_cons_slash_ne {name : List Char} (h : name.head? ≠ some '/') :
    ('/' :: name).take 2 ≠ ['/', '/'] := by
  intro htwo
  apply h
  cases name with
  | nil => cases htwo
  | cons c name => simpa using htwo

theorem head?_rooted (path : List Char) : (rooted path).head? = some '/' := by
  unfold rooted
  split
  · rfl
  · rfl

theorem head?_lowered (path : List Char) : (lowered path).head? = path.head? := by
  cases h : hasDrive path with
  | false => rw [lowered_of_not_hasDrive h]
  | true =>
    obtain ⟨letter, rest, rfl, hletter⟩ := hasDrive_iff.1 h
    rw [lowered_drive hletter]
    rfl

theorem isFile_lowered {host path : List Char} (hslash : '/' ∉ host)
    (hroot : path.head? = some '/') (hunshared : host = [] → path.take 2 ≠ ['/', '/']) :
    (fileParts host (lowered path)).IsFile := by
  refine isFile_fileParts hslash ?_ fun hempty => take_lowered_ne (hunshared hempty)
  rw [head?_lowered]
  exact .inr hroot

/-! ### Paths on a share -/

theorem fileUri_share {host : List Char} (hslash : '/' ∉ host) (rest : List Char) :
    fileUri ('/' :: '/' :: (host ++ '/' :: rest)) =
      .ok (fileParts host (lowered ('/' :: rest))).render := by
  have hall := bne_of_not_mem hslash
  have hcontains : (host ++ '/' :: rest).contains '/' = true := by simp
  have hsplit : splitShare ('/' :: '/' :: (host ++ '/' :: rest)) = .ok ('/' :: rest, host) := by
    simp only [splitShare, hcontains, if_true, List.takeWhile_append_of_pos hall,
      List.dropWhile_append_of_pos hall]
    simp
  rw [fileUri, hsplit]
  rfl

/-! ### Texts as values -/

theorem ofPathValue_str (windows : Bool) (path : String) :
    ofPathValue windows (.str path) = fileUri (forward windows path.toList) :=
  ofPath_eq windows path.toList

theorem pathOf_str_ofList (windows : Bool) (uri : List Char) :
    pathOf windows (.str (String.ofList uri)) =
      (Parts.parse uri).map fun p => String.ofList (native windows p.filePath) := by
  have hrun : pathOf windows (.str (String.ofList uri)) =
      (partsOf (.str (String.ofList uri))).bind fun p =>
        .ok (String.ofList (native windows p.filePath)) := rfl
  rw [hrun, partsOf_str_ofList]
  cases Parts.parse uri with
  | error f => rfl
  | ok p => rfl

theorem pathOf_of_parse {uri : List Char} {p : Parts} (h : Parts.parse uri = .ok p)
    (windows : Bool) :
    pathOf windows (.str (String.ofList uri)) =
      .ok (String.ofList (native windows p.filePath)) := by
  rw [pathOf_str_ofList, h]
  rfl

/-- A path is made into a URI, and from the URI another path comes back. -/
def Returns (windows : Bool) (path back : String) : Prop :=
  ∃ uri, ofPathValue windows (.str path) = .ok uri ∧
    pathOf windows (.str (String.ofList uri)) = .ok back

/-- What comes back of a path `q` with forward slashes.  Without a share it is `q` with a slash in
front, less that slash if a drive follows.  On a share it is `q`.  In both cases a drive letter is
in lower case, and the slashes are those of the machine. -/
theorem returns_ofPathValue (windows : Bool) (path : String) :
    ((forward windows path.toList).take 2 ≠ ['/', '/'] →
      Returns windows path
        (String.ofList (native windows (unrooted (rooted (forward windows path.toList)))))) ∧
    (∀ host rest, forward windows path.toList = '/' :: '/' :: (host ++ '/' :: rest) →
      host ≠ [] → '/' ∉ host →
      Returns windows path
        (String.ofList (native windows ('/' :: '/' :: (host ++ lowered ('/' :: rest)))))) ∧
    (∀ name, path.toList = '/' :: name → name.head? ≠ some '/' →
      (∀ letter rest, name = letter :: ':' :: rest → letter.isAlpha = false) →
      Returns false path path) := by
  have hunshared : ∀ windows, (forward windows path.toList).take 2 ≠ ['/', '/'] →
      Returns windows path
        (String.ofList (native windows (unrooted (rooted (forward windows path.toList))))) := by
    intro windows h
    have hfile := isFile_lowered List.not_mem_nil (head?_rooted (forward windows path.toList))
      fun _ => take_rooted_ne h
    refine ⟨_, (ofPathValue_str windows path).trans (fileUri_of_take_ne h), ?_⟩
    rw [pathOf_of_parse hfile.parse_render, filePath_unshared (.inl rfl), unrooted_lowered]
  refine ⟨hunshared windows, ?_, ?_⟩
  · intro host rest hpath hhost hslash
    have huri : ofPathValue windows (.str path) =
        .ok (fileParts host (lowered ('/' :: rest))).render := by
      rw [ofPathValue_str, hpath, fileUri_share hslash]
    have hne : lowered ('/' :: rest) ≠ [] := by
      intro hempty
      have hhead := head?_lowered ('/' :: rest)
      rw [hempty] at hhead
      cases hhead
    have hfile : (fileParts host (lowered ('/' :: rest))).IsFile :=
      isFile_lowered hslash rfl fun hempty => absurd hempty hhost
    refine ⟨_, huri, ?_⟩
    rw [pathOf_of_parse hfile.parse_render, filePath_share hhost hne]
  · intro name hpath hname hletter
    have hforward : forward false path.toList = path.toList := rfl
    have htake : path.toList.take 2 ≠ ['/', '/'] := by
      rw [hpath]
      exact take_cons_slash_ne hname
    have hdrive : hasDrive path.toList = false := by
      rw [← Bool.not_eq_true, hasDrive_iff]
      rintro ⟨letter, rest, heq, halpha⟩
      rw [hpath] at heq
      rw [hletter letter rest (List.cons.inj heq).2] at halpha
      cases halpha
    have hback : native false (unrooted (rooted (forward false path.toList))) = path.toList := by
      have hrooted : rooted path.toList = path.toList := by rw [hpath]; rfl
      rw [hforward, hrooted, unrooted_of_not_hasDrive hdrive]
      rfl
    have hreturns := hunshared false (by rw [hforward]; exact htake)
    rw [hback, String.ofList_toList] at hreturns
    exact hreturns

/-- A drive with marks and characters beyond ASCII in its names, the same on a share, and a path
with a backslash in a name. -/
theorem returns_ofPathValue_marks :
    Returns true "C:\\a b\\%2f#?;ß" "c:\\a b\\%2f#?;ß" ∧
    Returns false "//ho st/C:/ü" "//ho st/c:/ü" ∧
    Returns false "/a\\b:c d%#?;é" "/a\\b:c d%#?;é" := by
  refine ⟨?_, ?_, ?_⟩
  · exact (returns_ofPathValue true "C:\\a b\\%2f#?;ß").1 (by decide)
  · exact (returns_ofPathValue false "//ho st/C:/ü").2.1 "ho st".toList "C:/ü".toList (by decide)
      (by decide) (by decide)
  · refine (returns_ofPathValue false "/a\\b:c d%#?;é").2.2 "a\\b:c d%#?;é".toList (by decide)
      (by decide) ?_
    intro letter rest heq
    have hcolon : "a\\b:c d%#?;é".toList[1]? = some ':' := by rw [heq]; rfl
    exact absurd hcolon (by decide)

end LangServer.Uri
