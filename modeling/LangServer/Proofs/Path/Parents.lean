import LangServer.Configuration
import LangServer.Proofs.Path.Names
import Mathlib.Order.Bounds.Basic

/-!
# The search upwards

The search goes from the directory of a file up to a root.  In each directory it asks for all names
and it stops at the first directory that has one of them.  So it finds the names of the nearest
directory that has any, in the order in which they were given, or nothing if no directory has one.
What it writes down on its way are the paths that it asks about.

The directories are spelled as they are put together from the root, and the root itself may be
searched twice, once as `.` below itself.  What matters is where the spellings lead, which is never
outside the root.

Main statement: `Parents.findParents_nearest_within`.
-/

namespace LangServer

open LangServer.Path

/-! ### Existence -/

/-- A path that does not end in a slash exists if its names lead to a directory or a file. -/
theorem FileSystem.exists?_eq (fs : FileSystem) {p : List Char} (hne : p ≠ [])
    (hlast : p.getLast? ≠ some '/') :
    fs.exists? p = (fs.isDirectory (names p) || (fs.content? (names p)).isSome) := by
  have hempty : p.isEmpty = false := by simpa using hne
  have hbne : (p.getLast? != some '/') = true := bne_iff_ne.2 hlast
  rw [FileSystem.exists?, hempty, hbne, Bool.and_true, if_neg Bool.false_ne_true]

namespace Parents

/-! ### One directory -/

/-- The paths of some names in a directory that exist, in the order of the names. -/
def held (fs : FileSystem) (dir : Absolute) (wanted : List Relative) : List Absolute :=
  (wanted.map fun n => dir.under n.components).filter fun p => fs.exists? p.text

variable {fs : FileSystem} {dir : List Char} {place root : Absolute} {ds : List Component}
variable {file : Component} {wanted : List Relative}

theorem names_join_relative (hdir : names dir = texts place.components) (n : Relative) :
    names (join dir n.text) = texts (place.under n.components).components := by
  rw [names_join dir n.head?_text_ne, n.pieces_text, foldl_descend_texts, hdir,
    Absolute.components_under, texts_append]

theorem exists?_join_relative (hdir : names dir = texts place.components) (n : Relative) :
    fs.exists? (join dir n.text) = fs.exists? (place.under n.components).text := by
  obtain ⟨front, hfront⟩ := exists_join_eq_append dir n.head?_text_ne
  have hjoin : fs.exists? (join dir n.text) = _ := fs.exists?_eq
    (by simp [hfront, n.text_ne_nil]) (by rw [hfront]; exact n.getLast?_append_text_ne front)
  have hunder : (place.under n.components).text =
      (place.lead ++ spelled place.components ++ ['/']) ++ n.text := by
    rw [Absolute.text_under_relative, List.append_assoc _ ['/'], List.singleton_append]
  have hplace : fs.exists? (place.under n.components).text = _ := fs.exists?_eq
    (by simp [hunder]) (by rw [hunder]; exact n.getLast?_append_text_ne _)
  rw [hjoin, hplace, names_join_relative hdir, Absolute.names_text]

/-- The paths of some names in a directory, as the search spells them, that exist. -/
def inDirectory (fs : FileSystem) (wanted : List (List Char)) (dir : List Char) :
    List (List Char) :=
  (wanted.map (join dir)).filter fs.exists?

theorem map_names_inDirectory (hdir : names dir = texts place.components)
    (wanted : List Relative) :
    (inDirectory fs (wanted.map Relative.text) dir).map names =
      (held fs place wanted).map fun p => texts p.components := by
  simp only [inDirectory, held, List.filter_map, List.map_map, Function.comp_def,
    exists?_join_relative hdir, names_join_relative hdir]

theorem inDirectory_eq_nil_iff (hdir : names dir = texts place.components)
    (wanted : List Relative) :
    inDirectory fs (wanted.map Relative.text) dir = [] ↔ held fs place wanted = [] := by
  rw [← List.map_eq_nil_iff (f := names), map_names_inDirectory hdir, List.map_eq_nil_iff]

/-! ### One directory after the other -/

theorem existing_eq (fs : FileSystem) (ps log : List (List Char)) :
    existing fs ps log = (ps.filter fs.exists?, log ++ ps) := by
  induction ps generalizing log with
  | nil =>
    rw [List.append_nil]
    rfl
  | cons p ps ih =>
    have hrun : existing fs (p :: ps) log =
        (if fs.exists? p then p :: (existing fs ps (log ++ [p])).1
          else (existing fs ps (log ++ [p])).1, (existing fs ps (log ++ [p])).2) := rfl
    rw [hrun, ih, List.filter_cons, List.append_assoc, List.singleton_append]

/-- All names are asked for in a directory, whether they are there or not. -/
theorem nearest_cons (fs : FileSystem) (wanted : List (List Char)) (dir : List Char)
    (rest log : List (List Char)) :
    nearest fs wanted (dir :: rest) log =
      if inDirectory fs wanted dir = [] then nearest fs wanted rest (log ++ wanted.map (join dir))
      else (inDirectory fs wanted dir, log ++ wanted.map (join dir)) := by
  have hrun : nearest fs wanted (dir :: rest) log =
      (if (existing fs (wanted.map (join dir)) log).1.isEmpty then nearest fs wanted rest
      else pure (existing fs (wanted.map (join dir)) log).1)
        (existing fs (wanted.map (join dir)) log).2 := rfl
  have hfound : (wanted.map (join dir)).filter fs.exists? = inDirectory fs wanted dir := rfl
  rw [hrun, existing_eq, hfound]
  by_cases hnone : inDirectory fs wanted dir = []
  · rw [if_pos (List.isEmpty_iff.2 hnone), if_pos hnone]
  · rw [if_neg (by simpa using hnone), if_neg hnone]
    rfl

theorem nearest_range (fs : FileSystem) (wanted : List (List Char)) (dirAt : Nat → List Char)
    (n : Nat) (log : List (List Char)) :
    (∃ k, IsGreatest {k | k < n ∧ inDirectory fs wanted (dirAt k) ≠ []} k ∧
      (nearest fs wanted ((List.range n).reverse.map dirAt) log).1 =
        inDirectory fs wanted (dirAt k)) ∨
    ((∀ k < n, inDirectory fs wanted (dirAt k) = []) ∧
      (nearest fs wanted ((List.range n).reverse.map dirAt) log).1 = []) := by
  -- The directory with the highest number is searched first, so the induction is on their number.
  induction n generalizing log with
  | zero => exact .inr ⟨fun k hk => absurd hk (Nat.not_lt_zero k), rfl⟩
  | succ n ih =>
    rw [List.range_succ, List.reverse_concat, List.map_cons, nearest_cons]
    by_cases hn : inDirectory fs wanted (dirAt n) = []
    · -- Nothing in the highest directory: what was found below it stays the nearest.
      rw [if_pos hn]
      rcases ih (log ++ wanted.map (join (dirAt n))) with
        ⟨k, ⟨⟨hk, hfound⟩, hgreatest⟩, hnearest⟩ | ⟨hnone, hnearest⟩
      · refine .inl ⟨k, ⟨⟨Nat.lt_succ_of_lt hk, hfound⟩, ?_⟩, hnearest⟩
        rintro j ⟨hj, hheld⟩
        have hne : j ≠ n := by
          rintro rfl
          exact hheld hn
        exact hgreatest ⟨by omega, hheld⟩
      · refine .inr ⟨fun k hk => ?_, hnearest⟩
        rcases Nat.lt_succ_iff_lt_or_eq.1 hk with hlt | rfl
        · exact hnone k hlt
        · exact hn
    · rw [if_neg hn]
      exact .inl ⟨n, ⟨⟨Nat.lt_succ_self n, hn⟩, fun j hj => Nat.le_of_lt_succ hj.1⟩, rfl⟩

/-! ### The directories of a file -/

/-- The names of the way down from the root to the directory of a file, as they are spelled. -/
def steps (ds : List Component) : List (List Char) :=
  if ds.isEmpty then [['.']] else texts ds

theorem slash_not_mem_steps (ds : List Component) (k : Nat) :
    ∀ name ∈ (steps ds).take k, '/' ∉ name := by
  intro name hname
  replace hname : name ∈ steps ds := List.mem_of_mem_take hname
  unfold steps at hname
  split at hname
  · rw [List.mem_singleton.1 hname]
    decide
  · obtain ⟨c, -, rfl⟩ := List.mem_map.1 hname
    exact c.slash_not_mem

theorem dots_not_mem_steps (ds : List Component) : ['.', '.'] ∉ steps ds := by
  unfold steps
  split
  · decide
  · exact dots_not_mem_texts ds

theorem length_le_length_steps (ds : List Component) : ds.length ≤ (steps ds).length := by
  unfold steps
  split
  · next hempty => simp [List.isEmpty_iff.1 hempty]
  · simp [texts]

theorem foldl_descend_steps (start : List (List Char)) (ds : List Component) (k : Nat) :
    ((steps ds).take k).foldl descend start = start ++ texts (ds.take k) := by
  unfold steps
  split
  · next hempty =>
    rw [List.isEmpty_iff.1 hempty]
    cases k with
    | zero => simp [texts]
    | succ k => simp [texts, descend]
  · rw [← texts_take, foldl_descend_texts]

/-- The path of a file in a directory below the root. -/
def fileIn (root : Absolute) (ds : List Component) (file : Component) : List Char :=
  (root.under (ds ++ [file])).text

/-- The directory after some steps from the root, as the search spells it. -/
def dirAt (root : Absolute) (ds : List Component) (k : Nat) : List Char :=
  joinAll root.text ((steps ds).take k)

theorem directories_fileIn (root : Absolute) (ds : List Component) (file : Component) :
    directories root.text (fileIn root ds file) =
      (List.range ((steps ds).length + 1)).reverse.map (dirAt root ds) := by
  have hnames : names (dirname (fileIn root ds file)) = names root.text ++ texts ds := by
    rw [fileIn, Absolute.text_under_concat, names_dirname file.slash_not_mem,
      names_append_spelled, Absolute.names_lead, Absolute.names_text, texts_append, List.nil_append]
  have hsteps : relative (dirname (fileIn root ds file)) root.text = steps ds := by
    rw [relative_of_names hnames]
    simp [steps, texts]
  rw [directories, hsteps]
  rfl

theorem names_dirAt (root : Absolute) (ds : List Component) (k : Nat) :
    names (dirAt root ds k) = texts (root.under (ds.take k)).components := by
  rw [dirAt, names_joinAll (slash_not_mem_steps ds k), foldl_descend_steps, Absolute.names_text,
    Absolute.components_under, texts_append]

/-! ### What is found -/

/-- How many steps below the root the directories are that hold one of some names. -/
def holding (fs : FileSystem) (root : Absolute) (ds : List Component) (wanted : List Relative) :
    Set Nat :=
  {k | k ≤ ds.length ∧
    ∃ n ∈ wanted, fs.exists? ((root.under (ds.take k)).under n.components).text = true}

theorem inDirectory_dirAt_ne_nil_iff {k : Nat} :
    inDirectory fs (wanted.map Relative.text) (dirAt root ds k) ≠ [] ↔
      ∃ n ∈ wanted, fs.exists? ((root.under (ds.take k)).under n.components).text = true := by
  rw [Ne, inDirectory_eq_nil_iff (names_dirAt root ds k)]
  simp [held]

theorem min_mem_holding {k : Nat}
    (h : inDirectory fs (wanted.map Relative.text) (dirAt root ds k) ≠ []) :
    min k ds.length ∈ holding fs root ds wanted := by
  refine ⟨Nat.min_le_right _ _, ?_⟩
  rw [← List.take_eq_take_min]
  exact inDirectory_dirAt_ne_nil_iff.1 h

theorem find_cases (fs : FileSystem) (root : Absolute) (ds : List Component) (file : Component)
    (wanted : List Relative) (log : List (List Char)) :
    (∃ k, IsGreatest (holding fs root ds wanted) k ∧
      (find fs root.text (fileIn root ds file) (wanted.map Relative.text) log).1.map names =
        (held fs (root.under (ds.take k)) wanted).map fun p => texts p.components) ∨
    (holding fs root ds wanted = ∅ ∧
      (find fs root.text (fileIn root ds file) (wanted.map Relative.text) log).1 = []) := by
  have hlt : ∀ {i}, i ∈ holding fs root ds wanted → i < (steps ds).length + 1 :=
    fun hi => Nat.lt_succ_of_le (hi.1.trans (length_le_length_steps ds))
  rw [find, directories_fileIn]
  rcases nearest_range fs (wanted.map Relative.text) (dirAt root ds) ((steps ds).length + 1) log
    with ⟨j, ⟨⟨-, hheld⟩, hgreatest⟩, hnearest⟩ | ⟨hnone, hnearest⟩
  · -- The search may stop a step beyond the directory of the file, which is the same place.
    refine .inl ⟨min j ds.length, ⟨min_mem_holding hheld, fun i hi => ?_⟩, ?_⟩
    · exact le_min (hgreatest ⟨hlt hi, inDirectory_dirAt_ne_nil_iff.2 hi.2⟩) hi.1
    · rw [hnearest, map_names_inDirectory (names_dirAt root ds j), List.take_eq_take_min]
  · refine .inr ⟨Set.eq_empty_of_forall_notMem fun i hi => ?_, hnearest⟩
    exact inDirectory_dirAt_ne_nil_iff.2 hi.2 (hnone i (hlt hi))

/-! ### What is asked -/

theorem subset_nearest (fs : FileSystem) (wanted dirs log : List (List Char)) :
    log ⊆ (nearest fs wanted dirs log).2 := by
  induction dirs generalizing log with
  | nil => exact List.Subset.refl log
  | cons dir rest ih =>
    have hlog : log ⊆ log ++ wanted.map (join dir) := List.subset_append_left _ _
    rw [nearest_cons]
    split
    · exact List.Subset.trans hlog (ih _)
    · exact hlog

/-- A search hangs on the answers to its own questions only. -/
theorem nearest_congr {fs fs' : FileSystem} {wanted dirs log : List (List Char)}
    (h : ∀ p ∈ (nearest fs wanted dirs log).2, fs'.exists? p = fs.exists? p) :
    nearest fs' wanted dirs log = nearest fs wanted dirs log := by
  induction dirs generalizing log with
  | nil => rfl
  | cons dir rest ih =>
    have hasked : log ++ wanted.map (join dir) ⊆ (nearest fs wanted (dir :: rest) log).2 := by
      rw [nearest_cons]
      split
      · exact subset_nearest fs wanted rest _
      · exact List.Subset.refl _
    have hfound : inDirectory fs' wanted dir = inDirectory fs wanted dir :=
      List.filter_congr fun p hp => h p (hasked (List.mem_append_right _ hp))
    rw [nearest_cons] at h
    rw [nearest_cons, nearest_cons, hfound]
    by_cases hnone : inDirectory fs wanted dir = []
    · rw [if_pos hnone] at h
      rw [if_pos hnone, if_pos hnone, ih h]
    · rw [if_neg hnone, if_neg hnone]

theorem mem_nearest {wanted dirs log : List (List Char)} {p : List Char}
    (h : p ∈ (nearest fs wanted dirs log).2) :
    p ∈ log ∨ ∃ dir ∈ dirs, ∃ name ∈ wanted, p = join dir name := by
  induction dirs generalizing log with
  | nil => exact .inl h
  | cons dir rest ih =>
    have hhere : p ∈ log ++ wanted.map (join dir) →
        p ∈ log ∨ ∃ d ∈ dir :: rest, ∃ name ∈ wanted, p = join d name := by
      intro hp
      rcases List.mem_append.1 hp with hp | hp
      · exact .inl hp
      · obtain ⟨name, hname, rfl⟩ := List.mem_map.1 hp
        exact .inr ⟨dir, List.mem_cons_self, name, hname, rfl⟩
    rw [nearest_cons] at h
    split at h
    · rcases ih h with hp | ⟨d, hd, hp⟩
      · exact hhere hp
      · exact .inr ⟨d, List.mem_cons_of_mem _ hd, hp⟩
    · exact hhere h

/-- The path leads to the root or to a place below it, and never goes up on its way. -/
def IsWithin (root : Absolute) (p : List Char) : Prop :=
  texts root.components <+: names p ∧ ['.', '.'] ∉ pieces p

theorem dots_not_mem_pieces_dirAt (root : Absolute) (ds : List Component) (k : Nat) :
    ['.', '.'] ∉ pieces (dirAt root ds k) := by
  intro hmem
  rcases mem_pieces_joinAll (slash_not_mem_steps ds k) hmem with hroot | hsteps
  · exact root.dots_not_mem_pieces_text hroot
  · exact dots_not_mem_steps ds (List.mem_of_mem_take hsteps)

theorem isWithin_join (root : Absolute) (ds : List Component) (k : Nat) (n : Relative) :
    IsWithin root (join (dirAt root ds k) n.text) := by
  constructor
  · rw [names_join_relative (names_dirAt root ds k), Absolute.components_under,
      Absolute.components_under, List.append_assoc, texts_append]
    exact List.prefix_append _ _
  · intro hmem
    rcases mem_pieces_join n.head?_text_ne hmem with hdir | hname
    · exact dots_not_mem_pieces_dirAt root ds k hdir
    · rw [n.pieces_text] at hname
      exact dots_not_mem_texts _ hname

theorem isWithin_of_mem_find {p : List Char}
    (h : p ∈ (find fs root.text (fileIn root ds file) (wanted.map Relative.text) []).2) :
    IsWithin root p := by
  obtain ⟨dir, hdir, name, hname, rfl⟩ := (mem_nearest h).resolve_left List.not_mem_nil
  rw [directories_fileIn] at hdir
  obtain ⟨k, -, rfl⟩ := List.mem_map.1 hdir
  obtain ⟨n, -, rfl⟩ := List.mem_map.1 hname
  exact isWithin_join root ds k n

/-! ### The search for any values -/

/-- A list of relative paths as a value. -/
def valueOf (wanted : List Relative) : Json :=
  .arr (wanted.map fun n => .str (String.ofList n.text))

theorem mapM_expectText (wanted : List Relative) :
    (wanted.map fun n => Json.str (String.ofList n.text)).mapM Json.expectText =
      .ok (wanted.map fun n => String.ofList n.text) := by
  induction wanted with
  | nil => rfl
  | cons n wanted ih =>
    rw [List.map_cons, List.mapM_cons, ih]
    rfl

theorem findParents_eq (fs : FileSystem) (root : Absolute) (ds : List Component) (file : Component)
    (wanted : List Relative) :
    findParents fs (.str (String.ofList root.text)) (.str (String.ofList (fileIn root ds file)))
        (valueOf wanted) =
      .ok (find fs root.text (fileIn root ds file) (wanted.map Relative.text) []).1 := by
  obtain ⟨rest, hroot⟩ := root.exists_text_eq
  obtain ⟨rest', hfile⟩ := (root.under (ds ++ [file])).exists_text_eq
  have htruthy : (Json.str (String.ofList root.text)).truthy = true := by
    simp [Json.truthy, hroot]
  have hcommon : (common root.text (fileIn root ds file)).isEmpty = false := by
    rw [fileIn, hroot, hfile]
    rfl
  have hdirname : (dirname (fileIn root ds file)).isEmpty = false := by
    rw [fileIn, Absolute.text_under_concat]
    exact List.isEmpty_eq_false_iff.2 (dirname_ne_nil file.slash_not_mem _)
  have hwanted : (wanted.map fun n => String.ofList n.text).map String.toList =
      wanted.map Relative.text := by
    simp [Function.comp_def]
  simp only [findParents, htruthy, Bool.not_true, Bool.false_eq_true, if_false, Json.items?,
    Option.isSome_none, Json.expectText, valueOf, Json.iterate, mapM_expectText,
    String.toList_ofList, hcommon, hdirname, hwanted, bind, Except.bind, pure, Except.pure]
  rfl

/-- The search returns, and what it finds leads to those names that exist in the directory most
steps below the root that has one, in their order, or is nothing if no directory has one.  All paths
it asks about are within the root, and in any file system that answers these alike it finds the
same.  The search of a configuration is the one within its root. -/
theorem findParents_nearest_within (fs : FileSystem) (root : Absolute) (ds : List Component)
    (file : Component) (wanted : List Relative) :
    ∃ found questions,
      findParents fs (.str (String.ofList root.text)) (.str (String.ofList (fileIn root ds file)))
        (valueOf wanted) = .ok found ∧
      ((∃ k, IsGreatest (holding fs root ds wanted) k ∧ found.map names =
          (held fs (root.under (ds.take k)) wanted).map fun p => texts p.components) ∨
        (holding fs root ds wanted = ∅ ∧ found = [])) ∧
      find fs root.text (fileIn root ds file) (wanted.map Relative.text) [] =
        (found, questions) ∧
      (∀ p ∈ questions, IsWithin root p) ∧
      (∀ fs' : FileSystem, (∀ p ∈ questions, fs'.exists? p = fs.exists? p) →
        findParents fs' (.str (String.ofList root.text))
          (.str (String.ofList (fileIn root ds file))) (valueOf wanted) = .ok found) ∧
      ∀ (m : Machine) (c : Configuration), m.files = fs →
        Uri.pathOf m.windows c.rootUri = .ok (String.ofList root.text) →
        c.findParents m (.str (String.ofList (fileIn root ds file))) (valueOf wanted) =
          .ok found := by
  refine ⟨_, _, findParents_eq fs root ds file wanted, find_cases fs root ds file wanted [], rfl,
    fun p hp => isWithin_of_mem_find hp, ?_, ?_⟩
  · intro fs' hsame
    rw [findParents_eq, find, nearest_congr hsame, find]
  · rintro m c rfl hroot
    rw [Configuration.findParents, hroot]
    exact findParents_eq m.files root ds file wanted

/-! Two directories below a root, with a name that the root has and one of two components that only
the first directory has. -/

def etc : Component := ⟨"etc".toList, by decide, by decide, by decide, by decide⟩

def leaf : Component := ⟨"x".toList, by decide, by decide, by decide, by decide⟩

def top : Absolute := { components := [⟨"w".toList, by decide, by decide, by decide, by decide⟩] }

def way : List Component :=
  [⟨"a".toList, by decide, by decide, by decide, by decide⟩,
    ⟨"b".toList, by decide, by decide, by decide, by decide⟩]

def twoNames : List Relative := [⟨leaf, []⟩, ⟨etc, [leaf]⟩]

def oneEach : FileSystem where
  files := [(["w".toList, "x".toList], []),
    (["w".toList, "a".toList, "etc".toList, "x".toList], [])]

/-- The same with a file of the first name outside the root. -/
def oneOutside : FileSystem where
  files := (["x".toList], []) :: oneEach.files

def rootedConfiguration : Configuration where
  rootUri := .str "file:///w"
  rootPath := "/w"
  initOptions := .null
  processId := .null
  capabilities := .null

theorem findParents_nearest_within_two_names :
    (∃ k, IsGreatest (holding oneEach top way twoNames) k ∧
      [["w".toList, "a".toList, "etc".toList, "x".toList]] =
        (held oneEach (top.under (way.take k)) twoNames).map fun p => texts p.components) ∧
    findParents oneEach (.str "/w") (.str "/w/a/b/x") (.arr [.str "x", .str "etc/x"]) =
      .ok ["/w/a/etc/x".toList] ∧
    findParents oneOutside (.str "/w") (.str "/w/a/b/x") (.arr [.str "x", .str "etc/x"]) =
      .ok ["/w/a/etc/x".toList] ∧
    rootedConfiguration.findParents { files := oneEach } (.str "/w/a/b/x")
      (.arr [.str "x", .str "etc/x"]) = .ok ["/w/a/etc/x".toList] := by
  have htop : String.ofList top.text = "/w" := by decide +kernel
  have hfile : String.ofList (fileIn top way leaf) = "/w/a/b/x" := by decide +kernel
  have hone : String.ofList (Relative.text ⟨leaf, []⟩) = "x" := by decide +kernel
  have htwo : String.ofList (Relative.text ⟨etc, [leaf]⟩) = "etc/x" := by decide +kernel
  have hvalue : valueOf twoNames = .arr [.str "x", .str "etc/x"] := by
    simp only [valueOf, twoNames, List.map_cons, List.map_nil, hone, htwo]
  have hrun : find oneEach top.text (fileIn top way leaf) (twoNames.map Relative.text) [] =
      (["/w/a/etc/x".toList],
        ["/w/a/b/x".toList, "/w/a/b/etc/x".toList, "/w/a/x".toList, "/w/a/etc/x".toList]) :=
    Prod.ext (by decide +kernel) (by decide +kernel)
  obtain ⟨found, questions, hfound, hnearest, hquestions, -, hsame, hconfigured⟩ :=
    findParents_nearest_within oneEach top way leaf twoNames
  obtain ⟨rfl, rfl⟩ := Prod.mk.inj (hrun.symm.trans hquestions)
  rw [htop, hfile, hvalue] at hfound
  rw [htop, hfile, hvalue] at hsame
  rw [htop, hfile, hvalue] at hconfigured
  have hplaces : ["/w/a/etc/x".toList].map names =
      [["w".toList, "a".toList, "etc".toList, "x".toList]] := by decide +kernel
  have hagree : ∀ p ∈ ["/w/a/b/x".toList, "/w/a/b/etc/x".toList, "/w/a/x".toList,
      "/w/a/etc/x".toList], oneOutside.exists? p = oneEach.exists? p := by
    simp only [List.forall_mem_cons]
    decide +kernel
  have hroot : Uri.pathOf false rootedConfiguration.rootUri = .ok "/w" := by
    decide +kernel
  refine ⟨?_, hfound, hsame oneOutside hagree,
    hconfigured { files := oneEach } rootedConfiguration rfl hroot⟩
  rcases hnearest with ⟨k, hk, hheld⟩ | ⟨-, hnone⟩
  · exact ⟨k, hk, hplaces.symm.trans hheld⟩
  · cases hnone

end Parents

end LangServer
