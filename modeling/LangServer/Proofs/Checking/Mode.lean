import LangServer.Proofs.Checking.Start

/-!
# The options of a started checker

The options of the checker are written three times: some are preset, then the configuration file
sets what it likes, and then those are overridden on which reading the checker's output depends.
Each time later values win.  Which options are overridden hangs on the version of the checker, and
versions are compared as texts.

`FitsReports` says what comes of it for every option.  It holds whatever the configuration file
sets and whatever the options are that nothing has set.  The user is warned that a way to follow
imports is not used exactly where the file has set one that the checker cannot use; nothing else
that is sent looks like that warning.

Main statement: `start_fits_reports`.
-/

namespace LangServer

/-! ### Values of options -/

namespace Json

theorem lookup_cons_eq (key k : String) (v : Json) (members : List (String × Json)) :
    ((k, v) :: members).lookup key = if key = k then some v else members.lookup key := by
  rw [List.lookup_cons]
  by_cases h : key = k
  · rw [beq_iff_eq.2 h, if_pos h]
  · rw [beq_eq_false_iff_ne.2 h, if_neg h]

theorem lookup_insertMember (name key : String) (value : Json) (members : List (String × Json)) :
    (insertMember name value members).lookup key =
      if key = name then some value else members.lookup key := by
  induction members with
  | nil => exact lookup_cons_eq key name value []
  | cons member members ih =>
    obtain ⟨k, v⟩ := member
    rw [insertMember, lookup_cons_eq]
    by_cases hk : k = name
    · subst hk
      rw [if_pos rfl, lookup_cons_eq]
      split <;> rfl
    · rw [if_neg hk, lookup_cons_eq, ih]
      by_cases h : key = k
      · rw [if_pos h, if_pos h, if_neg (h ▸ hk)]
      · rw [if_neg h, if_neg h]

end Json

namespace Options

/-- The value that settings of options give to one of them; of several the last counts. -/
def lastValue? (values : List (String × Json)) (name : String) : Option Json :=
  values.reverse.lookup name

variable (o : Options) (name key : String) (value : Json)

theorem lookup_set :
    (o.set name value).lookup key = if key = name then some value else o.lookup key :=
  Json.lookup_insertMember name key value o

theorem lookup_setAll (values : List (String × Json)) :
    (o.setAll values).lookup key = (lastValue? values key).or (o.lookup key) := by
  induction values generalizing o with
  | nil => rfl
  | cons v values ih =>
    have hstep : o.setAll (v :: values) = (o.set v.1 v.2).setAll values := rfl
    rw [hstep, ih, lookup_set, lastValue?, lastValue?, List.reverse_cons, List.lookup_append,
      Option.or_assoc, Json.lookup_cons_eq]
    split <;> rfl

theorem get_setAll (values : List (String × Json)) :
    (o.setAll values).get key = (lastValue? values key).getD (o.get key) := by
  rw [get, lookup_setAll]
  cases lastValue? values key with
  | none => rfl
  | some v => rfl

end Options

/-- The value that a configuration file gives to an option. -/
def ConfigFile.value? (f : ConfigFile) (name : String) : Option Json :=
  Options.lastValue? f.options name

namespace Session

/-! ### The three times that options are written -/

/-- What is set before the configuration file is read. -/
def presets (c : Checker) (interpreter : Json) : List (String × Json) :=
  [("check_untyped_defs", .bool true)] ++
  (if c.version < "0.780" then [("follow_imports", .str "error")] else []) ++
  [("use_fine_grained_cache", .bool true)] ++
  if interpreter.isNull then [] else [("python_executable", interpreter)]

/-- What is set after the configuration file has been read. -/
def overrides (c : Checker) (o : Options) : List (String × Json) :=
  [("show_column_numbers", .bool true)] ++
  (if followsImports c o then [] else [("follow_imports", .str "error")]) ++
  if "0.720" < c.version then
    [("color_output", .bool false), ("error_summary", .bool false), ("pretty", .bool false)]
  else []

variable {c : Checker} {interpreter : Json} {f : ConfigFile} {name : String} {o : Options}

theorem presetOptions_eq : presetOptions c interpreter =
    c.defaults.setAll (presets c interpreter) := by
  unfold presetOptions presets
  by_cases hold : c.version < "0.780"
  · simp only [if_pos hold]
    split <;> rfl
  · simp only [if_neg hold]
    split <;> rfl

theorem followsImports_set (v : Json) :
    followsImports c (o.set "show_column_numbers" v) = followsImports c o := by
  have hget : (o.set "show_column_numbers" v).get "follow_imports" = o.get "follow_imports" := by
    rw [Options.get, Options.lookup_set, if_neg (by decide), Options.get]
  rw [followsImports, followsImports, hget]

theorem finalOptions_eq : finalOptions c o = o.setAll (overrides c o) := by
  unfold finalOptions overrides
  simp only [followsImports_set]
  by_cases hfits : followsImports c o = true
  · simp only [if_pos hfits]
    split <;> rfl
  · simp only [if_neg hfits]
    split <;> rfl

theorem followsImports_iff :
    followsImports c o = true ↔
      (c.version < "0.780" →
        o.get "follow_imports" = .str "error" ∨ o.get "follow_imports" = .str "skip") := by
  simp only [followsImports, Bool.or_eq_true, Bool.not_eq_true', decide_eq_false_iff_not,
    Json.same_str, or_assoc]
  exact Iff.symm Decidable.imp_iff_not_or

/-! ### What comes of it -/

/-- Whether an option is written after the configuration file has been read. -/
def isOverridden (c : Checker) (name : String) : Bool :=
  name == "show_column_numbers" ||
  decide ("0.720" < c.version) && ["color_output", "error_summary", "pretty"].contains name ||
  decide (c.version < "0.780") && name == "follow_imports"

/-- The options with which the checker writes reports that can be read; the others are as the
configuration file sets them, or else as they are preset, or else as nothing has set them. -/
structure FitsReports (c : Checker) (interpreter : Json) (f : ConfigFile) (o : Options) : Prop where
  columns : o.get "show_column_numbers" = .bool true
  plain : "0.720" < c.version →
    ∀ name ∈ ["color_output", "error_summary", "pretty"], o.get name = .bool false
  imports : c.version < "0.780" →
    f.value? "follow_imports" = some (.str "skip") ∧ o.get "follow_imports" = .str "skip" ∨
    f.value? "follow_imports" ≠ some (.str "skip") ∧ o.get "follow_imports" = .str "error"
  others : ∀ name, isOverridden c name = false →
    o.lookup name = ((f.value? name).or (Options.lastValue? (presets c interpreter) name)).or
      (c.defaults.lookup name)

theorem lastValue?_overrides (h : isOverridden c name = false) :
    Options.lastValue? (overrides c o) name = none := by
  simp only [isOverridden, Bool.or_eq_false_iff, Bool.and_eq_false_iff, beq_eq_false_iff_ne,
    decide_eq_false_iff_not] at h
  obtain ⟨⟨hcolumns, hplain⟩, himports⟩ := h
  rw [Options.lastValue?, List.lookup_eq_none_iff]
  intro v hv
  rw [List.mem_reverse, overrides, List.mem_append, List.mem_append] at hv
  rcases hv with (hv | hv) | hv
  · rw [List.mem_singleton.1 hv]
    simpa using hcolumns
  · split at hv
    · cases hv
    · next hfits =>
      -- imports are overridden for old versions only
      have hold : c.version < "0.780" := Decidable.byContradiction fun hnew =>
        hfits (followsImports_iff.2 fun h => absurd h hnew)
      rw [List.mem_singleton.1 hv]
      simpa using himports.resolve_left (not_not_intro hold)
  · split at hv
    · next hnew =>
      have hnot := hplain.resolve_left (not_not_intro hnew)
      simp only [List.contains_eq_mem, decide_eq_false_iff_not, List.mem_cons, List.not_mem_nil,
        or_false, not_or] at hnot hv
      rcases hv with rfl | rfl | rfl
      · simpa using hnot.1
      · simpa using hnot.2.1
      · simpa using hnot.2.2
    · cases hv

theorem lastValue?_overrides_imports :
    Options.lastValue? (overrides c o) "follow_imports" =
      if followsImports c o then none else some (.str "error") := by
  unfold overrides
  split <;> split <;> rfl

theorem get_configured_imports (hold : c.version < "0.780") :
    (configured c interpreter f).get "follow_imports" =
      (f.value? "follow_imports").getD (.str "error") := by
  have hpreset : (presetOptions c interpreter).get "follow_imports" = .str "error" := by
    rw [presetOptions_eq, Options.get_setAll]
    unfold presets
    rw [if_pos hold]
    split <;> rfl
  rw [configured, Options.get_setAll, hpreset]
  rfl

/-- The way to follow imports cannot be used if and only if the configuration file has set it, and
the checker is an old one, which needs another. -/
theorem followsImports_configured :
    followsImports c (configured c interpreter f) = false ↔ c.version < "0.780" ∧
      ∃ v, f.value? "follow_imports" = some v ∧ v ≠ .str "error" ∧ v ≠ .str "skip" := by
  rw [Bool.eq_false_iff, Ne, followsImports_iff, Classical.not_imp, not_or]
  refine and_congr_right fun hold => ?_
  rw [get_configured_imports hold]
  cases hvalue : f.value? "follow_imports" with
  | none => simp
  | some v => simp

theorem fitsReports_finalOptions (c : Checker) (interpreter : Json) (f : ConfigFile) :
    FitsReports c interpreter f (finalOptions c (configured c interpreter f)) where
  columns := by
    rw [finalOptions_eq, Options.get_setAll]
    unfold overrides
    split <;> split <;> rfl
  plain hnew name hname := by
    rw [finalOptions_eq, Options.get_setAll]
    unfold overrides
    rw [if_pos hnew]
    simp only [List.mem_cons, List.not_mem_nil, or_false] at hname
    rcases hname with rfl | rfl | rfl
    all_goals split <;> rfl
  imports hold := by
    rw [finalOptions_eq, Options.get_setAll, lastValue?_overrides_imports,
      get_configured_imports hold]
    cases hfits : followsImports c (configured c interpreter f) with
    | false =>
      obtain ⟨-, v, hvalue, -, hskip⟩ := followsImports_configured.1 hfits
      exact .inr ⟨by rw [hvalue]; simpa using hskip, rfl⟩
    | true =>
      have husable := followsImports_iff.1 hfits hold
      rw [get_configured_imports hold] at husable
      cases hvalue : f.value? "follow_imports" with
      | none => exact .inr ⟨by simp, rfl⟩
      | some v =>
        rw [hvalue] at husable
        rcases husable with rfl | rfl
        · exact .inr ⟨by simp, rfl⟩
        · exact .inl ⟨rfl, rfl⟩
  others name hname := by
    rw [finalOptions_eq, Options.lookup_setAll, lastValue?_overrides hname, Option.none_or,
      configured, Options.lookup_setAll, presetOptions_eq, Options.lookup_setAll, Option.or_assoc]
    rfl

/-! ### Warnings -/

def IsImportWarning (message : Rpc.Message) : Prop :=
  ∃ v, message = importWarning v

theorem not_isImportWarning_of_method {method : String} (h : method ≠ "window/showMessage")
    (params : Json) : ¬ IsImportWarning (.notification method params) := by
  rintro ⟨v, hv⟩
  exact h (Rpc.Message.notification.inj hv).1

theorem not_isImportWarning_showText {text : String} (h : text.toList.head? ≠ some 'C') :
    ¬ IsImportWarning (Workspace.showText text .info) := by
  rintro ⟨v, hv⟩
  have htext :
      text = "Cannot use follow_imports='" ++ v.display ++ "', using 'error' instead." := by
    simpa [importWarning, Workspace.showText, Workspace.showMessage] using hv
  apply h
  rw [htext, String.toList_append, String.toList_append]
  rfl

theorem not_isImportWarning_append {front : String} (h : ∃ c cs, front.toList = c :: cs ∧ c ≠ 'C')
    (rest : String) : ¬ IsImportWarning (Workspace.showText (front ++ rest) .info) := by
  obtain ⟨c, cs, hfront, hc⟩ := h
  apply not_isImportWarning_showText
  rw [String.toList_append, hfront]
  simpa using hc

/-- The second session has seen no further warning and no further start. -/
structure Quiet (s s' : Session) : Prop where
  events : ∃ es, s'.events = s.events ++ es ∧ ∀ e ∈ es, e.isStart = false
  sent : ∃ ms, s'.sent = s.sent ++ ms ∧ ∀ message ∈ ms, ¬ IsImportWarning message

variable {s s' : Session}

theorem Quiet.of_eq (hevents : s'.events = s.events) (hsent : s'.sent = s.sent) : Quiet s s' where
  events := ⟨[], by rw [hevents, List.append_nil], by simp⟩
  sent := ⟨[], by rw [hsent, List.append_nil], by simp⟩

theorem isFrame_quiet : Step.IsFrame Quiet where
  refl _ := Quiet.of_eq rfl rfl
  trans := by
    rintro s t u ⟨⟨es, hevents, hes⟩, ms, hsent, hms⟩ ⟨⟨es', hevents', hes'⟩, ms', hsent', hms'⟩
    refine ⟨⟨es ++ es', ?_, fun e he => ?_⟩, ms ++ ms', ?_, fun message hm => ?_⟩
    · rw [hevents', hevents, List.append_assoc]
    · rcases List.mem_append.1 he with he | he
      · exact hes e he
      · exact hes' e he
    · rw [hsent', hsent, List.append_assoc]
    · rcases List.mem_append.1 hm with hm | hm
      · exact hms message hm
      · exact hms' message hm

theorem quiet_send {message : Rpc.Message} (h : ¬ IsImportWarning message) :
    Step.Keeps Quiet (send message) := by
  intro s
  rw [send_snd]
  split
  · exact isFrame_quiet.refl s
  · exact ⟨⟨[], (List.append_nil _).symm, by simp⟩, [message], rfl, by simpa using h⟩

theorem isCheckFrame_quiet : IsCheckFrame Quiet where
  toIsFrame := isFrame_quiet
  progress v := quiet_send (not_isImportWarning_of_method (by decide) v)
  publication _ _ := quiet_send (not_isImportWarning_of_method (by decide) _)
  failed text := quiet_send (not_isImportWarning_append ⟨_, _, rfl, by decide⟩ text)
  aborted := quiet_send (not_isImportWarning_showText (by decide))
  checked _ s := ⟨⟨[_], rfl, by simp [Event.isStart]⟩, [], (List.append_nil _).symm, by simp⟩
  replies _ _ := Quiet.of_eq rfl rfl
  reported _ _ := Quiet.of_eq rfl rfl
  running _ _ := Quiet.of_eq rfl rfl

/-! ### Starting -/

theorem isImportWarning_of_mem_notices {file : ConfigFile} {fileName : Json}
    {message : Rpc.Message} :
    (message ∈ notices c file fileName o ∧ IsImportWarning message) ↔
      followsImports c o = false ∧ message = importWarning (o.get "follow_imports") := by
  rw [notices, List.mem_append, List.mem_append]
  constructor
  · rintro ⟨hmessage | hmessage | hmessage, hwarning⟩
    · split at hmessage
      · rw [List.mem_singleton.1 hmessage] at hwarning
        exact absurd hwarning (not_isImportWarning_append ⟨_, _, rfl, by decide⟩ _)
      · cases hmessage
    · split at hmessage
      · rw [List.mem_singleton.1 hmessage] at hwarning
        exact absurd hwarning (not_isImportWarning_append ⟨_, _, rfl, by decide⟩ _)
      · cases hmessage
    · split at hmessage
      · next hnot => exact ⟨by simpa using hnot, List.mem_singleton.1 hmessage⟩
      · cases hmessage
  · rintro ⟨hnot, rfl⟩
    refine ⟨.inr (.inr ?_), _, rfl⟩
    rw [hnot]
    exact List.mem_singleton.2 rfl

theorem isImportWarning_iff_configured (interpreter fileName : Json) {message : Rpc.Message} :
    (message ∈ notices c f fileName (configured c interpreter f) ∧ IsImportWarning message) ↔
      c.version < "0.780" ∧ ∃ v, f.value? "follow_imports" = some v ∧ v ≠ .str "error" ∧
        v ≠ .str "skip" ∧ message = importWarning v := by
  rw [isImportWarning_of_mem_notices, followsImports_configured, and_assoc]
  refine and_congr_right fun hold => ?_
  rw [get_configured_imports hold]
  constructor
  · rintro ⟨⟨v, hvalue, herror, hskip⟩, rfl⟩
    rw [hvalue]
    exact ⟨v, rfl, herror, hskip, rfl⟩
  · rintro ⟨v, hvalue, herror, hskip, rfl⟩
    rw [hvalue]
    exact ⟨⟨v, rfl, herror, hskip⟩, rfl⟩

theorem check_launch_fst (hsettings : s.settings.isNull = false) (m : Machine) (c : Checker)
    (w : Workspace) (interpreter fileName : Json) (file : ConfigFile) :
    (check m c w (s.launch c w interpreter fileName file)).1 = .ok () := by
  by_cases hroot : w.rootPath = ""
  · rw [check_of_root_eq hroot]
  · have hrunning : (s.launch c w interpreter fileName file).isRunning w.serial = true := by
      simp [isRunning, launch, List.lookup_cons_self]
    rw [check_fst (s := s.launch c w interpreter fileName file) hroot hsettings, hrunning,
      Bool.not_true, Bool.and_false, if_neg Bool.false_ne_true]

/-- Whatever a configuration file that can be read sets, a start succeeds and the checker is started
once, with options for which its reports can be read and which are otherwise those that were asked
for.  The user is warned of a way to follow imports exactly if the file has set one that an old
checker cannot use. -/
theorem start_fits_reports (hreads : readsConfig c s.settings = true) (m : Machine)
    (w : Workspace) (interpreter : Json) :
    ∃ s' fileName file o es ms,
      start m c w interpreter s = (.ok (), s') ∧
      configFileName s.settings = .ok fileName ∧ c.readConfig fileName = .ok file ∧
      s'.events = s.events ++ es ∧ es.filter Event.isStart = [.started o] ∧
      FitsReports c interpreter file o ∧
      s'.sent = s.sent ++ ms ∧
      ∀ message, (message ∈ ms ∧ IsImportWarning message) ↔
        s.closed = false ∧ c.version < "0.780" ∧
        ∃ v, file.value? "follow_imports" = some v ∧ v ≠ .str "error" ∧
          v ≠ .str "skip" ∧ message = importWarning v := by
  obtain ⟨fileName, file, hname, hread⟩ := exists_readConfig hreads
  have hsettings := isNull_of_readsConfig hreads
  let t := s.launch c w interpreter fileName file
  obtain ⟨⟨es, hevents, hes⟩, ms, hsent, hms⟩ := isCheckFrame_quiet.check m c w t
  have hrun : start m c w interpreter s = (.ok (), (check m c w t).2) := by
    rw [start_eq hsettings hname hread]
    exact Step.eq_ok_of_fst (check_launch_fst hsettings m c w interpreter fileName file)
  let o := finalOptions c (configured c interpreter file)
  let before := notices c file fileName (configured c interpreter file)
  refine ⟨_, fileName, file, o,
    [.configRead (if tellsStrict c then 2 else 1) fileName, .started o] ++ es,
    (if s.closed then [] else before) ++ ms, hrun, hname, hread, ?_, ?_,
    fitsReports_finalOptions c interpreter file, ?_, fun message => ?_⟩
  · rw [hevents]
    simp [t, launch, o]
  · have hnone : es.filter Event.isStart = [] := List.filter_eq_nil_iff.2 (by simpa using hes)
    rw [List.filter_append, hnone]
    rfl
  · rw [hsent, ← List.append_assoc]
    rfl
  · rw [← isImportWarning_iff_configured interpreter fileName, List.mem_append]
    cases s.closed with
    | true => simpa using hms message
    | false =>
      simp only [Bool.false_eq_true, if_false, true_and]
      refine and_congr_left fun hwarning => or_iff_left fun hmessage => ?_
      exact hms message hmessage hwarning

/-- A file that sets an interpreter, asks for other reports and for a way to follow imports that the
checker cannot use. -/
theorem start_fits_reports_old_checker :
    let file : ConfigFile := {
      strict := true
      complaints := "mypy.ini: unknown option"
      options := [("follow_imports", .str "normal"), ("show_column_numbers", .bool false),
        ("pretty", .bool true), ("python_executable", .str "/usr/bin/python3")] }
    let c : Checker := {
      version := "0.770"
      defaults := [("pretty", .bool true), ("warn_unreachable", .bool true)]
      readConfig := fun name => if name.isNull then .ok {} else .ok file }
    let w : Workspace := { rootUri := .str "file:///w", scheme := "file", rootPath := "/w" }
    let s : Session := { settings := .obj [("configFile", .str "mypy.ini")] }
    readsConfig c s.settings = true ∧
    ∃ s' o, start {} c w (.str "/venv/bin/python") s = (.ok (), s') ∧
      s'.events.filter Event.isStart = [.started o] ∧
      o.get "show_column_numbers" = .bool true ∧ o.get "pretty" = .bool false ∧
      o.get "follow_imports" = .str "error" ∧
      o.lookup "python_executable" = some (.str "/usr/bin/python3") ∧
      o.lookup "use_fine_grained_cache" = some (.bool true) ∧
      o.lookup "warn_unreachable" = some (.bool true) ∧
      importWarning (.str "normal") ∈ s'.sent := by
  intro file c w s
  refine ⟨rfl, ?_⟩
  obtain ⟨s', fileName, file', o, es, ms, hrun, hname, hread, hevents, hstarts, hfits, hsent,
    hwarning⟩ := start_fits_reports (c := c) (s := s) rfl {} w (.str "/venv/bin/python")
  obtain rfl : fileName = .str "mypy.ini" := (Except.ok.inj hname).symm
  obtain rfl : file = file' := Except.ok.inj hread
  have hold : c.version < "0.780" := by decide
  have hnew : "0.720" < c.version := by decide
  have himports : o.get "follow_imports" = .str "error" := by
    rcases hfits.imports hold with ⟨hskip, -⟩ | ⟨-, herror⟩
    · exact absurd (Json.str.inj (Option.some.inj hskip)) (by decide)
    · exact herror
  have hpython := hfits.others "python_executable" (by decide)
  have hcache := hfits.others "use_fine_grained_cache" (by decide)
  have hdefault := hfits.others "warn_unreachable" (by decide)
  rw [presets, if_pos hold] at hcache hdefault
  refine ⟨s', o, hrun, ?_, hfits.columns, hfits.plain hnew _ (by simp), himports, hpython, hcache,
    hdefault, ?_⟩
  · rw [hevents]
    exact hstarts
  · rw [hsent]
    refine ((hwarning _).2 ⟨rfl, hold, .str "normal", rfl, ?_, ?_, rfl⟩).1
    · simp
    · simp

end Session

end LangServer
