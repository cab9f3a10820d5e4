import Cyclomatic.CommandLine.Run
import Cyclomatic.Proofs.Analysis.Agreement
import Cyclomatic.Proofs.Render.Forms
import Cyclomatic.Proofs.Render.Terminal
import Cyclomatic.Proofs.Settings.Files

/-! # Several files in one run

A run over several files prints what the runs over each of them print, one after the other, reports
the same errors, and fails exactly if one of them fails. The registry that the files share has no
part in this, and neither has a file that cannot be analyzed. How a text looks on the screen is not
up to the program. -/

namespace Cyclomatic.CommandLine

/-! ## What a run shows -/

/-- The error that an event reports. -/
def Event.error? : Event → Option Error
  | .reported error => some error
  | _ => none

/-- The errors that a run reports, in order. -/
def Run.errors (run : Run) : List Error :=
  run.events.filterMap Event.error?

theorem Run.stdout_after (events : List Event) (run : Run) :
    (run.after events).stdout = String.join (events.map Event.stdout) ++ run.stdout := by
  rw [Run.stdout, Run.after, List.map_append, String.join_append]
  rfl

theorem Run.errors_after (events : List Event) (run : Run) :
    (run.after events).errors = events.filterMap Event.error? ++ run.errors := by
  rw [Run.errors, Run.after, List.filterMap_append]
  rfl

@[simp] theorem Run.stdout_failed (run : Run) : run.failed.stdout = run.stdout := by
  unfold Run.failed
  split <;> rfl

@[simp] theorem Run.errors_failed (run : Run) : run.failed.errors = run.errors := by
  unfold Run.failed
  split <;> rfl

theorem Run.ending_failed {run : Run} (h : run.ending = .success ∨ run.ending = .failure) :
    run.failed.ending = .failure := by
  unfold Run.failed
  rcases h with h | h
  · rw [h]
  · rw [h]
    exact h

/-- What is printed for a file, if anything is. -/
def printedText : Except Failure String → String
  | .ok text => text
  | .error _ => ""

/-- The error that is reported for a file, if one is. -/
def errorOf? : Except Failure String → Option Error
  | .error (.error error _) => some error
  | _ => none

theorem stdout_outcomeEvents (records : List Record) (printed : Except Failure String) :
    String.join ((outcomeEvents records printed).map Event.stdout) = printedText printed := by
  have hlogged : String.join ((records.map Event.logged).map Event.stdout) = "" := by
    induction records with
    | nil => rfl
    | cons record records ih => simpa [Event.stdout] using ih
  unfold outcomeEvents
  rw [List.map_append, String.join_append, hlogged]
  cases printed with
  | ok text => simp [printedText, Event.stdout]
  | error failure => cases failure <;> simp [printedText, Event.stdout]

theorem errors_outcomeEvents (records : List Record) (printed : Except Failure String) :
    (outcomeEvents records printed).filterMap Event.error? = (errorOf? printed).toList := by
  have hlogged : (records.map Event.logged).filterMap Event.error? = [] := by
    simp [Event.error?]
  unfold outcomeEvents
  rw [List.filterMap_append, hlogged]
  cases printed with
  | ok text => rfl
  | error failure => cases failure <;> rfl

/-! ## Runs over files -/

/-- What a run shows of files for which these texts are printed or errors reported. -/
structure Shows (results : List (Except Failure String)) (run : Run) : Prop where
  stdout : run.stdout = String.join (results.map printedText)
  errors : run.errors = results.flatMap fun result => (errorOf? result).toList
  ending : run.ending = if results.any (fun result => (errorOf? result).isSome) then .failure
    else .success

theorem Shows.ok {results : List (Except Failure String)} {run : Run} (h : Shows results run)
    (records : List Record) (text : String) :
    Shows (.ok text :: results) (run.after (outcomeEvents records (.ok text))) where
  stdout := by
    rw [Run.stdout_after, stdout_outcomeEvents, h.stdout, List.map_cons, String.join_cons]
  errors := by
    rw [Run.errors_after, errors_outcomeEvents, h.errors]
    rfl
  ending := h.ending

theorem Shows.error {results : List (Except Failure String)} {run : Run} (h : Shows results run)
    (records : List Record) (error : Error) (cause : Option FaultKind) :
    Shows (.error (.error error cause) :: results)
      (run.after (outcomeEvents records (.error (.error error cause)))).failed where
  stdout := by
    rw [Run.stdout_failed, Run.stdout_after, stdout_outcomeEvents, h.stdout, List.map_cons,
      String.join_cons]
  errors := by
    rw [Run.errors_failed, Run.errors_after, errors_outcomeEvents, h.errors]
    rfl
  ending := by
    have hany : (Except.error (.error error cause) :: results).any
        (fun result => (errorOf? result).isSome) = true := rfl
    rw [if_pos hany]
    apply Run.ending_failed
    rw [Run.after, h.ending]
    split
    · exact Or.inr rfl
    · exact Or.inl rfl

section

variable (components : Components) (settings : Settings) (files : FileTree)
  (language : Option String)

/-- The result of a file's analysis by a fresh process. -/
def resultOf (path : Path) : Except Failure Report :=
  (analyzeFile components.parser .empty settings files (.path path) language).result

/-- What a fresh process prints for a file, or why it prints nothing. -/
def printedOf (path : Path) : Except Failure String :=
  printedResult components.screen settings (resultOf components settings files language path)

/-- The text report that a fresh process makes of a file, if it makes one. -/
def summaryOf? (path : Path) : Option String :=
  (resultOf components settings files language path).toOption.bind fun report =>
    (report.summary settings.warningThreshold).toOption

theorem analyzePaths_shows (registry : Registry) (paths : List Path)
    (h : ∀ path ∈ paths, ∀ fault,
      printedOf components settings files language path ≠ .error (.fault fault)) :
    Shows (paths.map (printedOf components settings files language))
      (analyzePaths components settings files language registry paths) := by
  induction paths generalizing registry with
  | nil => exact ⟨rfl, rfl, rfl⟩
  | cons path rest ih =>
      have hrest := ih
        (analyzeFile components.parser registry settings files (.path path) language).registry
        fun other hother => h other (List.mem_cons_of_mem path hother)
      have hsame : printedResult components.screen settings
          (analyzeFile components.parser registry settings files (.path path) language).result =
            printedOf components settings files language path := by
        rw [printedOf, resultOf, analyzeFile_result, analyzeFile_result]
      rw [List.map_cons, analyzePaths, hsame]
      cases hprinted : printedOf components settings files language path with
      | ok text => exact hrest.ok _ text
      | error failure =>
          cases failure with
          | error error cause => exact hrest.error _ error cause
          | fault fault => exact absurd hprinted (h path List.mem_cons_self fault)

/-! ## What can be printed -/

theorem fileName_of_calculate {parser : Java.Parser} {language : Language}
    {source : List CodePoint} {fileName : FileName} {scored : Report × List Record}
    (h : calculate parser language source fileName = .ok scored) :
    scored.1.fileName = fileName := by
  unfold calculate at h
  cases language with
  | java =>
      cases htree : parser source with
      | ok tree =>
          simp only [htree, javaOutcome, Except.ok.injEq] at h
          rw [← h]
          rfl
      | error fault => simp [htree, javaOutcome] at h
  | x86 =>
      cases h
      rfl
  | mos6502 =>
      cases h
      rfl

/-- A file is reported under its path. -/
theorem fileName_resultOf {path : Path} {report : Report}
    (h : resultOf components settings files language path = .ok report) :
    report.fileName = .text path.text := by
  rw [resultOf, analyzeFile_result] at h
  obtain ⟨maxSize, -, h⟩ := bind_eq_ok_iff.mp h
  obtain ⟨valid, -, h⟩ := bind_eq_ok_iff.mp h
  obtain ⟨found, -, h⟩ := bind_eq_ok_iff.mp h
  obtain ⟨text, -, h⟩ := bind_eq_ok_iff.mp h
  obtain ⟨scored, hscored, rfl⟩ := map_eq_ok_iff.mp h
  exact fileName_of_calculate hscored

/-- A report is printed if it has the form that is asked for. -/
theorem exists_reportText {screen : Screen} {settings : Settings} {report : Report} {text : String}
    (h : report.format screen settings.warningThreshold settings.outputFormat = .ok text) :
    ∃ shown, reportText screen settings report = .ok shown := by
  unfold reportText
  split
  · rename_i hform
    rw [hform] at h
    exact ⟨text, h⟩
  · rw [h]
    exact ⟨_, rfl⟩

/-- Something is printed for every file that is reported or not analyzed with an error, as long as
the figures can be written. -/
theorem printedOf_ne_fault {path : Path} {fault : Fault}
    (hresult : resultOf components settings files language path ≠ .error (.fault fault))
    (hwritable : ∀ report, resultOf components settings files language path = .ok report →
      report.Writable)
    (hlow : settings.warningThreshold.lessThan 1 = false) :
    printedOf components settings files language path ≠ .error (.fault fault) := by
  rw [printedOf, printedResult]
  cases hreport : resultOf components settings files language path with
  | error failure =>
      intro h
      rw [hreport] at hresult
      cases h
      exact hresult rfl
  | ok report =>
      obtain ⟨text, htext⟩ := Report.exists_format
        (fileName_resultOf components settings files language hreport) (hwritable report hreport)
        hlow components.screen settings.outputFormat
      obtain ⟨shown, hshown⟩ := exists_reportText htext
      simp [bind, Except.bind, hshown, Except.mapError]

/-! ## Text reports -/

theorem printedResult_text {screen : Screen} {settings : Settings}
    (h : settings.outputFormat = .text) {report : Report} {text : String}
    (htext : report.summary settings.warningThreshold = .ok text) :
    printedResult screen settings (.ok report) = .ok (screen.echo (trimFeeds text)) := by
  simp [printedResult, reportText, h, Report.format, htext, bind, Except.bind, Except.map,
    Except.mapError]

/-- As text, what is printed for a file is its text report without the last line feed, as the screen
shows it. -/
theorem printedText_printedOf {settings : Settings} (h : settings.outputFormat = .text)
    (path : Path) :
    printedText (printedOf components settings files language path) =
      ((summaryOf? components settings files language path).map fun text =>
        components.screen.echo (trimFeeds text)).getD "" := by
  unfold printedOf summaryOf? printedResult
  cases resultOf components settings files language path with
  | error failure => rfl
  | ok report =>
      simp only [reportText, h, Report.format, Except.toOption, Option.bind_some, bind,
        Except.bind]
      cases report.summary settings.warningThreshold <;> rfl

theorem join_printedText {settings : Settings} (h : settings.outputFormat = .text)
    (paths : List Path) :
    String.join (paths.map fun path =>
        printedText (printedOf components settings files language path)) =
      String.join (paths.filterMap fun path =>
        (summaryOf? components settings files language path).map fun text =>
          components.screen.echo (trimFeeds text)) := by
  induction paths with
  | nil => rfl
  | cons path rest ih =>
      rw [List.map_cons, String.join_cons, ih, printedText_printedOf _ _ _ h, List.filterMap_cons]
      cases summaryOf? components settings files language path with
      | none => exact String.empty_append
      | some text => exact (String.join_cons).symm

end

/-- A text report has one line feed at its end, which a screen gives back that shows a text as it
is. -/
theorem echo_trimFeeds_summary {screen : Screen} {report : Report} {threshold : Number}
    {text : String} (htext : report.summary threshold = .ok text)
    (hecho : ∀ shown, Ansi.IsFree shown.toList → screen.echo shown = shown ++ "\n")
    (hfree : Ansi.IsFree text.toList) : screen.echo (trimFeeds text) = text := by
  obtain ⟨-, rfl⟩ := Report.summary_eq_ok_iff.mp htext
  obtain ⟨front, c, hchars, hc⟩ := report.joinedLines_eq_append threshold
  have htrim : (trimFeeds (report.joinedLines threshold)).toList = front ++ [c] := by
    rw [trimFeeds, String.toList_ofList, hchars, Text.dropWhileEnd_append_cons (by simpa using hc)]
    rfl
  have hwhole : (report.joinedLines threshold).toList = front ++ [c] ++ ['\n'] := by simp [hchars]
  have hfront : Ansi.IsFree (trimFeeds (report.joinedLines threshold)).toList := by
    rw [hwhole] at hfree
    rw [htrim]
    exact hfree.of_append
  rw [hecho _ hfront, ← String.toList_inj, String.toList_append, htrim, hwhole]
  rfl

/-! ## One run and many -/

/-- What one run over several files has in common with runs over each of them: it prints what they
print, reports what they report, and fails with code 1 exactly if one of them does. -/
structure SameAsSingles (whole : Run) (singles : List Run) : Prop where
  stdout : whole.stdout = String.join (singles.map Run.stdout)
  errors : whole.errors = singles.flatMap Run.errors
  fails_iff : whole.exitCode = 1 ↔ ∃ single ∈ singles, single.exitCode = 1
  succeeds : (¬ ∃ single ∈ singles, single.exitCode = 1) → whole.exitCode = 0

theorem exitCode_of_shows {results : List (Except Failure String)} {run : Run}
    (h : Shows results run) :
    run.exitCode = if results.any (fun result => (errorOf? result).isSome) then 1 else 0 := by
  rw [Run.exitCode, h.ending]
  split <;> rfl

theorem SameAsSingles.of_shows {whole : Run} {single : Path → Run}
    {result : Path → Except Failure String} {paths : List Path}
    (hwhole : Shows (paths.map result) whole)
    (hsingle : ∀ path ∈ paths, Shows [result path] (single path)) :
    SameAsSingles whole (paths.map single) := by
  have hfails : (∃ run ∈ paths.map single, run.exitCode = 1) ↔
      (paths.map result).any (fun result => (errorOf? result).isSome) = true := by
    simp only [List.mem_map, exists_exists_and_eq_and, List.any_map, List.any_eq_true,
      Function.comp_apply]
    refine exists_congr fun path => and_congr_right fun hpath => ?_
    rw [exitCode_of_shows (hsingle path hpath), List.any_cons, List.any_nil, Bool.or_false]
    cases (errorOf? (result path)).isSome <;> simp
  constructor
  · rw [hwhole.stdout, List.map_map, List.map_map]
    apply congrArg String.join
    apply List.map_congr_left
    intro path hpath
    simp [(hsingle path hpath).stdout]
  · rw [hwhole.errors, List.flatMap_map, List.flatMap_map, List.flatMap_def, List.flatMap_def]
    apply congrArg List.flatten
    apply List.map_congr_left
    intro path hpath
    simp [(hsingle path hpath).errors]
  · rw [hfails, exitCode_of_shows hwhole]
    split <;> simp [*]
  · intro hnone
    rw [hfails, Bool.not_eq_true] at hnone
    rw [exitCode_of_shows hwhole, hnone]
    rfl

theorem run_analyze_shows {components : Components} {surroundings : Surroundings}
    {options : Options} {settings : Settings}
    (hs : loadSettings surroundings options.config options.values = .ok settings)
    (input : List Char) {paths : List Path}
    (hp : ∀ path ∈ paths, ∀ fault,
      printedOf components settings surroundings.files options.language path ≠
        .error (.fault fault)) :
    Shows (paths.map (printedOf components settings surroundings.files options.language))
      ((Command.analyze options paths).run components surroundings input) := by
  rw [Command.run, withSettings, hs]
  have hshows := analyzePaths_shows components settings surroundings.files options.language
    .empty paths hp
  exact ⟨hshows.stdout, hshows.errors, hshows.ending⟩

/-- Files that are analyzed in one run are analyzed as in runs of their own, whatever errors there
are among them, as long as the figures of their reports can be written. As text, the reports follow
each other without any separation, each as the screen shows it; a screen that shows a text without
escape sequences as it is shows the reports as they are if there are none in them. -/
theorem analyze_sameAsSingles (components : Components) (surroundings : Surroundings)
    (input : List Char) (options : Options) (paths : List Path) (settings : Settings)
    (hs : loadSettings surroundings options.config options.values = .ok settings)
    (hresult : ∀ path ∈ paths, ∀ fault,
      resultOf components settings surroundings.files options.language path ≠
        .error (.fault fault))
    (hwritable : ∀ path ∈ paths, ∀ report,
      resultOf components settings surroundings.files options.language path = .ok report →
        report.Writable) :
    let run (some : List Path) : Run :=
      (Command.analyze options some).run components surroundings input
    let summary? := summaryOf? components settings surroundings.files options.language
    SameAsSingles (run paths) (paths.map fun path => run [path]) ∧
      (settings.outputFormat = .text →
        (run paths).stdout = String.join (paths.filterMap fun path =>
          (summary? path).map fun text => components.screen.echo (trimFeeds text))) ∧
      (settings.outputFormat = .text →
        (∀ text, Ansi.IsFree text.toList → components.screen.echo text = text ++ "\n") →
        (∀ path ∈ paths, ∀ text, summary? path = some text → Ansi.IsFree text.toList) →
        (run paths).stdout = String.join (paths.filterMap summary?)) := by
  intro run summary?
  have hp (path : Path) (hpath : path ∈ paths) (fault : Fault) :
      printedOf components settings surroundings.files options.language path ≠
        .error (.fault fault) :=
    printedOf_ne_fault _ _ _ _ (hresult path hpath fault) (hwritable path hpath)
      (warningThreshold_of_loadSettings hs)
  have hwhole := run_analyze_shows hs input hp
  have hsingle : ∀ path ∈ paths,
      Shows [printedOf components settings surroundings.files options.language path]
        (run [path]) := by
    intro path hpath
    have hone : ∀ other ∈ [path], ∀ fault,
        printedOf components settings surroundings.files options.language other ≠
          .error (.fault fault) := by simpa using hp path hpath
    exact run_analyze_shows hs input hone
  have hechoed (htext : settings.outputFormat = .text) :
      (run paths).stdout = String.join (paths.filterMap fun path =>
        (summary? path).map fun text => components.screen.echo (trimFeeds text)) := by
    rw [hwhole.stdout, List.map_map]
    exact join_printedText components surroundings.files options.language htext paths
  refine ⟨SameAsSingles.of_shows hwhole hsingle, hechoed, ?_⟩
  intro htext hecho hfree
  rw [hechoed htext]
  apply congrArg String.join
  apply List.filterMap_congr
  intro path hpath
  cases hsummary : summary? path with
  | none => rfl
  | some text =>
      obtain ⟨report, -, hreport⟩ := Option.bind_eq_some_iff.mp hsummary
      rw [Option.map_some, echo_trimFeeds_summary (toOption_eq_some_iff.mp hreport) hecho
        (hfree path hpath text hsummary)]

/-! ## Two runs -/

/-- A settings-free process with one file in its working directory. -/
def Surroundings.ofSource (name : String) : Surroundings where
  files := (FileTree.bare "" ["work"] ["home"]).add ["work", name] (.file "f PROC\nJE x\n".toUTF8)
  environment := []
  stack := 960

theorem resultOf_ofSource {components : Components} {settings : Settings} {name : String}
    (hsize : settings.maxFileSizeBytes = .ok 10485760)
    (hfile : (Surroundings.ofSource name).files.lookup ⟨"", [name]⟩ =
      .ok (.file "f PROC\nJE x\n".toUTF8))
    (hgiven : isBlankPath (.path ⟨"", [name]⟩) = false) :
    resultOf components settings (Surroundings.ofSource name).files (some "asm") ⟨"", [name]⟩ =
      .ok ⟨(⟨"", [name]⟩ : Path).text, "Assembler", ⟨[("f", 2)]⟩⟩ := by
  have hasm : Language.ofKey? "asm" = some Assembly.Dialect.x86.language := by decide
  have hresult := Assembly.analyzeFile_of_file hasm hsize (by decide) (by decide) hgiven rfl
    hfile components.parser .empty
  rw [sourceOfBytes_toUTF8] at hresult
  exact hresult

theorem loadSettings_text {surroundings : Surroundings} {options : Options}
    (h : mergeLayers surroundings options.config options.values =
      .ok ⟨⟨[("output_format", .text "text")]⟩, false⟩) :
    loadSettings surroundings options.config options.values = .ok { outputFormat := .text } :=
  loadSettings_eq_ok_iff.mpr ⟨_, h, Merged.settings_eq_ok_iff.mpr ⟨rfl, by decide, rfl⟩⟩

theorem writable_of_two {name : FileName} :
    (⟨name, "Assembler", ⟨[("f", 2)]⟩⟩ : Report).Writable := by
  have hone : FewDigits 1 := isWritable_iff.mp (by decide)
  have htwo : FewDigits 2 := isWritable_iff.mp (by decide)
  exact ⟨hone, htwo, by simpa using htwo⟩

/-- A file that is not there comes before one that is, and no escape sequence is shown. -/
theorem analyze_sameAsSingles_of_missing :
    let components : Components := ⟨Java.parse none, .plain⟩
    let surroundings := Surroundings.ofSource "a"
    let options : Options := { language := some "asm", format := some "text" }
    let run (paths : List Path) : Run :=
      (Command.analyze options paths).run components surroundings []
    let paths : List Path := [⟨"", ["gone"]⟩, ⟨"", ["a"]⟩]
    SameAsSingles (run paths) (paths.map fun path => run [path]) ∧
      Report.summary ⟨"a", "Assembler", ⟨[("f", 2)]⟩⟩ (.int 10) = .ok (run paths).stdout := by
  intro components surroundings options run paths
  let settings : Settings := { outputFormat := .text }
  let report : Report := ⟨"a", "Assembler", ⟨[("f", 2)]⟩⟩
  have hs : loadSettings surroundings options.config options.values = .ok settings :=
    loadSettings_text rfl
  have hgone : resultOf components settings surroundings.files options.language ⟨"", ["gone"]⟩ =
      .error (.error (.validation "file_path" "file does not exist: gone") none) := rfl
  have hthere : resultOf components settings surroundings.files options.language ⟨"", ["a"]⟩ =
      .ok report := resultOf_ofSource rfl rfl (by decide)
  have hmade : report.summary settings.warningThreshold = .ok (report.joinedLines (.int 10)) :=
    Report.summary_eq_ok_iff.mpr ⟨writable_of_two, rfl⟩
  have hlines : report.joinedLines (.int 10) = "File: a (Assembler)\nTotal Functions: 1\n" ++
      "Total Complexity: 2\nMax Complexity: 2 in f\n\nFunction Complexities:\n  f: 2\n" := by
    cbv
  have hnone : summaryOf? components settings surroundings.files options.language
      ⟨"", ["gone"]⟩ = none := by
    rw [summaryOf?, hgone]
    rfl
  have hsome : summaryOf? components settings surroundings.files options.language ⟨"", ["a"]⟩ =
      some (report.joinedLines (.int 10)) := by
    rw [summaryOf?, hthere, Except.toOption, Option.bind_some, hmade, Except.toOption]
  have hpaths (p : Path → Prop) (hfirst : p ⟨"", ["gone"]⟩) (hsecond : p ⟨"", ["a"]⟩) :
      ∀ path ∈ paths, p path :=
    List.forall_mem_cons.mpr ⟨hfirst, (List.forall_mem_singleton).mpr hsecond⟩
  have hresult : ∀ path ∈ paths, ∀ fault,
      resultOf components settings surroundings.files options.language path ≠
        .error (.fault fault) := by
    apply hpaths
    · simp [hgone]
    · simp [hthere]
  have hwritable : ∀ path ∈ paths, ∀ other,
      resultOf components settings surroundings.files options.language path = .ok other →
        other.Writable := by
    apply hpaths
    · simp [hgone]
    · intro other hother
      cases hthere.symm.trans hother
      exact writable_of_two
  have hfree : Ansi.IsFree (report.joinedLines (.int 10)).toList := by
    apply Ansi.isFree_of_notMem
    rw [hlines]
    simp [Ansi.escape]
  obtain ⟨hsame, -, htext⟩ :=
    analyze_sameAsSingles components surroundings [] options paths settings hs hresult hwritable
  refine ⟨hsame, hmade.trans (congrArg Except.ok ?_)⟩
  have hstdout := htext rfl (fun text => echo_plain) ?_
  · rw [hstdout, List.filterMap_cons_none hnone, List.filterMap_cons_some hsome]
    simp
  · apply hpaths
    · simp [hnone]
    · intro text hsummary
      rwa [← Option.some.inj (hsome.symm.trans hsummary)]

/-- A file has a name that would colour what follows it. Its text report is made, but the sequence
in it is not shown. -/
theorem analyze_text_of_colour :
    let components : Components := ⟨Java.parse none, .plain⟩
    let surroundings := Surroundings.ofSource "\x1b[31mred"
    let options : Options := { language := some "asm", format := some "text" }
    let paths : List Path := [⟨"", ["\x1b[31mred"]⟩]
    let run : Run := (Command.analyze options paths).run components surroundings []
    ∃ text : String,
      Report.summary ⟨"\x1b[31mred", "Assembler", ⟨[("f", 2)]⟩⟩ (.int 10) = .ok text ∧
        run.exitCode = 0 ∧ run.stdout ≠ text := by
  intro components surroundings options paths run
  let settings : Settings := { outputFormat := .text }
  let report : Report := ⟨"\x1b[31mred", "Assembler", ⟨[("f", 2)]⟩⟩
  have hs : loadSettings surroundings options.config options.values = .ok settings :=
    loadSettings_text rfl
  have hthere : resultOf components settings surroundings.files options.language
      ⟨"", ["\x1b[31mred"]⟩ = .ok report := resultOf_ofSource rfl rfl (by decide)
  have hmade : report.summary settings.warningThreshold = .ok (report.joinedLines (.int 10)) :=
    Report.summary_eq_ok_iff.mpr ⟨writable_of_two, rfl⟩
  have hprinted : printedOf components settings surroundings.files options.language
      ⟨"", ["\x1b[31mred"]⟩ =
        .ok (Screen.plain.echo (trimFeeds (report.joinedLines (.int 10)))) := by
    rw [printedOf, hthere, printedResult_text rfl hmade]
  have hp : ∀ path ∈ paths, ∀ fault,
      printedOf components settings surroundings.files options.language path ≠
        .error (.fault fault) := by
    intro path hpath fault
    obtain rfl := List.mem_singleton.mp hpath
    rw [hprinted]
    simp
  have hshows : Shows _ run := run_analyze_shows hs [] hp
  rw [List.map_singleton, hprinted] at hshows
  refine ⟨report.joinedLines (.int 10), hmade, ?_, ?_⟩
  · rw [exitCode_of_shows hshows]
    rfl
  · have hlines : report.joinedLines (.int 10) =
        "File: \x1b[31mred (Assembler)\nTotal Functions: 1\nTotal Complexity: 2\n" ++
          "Max Complexity: 2 in f\n\nFunction Complexities:\n  f: 2\n" := by
      have hranked : report.ranked = [("f", 2)] := List.mergeSort_singleton _
      rw [Report.joinedLines, Report.summaryLines, hranked]
      decide +kernel
    rw [hshows.stdout, List.map_singleton, printedText, hlines]
    decide +kernel

end Cyclomatic.CommandLine
