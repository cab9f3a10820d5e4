import Cyclomatic.Log.Routing
import Cyclomatic.Proofs.FileTree

/-! # Where log records go

Logging is set up any number of times, in vain if the verbosity is unknown, and records are made in
between. What a log file holds in the end is what it held before and one entry for each record that
was made while the last successful setup named the file, if the record was important enough for that
setup. Handlers of earlier setups take no part in it, so files may be left and taken up again. -/

namespace Cyclomatic.Logging

/-! ## Runs -/

/-- What happens while a program runs. -/
inductive Event where
  /-- A setup that succeeds. -/
  | setup (verbosity logFile : String)
  /-- A setup that is refused because its verbosity is unknown. -/
  | refused (verbosity logFile : String)
  /-- A record is made by a part of the library. -/
  | record (stamp name : String) (level : Level) (message : String)

inductive Step (logging : Logging) : Event → Logging → Prop where
  | setup {verbosity logFile : String} : (logging.setup verbosity logFile).1 = .ok () →
      Step logging (.setup verbosity logFile) (logging.setup verbosity logFile).2
  | refused {verbosity logFile : String} : Verbosity.ofWord? verbosity = none →
      Step logging (.refused verbosity logFile) (logging.setup verbosity logFile).2
  | record {stamp name : String} {level : Level} {message : String} :
      Step logging (.record stamp name level message)
        (logging.emit stamp ⟨level, loggerName name, message⟩)

inductive Run (start : Logging) : List Event → Logging → Prop where
  | nil : Run start [] start
  | concat {events : List Event} {event : Event} {logging next : Logging} :
      Run start events logging → Step logging event next → Run start (events ++ [event]) next

/-! ## Entries of a log file -/

/-- The verbosity and the log file of a successful setup. -/
def Event.setup? : Event → Option (Verbosity × String)
  | .setup verbosity logFile => (Verbosity.ofWord? verbosity).map (·, logFile)
  | _ => none

def lastSetup? (events : List Event) : Option (Verbosity × String) :=
  (events.filterMap Event.setup?).getLast?

/-- Whether a setup sends records of a level to a place. -/
def sendsTo (files : FileTree) (place : Names) (level : Level) : Option (Verbosity × String) → Bool
  | some (verbosity, logFile) =>
      decide (logFile ≠ "" ∧ files.placeOf (Path.ofString logFile) = place ∧
        verbosity.level.number ≤ level.number)
  | none => false

/-- The entry at a place for what happens after a setup. -/
def Event.entryAt? (files : FileTree) (place : Names) (setup : Option (Verbosity × String)) :
    Event → Option String
  | .record stamp name level message =>
      if sendsTo files place level setup then
        some s!"{stamp} - {loggerName name} - {level.name} - {message}\n"
      else none
  | _ => none

/-- The entries at a place, each by the last setup before it. -/
def entriesAt (files : FileTree) (place : Names) (events : List Event) : List String :=
  events.zipIdx.filterMap fun (event, index) =>
    event.entryAt? files place (lastSetup? (events.take index))

theorem lastSetup?_concat (events : List Event) (event : Event) :
    lastSetup? (events ++ [event]) = event.setup?.or (lastSetup? events) := by
  rw [lastSetup?, List.filterMap_append]
  cases hsetup : event.setup? with
  | none => simp [hsetup, lastSetup?]
  | some setup => simp [hsetup]

theorem entriesAt_concat (files : FileTree) (place : Names) (events : List Event) (event : Event) :
    entriesAt files place (events ++ [event]) =
      entriesAt files place events ++
        (event.entryAt? files place (lastSetup? events)).toList := by
  rw [entriesAt, List.zipIdx_append, List.filterMap_append]
  congr 1
  · apply List.filterMap_congr
    rintro ⟨earlier, index⟩ hmem
    have hindex : index ≤ events.length := Nat.le_of_lt (List.snd_lt_of_mem_zipIdx hmem)
    simp only [List.take_append_of_le_length hindex]
  · cases hentry : event.entryAt? files place (lastSetup? events) with
    | none => simp [hentry]
    | some entry => simp [hentry]

theorem map_append_nil (content : Option ByteArray) :
    content.map (· ++ (String.join []).toUTF8) = content := by
  cases content <;> simp

theorem map_append_entries (content : Option ByteArray) (front back : List String) :
    (content.map (· ++ (String.join front).toUTF8)).map (· ++ (String.join back).toUTF8) =
      content.map (· ++ (String.join (front ++ back)).toUTF8) := by
  cases content <;> simp [String.join_append, ByteArray.append_assoc]

/-! ## What a setup leaves behind -/

/-- The handlers after a setup. -/
def handlersOf (files : FileTree) : Option (Verbosity × String) → List Handler
  | none => []
  | some (verbosity, logFile) =>
      .console (verbosity == .verbose) ::
        if logFile = "" then [] else [.file (files.placeOf (Path.ofString logFile))]

/-- Everything that a successful setup does. -/
theorem setup_cases {logging : Logging} {verbosity logFile : String}
    (h : (logging.setup verbosity logFile).1 = .ok ()) :
    ∃ known, Verbosity.ofWord? verbosity = some known ∧
      (logFile = "" ∧ (logging.setup verbosity logFile).2 =
          ⟨(logging.logger.onConsole known).contained, logging.files⟩ ∨
        logFile ≠ "" ∧ ∃ place files,
          logging.files.openForAppend (Path.ofString logFile) = .ok (place, files) ∧
            (logging.setup verbosity logFile).2 =
              ⟨((logging.logger.onConsole known).withFile place).contained, files⟩) := by
  unfold setup at h ⊢
  cases hword : Verbosity.ofWord? verbosity with
  | none =>
      simp only [hword] at h
      cases h
  | some known =>
      refine ⟨known, rfl, ?_⟩
      simp only [hword, setupAt] at h ⊢
      by_cases hfile : logFile = ""
      · exact .inl ⟨hfile, by simp [hfile]⟩
      · refine .inr ⟨hfile, ?_⟩
        simp only [beq_iff_eq, hfile, if_false] at h ⊢
        cases hopen : logging.files.openForAppend (Path.ofString logFile) with
        | error fault =>
            simp only [hopen] at h
            cases h
        | ok opened => exact ⟨opened.1, opened.2, rfl, rfl⟩

theorem setup_of_unknown {verbosity : String} (h : Verbosity.ofWord? verbosity = none)
    (logging : Logging) (logFile : String) :
    (logging.setup verbosity logFile).2 = logging := by
  rw [setup, h]

/-! ## Records -/

@[simp] theorem logger_emit (stamp : String) (logging : Logging) (record : Record) :
    (logging.emit stamp record).logger = logging.logger := by
  unfold emit
  split <;> rfl

theorem passes_iff {logging : Logging} {known : Verbosity} (record : Record)
    (h : logging.logger.level = some known.level) :
    logging.logger.passes record = true ↔ known.level.number ≤ record.level.number := by
  simp [Logger.passes, Logger.threshold, h]

/-! ## Steps and runs -/

/-- The state after events that began with the files `files`. -/
structure Routed (files : FileTree) (events : List Event) (logging : Logging) : Prop where
  wellFormed : logging.files.WellFormed
  workDirectory : logging.files.workDirectory = files.workDirectory
  level : logging.logger.level = (lastSetup? events).map fun setup => setup.1.level
  handlers : logging.logger.handlers = handlersOf files (lastSetup? events)
  present : ∀ place, .file place ∈ logging.logger.handlers →
    logging.files.entries.contains place = true
  content : ∀ place, logging.files.contentAt? place =
    (files.contentAt? place).map (· ++ (String.join (entriesAt files place events)).toUTF8)

theorem routed_nil {files : FileTree} (h : files.WellFormed) : Routed files [] { files } where
  wellFormed := h
  workDirectory := rfl
  level := rfl
  handlers := rfl
  present _ hmem := absurd hmem List.not_mem_nil
  content _ := (map_append_nil _).symm

variable {files : FileTree} {events : List Event} {logging : Logging}

theorem Routed.placeOf (h : Routed files events logging) (path : Path) :
    logging.files.placeOf path = files.placeOf path := by
  rw [FileTree.placeOf, FileTree.placeOf, h.workDirectory]

theorem Routed.content_concat (h : Routed files events logging) {event : Event} {next : FileTree}
    {place : Names} (hstep : next.contentAt? place = (logging.files.contentAt? place).map
      (· ++ (String.join (event.entryAt? files place (lastSetup? events)).toList).toUTF8)) :
    next.contentAt? place = (files.contentAt? place).map
      (· ++ (String.join (entriesAt files place (events ++ [event]))).toUTF8) := by
  rw [hstep, h.content, map_append_entries, entriesAt_concat]

/-- A step that is no setup keeps the logger, so only the files have to be looked at. -/
theorem Routed.sameLogger (h : Routed files events logging) {event : Event} {next : Logging}
    (hevent : event.setup? = none) (hlogger : next.logger = logging.logger)
    (hfiles : next.files.WellFormed)
    (hwork : next.files.workDirectory = logging.files.workDirectory)
    (hpresent : ∀ place, next.files.entries.contains place = logging.files.entries.contains place)
    (hstep : ∀ place, next.files.contentAt? place = (logging.files.contentAt? place).map
      (· ++ (String.join (event.entryAt? files place (lastSetup? events)).toList).toUTF8)) :
    Routed files (events ++ [event]) next := by
  have hlast : lastSetup? (events ++ [event]) = lastSetup? events := by
    rw [lastSetup?_concat, hevent, Option.none_or]
  refine ⟨hfiles, hwork.trans h.workDirectory, ?_, ?_, ?_, ?_⟩
  · rw [hlogger, hlast, h.level]
  · rw [hlogger, hlast, h.handlers]
  · intro place hmem
    rw [hlogger] at hmem
    rw [hpresent, h.present place hmem]
  · intro place
    exact h.content_concat (hstep place)

theorem Routed.refused (h : Routed files events logging) {verbosity : String}
    (hword : Verbosity.ofWord? verbosity = none) (logFile : String) :
    Routed files (events ++ [.refused verbosity logFile]) (logging.setup verbosity logFile).2 := by
  rw [setup_of_unknown hword]
  apply h.sameLogger rfl rfl h.wellFormed rfl (fun _ => rfl)
  intro place
  exact (map_append_nil _).symm

theorem Routed.setup (h : Routed files events logging) {verbosity logFile : String}
    (hok : (logging.setup verbosity logFile).1 = .ok ()) :
    Routed files (events ++ [.setup verbosity logFile]) (logging.setup verbosity logFile).2 := by
  obtain ⟨known, hword, hnext⟩ := setup_cases hok
  have hlast : lastSetup? (events ++ [.setup verbosity logFile]) = some (known, logFile) := by
    rw [lastSetup?_concat]
    simp [Event.setup?, hword]
  rcases hnext with ⟨hfile, hnext⟩ | ⟨hfile, place, opened, hopen, hnext⟩
  · rw [hnext]
    refine ⟨h.wellFormed, h.workDirectory, ?_, ?_, ?_, ?_⟩
    · rw [hlast]
      rfl
    · rw [hlast, hfile]
      rfl
    · intro place hmem
      simp [Logger.contained, Logger.onConsole] at hmem
    · intro place
      exact h.content_concat (map_append_nil _).symm
  · obtain ⟨hplace, hopened⟩ := FileTree.opened_of_openForAppend h.wellFormed hopen
    rw [h.placeOf] at hplace
    rw [hnext]
    refine ⟨hopened.wellFormed, hopened.workDirectory.trans h.workDirectory, ?_, ?_, ?_, ?_⟩
    · rw [hlast]
      rfl
    · rw [hlast, handlersOf, if_neg hfile, ← hplace]
      rfl
    · intro other hmem
      simp [Logger.contained, Logger.withFile, Logger.onConsole] at hmem
      rw [hmem]
      exact hopened.present
    · intro other
      apply h.content_concat
      rw [hopened.content]
      exact (map_append_nil _).symm

/-- A record goes to no file, or to the one that the last setup named. -/
theorem Routed.emit_cases (h : Routed files events logging) (stamp : String) (record : Record) :
    (logging.emit stamp record).files = logging.files ∧
        (∀ place, sendsTo files place record.level (lastSetup? events) = false) ∨
      ∃ place, .file place ∈ logging.logger.handlers ∧
        (logging.emit stamp record).files =
          logging.files.append place (record.line stamp).toUTF8 ∧
        ∀ other, sendsTo files other record.level (lastSetup? events) = decide (other = place) := by
  have hhandlers := h.handlers
  have hlevel := h.level
  cases hlast : lastSetup? events with
  | none =>
      rw [hlast] at hhandlers
      refine .inl ⟨?_, fun place => rfl⟩
      unfold emit
      split
      · simp [hhandlers, handlersOf]
      · rfl
  | some setup =>
      obtain ⟨known, logFile⟩ := setup
      rw [hlast] at hhandlers hlevel
      by_cases hpasses : logging.logger.passes record = true
      · have hnumber := (passes_iff record hlevel).mp hpasses
        by_cases hfile : logFile = ""
        · refine .inl ⟨?_, fun place => by simp [sendsTo, hfile]⟩
          simp [emit, hpasses, hhandlers, handlersOf, hfile, Handler.write]
        · refine .inr ⟨files.placeOf (Path.ofString logFile), ?_, ?_, ?_⟩
          · simp [hhandlers, handlersOf, hfile]
          · simp [emit, hpasses, hhandlers, handlersOf, hfile, Handler.write]
          · intro other
            simp only [sendsTo, decide_eq_decide]
            exact ⟨fun hsends => hsends.2.1.symm, fun hother => ⟨hfile, hother.symm, hnumber⟩⟩
      · have hnumber := mt (passes_iff record hlevel).mpr hpasses
        refine .inl ⟨by simp [emit, hpasses], fun place => ?_⟩
        simp [sendsTo, hnumber]

theorem Routed.record (h : Routed files events logging) (stamp name : String) (level : Level)
    (message : String) :
    Routed files (events ++ [.record stamp name level message])
      (logging.emit stamp ⟨level, loggerName name, message⟩) := by
  obtain ⟨hsame, hnone⟩ | ⟨place, hmem, happend, hplace⟩ :=
    h.emit_cases stamp ⟨level, loggerName name, message⟩
  · apply h.sameLogger rfl (logger_emit _ _ _)
    · rw [hsame]
      exact h.wellFormed
    · rw [hsame]
    · intro other
      rw [hsame]
    · intro other
      rw [hsame, Event.entryAt?, hnone other]
      exact (map_append_nil _).symm
  · apply h.sameLogger rfl (logger_emit _ _ _)
    · rw [happend]
      exact h.wellFormed.append _ _
    · rw [happend, FileTree.workDirectory_append]
    · intro other
      rw [happend, FileTree.contains_append]
    · intro other
      -- The file is there, for the setup opened it and nothing removes a file.
      rw [happend, FileTree.contentAt?_append (h.present place hmem), Event.entryAt?, hplace other]
      by_cases hother : other = place
      · simp [hother, Record.line]
      · simp [hother]

/-- One step keeps what the events before it brought about. -/
theorem Routed.step (h : Routed files events logging) {event : Event} {next : Logging}
    (hstep : Step logging event next) : Routed files (events ++ [event]) next := by
  cases hstep with
  | setup hok => exact h.setup hok
  | refused hword => exact h.refused hword _
  | record => exact h.record _ _ _ _

theorem Run.routed {final : Logging} (hfiles : files.WellFormed)
    (hrun : Run { files } events final) : Routed files events final := by
  -- Runs grow at their end, since an entry depends on the setups before it alone.
  induction hrun with
  | nil => exact routed_nil hfiles
  | concat _ hstep ih => exact ih.step hstep

/-! ## Whole runs -/

theorem run_concat_iff {start next : Logging} {event : Event} :
    Run start (events ++ [event]) next ↔
      ∃ logging, Run start events logging ∧ Step logging event next := by
  constructor
  · intro hrun
    generalize hall : events ++ [event] = all at hrun
    cases hrun with
    | nil => simp at hall
    | concat hfront hstep =>
        obtain ⟨rfl, hevent⟩ := List.append_inj' hall rfl
        cases hevent
        exact ⟨_, hfront, hstep⟩
  · rintro ⟨logging, hfront, hstep⟩
    exact .concat hfront hstep

theorem Run.split {start final : Logging} {front back : List Event}
    (hrun : Run start (front ++ back) final) :
    ∃ middle, Run start front middle ∧ Run middle back final := by
  induction back using List.reverseRecOn generalizing final with
  | nil =>
      rw [List.append_nil] at hrun
      exact ⟨final, hrun, .nil⟩
  | append_singleton back event ih =>
      rw [← List.append_assoc] at hrun
      obtain ⟨logging, hearlier, hstep⟩ := run_concat_iff.mp hrun
      obtain ⟨middle, hfront, hback⟩ := ih hearlier
      exact ⟨middle, hfront, .concat hback hstep⟩

/-- The handlers that a successful setup leaves do not depend on what was set up before. -/
theorem Run.handlers_of_setup {front : List Event} {verbosity logFile : String} {next : Logging}
    (hfiles : files.WellFormed) (hrun : Run { files } (front ++ [.setup verbosity logFile]) next) :
    (∃ detailed, next.logger.handlers = .console detailed ::
        if logFile = "" then [] else [.file (files.placeOf (Path.ofString logFile))]) ∧
      next.logger.propagates = false := by
  obtain ⟨logging, -, hstep⟩ := run_concat_iff.mp hrun
  have hhandlers := (hrun.routed hfiles).handlers
  cases hstep with
  | setup hok =>
      obtain ⟨known, hword, hnext⟩ := setup_cases hok
      rw [lastSetup?_concat, Event.setup?, hword] at hhandlers
      refine ⟨⟨_, hhandlers⟩, ?_⟩
      rcases hnext with ⟨-, hnext⟩ | ⟨-, place, opened, -, hnext⟩
      · rw [hnext]
        rfl
      · rw [hnext]
        rfl

/-- After any run, a log file holds what it held at first and one entry for each record that the
last setup before the record sent there. After each successful setup of the run the logger has one
console, the log file of that setup if it named one, and nothing else. -/
theorem Run.log_routing {final : Logging} (hfiles : files.WellFormed)
    (hrun : Run { files } events final) :
    (∀ place, final.files.contentAt? place =
      (files.contentAt? place).map (· ++ (String.join (entriesAt files place events)).toUTF8)) ∧
    ∀ front verbosity logFile back, events = front ++ .setup verbosity logFile :: back →
      ∃ after, Run { files } (front ++ [.setup verbosity logFile]) after ∧ Run after back final ∧
        (∃ detailed, after.logger.handlers = .console detailed ::
          if logFile = "" then [] else [.file (files.placeOf (Path.ofString logFile))]) ∧
        after.logger.propagates = false := by
  refine ⟨(hrun.routed hfiles).content, ?_⟩
  rintro front verbosity logFile back rfl
  rw [List.append_cons] at hrun
  obtain ⟨after, hsetup, hback⟩ := hrun.split
  exact ⟨after, hsetup, hback, hsetup.handlers_of_setup hfiles⟩

def sampleFiles : FileTree :=
  (FileTree.bare "" ["work"] ["home"]).add ["work", "a.log"] (.file "old\n".toUTF8)

/-- A log file is left for another one and taken up again. -/
def sampleEvents : List Event :=
  [] ++ [.setup "normal" "a.log"] ++ [.record "12:00" "api" .warning "one"] ++
    [.setup "verbose" "b.log"] ++ [.record "12:01" "api" ⟨15⟩ "two"] ++
    [.refused "loud" "a.log"] ++ [.setup "quiet" "./a.log"] ++
    [.record "12:02" "" .error "three"] ++ [.record "12:03" "" .warning "four"]

theorem sampleFiles_wellFormed : sampleFiles.WellFormed :=
  FileTree.wellFormed_add (by decide) _ _

theorem entriesAt_sample : entriesAt sampleFiles ["work", "a.log"] sampleEvents =
    ["12:00 - complexity_insight.api - WARNING - one\n",
      "12:02 - complexity_insight - ERROR - three\n"] := by
  decide

theorem Run.log_routing_sample :
    ∃ final, Run { files := sampleFiles } sampleEvents final ∧
      final.files.contentAt? ["work", "a.log"] = some ("old\n" ++
        "12:00 - complexity_insight.api - WARNING - one\n" ++
        "12:02 - complexity_insight - ERROR - three\n").toUTF8 := by
  have hrun : ∃ final, Run { files := sampleFiles } sampleEvents final :=
    ⟨_, .concat (.concat (.concat (.concat (.concat (.concat (.concat (.concat .nil (.setup rfl))
      .record) (.setup rfl)) .record) (.refused rfl)) (.setup rfl)) .record) .record⟩
  obtain ⟨final, hrun⟩ := hrun
  refine ⟨final, hrun, ?_⟩
  have hold : sampleFiles.contentAt? ["work", "a.log"] = some "old\n".toUTF8 := rfl
  rw [(hrun.log_routing sampleFiles_wellFormed).1, entriesAt_sample, hold]
  simp only [Option.map_some, String.toUTF8_eq_toByteArray, ← String.toByteArray_append]
  rfl

end Cyclomatic.Logging
