import Cyclomatic.Log.Routing
import Mathlib.Tactic.Common

/-! # Setups that fail

A setup is refused before anything is changed if its verbosity is unknown. If its log file cannot be
opened, the level and the console are those of the failed setup already and the handlers of earlier
setups are gone, so records are written to no file from then on. -/

namespace Cyclomatic.Logging

/-- The two ways in which a setup fails, and what is left after each. -/
inductive FailedSetup (logging : Logging) (verbosity logFile : String) (fault : Fault)
    (next : Logging) : Prop where
  | unknown (hword : Verbosity.ofWord? verbosity = none)
      (hfault : fault = ⟨.invalidValue, s!"Unknown verbosity: {Text.quoted verbosity}"⟩)
      (hsame : next = logging)
  | unopened {known : Verbosity} (hword : Verbosity.ofWord? verbosity = some known)
      (hfile : logFile ≠ "")
      (hopen : logging.files.openForAppend (Path.ofString logFile) = .error fault)
      (hlevel : next.logger.level = some known.level)
      (hhandlers : next.logger.handlers = [.console (known == .verbose)])
      (hpropagates : next.logger.propagates = logging.logger.propagates)
      (hfiles : next.files = logging.files)

variable {logging next : Logging} {verbosity logFile : String} {fault : Fault}

theorem failedSetup_of_setup (h : logging.setup verbosity logFile = (.error fault, next)) :
    FailedSetup logging verbosity logFile fault next := by
  unfold setup at h
  cases hword : Verbosity.ofWord? verbosity with
  | none =>
      simp only [hword] at h
      obtain ⟨hfault, rfl⟩ := Prod.mk.inj h
      cases hfault
      exact .unknown hword rfl rfl
  | some known =>
      simp only [hword, setupAt, beq_iff_eq] at h
      split at h
      · cases h
      · rename_i hfile
        split at h
        · cases h
        · rename_i reason hopen
          cases h
          exact .unopened hword hfile hopen rfl rfl rfl rfl

theorem FailedSetup.setup_eq (h : FailedSetup logging verbosity logFile fault next) :
    logging.setup verbosity logFile = (.error fault, next) := by
  cases h with
  | unknown hword hfault hsame => rw [setup, hword, hfault, hsame]
  | @unopened known hword hfile hopen hlevel hhandlers hpropagates hfiles =>
      obtain ⟨⟨level, handlers, propagates⟩, files⟩ := next
      simp only at hlevel hhandlers hpropagates hfiles
      subst hlevel hhandlers hpropagates hfiles
      simp only [setup, hword, setupAt, beq_iff_eq, hfile, if_false, hopen]
      rfl

/-- Unless its verbosity is unknown, a failed setup is seen as soon as the logger stood otherwise
before. -/
theorem FailedSetup.logger_eq_iff (h : FailedSetup logging verbosity logFile fault next) :
    next.logger = logging.logger ↔ ∀ known, Verbosity.ofWord? verbosity = some known →
      logging.logger.level = some known.level ∧
        logging.logger.handlers = [.console (known == .verbose)] := by
  cases h with
  | unknown hword _ hsame => simp [hword, hsame]
  | @unopened known hword _ _ hlevel hhandlers hpropagates _ =>
      simp only [hword, Option.some.injEq, forall_eq']
      constructor
      · intro hsame
        rw [← hsame]
        exact ⟨hlevel, hhandlers⟩
      · rintro ⟨hold, holdHandlers⟩
        obtain ⟨⟨level, handlers, propagates⟩, files⟩ := next
        simp only at hlevel hhandlers hpropagates
        rw [hlevel, hhandlers, hpropagates, ← hold, ← holdHandlers]

theorem FailedSetup.files_emit (h : FailedSetup logging verbosity logFile fault next)
    {known : Verbosity} (hknown : Verbosity.ofWord? verbosity = some known) (stamp : String)
    (record : Record) : (next.emit stamp record).files = logging.files := by
  cases h with
  | unknown hword => cases hword.symm.trans hknown
  | unopened _ _ _ _ hhandlers _ hfiles =>
      unfold emit
      split
      · simp [hhandlers, Handler.write, hfiles]
      · exact hfiles

/-- A setup fails in two ways only. An unknown verbosity leaves everything as it was. A log file
that cannot be opened leaves the logger at the new level with nothing but a console, which is no
change only if it stood so before, and no record reaches a file any more. -/
theorem setup_failure (logging : Logging) (verbosity logFile : String) (fault : Fault)
    (next : Logging) :
    (logging.setup verbosity logFile = (.error fault, next) ↔
        FailedSetup logging verbosity logFile fault next) ∧
      (FailedSetup logging verbosity logFile fault next →
        (next.logger = logging.logger ↔ ∀ known, Verbosity.ofWord? verbosity = some known →
          logging.logger.level = some known.level ∧
            logging.logger.handlers = [.console (known == .verbose)]) ∧
        ∀ known, Verbosity.ofWord? verbosity = some known → ∀ stamp record,
          (next.emit stamp record).files = logging.files) :=
  ⟨⟨failedSetup_of_setup, FailedSetup.setup_eq⟩,
    fun h => ⟨h.logger_eq_iff, fun _ hknown => h.files_emit hknown⟩⟩

/-- A setup with a log file, and then one whose log file is a directory. -/
theorem failed_setup_changes_logger :
    let fresh : Logging := { files := FileTree.bare "" ["work"] ["home"] }
    let before := (fresh.setup "normal" "a.log").2
    let after := (before.setup "quiet" ".").2
    (fresh.setup "normal" "a.log").1 = .ok () ∧
      (before.setup "quiet" ".").1 =
        .error ⟨.io .isDirectory, "[Errno 21] Is a directory: '/work'"⟩ ∧
      before.logger = ⟨some .warning, [.console false, .file ["work", "a.log"]], false⟩ ∧
      after.logger = ⟨some .error, [.console false], false⟩ := by
  refine ⟨rfl, ?_, rfl, rfl⟩
  decide

end Cyclomatic.Logging
