import ScopedStore.Logging.Setup
import ScopedStore.Proofs.Writes

/-!
# The log is set up once

What a request to set the log up comes to is told by the log that is asked for
(`ActiveLog.AskedBy`), or by what is wrong with the request itself (`ActiveLog.Unfit`), and then by
the state of the log: a log that is off is started if its directory can be made, and one that is on
is only compared with the request. The reasons of a refusal are listed in the order in which they
are looked for, and each of them says that those in front of it do not apply (`Logging.Refuses`).

Between two requests the program may log and write its lines, and others may do anything to the
files (`Logging.Turn`). No turn takes a log away or puts another one in its place
(`Logging.active_turn_of_on`), and from a log that is off only a request that is granted leads to
one that is on (`Logging.active_turn_of_off`). So in every run the log is on exactly if a request
was granted, and it is the one that was asked for by the first of these
(`logging_is_set_up_once`).

The directory of a log that is on is absolute, as no other one is ever started
(`Logging.Rooted`); so two directories are the same exactly if their pieces are.
-/

set_option autoImplicit false

namespace ScopedStore

/-! ## Levels and directories -/

/-- A text names a level, whatever the blanks around it and the case of its ASCII letters; `warning`
is another name of the level `warn`. -/
def LogLevel.NamedBy (level : LogLevel) (text : String) : Prop :=
  ActiveLog.lowerCase (Text.trim text) = level.name ∨
    level = .warn ∧ ActiveLog.lowerCase (Text.trim text) = "warning"

namespace ActiveLog

variable {level directory : String} {cause : LoggingError}

theorem readLevel_eq_ok_iff {wanted : LogLevel} :
    readLevel level = .ok wanted ↔ wanted.NamedBy level := by
  rw [readLevel, LogLevel.NamedBy]
  generalize lowerCase (Text.trim level) = name
  split
  case h_7 other _ _ _ _ _ _ => cases wanted <;> simp_all [LogLevel.name]
  all_goals cases wanted <;> simp [LogLevel.name]

theorem readLevel_eq_error_iff :
    readLevel level = .error cause ↔
      (∀ known : LogLevel, ¬known.NamedBy level) ∧
        cause = .unsupportedLevel (lowerCase (Text.trim level)) := by
  simp only [← readLevel_eq_ok_iff]
  rw [readLevel]
  split <;> simp [eq_comm]

theorem readDirectory_eq_ok_iff {path : String} :
    readDirectory directory = .ok path ↔
      path = Text.trim directory ∧ Path.isAbsolute (Text.trim directory) := by
  rw [readDirectory]
  split
  next empty =>
    rw [String.isEmpty_iff] at empty
    simp [empty, Path.isAbsolute]
  next =>
    split
    next absolute => simp [absolute, eq_comm]
    next relative => simp [relative]

theorem readDirectory_eq_error_iff :
    readDirectory directory = .error cause ↔
      Text.trim directory = "" ∧ cause = .emptyDirectory ∨
        Text.trim directory ≠ "" ∧ ¬Path.isAbsolute (Text.trim directory) ∧
          cause = .relativeDirectory (Text.trim directory) := by
  rw [readDirectory]
  split
  next empty => simp [String.isEmpty_iff.1 empty, @eq_comm _ cause]
  next given =>
    rw [String.isEmpty_iff] at given
    split
    next absolute => simp [given, absolute]
    next relative => simp [given, relative, eq_comm]

/-! ## Requests -/

/-- The log that a level and a directory ask for. -/
structure AskedBy (log : ActiveLog) (level directory : String) : Prop where
  level : log.level.NamedBy level
  directory : log.directory = Text.trim directory
  absolute : Path.isAbsolute log.directory

/-- A level and a directory ask for no log at all. A wrong level is found before a wrong
directory. -/
inductive Unfit (level directory : String) : LoggingError → Prop
  | level (unnamed : ∀ known : LogLevel, ¬known.NamedBy level) :
      Unfit level directory (.unsupportedLevel (lowerCase (Text.trim level)))
  | empty {known : LogLevel} (named : known.NamedBy level) (empty : Text.trim directory = "") :
      Unfit level directory .emptyDirectory
  | relative {known : LogLevel} (named : known.NamedBy level) (given : Text.trim directory ≠ "")
      (relative : ¬Path.isAbsolute (Text.trim directory)) :
      Unfit level directory (.relativeDirectory (Text.trim directory))

theorem request_eq_ok_iff {log : ActiveLog} :
    request level directory = .ok log ↔ log.AskedBy level directory := by
  simp only [request, bind_eq_ok, readLevel_eq_ok_iff, readDirectory_eq_ok_iff, pure, Except.pure,
    Except.ok.injEq]
  constructor
  · rintro ⟨wanted, named, path, ⟨rfl, absolute⟩, rfl⟩
    exact ⟨named, rfl, absolute⟩
  · rintro ⟨named, path, absolute⟩
    exact ⟨log.level, named, log.directory, ⟨path, path ▸ absolute⟩, rfl⟩

theorem request_eq_error_iff :
    request level directory = .error cause ↔ Unfit level directory cause := by
  simp only [request, bind_eq_error, readLevel_eq_ok_iff, readLevel_eq_error_iff,
    readDirectory_eq_error_iff, pure, Except.pure, reduceCtorEq, and_false, exists_false, or_false]
  constructor
  · rintro (⟨unnamed, rfl⟩ | ⟨known, named, ⟨empty, rfl⟩ | ⟨given, relative, rfl⟩⟩)
    · exact .level unnamed
    · exact .empty named empty
    · exact .relative named given relative
  · rintro (unnamed | ⟨named, empty⟩ | ⟨named, given, relative⟩)
    · exact .inl ⟨unnamed, rfl⟩
    · exact .inr ⟨_, named, .inl ⟨empty, rfl⟩⟩
    · exact .inr ⟨_, named, .inr ⟨given, relative, rfl⟩⟩

/-- Every request asks for a log or is unfit. -/
theorem exists_unfit_or_askedBy (level directory : String) :
    (∃ cause, Unfit level directory cause) ∨ ∃ log : ActiveLog, log.AskedBy level directory := by
  cases requested : request level directory with
  | error cause => exact .inl ⟨cause, request_eq_error_iff.1 requested⟩
  | ok log => exact .inr ⟨log, request_eq_ok_iff.1 requested⟩

/-- One request asks for one log. -/
theorem AskedBy.unique {log other : ActiveLog} (asked : log.AskedBy level directory)
    (asked' : other.AskedBy level directory) : log = other :=
  Except.ok.inj ((request_eq_ok_iff.2 asked).symm.trans (request_eq_ok_iff.2 asked'))

/-! ## Comparing -/

variable {active requested : ActiveLog}

theorem same_iff (rooted : Path.isAbsolute active.directory)
    (rooted' : Path.isAbsolute requested.directory) :
    Path.same active.directory requested.directory ↔
      Path.components active.directory = Path.components requested.directory := by
  simp [Path.same, rooted, rooted']

theorem check_eq_ok_iff (rooted : Path.isAbsolute active.directory)
    (rooted' : Path.isAbsolute requested.directory) :
    active.check requested = .ok () ↔
      Path.components active.directory = Path.components requested.directory ∧
        active.level = requested.level := by
  rw [← same_iff rooted rooted', check]
  split
  next elsewhere =>
    rw [Bool.not_eq_true'] at elsewhere
    simp [elsewhere]
  next here =>
    rw [Bool.not_eq_true', Bool.not_eq_false] at here
    split
    next other => simp [here, other]
    next same => simpa [here] using same

theorem check_eq_error_iff (rooted : Path.isAbsolute active.directory)
    (rooted' : Path.isAbsolute requested.directory) :
    active.check requested = .error cause ↔
      Path.components active.directory ≠ Path.components requested.directory ∧
          cause = .directoryConflict active.directory requested.directory ∨
        Path.components active.directory = Path.components requested.directory ∧
          active.level ≠ requested.level ∧
          cause = .levelConflict active.level requested.level := by
  rw [ne_eq, ← same_iff rooted rooted', check]
  split
  next elsewhere =>
    rw [Bool.not_eq_true'] at elsewhere
    simp [elsewhere, eq_comm]
  next here =>
    rw [Bool.not_eq_true', Bool.not_eq_false] at here
    split
    next other => simp [here, other, eq_comm]
    next same => simp [here, same]

/-- A log has nothing against itself. -/
theorem check_self (log : ActiveLog) : log.check log = .ok () := by
  simp [check, Path.same]

end ActiveLog

/-! ## Setting up -/

namespace Logging

variable {logging : Logging} {level directory : String} {log active : ActiveLog}
  {cause : LoggingError}

@[simp] theorem active_write (logging : Logging) (events : List Event) :
    (logging.write events).active = logging.active := by
  rw [write]
  repeat' split
  all_goals rfl

@[simp] theorem active_flush (logging : Logging) : logging.flush.active = logging.active := by
  rw [flush]
  repeat' split
  all_goals rfl

theorem setUp_of_unfit (unfit : ActiveLog.Unfit level directory cause) :
    logging.setUp level directory = (.error cause, logging) := by
  rw [setUp, ActiveLog.request_eq_error_iff.2 unfit]

theorem setUp_of_on (asked : log.AskedBy level directory) (on : logging.active = some active) :
    logging.setUp level directory = (active.check log, logging) := by
  rw [setUp, ActiveLog.request_eq_ok_iff.2 asked]
  simp only [on]

/-- A log that is off stays so if its directory cannot be made. -/
theorem setUp_of_uncreatable {behind : FileError} (asked : log.AskedBy level directory)
    (off : logging.active = none)
    (failed : (logging.files.makeDirectories log.directory).1 = .error behind) :
    (logging.setUp level directory).1 = .error (.uncreatableDirectory log.directory behind) ∧
      (logging.setUp level directory).2.active = none := by
  obtain ⟨files, made⟩ : ∃ files,
      logging.files.makeDirectories log.directory = (.error behind, files) :=
    ⟨_, Prod.ext failed rfl⟩
  simp [setUp, ActiveLog.request_eq_ok_iff.2 asked, off, start, made]

/-- A log that is off is started if its directory can be made, and then it is what was asked for. -/
theorem setUp_of_creatable (asked : log.AskedBy level directory) (off : logging.active = none)
    (creatable : (logging.files.makeDirectories log.directory).1 = .ok ()) :
    (logging.setUp level directory).1 = .ok () ∧
      (logging.setUp level directory).2.active = some log := by
  obtain ⟨files, made⟩ : ∃ files,
      logging.files.makeDirectories log.directory = (.ok (), files) :=
    ⟨_, Prod.ext creatable rfl⟩
  simp [setUp, ActiveLog.request_eq_ok_iff.2 asked, off, start, made, ActiveLog.check_self]

/-- A log that is off is started or stays off, as its directory can be made or not. -/
theorem setUp_of_off (asked : log.AskedBy level directory) (off : logging.active = none) :
    (logging.files.makeDirectories log.directory).1 = .ok () ∧
        (logging.setUp level directory).1 = .ok () ∧
        (logging.setUp level directory).2.active = some log ∨
      ∃ behind, (logging.files.makeDirectories log.directory).1 = .error behind ∧
        (logging.setUp level directory).1 = .error (.uncreatableDirectory log.directory behind) ∧
        (logging.setUp level directory).2.active = none := by
  cases made : (logging.files.makeDirectories log.directory).1 with
  | ok => exact .inl ⟨rfl, setUp_of_creatable asked off made⟩
  | error behind => exact .inr ⟨behind, rfl, setUp_of_uncreatable asked off made⟩

/-- Once the log is on, a request changes nothing. -/
theorem setUp_snd_of_on (on : logging.active = some active) (level directory : String) :
    (logging.setUp level directory).2 = logging := by
  obtain ⟨cause, unfit⟩ | ⟨log, asked⟩ :=
      ActiveLog.exists_unfit_or_askedBy level directory
  · rw [setUp_of_unfit unfit]
  · rw [setUp_of_on asked on]

/-- **A log that is off is started exactly if the request is in order and the directory can be
made.** -/
theorem setUp_eq_ok_iff_of_off (off : logging.active = none) :
    (logging.setUp level directory).1 = .ok () ↔
      ∃ log : ActiveLog, log.AskedBy level directory ∧
        (logging.files.makeDirectories log.directory).1 = .ok () := by
  constructor
  · intro granted
    obtain ⟨cause, unfit⟩ | ⟨log, asked⟩ :=
      ActiveLog.exists_unfit_or_askedBy level directory
    · rw [setUp_of_unfit unfit] at granted
      cases granted
    · obtain ⟨creatable, _⟩ | ⟨_, _, refused, _⟩ := setUp_of_off asked off
      · exact ⟨log, asked, creatable⟩
      · cases refused.symm.trans granted
  · rintro ⟨log, asked, creatable⟩
    exact (setUp_of_creatable asked off creatable).1

/-- A request that a log which is off grants turns on what it asks for. -/
theorem active_setUp_of_granted (off : logging.active = none)
    (asked : log.AskedBy level directory) (granted : (logging.setUp level directory).1 = .ok ()) :
    (logging.setUp level directory).2.active = some log := by
  obtain ⟨started, asked', creatable⟩ := (setUp_eq_ok_iff_of_off off).1 granted
  obtain rfl := asked.unique asked'
  exact (setUp_of_creatable asked off creatable).2

/-- A request that is refused by a log which is off leaves it off. -/
theorem active_setUp_of_refused (off : logging.active = none)
    (refused : (logging.setUp level directory).1 = .error cause) :
    (logging.setUp level directory).2.active = none := by
  obtain ⟨cause, unfit⟩ | ⟨log, asked⟩ :=
      ActiveLog.exists_unfit_or_askedBy level directory
  · rw [setUp_of_unfit unfit]
    exact off
  · obtain ⟨_, granted, _⟩ | ⟨_, _, _, still⟩ := setUp_of_off asked off
    · cases granted.symm.trans refused
    · exact still

/-! ## Refusals -/

/-- Why a request is refused: first what is wrong with the request itself, then what keeps a log
that is off from being started, or what a log that is on has against it, the directory before the
level. -/
inductive Refuses (logging : Logging) (level directory : String) : LoggingError → Prop
  | unfit {cause : LoggingError} (unfit : ActiveLog.Unfit level directory cause) :
      Refuses logging level directory cause
  | uncreatable {log : ActiveLog} {behind : FileError} (asked : log.AskedBy level directory)
      (off : logging.active = none)
      (failed : (logging.files.makeDirectories log.directory).1 = .error behind) :
      Refuses logging level directory (.uncreatableDirectory log.directory behind)
  | directory {log active : ActiveLog} (asked : log.AskedBy level directory)
      (on : logging.active = some active)
      (elsewhere : Path.components active.directory ≠ Path.components log.directory) :
      Refuses logging level directory (.directoryConflict active.directory log.directory)
  | level {log active : ActiveLog} (asked : log.AskedBy level directory)
      (on : logging.active = some active)
      (here : Path.components active.directory = Path.components log.directory)
      (other : active.level ≠ log.level) :
      Refuses logging level directory (.levelConflict active.level log.level)

/-- The directory of a log that is on is absolute. -/
def Rooted (logging : Logging) : Prop :=
  ∀ active, logging.active = some active → Path.isAbsolute active.directory

/-- **A log that is on grants a request exactly if it has the level and the directory already.** -/
theorem setUp_eq_ok_iff_of_on (rooted : logging.Rooted) (on : logging.active = some active) :
    (logging.setUp level directory).1 = .ok () ↔
      active.level.NamedBy level ∧ Path.isAbsolute (Text.trim directory) ∧
        Path.components active.directory = Path.components (Text.trim directory) := by
  constructor
  · intro granted
    obtain ⟨cause, unfit⟩ | ⟨log, asked⟩ :=
      ActiveLog.exists_unfit_or_askedBy level directory
    · rw [setUp_of_unfit unfit] at granted
      cases granted
    · rw [setUp_of_on asked on] at granted
      obtain ⟨here, same⟩ := (ActiveLog.check_eq_ok_iff (rooted _ on) asked.absolute).1 granted
      rw [← asked.directory]
      exact ⟨same ▸ asked.level, asked.absolute, here⟩
  · rintro ⟨named, absolute, here⟩
    have asked : ActiveLog.AskedBy ⟨active.level, Text.trim directory⟩ level directory :=
      ⟨named, rfl, absolute⟩
    rw [setUp_of_on asked on]
    exact (ActiveLog.check_eq_ok_iff (rooted _ on) asked.absolute).2 ⟨here, rfl⟩

/-- **Each refusal is told by the first thing that is wrong, and by that alone.** -/
theorem setUp_eq_error_iff (rooted : logging.Rooted) :
    (logging.setUp level directory).1 = .error cause ↔ logging.Refuses level directory cause := by
  constructor
  · intro refused
    obtain ⟨other, unfit⟩ | ⟨log, asked⟩ :=
      ActiveLog.exists_unfit_or_askedBy level directory
    · rw [setUp_of_unfit unfit] at refused
      cases refused
      exact .unfit unfit
    · cases state : logging.active with
      | none =>
          obtain ⟨_, granted, _⟩ | ⟨behind, failed, given, _⟩ := setUp_of_off asked state
          · cases granted.symm.trans refused
          · cases given.symm.trans refused
            exact .uncreatable asked state failed
      | some active =>
          rw [setUp_of_on asked state,
            ActiveLog.check_eq_error_iff (rooted _ state) asked.absolute] at refused
          obtain ⟨elsewhere, rfl⟩ | ⟨here, other, rfl⟩ := refused
          · exact .directory asked state elsewhere
          · exact .level asked state here other
  · rintro (unfit | ⟨asked, off, failed⟩ | ⟨asked, on, elsewhere⟩ | ⟨asked, on, here, other⟩)
    · rw [setUp_of_unfit unfit]
    · exact (setUp_of_uncreatable asked off failed).1
    · rw [setUp_of_on asked on, ActiveLog.check_eq_error_iff (rooted _ on) asked.absolute]
      exact .inl ⟨elsewhere, rfl⟩
    · rw [setUp_of_on asked on, ActiveLog.check_eq_error_iff (rooted _ on) asked.absolute]
      exact .inr ⟨here, other, rfl⟩

/-! ## Turns -/

/-- Something that happens to the log of a program: it is to be set up, events are logged, or the
lines that wait are written to the file; or others do something meanwhile, and these are the files
then. -/
inductive Turn
  | setUp (level directory : String)
  | write (events : List Event)
  | flush
  | meanwhile (files : FileTree)

/-- Takes a turn. -/
def turn (logging : Logging) : Turn → Logging
  | .setUp level directory => (logging.setUp level directory).2
  | .write events => logging.write events
  | .flush => logging.flush
  | .meanwhile files => { logging with files }

/-- Takes turns one after the other. -/
def turnAll (logging : Logging) (turns : List Turn) : Logging := turns.foldl turn logging

/-- What a turn answers, if it is a request. -/
def answer? (logging : Logging) : Turn → Option (Except LoggingError Unit)
  | .setUp level directory => some (logging.setUp level directory).1
  | _ => none

/-- The answers to the requests among some turns, in their order. -/
def answers (logging : Logging) : List Turn → List (Except LoggingError Unit)
  | [] => []
  | turn :: rest => (logging.answer? turn).toList ++ answers (logging.turn turn) rest

/-- **No turn takes the log away or puts another one in its place.** -/
theorem active_turn_of_on (on : logging.active = some active) (turn : Turn) :
    (logging.turn turn).active = some active := by
  cases turn with
  | setUp level directory =>
      rw [Logging.turn, setUp_snd_of_on on]
      exact on
  | write events => exact (active_write logging events).trans on
  | flush => exact (active_flush logging).trans on
  | meanwhile files => exact on

theorem active_turnAll_of_on (on : logging.active = some active) (turns : List Turn) :
    (logging.turnAll turns).active = some active := by
  induction turns generalizing logging with
  | nil => exact on
  | cons turn rest ih => exact ih (active_turn_of_on on turn)

/-- **A log that is off is turned on by a request that is granted, and by nothing else.** -/
theorem active_turn_of_off (off : logging.active = none) (turn : Turn) :
    logging.answer? turn ≠ some (.ok ()) ∧ (logging.turn turn).active = none ∨
      logging.answer? turn = some (.ok ()) ∧ ∃ log : ActiveLog,
        (logging.turn turn).active = some log ∧ Path.isAbsolute log.directory := by
  cases turn with
  | setUp level directory =>
      rw [answer?, Logging.turn]
      cases given : (logging.setUp level directory).1 with
      | error cause => exact .inl ⟨by simp, active_setUp_of_refused off given⟩
      | ok =>
          obtain ⟨log, asked, creatable⟩ := (setUp_eq_ok_iff_of_off off).1 given
          exact .inr ⟨rfl, log, (setUp_of_creatable asked off creatable).2, asked.absolute⟩
  | write events => exact .inl ⟨by simp [answer?], (active_write logging events).trans off⟩
  | flush => exact .inl ⟨by simp [answer?], (active_flush logging).trans off⟩
  | meanwhile files => exact .inl ⟨by simp [answer?], off⟩

theorem Rooted.turn (rooted : logging.Rooted) (turn : Turn) : (logging.turn turn).Rooted := by
  intro later now
  cases state : logging.active with
  | some active =>
      obtain rfl : active = later :=
        Option.some.inj ((active_turn_of_on state turn).symm.trans now)
      exact rooted active state
  | none =>
      obtain ⟨_, still⟩ | ⟨_, log, started, absolute⟩ := active_turn_of_off state turn
      · cases still.symm.trans now
      · obtain rfl : log = later := Option.some.inj (started.symm.trans now)
        exact absolute

theorem Rooted.turnAll (rooted : logging.Rooted) (turns : List Turn) :
    (logging.turnAll turns).Rooted := by
  induction turns generalizing logging with
  | nil => exact rooted
  | cons turn rest ih => exact ih (rooted.turn turn)

theorem rooted_off (files : FileTree) : (off files).Rooted := by
  rintro active ⟨⟩

/-- **A log that was off is off still exactly if no request was granted.** -/
theorem active_turnAll_eq_none_iff (off : logging.active = none) (turns : List Turn) :
    (logging.turnAll turns).active = none ↔ .ok () ∉ logging.answers turns := by
  induction turns generalizing logging with
  | nil => simpa [turnAll, answers] using off
  | cons turn rest ih =>
      rw [answers, List.mem_append, not_or, Option.mem_toList]
      obtain ⟨refused, still⟩ | ⟨granted, log, started, _⟩ := active_turn_of_off off turn
      · exact (ih still).trans (iff_and_self.2 fun _ => refused)
      · have on : (logging.turnAll (turn :: rest)).active = some log :=
          active_turnAll_of_on started rest
        simp [on, granted]

end Logging

/-- **The log is set up once.** Take any run of a program in which the log is off at first.

As long as no request was granted, the log is off. A request is then granted exactly if it is in
order and its directory can be made; if it is refused the log stays off, so that a later request can
still be granted, and if it is granted the log is what was asked for, whatever happens afterwards.

Once the log is on, it stays what it is, and a request changes nothing: it is granted if it has the
level of the log and, piece by piece, its directory. A request that is refused is refused for the
first of the reasons in their order. -/
theorem logging_is_set_up_once (files : FileTree) (turns : List Logging.Turn) :
    let logging := (Logging.off files).turnAll turns
    (logging.active = none ↔ .ok () ∉ (Logging.off files).answers turns) ∧
      (∀ level directory cause, (logging.setUp level directory).1 = .error cause ↔
        logging.Refuses level directory cause) ∧
      (logging.active = none → ∀ level directory,
        ((logging.setUp level directory).1 = .ok () ↔
          ∃ log : ActiveLog, log.AskedBy level directory ∧
            (logging.files.makeDirectories log.directory).1 = .ok ()) ∧
        (∀ cause, (logging.setUp level directory).1 = .error cause →
          (logging.setUp level directory).2.active = none) ∧
        ∀ log : ActiveLog, log.AskedBy level directory →
          (logging.setUp level directory).1 = .ok () →
            ∀ later, ((logging.setUp level directory).2.turnAll later).active = some log) ∧
      ∀ active, logging.active = some active →
        (∀ later, (logging.turnAll later).active = some active) ∧
        ∀ level directory, (logging.setUp level directory).2 = logging ∧
          ((logging.setUp level directory).1 = .ok () ↔
            active.level.NamedBy level ∧ Path.isAbsolute (Text.trim directory) ∧
              Path.components active.directory = Path.components (Text.trim directory)) := by
  intro logging
  have rooted : logging.Rooted := (Logging.rooted_off files).turnAll turns
  refine ⟨Logging.active_turnAll_eq_none_iff rfl turns,
    fun _ _ _ => Logging.setUp_eq_error_iff rooted, fun off level directory => ⟨?_, ?_, ?_⟩,
    fun active on => ⟨Logging.active_turnAll_of_on on, fun level directory => ⟨?_, ?_⟩⟩⟩
  · exact Logging.setUp_eq_ok_iff_of_off off
  · exact fun _ => Logging.active_setUp_of_refused off
  · exact fun log asked granted =>
      Logging.active_turnAll_of_on (Logging.active_setUp_of_granted off asked granted)
  · exact Logging.setUp_snd_of_on on level directory
  · exact Logging.setUp_eq_ok_iff_of_on rooted on

/-- A relative directory and one inside of a text are refused, and a later request is granted all
the same. From then on only its level and its directory are, in whatever spelling. -/
theorem refused_requests_leave_the_log_off :
    let files := FileTree.empty.withNode ["notes"] (.text "")
    let turns : List Logging.Turn := [.setUp "info" "logs", .setUp "info" "/notes/logs"]
    let logging := (Logging.off files).turnAll turns
    let started := (logging.setUp " Warning" "/logs ").2
    logging.active = none ∧
      (logging.setUp " Warning" "/logs ").1 = .ok () ∧
      (∀ later, (started.turnAll later).active = some ⟨.warn, "/logs"⟩) ∧
      (started.setUp "WARN" "//logs/.").1 = .ok () ∧
      (started.setUp "info" "/logs").1 = .error (.levelConflict .warn .info) ∧
      (started.setUp "info" "/notes").1 = .error (.directoryConflict "/logs" "/notes") := by
  intro files turns logging started
  obtain ⟨off, _, whenOff, _⟩ := logging_is_set_up_once files turns
  have stillOff : logging.active = none := off.2 (by decide +kernel)
  have asked : ActiveLog.AskedBy ⟨.warn, "/logs"⟩ " Warning" "/logs " :=
    ActiveLog.request_eq_ok_iff.1 (by decide +kernel)
  obtain ⟨grants, _, settled⟩ := whenOff stillOff " Warning" "/logs "
  have creatable : (logging.files.makeDirectories "/logs").1 = .ok () := by decide +kernel
  have granted := grants.2 ⟨_, asked, creatable⟩
  have on := settled _ asked granted
  obtain ⟨_, refuses, _, whenOn⟩ :=
    logging_is_set_up_once files (turns ++ [.setUp " Warning" "/logs "])
  have asked' : ActiveLog.AskedBy ⟨.info, "/logs"⟩ "info" "/logs" :=
    ActiveLog.request_eq_ok_iff.1 (by decide +kernel)
  have elsewhere : ActiveLog.AskedBy ⟨.info, "/notes"⟩ "info" "/notes" :=
    ActiveLog.request_eq_ok_iff.1 (by decide +kernel)
  refine ⟨stillOff, granted, on, ((whenOn _ (on [])).2 _ _).2.2 ⟨?_, ?_, ?_⟩, ?_, ?_⟩
  · exact ActiveLog.readLevel_eq_ok_iff.1 (by decide +kernel)
  · decide +kernel
  · decide +kernel
  · exact (refuses _ _ _).2 (.level asked' (on []) rfl (by decide))
  · exact (refuses _ _ _).2 (.directory elsewhere (on []) (by decide +kernel))

end ScopedStore
