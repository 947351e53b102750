import TextPattern.CommandLine.Arguments
import TextPattern.CommandLine.Directory
import TextPattern.CommandLine.LogFilter
import TextPattern.Notation.Reading
import TextPattern.Report

namespace TextPattern.CommandLine

/-- What a run of the program leaves: its exit code, what it printed, and its error. -/
structure Outcome where
  code : Nat
  output : String
  error : Option String

/-- A run that waits for its input. -/
structure Job where
  pattern : Pattern
  action : Action
  start : Option Nat
  colored : Bool
  /-- What is printed already. -/
  printed : List (List Char)
  file : Option String

/-- What comes of the arguments: no run, its outcome, or a job whose input has to be read first. -/
inductive Plan
  | stopped (stop : Stop)
  | done (outcome : Outcome)
  | job (job : Job)

def printLines (lines : List (List Char)) : String :=
  String.ofList (lines.flatMap (· ++ ['\n']))

def failed (printed : List (List Char)) (cause : String) : Outcome :=
  ⟨2, printLines printed, some ("skein: " ++ cause)⟩

/-- What is left of a run that ends at once, without a word. -/
def aborted : Outcome :=
  ⟨101, "", none⟩

/-- The run that the arguments ask for. The terminal decides on colour where they leave it open. -/
def plan (toTerminal : Bool) (arguments : List String) : Plan :=
  match Arguments.parse arguments with
  | .error stop => .stopped stop
  | .ok a =>
    match checkLogFilter (a.log.getD "").toList with
    | .error .insideCharacter => .done aborted
    | .error e =>
      .done (failed [] ("invalid log filter " ++ Text.quotedText (a.log.getD "").toList ++ ": " ++
        e.message))
    | .ok () =>
      if a.listsClasses then .done ⟨0, printLines (CharClass.names.map String.toList), none⟩
      else
        let text := (a.pattern.getD "").toList
        match Pattern.parse text with
        | .error e =>
          .done (failed [] ("invalid pattern " ++ Text.quotedText text ++ ": " ++ e.message))
        | .ok p =>
          .job {
            pattern := p
            action := a.action.getD .find
            start := a.start
            colored := match a.color.getD .auto with
              | .auto => toTerminal
              | .always => true
              | .never => false
            printed := if a.showsPattern then [p.render] else []
            file := a.file }

namespace Job

/-- The lines that are printed about a text, and whether anything matched. -/
def answer (j : Job) (text : List Char) : List (List Char) × Bool :=
  let report := Report.ofText text j.colored
  let start := j.start.getD 0
  let here (mode : Mode) : List (List Char) × Bool :=
    let place := Point.within text (min start text.length)
    match j.pattern.run mode place with
    | .ok m => ((report.hit? (.ofMatch place m)).toList, true)
    | .error e => ([report.failure place.offset e.rendered], false)
  let hits (found : List Hit) : List (List Char) × Bool :=
    (found.filterMap report.hit?, !found.isEmpty)
  match j.action with
  | .consume => here .consume
  | .neglect => here .neglect
  | .find => hits (j.pattern.findForward text start).toList
  | .backward => hits (j.pattern.findBackward text (j.start.getD text.length)).toList
  | .all => hits (j.pattern.findAll text start)

/-- Ends a run with its input, or without it. -/
def complete (j : Job) : Except InputError String → Outcome
  | .ok text =>
    let (lines, matched) := j.answer text.toList
    ⟨if matched then 0 else 1, printLines (j.printed ++ lines), none⟩
  | .error e =>
    failed j.printed ("failed to read " ++ j.file.getD "stdin" ++ ": " ++ e.message)

end Job

/-- Carries out a plan, where the input of a job is read from a file, or from the standard input if
no file is named. -/
def Plan.carryOut {m : Type → Type} [Monad m]
    (read : Option String → m (Except InputError String)) : Plan → m (Except Stop Outcome)
  | .stopped stop => return .error stop
  | .done outcome => return .ok outcome
  | .job j => return .ok (j.complete (← read j.file))

/-- What a run meets besides its arguments. -/
structure Surroundings where
  toTerminal : Bool
  directory : Directory
  standardInput : ByteArray

def Surroundings.read (s : Surroundings) : Option String → Except InputError String
  | some path => s.directory.read path
  | none => decode s.standardInput

/-- A whole run, with nothing around it but its surroundings. -/
def run (arguments : List String) (s : Surroundings) : Except Stop Outcome :=
  (plan s.toTerminal arguments).carryOut (m := Id) s.read

end TextPattern.CommandLine
