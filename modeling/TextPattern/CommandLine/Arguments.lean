import TextPattern.Text.Decimal

namespace TextPattern.CommandLine

/-- What is done with the pattern. -/
inductive Action
  | consume
  | neglect
  | find
  | backward
  | all
deriving DecidableEq

def Action.ofName? : String → Option Action
  | "consume" => some consume
  | "neglect" => some neglect
  | "find" => some find
  | "backward" => some backward
  | "all" => some all
  | _ => none

inductive ColorChoice
  | auto
  | always
  | never
deriving DecidableEq

def ColorChoice.ofName? : String → Option ColorChoice
  | "auto" => some auto
  | "always" => some always
  | "never" => some never
  | _ => none

/-- The arguments of the program as they were given. -/
structure Arguments where
  pattern : Option String
  file : Option String
  action : Option Action
  start : Option Nat
  color : Option ColorChoice
  log : Option String
  showsPattern : Bool
  listsClasses : Bool

/-- Why the arguments lead to no run. -/
inductive Stop
  | usage
  | help
  | version
deriving DecidableEq

/-- The exit code; asking for help or for the version is no error. -/
def Stop.code : Stop → Nat
  | usage => 2
  | help | version => 0

/-- The options that take a value. -/
inductive Setting
  | action
  | start
  | color
  | log

namespace Arguments

def none : Arguments :=
  ⟨.none, .none, .none, .none, .none, .none, false, false⟩

/-- A value that was not given before. -/
def once {α : Type} (given value : Option α) : Except Stop (Option α) :=
  match given, value with
  | .none, some v => .ok (some v)
  | _, _ => .error .usage

def set (a : Arguments) (value : String) : Setting → Except Stop Arguments
  | .action => do return { a with action := ← once a.action (Action.ofName? value) }
  | .start => do return { a with start := ← once a.start (Text.word? value.toList) }
  | .color => do return { a with color := ← once a.color (ColorChoice.ofName? value) }
  | .log => do return { a with log := ← once a.log (some value) }

/-- The first one is the pattern and the second one the file, which has to have a name. -/
def positional (a : Arguments) (value : String) : Except Stop Arguments :=
  match a.pattern, a.file with
  | .none, _ => .ok { a with pattern := some value }
  | some _, .none => if value.isEmpty then .error .usage else .ok { a with file := some value }
  | some _, some _ => .error .usage

end Arguments

/-- The arguments of which a part is read. -/
structure ArgumentReading where
  given : Arguments
  /-- An option whose value has to come next. -/
  awaited : Option Setting
  /-- Whether no more options can come. -/
  optionsEnded : Bool

namespace ArgumentReading

def start : ArgumentReading :=
  ⟨.none, none, false⟩

def set (r : ArgumentReading) (s : Setting) : Option (List Char) → Except Stop ArgumentReading
  | some value => do return { r with given := ← r.given.set (String.ofList value) s }
  | none => .ok { r with awaited := some s }

def showPattern (r : ArgumentReading) : Except Stop ArgumentReading :=
  if r.given.showsPattern then .error .usage
  else .ok { r with given := { r.given with showsPattern := true } }

def listClasses (r : ArgumentReading) : Except Stop ArgumentReading :=
  if r.given.listsClasses then .error .usage
  else .ok { r with given := { r.given with listsClasses := true } }

/-- An option of two hyphens, and the value after its equals sign if it has one. -/
def long (r : ArgumentReading) (name : List Char) (value : Option (List Char)) :
    Except Stop ArgumentReading :=
  match String.ofList name, value with
  | "mode", _ => r.set .action value
  | "start", _ => r.set .start value
  | "color", _ => r.set .color value
  | "log", _ => r.set .log value
  | "show", none => r.showPattern
  | "classes", none => r.listClasses
  | "help", none => .error .help
  | "version", none => .error .version
  | _, _ => .error .usage

/-- An option of one hyphen and one letter. What is left of the argument is its value, after an
equals sign if there is one. -/
def short (r : ArgumentReading) (letter : Char) (left : List Char) :
    Except Stop ArgumentReading :=
  let value := match left with
    | [] => none
    | '=' :: value => some value
    | _ => some left
  match letter with
  | 'm' => r.set .action value
  | 's' => r.set .start value
  | 'h' => .error .help
  | 'V' => .error .version
  | _ => .error .usage

/-- Reads one more argument. -/
def feed (r : ArgumentReading) (argument : String) : Except Stop ArgumentReading :=
  let asValue : Except Stop ArgumentReading :=
    match r.awaited with
    | some s => do return { r with awaited := none, given := ← r.given.set argument s }
    | none => do return { r with given := ← r.given.positional argument }
  if r.optionsEnded then asValue
  else
    match argument.toList, r.awaited with
    | '-' :: _ :: _, some _ => .error .usage
    | ['-', '-'], none => .ok { r with optionsEnded := true }
    | '-' :: '-' :: option, none =>
      let name := option.takeWhile (· != '=')
      r.long name (option.drop name.length).tail?
    | '-' :: letter :: left, none => r.short letter left
    | _, _ => asValue

/-- The arguments, if none is missing. -/
def finish (r : ArgumentReading) : Except Stop Arguments :=
  if r.awaited.isSome || (r.given.pattern.isNone && !r.given.listsClasses) then .error .usage
  else .ok r.given

end ArgumentReading

def Arguments.parse (arguments : List String) : Except Stop Arguments := do
  let reading ← arguments.foldlM ArgumentReading.feed .start
  reading.finish

end TextPattern.CommandLine
