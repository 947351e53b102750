import TextPattern.CommandLine.Run

namespace TextPattern.CommandLine

/-- Whether the number of an error is this one, which may be told as a negative number. -/
def isNumbered (code number : UInt32) : Bool :=
  code == number || code == 0 - number

def cause (e : IO.Error) : InputError :=
  match e with
  | .noFileOrDirectory _ _ _ => .missing
  | .inappropriateType _ code _ =>
    if isNumbered code 20 then .notDirectory
    else if isNumbered code 21 then .directory
    else .other (toString e)
  | .invalidArgument _ code _ =>
    if isNumbered code 36 then .nameTooLong else .other (toString e)
  | _ => .other (toString e)

/-- The text of a file, or of the standard input where no file is named. -/
def readInput (file : Option String) : IO (Except InputError String) := do
  let bytes ← EIO.toIO' do
    match file with
    | some name => IO.FS.readBinFile name
    | none => (← IO.getStdin).readBinToEnd
  return match bytes with
    | .ok bytes => decode bytes
    | .error e => .error (cause e)

def usageLines : String :=
  "usage: skein [OPTIONS] PATTERN [FILE]\n" ++
  "  -m, --mode MODE     consume, neglect, find, backward or all\n" ++
  "  -s, --start OFFSET  the character to start at\n" ++
  "      --color WHEN    auto, always or never\n" ++
  "      --log FILTER    which messages are logged\n" ++
  "      --show          print the pattern first\n" ++
  "      --classes       list the character classes\n"

def tell (stop : Stop) : IO UInt32 := do
  match stop with
  | .usage => (← IO.getStderr).putStr usageLines
  | .help => (← IO.getStdout).putStr usageLines
  | .version => (← IO.getStdout).putStrLn "skein"
  return stop.code.toUInt32

def report (outcome : Outcome) : IO UInt32 := do
  (← IO.getStdout).putStr outcome.output
  if let some error := outcome.error then
    (← IO.getStderr).putStrLn error
  return outcome.code.toUInt32

end TextPattern.CommandLine

open TextPattern.CommandLine in
def main (arguments : List String) : IO UInt32 := do
  let toTerminal ← (← IO.getStdout).isTty
  match ← (plan toTerminal arguments).carryOut readInput with
  | .error stop => tell stop
  | .ok outcome => report outcome
