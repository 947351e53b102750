import TextPattern.CommandLine.Input
import TextPattern.Text.Parts

namespace TextPattern.CommandLine

/-- A place in a file system of which one directory is known. -/
inductive Location
  /-- The directory, or a directory in it. -/
  | inside (names : List (List Char))
  | file (text : String)
  /-- A directory that is not in the known one. -/
  | outside

/-- A directory, by the texts of the files in it. -/
structure Directory where
  files : List (List (List Char) × String)

namespace Directory

def components (path : String) : List (List Char) :=
  let (first, others) := Text.splitAt '/' path.toList
  first :: others

def ofFiles (files : List (String × String)) : Directory where
  files := files.map fun (path, text) => (components path, text)

/-- What has a name in a directory, if anything has. -/
def locate (d : Directory) (names : List (List Char)) : Except InputError Location :=
  match d.files.find? (·.1 == names) with
  | some (_, text) => .ok (.file text)
  | none =>
    if d.files.any fun f => names.isPrefixOf f.1 then .ok (.inside names) else .error .missing

/-- One step along a path. An empty name and one point stand for the directory itself, and two
points for the one around it. -/
def follow (d : Directory) : Location → List Char → Except InputError Location
  | .file _, _ => .error .notDirectory
  | place, [] | place, ['.'] => .ok place
  | .inside [], ['.', '.'] | .outside, ['.', '.'] => .ok .outside
  | .inside names, ['.', '.'] => .ok (.inside names.dropLast)
  | .inside names, name => if isTooLong name then .error .nameTooLong else d.locate (names ++ [name])
  | .outside, name => if isTooLong name then .error .nameTooLong else .error .missing
where
  isTooLong (name : List Char) : Bool := 255 < (String.ofList name).utf8ByteSize

/-- The text of the file at the end of a path. Nothing is known of the files outside. -/
def read (d : Directory) (path : String) : Except InputError String := do
  if 4096 ≤ path.utf8ByteSize then throw .nameTooLong
  let first := if path.startsWith "/" then .outside else .inside []
  match ← (components path).foldlM d.follow first with
  | .file text => return text
  | .inside _ | .outside => throw .directory

end Directory

end TextPattern.CommandLine
