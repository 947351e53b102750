namespace TextPattern.CommandLine

/-- Why an input cannot be used. -/
inductive InputError
  | missing
  | notDirectory
  | directory
  | nameTooLong
  | undecodable
  | other (cause : String)

def InputError.message : InputError → String
  | missing => "No such file or directory (os error 2)"
  | notDirectory => "Not a directory (os error 20)"
  | directory => "Is a directory (os error 21)"
  | nameTooLong => "File name too long (os error 36)"
  | undecodable => "stream did not contain valid UTF-8"
  | other cause => cause

def decode (bytes : ByteArray) : Except InputError String :=
  match String.fromUTF8? bytes with
  | some text => .ok text
  | none => .error .undecodable

end TextPattern.CommandLine
