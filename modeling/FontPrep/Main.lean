import FontPrep.Cli.Help
import FontPrep.Cli.Run
import FontPrep.NameMap
import FontPrep.Ufo.Files
import FontPrep.Ufo.Load
import FontPrep.Unicode.Compatibility

namespace FontPrep.Main

def fileError : IO.Error → FileError
  | .noFileOrDirectory .. => .notFound
  | .inappropriateType _ code details =>
    if code = 21 || code = -21 then .isDirectory
    else if code = 20 || code = -20 then .notDirectory
    else .other details
  | .invalidArgument _ code details =>
    if code = 36 || code = -36 then .nameTooLong else .other details
  | error => .other (toString error)

def readFile (path : String) : IO (Except FileError String) := do
  try return .ok (← IO.FS.readFile path)
  catch error => return .error (fileError error)

def writeFile (path text : String) : IO (Except FileError Unit) := do
  try return .ok (← IO.FS.writeFile path text)
  catch error => return .error (fileError error)

def host : Host IO where
  ufo path := do return (← Ufo.readPackage readFile path).bind (·.load path)
  read := readFile
  write := writeFile
  print text := IO.print text
  nameMap? := NameMap.ofText?
  decompose := Unicode.decompose

/-- The exit code: 1 if the run fails, 2 if there is none. -/
def run (args : List String) : IO UInt32 := do
  match Cli.Options.ofArgs args with
  | .error cause =>
    if cause.isAnswer then
      IO.println cause.message
      return 0
    else
      IO.eprintln cause.message
      return 2
  | .ok options =>
    match ← (host.run options).run with
    | .ok () => return 0
    | .error failure =>
      IO.eprintln failure.message
      return 1

end FontPrep.Main

def main (args : List String) : IO UInt32 := FontPrep.Main.run args
