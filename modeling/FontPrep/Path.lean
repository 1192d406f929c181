namespace FontPrep

inductive FileError where
  | notFound
  | notDirectory
  | isDirectory
  | nameTooLong
  /-- The path holds a character that no name can have. -/
  | impossibleName
  /-- Anything else, in the words of the system. -/
  | other (text : String)
  deriving DecidableEq, Repr

def FileError.message : FileError → String
  | notFound => "No such file or directory (os error 2)"
  | notDirectory => "Not a directory (os error 20)"
  | isDirectory => "Is a directory (os error 21)"
  | nameTooLong => "File name too long (os error 36)"
  | impossibleName => "file name contained an unexpected NUL byte"
  | other text => text

namespace Path

/-- The names along the path. An empty name means nothing, a single period the directory reached so
far and two periods the one above it. -/
def steps (path : String) : List String :=
  ((path.toList.splitOn '/').map String.ofList).filter (· != "")

def isAbsolute (path : String) : Bool := path.toList.head? == some '/'

def wantsDirectory (path : String) : Bool := path.toList.getLast? == some '/'

/-- The last name, if it does not lead upward. -/
def fileName? (path : String) : Option String :=
  match ((steps path).filter (· != ".")).getLast? with
  | some ".." => none
  | name => name

/-- What follows the last period of the file name, unless the name starts with that period. -/
def extension? (path : String) : Option String :=
  (fileName? path).bind fun name =>
    let reversed := name.toList.reverse
    match reversed.dropWhile (· != '.') with
    | [] | [_] => none
    | _ => some (String.ofList (reversed.takeWhile (· != '.')).reverse)

def join (path name : String) : String :=
  if path.isEmpty || wantsDirectory path then path ++ name else path ++ "/" ++ name

end Path
end FontPrep
