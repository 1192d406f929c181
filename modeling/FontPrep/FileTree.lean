import FontPrep.Ufo.Files
import Std.Data.ExtTreeMap

namespace FontPrep

inductive Node where
  | file (text : String)
  | directory
  deriving DecidableEq, Repr

/-- Files and directories by location, a location being the names from the root on. -/
structure FileTree where
  nodes : Std.ExtTreeMap (List String) Node := ∅
  /-- Where relative paths start. -/
  home : List String := []

namespace FileTree

/-- The root is always there. -/
def node? (tree : FileTree) (location : List String) : Option Node :=
  if location.isEmpty then some .directory else tree.nodes[location]?

def step (location : List String) : String → List String
  | "." => location
  | ".." => location.dropLast
  | name => location ++ [name]

def nameLimit : Nat := 255

def pathLimit : Nat := 4095

/-- Follows names down from a location. All that is gone through must be a directory. -/
def follow (tree : FileTree) (location : List String) : List String → Except FileError (List String)
  | [] => .ok location
  | name :: rest =>
    match tree.node? location with
    | none => .error .notFound
    | some (.file _) => .error .notDirectory
    | some .directory =>
      if nameLimit < name.utf8ByteSize then .error .nameTooLong
      else tree.follow (step location name) rest

def followPath (tree : FileTree) (path : String) (names : List String) :
    Except FileError (List String) :=
  if path.toList.contains '\x00' then .error .impossibleName
  else if path.isEmpty then .error .notFound
  else if pathLimit < path.utf8ByteSize then .error .nameTooLong
  else tree.follow (if Path.isAbsolute path then [] else tree.home) names

def locate (tree : FileTree) (path : String) : Except FileError (List String) :=
  tree.followPath path (Path.steps path)

def read (tree : FileTree) (path : String) : Except FileError String := do
  let location ← tree.locate path
  match tree.node? location with
  | none => throw .notFound
  | some (.file text) => if Path.wantsDirectory path then throw .notDirectory else return text
  | some .directory => throw .isDirectory

/-- The tree with the file's whole content replaced. A path that can only mean a directory is
refused as one as soon as the directory around it is there, whatever its last name is. -/
def write (tree : FileTree) (path text : String) : Except FileError FileTree := do
  if Path.wantsDirectory path then
    let _ ← tree.followPath path ((Path.steps path).dropLast ++ ["."])
    throw .isDirectory
  let location ← tree.locate path
  match tree.node? location with
  | none | some (.file _) => return { tree with nodes := tree.nodes.insert location (.file text) }
  | some .directory => throw .isDirectory

def package (tree : FileTree) (path : String) : Except Ufo.LoadError Ufo.Package :=
  Id.run (Ufo.readPackage (fun path => pure (tree.read path)) path)

end FileTree
end FontPrep
