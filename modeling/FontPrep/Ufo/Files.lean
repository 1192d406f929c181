import FontPrep.Path
import FontPrep.Ufo.Package
import FontPrep.Ufo.PlistReader
import Std.Data.ExtTreeMap

namespace FontPrep.Ufo

abbrev Files := Std.ExtTreeMap String String

namespace Files

def glyphList : String := "glyphs/contents.plist"

/-- A property list file that is there; what cannot be read is no container. -/
def plist? (files : Files) (name : String) : Option Plist :=
  files[name]?.map fun text => (Plist.ofText? text).getD (.encoded text)

def glyphPaths? (files : Files) : Option (List (String × String)) := do
  let entries ← (← files.plist? glyphList).dictionary?
  entries.mapM fun (name, plist) => plist.string?.map fun file => (name, Path.join "glyphs" file)

def codepoint? (attributes : List (String × String)) : Option Nat := do
  let number ← Markup.hexNumber? (← attributes.lookup "hex").toList
  if number.isValidChar then some number else none

def codepoints? (text : String) : Option (List Nat) := do
  let tokens ← Markup.tokens text
  if tokens.any (fun | .opening "glyph" _ => true | _ => false) then
    (tokens.filterMap fun
      | .opening "unicode" attributes => some attributes
      | _ => none).mapM codepoint?
  else none

def layer? (files : Files) : Option (List LayerGlyph) := do
  (← files.glyphPaths?).mapM fun (name, path) => do
    if isName name then return { name, codepoints := ← codepoints? (← files[path]?) } else none

def package (files : Files) : Package :=
  { metainfo := files.plist? "metainfo.plist"
    lib := files.plist? "lib.plist"
    groups := files.plist? "groups.plist"
    kerning := files.plist? "kerning.plist"
    layerContents := files.plist? "layercontents.plist"
    layer := files.layer? }

end Files

variable {m : Type → Type} [Monad m] (read : String → m (Except FileError String))

/-- Adds those of the named files of a package that are there. A directory in the place of a file is
there too, but nothing can be read from it. -/
def addFiles (path : String) (names : List String) (files : Files) : m Files :=
  names.foldlM (fun files name => do
    match ← read (Path.join path name) with
    | .ok text => return files.insert name text
    | .error .isDirectory => return files.insert name ""
    | .error _ => return files) files

/-- The package at a path, which must be a directory. -/
def readPackage (path : String) : m (Except LoadError Package) := do
  match ← read path with
  | .ok _ => return .error .notDirectory
  | .error .isDirectory =>
    let files ← addFiles read path ["metainfo.plist", "lib.plist", "groups.plist", "kerning.plist",
      "layercontents.plist", Files.glyphList] ∅
    let files ← addFiles read path ((files.glyphPaths?.getD []).map Prod.snd) files
    return .ok files.package
  | .error _ => return .error .inaccessible

end FontPrep.Ufo
