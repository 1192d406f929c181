import FontPrep.Cli.Options
import FontPrep.Path
import FontPrep.GlyphName.Assignment
import FontPrep.GlyphOrder
import FontPrep.Kerning.Feature
import FontPrep.Ufo.Package

namespace FontPrep

inductive Failure where
  | unknownFileType (path : String)
  | load (cause : Ufo.LoadError)
  | file (cause : FileError)
  | unreadableNameMap
  | exhausted (cause : Exhausted)
  deriving DecidableEq, Repr

def Failure.message : Failure → String
  | unknownFileType path => "Unknown file type for file " ++ Text.quoted path
  | load cause => "Error loading UFO: " ++ cause.message
  | file cause => "IO Error: " ++ cause.message
  | unreadableNameMap => "Error reading glyph name map: not an object of strings"
  | exhausted cause => cause.message

/-- What a run takes from outside: files, and how those files and the names of glyphs are
understood. -/
structure Host (m : Type → Type) where
  ufo : String → m (Except Ufo.LoadError Font)
  read : String → m (Except FileError String)
  /-- Replaces the whole content of a file, or fails and changes nothing. -/
  write : String → String → m (Except FileError Unit)
  print : String → m Unit
  nameMap? : String → Option (Std.ExtTreeMap String String)
  /-- The characters that a name is spelled with. -/
  decompose : String → String

namespace Host
variable {m : Type → Type} [Monad m] (host : Host m)

def lift {ε α : Type} (failure : ε → Failure) (result : Except ε α) : ExceptT Failure m α :=
  ExceptT.mk (pure (result.mapError failure))

/-- The font at a path. Font packages are known by their extension. -/
def load (path : String) : ExceptT Failure m Font := do
  if Path.extension? path = some "ufo" then lift Failure.load (← host.ufo path)
  else throw (.unknownFileType path)

def writeFile (path text : String) : ExceptT Failure m Unit := do
  lift Failure.file (← host.write path text)

/-- The name map in a file. A directory in its place can be opened, but not read. -/
def nameMap (path : String) : ExceptT Failure m (Std.ExtTreeMap String String) := do
  match ← host.read path with
  | .error .isDirectory => throw .unreadableNameMap
  | .error cause => throw (.file cause)
  | .ok text =>
    match host.nameMap? text with
    | some names => return names
    | none => throw .unreadableNameMap

def writeGlyphOrder (font : Font) (path : String) (nameMap : Option String) :
    ExceptT Failure m Unit := do
  let provided ← match nameMap with
    | some path => host.nameMap path
    | none => pure font.declaredNames
  let order := font.glyphNames
  let names ← lift (Failure.exhausted ∘ Stuck.cause) (font.finalNames host.decompose order provided)
  host.writeFile path (GlyphOrder.text font names.finals order)

def run (options : Cli.Options) : ExceptT Failure m Unit := do
  let font ← host.load options.font
  let feature ← lift (Failure.exhausted ∘ Stuck.cause) (font.kernText options.header)
  match options.output with
  | some path => host.writeFile path feature
  | none => if feature.isEmpty then pure () else host.print (feature ++ "\n")
  match options.glyphOrder with
  | some path => host.writeGlyphOrder font path options.nameMap
  | none => pure ()

end Host
end FontPrep
