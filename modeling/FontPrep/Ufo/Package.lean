import FontPrep.Path
import FontPrep.Ufo.Plist

namespace FontPrep.Ufo

/-- A name in a package: some characters, and no control characters among them. -/
def isName (text : String) : Bool :=
  text != "" && text.toList.all fun c => 0x20 ≤ c.toNat && !(0x7F ≤ c.toNat && c.toNat < 0xA0)

structure LayerGlyph where
  name : String
  codepoints : List Nat := []
  deriving DecidableEq, Repr

/-- The property lists of a package, each if it is there, and its default layer, if all that belongs
to that can be read. -/
structure Package where
  metainfo : Option Plist := none
  lib : Option Plist := none
  groups : Option Plist := none
  /-- Values by second name by first name. -/
  kerning : Option Plist := none
  layerContents : Option Plist := none
  layer : Option (List LayerGlyph) := none

inductive LoadError where
  | inaccessible
  | notDirectory
  | missing (file : String)
  | unreadable (file : String)
  | invalidGroups
  | unreadableLayer (directory : String)
  deriving DecidableEq, Repr

def LoadError.message : LoadError → String
  | inaccessible => "cannot access UFO package"
  | notDirectory => "only UFO (directory) packages are supported"
  | missing file => "cannot find the " ++ file ++ " file"
  | unreadable file => "failed to parse " ++ file ++ " file"
  | invalidGroups => "failed to load (kerning) groups"
  | unreadableLayer directory =>
    "failed to load layer 'public.default' from '" ++ directory ++ "'"

end FontPrep.Ufo
