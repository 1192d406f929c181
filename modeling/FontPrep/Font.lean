import FontPrep.Kerning.Pair
import FontPrep.Name
import FontPrep.Table

namespace FontPrep

structure Glyph where
  name : String
  /-- The name the source wants the glyph to have in the built font. -/
  productionName : Option String := none
  codepoints : List Nat := []
  deriving DecidableEq, Repr

def Glyph.codepoint? (glyph : Glyph) : Option Nat := glyph.codepoints.head?

/-- Members by group name, in source order. -/
abbrev Groups := Std.ExtTreeMap String (List String)

structure Font where
  /-- In the order of the source, which may repeat a name. -/
  glyphs : List Glyph := []
  groups : Table String (List String) := ∅
  /-- Values by pairs of names, each of a glyph or of a group. -/
  kerning : Table (Pair String String) Int := ∅
  source : Option String := none

namespace Font

def addGlyph (font : Font) (glyph : Glyph) : Font := { font with glyphs := font.glyphs ++ [glyph] }

def glyphNames (font : Font) : List String := font.glyphs.map Glyph.name

def nameSet (font : Font) : NameSet := .ofList font.glyphNames

def glyph? (font : Font) (name : String) : Option Glyph := font.glyphs.find? (·.name == name)

def contains (font : Font) (name : String) : Bool := (font.glyph? name).isSome

/-- Glyphs by name; of several glyphs with one name it holds the last. -/
def glyphsByName (font : Font) : Std.ExtTreeMap String Glyph :=
  .ofList (font.glyphs.map fun glyph => (glyph.name, glyph))

def codepoint? (font : Font) (name : String) : Option Nat :=
  (font.glyph? name).bind Glyph.codepoint?

/-- All glyph names, ascending, repeats kept. -/
def sortedNames (font : Font) : List String :=
  font.glyphNames.mergeSort fun a b => (compare a b).isLE

/-- Production names by glyph name; of several glyphs with one name the last that has one counts. -/
def declaredNames (font : Font) : Std.ExtTreeMap String String :=
  .ofList (font.glyphs.filterMap fun glyph =>
    glyph.productionName.map fun production => (glyph.name, production))

@[simp] theorem glyphNames_addGlyph (font : Font) (glyph : Glyph) :
    (font.addGlyph glyph).glyphNames = font.glyphNames ++ [glyph.name] := by
  simp [addGlyph, glyphNames]

theorem mem_nameSet {font : Font} {name : String} :
    name ∈ font.nameSet ↔ name ∈ font.glyphNames := by
  simp [nameSet, Std.ExtTreeSet.mem_ofList]

theorem sortedNames_perm (font : Font) : font.sortedNames.Perm font.glyphNames :=
  List.mergeSort_perm _ _

end Font
end FontPrep
