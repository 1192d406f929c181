import FontPrep.Font
import FontPrep.GlyphName.Derived
import FontPrep.Kerning.Groups
import FontPrep.Ufo.Package

namespace FontPrep.Ufo

/-- Names that still have no place, and those that have one, as they were placed. -/
structure Placement where
  remaining : List String
  placed : List String := []

/-- Gives the next place to a name that has none; other names change nothing. -/
def Placement.place (state : Placement) (name : String) : Placement :=
  if name ∈ state.remaining then
    { remaining := state.remaining.filter (· ≠ name), placed := state.placed ++ [name] }
  else state

/-- The names of a layer in the order of the package: `.notdef`, then those listed, then the rest,
ascending. -/
def glyphOrder (names listed : List String) : List String :=
  let first := Placement.place { remaining := names.mergeSort } GlyphName.notdef
  let last := listed.foldl Placement.place first
  last.placed ++ last.remaining

def glyph? (codepoints : Std.ExtTreeMap String (List Nat))
    (production : Std.ExtTreeMap String Plist) (name : String) : Option Glyph :=
  codepoints[name]?.map fun codepoints =>
    { name
      productionName := production[name]?.bind Plist.string?
      codepoints := codepoints.eraseDups }

def glyphs (layer : List LayerGlyph) (lib : Plist) : List Glyph :=
  let codepoints : Std.ExtTreeMap String (List Nat) :=
    .ofList (layer.map fun glyph => (glyph.name, glyph.codepoints))
  let listed := ((lib.lookup? "public.glyphOrder").map Plist.strings).getD []
  let production : Std.ExtTreeMap String Plist :=
    .ofList (((lib.lookup? "public.postscriptNames").bind Plist.dictionary?).getD [])
  (glyphOrder (layer.map LayerGlyph.name) listed).filterMap (glyph? codepoints production)

def name? (plist : Plist) : Option String := plist.string?.filter isName

def group? (entry : String × Plist) : Option (String × List String) :=
  if isName entry.1 then (entry.2.array?.bind (·.mapM name?)).map fun members => (entry.1, members)
  else none

def groups? (plist : Plist) : Option Groups :=
  (plist.dictionary?.bind (·.mapM group?)).map fun groups => .ofList groups

/-- No group of the side is named by the lead alone, and none lists a glyph listed before. -/
def sideIsValid (groups : Groups) (side : Side) : Bool :=
  let owned := groups.toList.filter fun (name, _) => side.owns name
  let members := owned.flatMap Prod.snd
  owned.all (fun (name, _) => name != side.groupLead) &&
    members.length == (Std.ExtTreeSet.ofList members).size

/-- The nearest whole number toward zero within the range of values. -/
def value? : Plist → Option Int
  | .integer value => some (max (-2147483648) (min 2147483647 value))
  | .real value => some value.toInt32.toInt
  | _ => none

def kerningRow? (entry : String × Plist) : Option (List (Pair String String × Int)) :=
  if isName entry.1 then
    entry.2.dictionary?.bind (·.mapM fun (second, plist) =>
      if isName second then (value? plist).map fun value => (⟨entry.1, second⟩, value) else none)
  else none

def kerning? (plist : Plist) : Option (Std.ExtTreeMap (Pair String String) Int) :=
  (plist.dictionary?.bind (·.mapM kerningRow?)).map fun rows => .ofList rows.flatten

def Package.load (package : Package) (path : String) : Except LoadError Font := do
  let some metainfo := package.metainfo | throw (.missing "metainfo.plist")
  unless metainfo.dictionary?.isSome do throw (.unreadable "metainfo.plist")
  let lib := package.lib.getD (.dictionary [])
  unless lib.dictionary?.isSome do throw (.unreadable "lib.plist")
  let some groups := groups? (package.groups.getD (.dictionary []))
    | throw (.unreadable "groups.plist")
  unless sideIsValid groups .first && sideIsValid groups .second do throw .invalidGroups
  let some kerning := kerning? (package.kerning.getD (.dictionary []))
    | throw (.unreadable "kerning.plist")
  let some layerContents := package.layerContents | throw (.missing "layercontents.plist")
  unless layerContents.array?.isSome do throw (.unreadable "layercontents.plist")
  let some layer := package.layer | throw (.unreadableLayer (Path.join path "glyphs"))
  return {
    glyphs := glyphs layer lib
    groups := .ofList groups.toList
    kerning := .ofList kerning.toList
    source := some path }

end FontPrep.Ufo
