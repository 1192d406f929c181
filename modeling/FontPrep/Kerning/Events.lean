import FontPrep.Event
import FontPrep.Kerning.Feature

namespace FontPrep

def Font.droppedGroups (font : Font) : List Event :=
  let glyphs := font.nameSet
  font.groups.toList.filterMap fun (name, members) =>
    match Side.ofGroup? name with
    | some side =>
      if (Groups.retained? glyphs side name members).isNone then some (.groupDropped name) else none
    | none => none

def Dangling.event : Dangling → Event
  | noGroup name => .groupMissing name
  | noGlyph name => .glyphMissing name

/-- Kerning entries that mean nothing, each with the first side that does. -/
def Font.droppedPairs (font : Font) (groups : Pair Groups Groups) : List Event :=
  let glyphs := font.nameSet
  font.kerning.keys.filterMap fun entry =>
    match Pairs.resolve groups glyphs entry with
    | .ok _ => none
    | .error dangling => some dangling.event

/-- The listings of a glyph by groups other than its own. -/
def Groups.shared (groups : Groups) : List Event :=
  let owners := Owners.ofGroups groups
  groups.toList.flatMap fun (name, members) => members.filterMap fun glyph =>
    match owners[glyph]? with
    | some owner => if owner = name then none else some (.glyphShared glyph owner name)
    | none => none

def ClassNames.events (names : Std.ExtTreeMap String String) : List Event :=
  names.toList.map fun (group, className) => .classNamed group className

def Expansion.events (side : Side) (expansion : Expansion) : List Event :=
  expansion.exceptions.toList.map fun exception =>
    let sides := Pair.on side exception.entry.group exception.entry.glyph
    .spelledOut sides.first sides.second exception.members.length

namespace KernFeature

def textEvents (feature : KernFeature) : List Event :=
  if feature.pairs.isEmpty then [.noKerning]
  else
    let expansions := feature.pairs.expansions feature.groups
    expansions.second.events .second ++ expansions.first.events .first

end KernFeature

def Font.kernEvents (font : Font) : List Event :=
  let groups := font.sideGroups
  let collected := [.collecting] ++ font.droppedGroups ++ font.droppedPairs groups ++
    [.collected (font.pairs groups).size font.kerning.size groups.first.size groups.second.size]
  match KernFeature.ofFont font with
  | .ok feature =>
    collected ++ ClassNames.events feature.classNames ++ feature.groups.first.shared ++
      feature.groups.second.shared ++ feature.textEvents
  | .error stuck => collected ++ ClassNames.events stuck.done.names

end FontPrep
