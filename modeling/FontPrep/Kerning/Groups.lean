import FontPrep.Font

/-! Kerning groups. The start of a group's name says on which side of a pair it stands; what counts
are its members that are glyphs of the font, each once, and a group without any does not count. A
glyph that several groups of one side list belongs to the one whose name sorts first. -/
namespace FontPrep

namespace Side

/-- What the names of a side's groups start with in a font. -/
def groupLead : Side → String
  | .first => "public.kern1."
  | .second => "public.kern2."

def classLead : Side → String
  | .first => "@kern1."
  | .second => "@kern2."

def owns (side : Side) (name : String) : Bool := side.groupLead.toList.isPrefixOf name.toList

def ofGroup? (name : String) : Option Side := [Side.first, Side.second].find? (·.owns name)

def stem (side : Side) (name : String) : String :=
  if side.owns name then String.ofList (name.toList.drop side.groupLead.length) else name

end Side

namespace Groups

/-- The members that are glyphs of the font, each at its first position. -/
def present (names : NameSet) (members : List String) : List String :=
  (members.filter (· ∈ names)).eraseDups

/-- The present members of a group on the given side, if there are any. -/
def retained? (names : NameSet) (side : Side) (name : String) (members : List String) :
    Option (List String) :=
  if side.owns name then
    match present names members with
    | [] => none
    | kept => some kept
  else none

/-- Enters a group on the side of its name, if it lists a glyph of the font. -/
def collect (names : NameSet) (sides : Pair Groups Groups) (row : String × List String) :
    Pair Groups Groups :=
  match Side.ofGroup? row.1 with
  | none => sides
  | some side =>
    match retained? names side row.1 row.2 with
    | none => sides
    | some kept => sides.modify side fun groups => groups.insert row.1 kept

/-- Gives each group the name that `names` has for it; of groups with one new name the last in
order stays. -/
def rename (names : Std.ExtTreeMap String String) (groups : Groups) : Groups :=
  .ofList (groups.toList.map fun (name, members) => (names.getD name name, members))

theorem mem_present {names : NameSet} {members : List String} {glyph : String} :
    glyph ∈ present names members ↔ glyph ∈ members ∧ glyph ∈ names := by
  simp [present, List.mem_eraseDups]

end Groups

def Font.sideGroups (font : Font) : Pair Groups Groups :=
  font.groups.toList.foldl (Groups.collect font.nameSet) ⟨∅, ∅⟩

def Font.kerningGroups (font : Font) (side : Side) : Groups := font.sideGroups.get side

theorem Font.sideGroups_eq (font : Font) :
    font.sideGroups = ⟨font.kerningGroups .first, font.kerningGroups .second⟩ := rfl

abbrev Owners := Std.ExtTreeMap String String

namespace Owners

def enter (owners : Owners) (group : String) (members : List String) : Owners :=
  members.foldl (fun owners glyph => owners.insertIfNew glyph group) owners

def ofGroups (groups : Groups) : Owners := groups.foldl enter ∅

end Owners

def Pair.owners (groups : Pair Groups Groups) : Pair Owners Owners := groups.map Owners.ofGroups

end FontPrep
