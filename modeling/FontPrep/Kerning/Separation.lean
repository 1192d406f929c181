import FontPrep.Kerning.Groups
import FontPrep.Kerning.Pairs

/-! Kerning pairs sorted by shape. A pair of a glyph and a group whose glyph has a group on its own
side could clash with kerning between the two groups; it is spelled out as an exception that lists
the members that no earlier rule covers. Glyph pairs cover theirs first, then the exceptions with
the group on the second side, then those with the group on the first. -/
namespace FontPrep

/-- A kerning entry between a group and a glyph on the other side. -/
structure Mixed where
  group : String
  glyph : String
  value : Int
  deriving DecidableEq, Repr

def Mixed.pair (entry : Mixed) (side : Side) : Pair Key Key :=
  Pair.on side (.group entry.group) (.glyph entry.glyph)

structure Exception where
  entry : Mixed
  members : List String
  deriving DecidableEq, Repr

abbrev Covered := Std.ExtTreeSet (Pair String String)

namespace Pairs

def glyphPairs (pairs : Pairs) : List (Pair String String × Int) :=
  pairs.toList.filterMap fun (pair, value) =>
    match pair with
    | ⟨.glyph first, .glyph second⟩ => some (⟨first, second⟩, value)
    | _ => none

def groupPairs (pairs : Pairs) : List (Pair String String × Int) :=
  pairs.toList.filterMap fun (pair, value) =>
    match pair with
    | ⟨.group first, .group second⟩ => some (⟨first, second⟩, value)
    | _ => none

def mixed (pairs : Pairs) (side : Side) : List Mixed :=
  pairs.toList.filterMap fun (pair, value) =>
    match pair.get side, pair.get side.other with
    | .group group, .glyph glyph => some ⟨group, glyph, value⟩
    | _, _ => none

/-- Whether kerning of a more general shape could match the glyphs of this pair too. It need not be
there. -/
def mayBeGeneralized (pairs : Pairs) (owners : Pair Owners Owners) (pair : Pair Key Key) : Bool :=
  match pair with
  | ⟨.group _, .group _⟩ => false
  | ⟨.group _, .glyph second⟩ => second ∈ owners.second && pair ∈ pairs
  | ⟨.glyph first, .group _⟩ => first ∈ owners.first && pair ∈ pairs
  | ⟨.glyph first, .glyph second⟩ =>
    match owners.first[first]?, owners.second[second]? with
    | some firstGroup, some secondGroup =>
      pair ∈ pairs || ⟨.group firstGroup, .glyph second⟩ ∈ pairs ||
        ⟨.glyph first, .group secondGroup⟩ ∈ pairs
    | none, none => false
    | _, _ => pair ∈ pairs

theorem mayBeGeneralized_mixed (pairs : Pairs) (owners : Pair Owners Owners) (side : Side)
    (entry : Mixed) :
    pairs.mayBeGeneralized owners (entry.pair side) =
      (decide (entry.glyph ∈ owners.get side.other) && decide (entry.pair side ∈ pairs)) := by
  cases side <;> rfl

theorem mem_mixed {pairs : Pairs} {side : Side} {entry : Mixed} :
    entry ∈ pairs.mixed side ↔ (entry.pair side, entry.value) ∈ pairs.toList := by
  obtain ⟨group, glyph, value⟩ := entry
  simp only [mixed, List.mem_filterMap, Prod.exists]
  constructor
  · rintro ⟨⟨first, second⟩, found, present, same⟩
    cases side <;> cases first <;> cases second <;>
      simp_all [Pair.get, Side.other, Mixed.pair, Pair.on]
  · intro present
    exact ⟨_, _, present, by cases side <;> rfl⟩

end Pairs

/-- Exceptions made so far, and what they and the glyph pairs cover. -/
structure Expansion where
  covered : Covered
  exceptions : Array Exception := #[]

namespace Expansion

/-- The members that still need a rule with the glyph, ascending. -/
def uncovered (covered : Covered) (side : Side) (glyph : String) (members : List String) :
    List String :=
  (Std.ExtTreeSet.ofList (members.filter fun member => Pair.on side member glyph ∉ covered)).toList

def spellOut (side : Side) (groups : Groups) (state : Expansion) (entry : Mixed) : Expansion :=
  let members := uncovered state.covered side entry.glyph (groups.getD entry.group [])
  { covered := state.covered.insertMany (members.map (Pair.on side · entry.glyph))
    exceptions := state.exceptions.push ⟨entry, members⟩ }

end Expansion

namespace Pairs
variable (pairs : Pairs) (groups : Pair Groups Groups)

def plain (side : Side) : List Mixed :=
  let owners := groups.owners
  (pairs.mixed side).filter fun entry => !pairs.mayBeGeneralized owners (entry.pair side)

def ambiguous (side : Side) : List Mixed :=
  let owners := groups.owners
  (pairs.mixed side).filter fun entry => pairs.mayBeGeneralized owners (entry.pair side)

def expansions : Pair Expansion Expansion :=
  let second := (pairs.ambiguous groups .second).foldl (Expansion.spellOut .second groups.second)
    { covered := .ofList (pairs.glyphPairs.map Prod.fst) }
  let first := (pairs.ambiguous groups .first).foldl (Expansion.spellOut .first groups.first)
    { covered := second.covered }
  ⟨first, second⟩

end Pairs

abbrev Rules (α β : Type) [Ord α] [Ord β] := Std.ExtTreeMap (Pair α β) Int

/-- Kerning by the shape of its rules, in writing order. -/
structure Separation where
  glyphGlyph : Rules String String
  glyphListed : Rules String (List String)
  listedGlyph : Rules (List String) String
  glyphGroup : Rules String String
  groupGlyph : Rules String String
  groupGroup : Rules String String

namespace Separation

/-- Exceptions that list someone, with the list on the given side. -/
def listed (expansion : Expansion) : List (List String × String × Int) :=
  expansion.exceptions.toList.filterMap fun exception =>
    match exception.members with
    | [] => none
    | members => some (members, exception.entry.glyph, exception.entry.value)

def ofPairs (pairs : Pairs) (groups : Pair Groups Groups) : Separation :=
  let expansions := pairs.expansions groups
  { glyphGlyph := .ofList pairs.glyphPairs
    glyphListed := .ofList ((listed expansions.second).map fun (members, glyph, value) =>
      (Pair.mk glyph members, value))
    listedGlyph := .ofList ((listed expansions.first).map fun (members, glyph, value) =>
      (Pair.mk members glyph, value))
    glyphGroup := .ofList ((pairs.plain groups .second).map fun entry =>
      (Pair.mk entry.glyph entry.group, entry.value))
    groupGlyph := .ofList ((pairs.plain groups .first).map fun entry =>
      (Pair.mk entry.group entry.glyph, entry.value))
    groupGroup := .ofList pairs.groupPairs }

end Separation
end FontPrep
