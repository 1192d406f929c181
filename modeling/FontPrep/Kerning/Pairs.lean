import FontPrep.Kerning.Groups

namespace FontPrep

inductive Key where
  | glyph (name : String)
  | group (name : String)
  deriving DecidableEq, Repr

inductive Dangling where
  | noGroup (name : String)
  | noGlyph (name : String)
  deriving DecidableEq, Repr

namespace Key

def name : Key → String
  | glyph name => name
  | group name => name

def isGroup : Key → Bool
  | glyph _ => false
  | group _ => true

instance instOrdKey : Ord Key := ⟨compareLex (compareOn Key.isGroup) (compareOn Key.name)⟩

instance instTransOrdKey : Std.TransOrd Key :=
  inferInstanceAs (Std.TransCmp (compareLex (compareOn Key.isGroup) (compareOn Key.name)))

instance instLawfulEqOrdKey : Std.LawfulEqOrd Key where
  eq_of_compare {a b} h := by
    obtain ⟨hg, hn⟩ := compareLex_eq_eq.mp h
    simp only [compareOn, Std.LawfulEqOrd.compare_eq_iff_eq] at hg hn
    cases a <;> cases b <;> simp_all [isGroup, name]
  compare_self := Std.ReflCmp.compare_self

def rename (names : Std.ExtTreeMap String String) : Key → Key
  | glyph name => glyph name
  | group name => group (names.getD name name)

/-- What a name means on one side. A retained group comes before a glyph of that name, and a name
that looks like a group of this side never means a glyph. -/
def resolve (side : Side) (groups : Groups) (glyphs : NameSet) (name : String) :
    Except Dangling Key :=
  if name ∈ groups then .ok (.group name)
  else if side.owns name then .error (.noGroup name)
  else if name ∈ glyphs then .ok (.glyph name)
  else .error (.noGlyph name)

end Key
abbrev Pairs := Std.ExtTreeMap (Pair Key Key) Int

namespace Pairs

/-- Both sides of an entry, or the first of them that means nothing. -/
def resolve (groups : Pair Groups Groups) (glyphs : NameSet) (entry : Pair String String) :
    Except Dangling (Pair Key Key) := do
  let first ← Key.resolve .first groups.first glyphs entry.first
  let second ← Key.resolve .second groups.second glyphs entry.second
  return ⟨first, second⟩

/-- Renames the groups in each pair; of pairs that become the same the last in order stays. -/
def rename (names : Std.ExtTreeMap String String) (pairs : Pairs) : Pairs :=
  .ofList (pairs.toList.map fun (pair, value) => (pair.map (Key.rename names), value))

end Pairs

def Font.pairs (font : Font) (groups : Pair Groups Groups) : Pairs :=
  let glyphs := font.nameSet
  .ofList (font.kerning.toList.filterMap fun (entry, value) =>
    (Pairs.resolve groups glyphs entry).toOption.map fun pair => (pair, value))

end FontPrep
