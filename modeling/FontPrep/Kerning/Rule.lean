import FontPrep.Kerning.Separation

namespace FontPrep

/-- One side of a rule: a glyph, the class of a group, or an inline list of glyphs. -/
inductive Operand where
  | glyph (name : String)
  | group (name : String)
  | listed (members : List String)
  deriving DecidableEq, Repr

structure Rule where
  sides : Pair Operand Operand
  value : Int
  deriving DecidableEq, Repr

/-- The names in brackets, ascending, repeats kept. -/
def bracketed (members : List String) : String :=
  "[" ++ " ".intercalate (members.mergeSort fun a b => (compare a b).isLE) ++ "]"

namespace Operand

def isInline : Operand → Bool
  | glyph _ | group _ => false
  | listed _ => true

def isEmpty : Operand → Bool
  | glyph name | group name => name.isEmpty
  | listed members => members.isEmpty

def text : Operand → String
  | glyph name | group name => name
  | listed members => bracketed members

end Operand

namespace Rule

def isWritable (rule : Rule) : Bool := !rule.sides.first.isEmpty && !rule.sides.second.isEmpty

def keyword (rule : Rule) : String :=
  if rule.sides.first.isInline || rule.sides.second.isInline then "enum pos" else "pos"

def text (rule : Rule) : String :=
  rule.keyword ++ " " ++ rule.sides.first.text ++ " " ++ rule.sides.second.text ++ " " ++
    toString rule.value ++ ";"

end Rule

namespace Rules
variable {α β : Type} [Ord α] [Ord β] [Std.TransOrd α] [Std.TransOrd β]

def written (first : α → Operand) (second : β → Operand) (rules : Rules α β) : List Rule :=
  rules.toList.map fun (pair, value) => ⟨⟨first pair.first, second pair.second⟩, value⟩

end Rules

structure Section where
  label : String
  rules : List Rule

/-- A blank line, the label and the rules that can be written, or nothing if there are none. -/
def Section.lines (part : Section) : List String :=
  match part.rules.filter Rule.isWritable with
  | [] => []
  | rules => "" :: part.label :: rules.map Rule.text

namespace Separation

def sections (separation : Separation) : List Section :=
  [⟨"# glyph, glyph", Rules.written .glyph .glyph separation.glyphGlyph⟩,
   ⟨"# glyph, group exceptions", Rules.written .glyph .listed separation.glyphListed⟩,
   ⟨"# group exceptions, glyph", Rules.written .listed .glyph separation.listedGlyph⟩,
   ⟨"# glyph, group", Rules.written .glyph .group separation.glyphGroup⟩,
   ⟨"# group, glyph", Rules.written .group .glyph separation.groupGlyph⟩,
   ⟨"# group, group", Rules.written .group .group separation.groupGroup⟩]

def rules (separation : Separation) : List Rule := separation.sections.flatMap Section.rules

def lines (separation : Separation) : List String := separation.sections.flatMap Section.lines

end Separation

/-- The classes of both sides; a class on both sides has its second-side members. -/
def Pair.classes (groups : Pair Groups Groups) : Groups :=
  groups.first.insertMany groups.second.toList

def Pair.classLines (groups : Pair Groups Groups) : List String :=
  groups.classes.toList.map fun (name, members) => name ++ " = " ++ bracketed members ++ ";"

end FontPrep
