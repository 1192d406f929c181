import FontPrep.Font
import FontPrep.GlyphName.Derived

namespace FontPrep.GlyphOrder

structure Line where
  final : String
  design : String
  codepoints : List Nat
  deriving DecidableEq, Repr

def Line.text (line : Line) : String :=
  line.final ++ " " ++ line.design ++
    (match line.codepoints with
      | [] => ""
      | codepoints => " " ++ ",".intercalate (codepoints.map GlyphName.token)) ++ "\n"

/-- A line for every name in the order. A design without a final name keeps its own, and the last
glyph of a name gives the codepoints. -/
def lines (font : Font) (finals : Std.ExtTreeMap String String) (order : List String) : List Line :=
  let glyphs := font.glyphsByName
  order.map fun design =>
    { final := finals.getD design design
      design
      codepoints := (glyphs[design]?.map Glyph.codepoints).getD [] }

def text (font : Font) (finals : Std.ExtTreeMap String String) (order : List String) : String :=
  String.join ((lines font finals order).map Line.text)

end FontPrep.GlyphOrder
