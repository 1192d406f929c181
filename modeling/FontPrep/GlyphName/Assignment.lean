import FontPrep.Font
import FontPrep.GlyphName.Derived

/-! Final names for the glyphs of a font. Provided names come first and are kept where they are
legal and free; then legal design names that nobody took; then names derived from the other design
names, in glyph order. -/
namespace FontPrep.GlyphName

/-- How a design name came by its final name. -/
inductive Choice where
  | provided (production : String)
  | replaced (production : String) (derived : Derived)
  | own
  | renamed (derived : Derived)
  deriving DecidableEq, Repr

structure Entry where
  design : String
  choice : Choice
  deriving DecidableEq, Repr

def Entry.final (entry : Entry) : String :=
  match entry.choice with
  | .provided production => production
  | .replaced _ derived => derived.name
  | .own => entry.design
  | .renamed derived => derived.name

structure Assignment where
  entries : Array Entry := #[]
  /-- Final names by design name. -/
  finals : Std.ExtTreeMap String String := ∅
  /-- The final names given so far. -/
  taken : NameSet := ∅

namespace Assignment

def add (done : Assignment) (design : String) (choice : Choice) : Assignment :=
  let entry : Entry := ⟨design, choice⟩
  { entries := done.entries.push entry
    finals := done.finals.insert design entry.final
    taken := done.taken.insert entry.final }

variable (decompose : String → String) (codepoint : String → Option Nat)

def addProvided (done : Assignment) (entry : String × String) :
    Except (Stuck Assignment) Assignment :=
  if isLegal entry.2 && entry.2 ∉ done.taken then .ok (done.add entry.1 (.provided entry.2))
  else match derive decompose done.taken (codepoint entry.1) entry.2 with
    | .ok derived => .ok (done.add entry.1 (.replaced entry.2 derived))
    | .error cause => .error ⟨cause, done⟩

def addOwn (done : Assignment) (design : String) : Assignment :=
  if isLegal design && design ∉ done.taken then done.add design .own else done

def addRenamed (done : Assignment) (design : String) : Except (Stuck Assignment) Assignment :=
  if design ∈ done.finals then .ok done
  else match derive decompose done.taken (codepoint design) design with
    | .ok derived => .ok (done.add design (.renamed derived))
    | .error cause => .error ⟨cause, done⟩

/-- Final names for the provided designs and for every name in the order. -/
def ofOrder (order : List String) (provided : Std.ExtTreeMap String String) :
    Except (Stuck Assignment) Assignment := do
  let given ← provided.toList.foldlM (addProvided decompose codepoint) {}
  let unnamed := order.filter (· ∉ given.finals)
  unnamed.foldlM (addRenamed decompose codepoint) (unnamed.foldl addOwn given)

/-- Design and final names, in the order in which they were chosen. -/
def toList (done : Assignment) : List (String × String) :=
  done.entries.toList.map fun entry => (entry.design, entry.final)

end Assignment

end FontPrep.GlyphName

namespace FontPrep

/-- Final names for the provided designs and for every name in the order. The last glyph of a name
gives the codepoint. -/
def Font.finalNames (font : Font) (decompose : String → String) (order : List String)
    (provided : Std.ExtTreeMap String String) :
    Except (Stuck GlyphName.Assignment) GlyphName.Assignment :=
  let glyphs := font.glyphsByName
  GlyphName.Assignment.ofOrder decompose (fun name => glyphs[name]?.bind Glyph.codepoint?) order
    provided

end FontPrep
