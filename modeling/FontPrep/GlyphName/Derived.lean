import FontPrep.Name
import FontPrep.Text.Chars

/-! Glyph names that the feature compiler accepts: identifiers that start with neither a digit nor a
period, and `.notdef`. Such names are derived from arbitrary ones: spelled with what the decomposed
name keeps, or else from the codepoint, or else numbered. -/
namespace FontPrep.GlyphName

def notdef : String := ".notdef"

def isLegal (name : String) : Bool :=
  match name.toList with
  | [] => false
  | first :: _ =>
    !first.isDigit && (first != '.' || name == notdef) &&
      name.length ≤ Name.maxLength && name.toList.all Name.isNameChar

theorem isLegal_notdef : isLegal notdef = true := by decide

theorem not_isLegal_empty : isLegal "" = false := by decide

def codepointName (lead : String) (codepoint : Nat) : String :=
  lead ++ String.ofList (Text.paddedHex 4 codepoint)

/-- How a glyph order line writes a codepoint. -/
def token (codepoint : Nat) : String :=
  if (Text.paddedHex 4 codepoint).length ≤ 4 then codepointName "uni" codepoint
  else codepointName "u" codepoint

/-- The name of a glyph known by its codepoint only; from 0xFFFF on it starts with `u`. -/
def fromCodepoint (codepoint : Nat) : String :=
  if codepoint < 0xFFFF then codepointName "uni" codepoint else codepointName "u" codepoint

inductive Derived where
  | spelled (name : String)
  | numbered (number : Nat)
  deriving DecidableEq, Repr

def numberedName (number : Nat) : String := numberedStem ++ toString number

def Derived.name : Derived → String
  | spelled name => name
  | numbered number => numberedName number

/-- What the decomposed name keeps, or else the name made from a codepoint other than zero. -/
def spelling (decompose : String → String) (codepoint : Option Nat) (name : String) : String :=
  match ((decompose name).toList.filter Name.isNameChar).take Name.maxLength, codepoint with
  | [], none => ""
  | [], some codepoint => if 0 < codepoint then fromCodepoint codepoint else ""
  | kept, _ => String.ofList kept

/-- The least numbered glyph name that is free; `source` is what had to be named. -/
def number (taken : NameSet) (source : String) : Except Exhausted Derived :=
  match Name.counters.find? fun number => numberedName number ∉ taken with
  | some number => .ok (.numbered number)
  | none => .error (.numbers source)

/-- A free variant of the spelling; nothing spelled stays nothing. -/
def freeSpelling (taken : NameSet) (spelled : String) : Except Exhausted String :=
  if spelled.isEmpty then .ok spelled else Name.unique taken Name.maxLength "." spelled

def derive (decompose : String → String) (taken : NameSet) (codepoint : Option Nat)
    (name : String) : Except Exhausted Derived := do
  let candidate ← freeSpelling taken (spelling decompose codepoint name)
  if isLegal candidate then return .spelled candidate else number taken name

end FontPrep.GlyphName
