import FontPrep.Text.Chars
import Std.Data.ExtTreeMap

namespace FontPrep.NameMap

inductive Token where
  | opening
  | closing
  | colon
  | comma
  | string (text : String)
  deriving DecidableEq, Repr

def isSpace (c : Char) : Bool := c == ' ' || c == '\t' || c == '\n' || c == '\r'

def escaped? : Char → Option Char
  | '"' => some '"'
  | '\\' => some '\\'
  | '/' => some '/'
  | 'b' => some '\x08'
  | 'f' => some '\x0c'
  | 'n' => some '\n'
  | 'r' => some '\r'
  | 't' => some '\t'
  | _ => none

def unit? (a b c d : Char) : Option Nat := do
  return (((← Text.hexValue? a) * 16 + (← Text.hexValue? b)) * 16 + (← Text.hexValue? c)) * 16 +
    (← Text.hexValue? d)

def isLeading (unit : Nat) : Bool := 0xD800 ≤ unit && unit < 0xDC00

def isTrailing (unit : Nat) : Bool := 0xDC00 ≤ unit && unit < 0xE000

def combine (leading trailing : Nat) : Char :=
  Char.ofNat (0x10000 + (leading - 0xD800) * 0x400 + (trailing - 0xDC00))

mutual

/-- Tokens of a text, after the given ones in reverse. -/
def tokens (done : List Token) : List Char → Option (List Token)
  | [] => some done.reverse
  | '\x7b' :: rest => tokens (.opening :: done) rest
  | '\x7d' :: rest => tokens (.closing :: done) rest
  | ':' :: rest => tokens (.colon :: done) rest
  | ',' :: rest => tokens (.comma :: done) rest
  | '"' :: rest => stringTokens done [] rest
  | c :: rest => if isSpace c then tokens done rest else none
  termination_by structural text => text

/-- Tokens from within a string of which the given characters are read, in reverse. -/
def stringTokens (done : List Token) (read : List Char) : List Char → Option (List Token)
  | [] => none
  | '"' :: rest => tokens (.string (String.ofList read.reverse) :: done) rest
  | '\\' :: 'u' :: a :: b :: c :: d :: '\\' :: 'u' :: a' :: b' :: c' :: d' :: rest => do
    let unit ← unit? a b c d
    if isLeading unit then
      let next ← unit? a' b' c' d'
      if isTrailing next then stringTokens done (combine unit next :: read) rest else none
    else if isTrailing unit then none
    else stringTokens done (Char.ofNat unit :: read) ('\\' :: 'u' :: a' :: b' :: c' :: d' :: rest)
  | '\\' :: 'u' :: a :: b :: c :: d :: rest => do
    let unit ← unit? a b c d
    if isLeading unit || isTrailing unit then none
    else stringTokens done (Char.ofNat unit :: read) rest
  | '\\' :: c :: rest => do stringTokens done ((← escaped? c) :: read) rest
  | c :: rest => if c.toNat < 0x20 then none else stringTokens done (c :: read) rest
  termination_by structural text => text

end

/-- Entries up to the closing brace, which must be the last token; each follows a comma. -/
def moreEntries? : List Token → Option (List (String × String))
  | [.closing] => some []
  | .comma :: .string key :: .colon :: .string value :: rest =>
    (moreEntries? rest).map ((key, value) :: ·)
  | _ => none

def entries? : List Token → Option (List (String × String))
  | [.opening, .closing] => some []
  | .opening :: .string key :: .colon :: .string value :: rest =>
    (moreEntries? rest).map ((key, value) :: ·)
  | _ => none

/-- The map that a text writes: one object whose values are all strings. Of entries with one key the
last counts. -/
def ofText? (text : String) : Option (Std.ExtTreeMap String String) :=
  ((tokens [] text.toList).bind entries?).map fun entries => .ofList entries

end FontPrep.NameMap
