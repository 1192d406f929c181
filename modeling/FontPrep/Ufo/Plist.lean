namespace FontPrep

inductive Plist where
  | string (text : String)
  | integer (value : Int)
  | real (value : Float)
  | boolean (value : Bool)
  /-- Dates and binary data, by their text. -/
  | encoded (text : String)
  | array (items : List Plist)
  | dictionary (entries : List (String × Plist))
  deriving Inhabited

namespace Plist

def string? : Plist → Option String
  | string text => some text
  | _ => none

def array? : Plist → Option (List Plist)
  | array items => some items
  | _ => none

def dictionary? : Plist → Option (List (String × Plist))
  | dictionary entries => some entries
  | _ => none

/-- The strings of an array; anything else has none. -/
def strings (plist : Plist) : List String := (plist.array?.getD []).filterMap string?

/-- The value under a key of a dictionary; of entries with one key the last counts. -/
def lookup? (plist : Plist) (key : String) : Option Plist :=
  plist.dictionary?.bind (·.reverse.lookup key)

end Plist
end FontPrep
