import FontPrep.Ufo.Markup
import FontPrep.Ufo.Plist

/-! Property lists from their files. Containers that are still open stand on a stack, and text
between elements must be blank. -/
namespace FontPrep.Plist

/-! ### Numbers -/

/-- Digits with at most one period among them, as a whole number and its decimal places. -/
def decimal? (digits : List Char) : Option (Nat × Nat) := do
  let whole := digits.takeWhile (· != '.')
  let places := (digits.dropWhile (· != '.')).drop 1
  if (whole ++ places).isEmpty then none
  else return (← (String.ofList (whole ++ places)).toNat?, places.length)

def isExponentMark (c : Char) : Bool := c == 'e' || c == 'E'

/-- A number without a sign, with or without an exponent. -/
def magnitude? (chars : List Char) : Option Float :=
  match String.ofList chars with
  | "nan" => some (0.0 / 0.0)
  | "inf" | "infinity" => some (1.0 / 0.0)
  | _ => do
    let (number, places) ← decimal? (chars.takeWhile (!isExponentMark ·))
    let exponent ← match chars.dropWhile (!isExponentMark ·) with
      | [] => some 0
      | _ :: '+' :: digits => (String.ofList digits).toInt?
      | _ :: digits => (String.ofList digits).toInt?
    let shift := exponent - places
    return Float.ofScientific number (shift < 0) shift.natAbs

def real? (text : String) : Option Float :=
  match Text.trim text.toList with
  | '-' :: rest => (magnitude? rest).map (- ·)
  | '+' :: rest => magnitude? rest
  | rest => magnitude? rest

/-! ### Structure -/

inductive Container where
  /-- Items in reverse. -/
  | array (items : List Plist)
  /-- Entries in reverse, and the key of the entry to come. -/
  | dictionary (entries : List (String × Plist)) (key : Option String)

def Container.add (container : Container) (value : Plist) : Option Container :=
  match container with
  | .array items => some (.array (value :: items))
  | .dictionary entries (some key) => some (.dictionary ((key, value) :: entries) none)
  | .dictionary _ none => none

def Container.close : Container → Option Plist
  | .array items => some (.array items.reverse)
  | .dictionary entries none => some (.dictionary entries.reverse)
  | .dictionary _ (some _) => none

def leaf? (name text : String) : Option Plist :=
  match name with
  | "string" => some (.string text)
  | "integer" => (String.ofList (Text.trim text.toList)).toInt?.map .integer
  | "real" => (real? text).map .real
  | "true" => some (.boolean true)
  | "false" => some (.boolean false)
  | "date" | "data" => some (.encoded text)
  | _ => none

/-- Puts a finished value into the innermost container, or takes it as the whole. -/
def place (value : Plist) (whole : Option Plist) (stack : List Container) :
    Option (Option Plist × List Container) :=
  match stack with
  | [] => if whole.isNone then some (some value, []) else none
  | container :: rest => (container.add value).map fun container => (whole, container :: rest)

def build (whole : Option Plist) (stack : List Container) : List Markup.Token → Option Plist
  | [] => if stack.isEmpty then whole else none
  | .opening "plist" _ :: rest => build whole stack rest
  | .closing "plist" :: rest => build whole stack rest
  | .opening "array" _ :: rest => build whole (.array [] :: stack) rest
  | .opening "dict" _ :: rest => build whole (.dictionary [] none :: stack) rest
  | .opening "key" _ :: .text key :: .closing "key" :: rest =>
    match stack with
    | .dictionary entries none :: stack => build whole (.dictionary entries (some key) :: stack) rest
    | _ => none
  | .opening "key" _ :: .closing "key" :: rest =>
    match stack with
    | .dictionary entries none :: stack => build whole (.dictionary entries (some "") :: stack) rest
    | _ => none
  | .opening name _ :: .text text :: .closing _ :: rest => do
    let (whole, stack) ← place (← leaf? name text) whole stack
    build whole stack rest
  | .opening name _ :: .closing _ :: rest => do
    let (whole, stack) ← place (← leaf? name "") whole stack
    build whole stack rest
  | .closing _ :: rest =>
    match stack with
    | container :: stack => do
      let (whole, stack) ← place (← container.close) whole stack
      build whole stack rest
    | [] => none
  | .text text :: rest =>
    if text.toList.all Text.isBlank then build whole stack rest else none
  | _ => none

def ofText? (text : String) : Option Plist := (Markup.tokens text).bind (build none [])

end FontPrep.Plist
