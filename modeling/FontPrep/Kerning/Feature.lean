import FontPrep.Kerning.Rule
import FontPrep.Text.Lines

namespace FontPrep

structure ClassNames where
  names : Std.ExtTreeMap String String := ∅
  /-- The class names given so far. -/
  taken : NameSet := ∅

namespace ClassNames

def choose (taken : NameSet) (side : Side) (group : String) : Except Exhausted String :=
  Name.legalize taken Name.isNameChar Name.maxLength side.classLead (side.stem group)

/-- Gives a group a name that avoids all names given before. -/
def assign (done : ClassNames) (item : Side × String) : Except (Stuck ClassNames) ClassNames :=
  match choose done.taken item.1 item.2 with
  | .ok name => .ok { names := done.names.insert item.2 name, taken := done.taken.insert name }
  | .error cause => .error ⟨cause, done⟩

/-- The groups of both sides in the order in which they are named. -/
def queue (groups : Pair Groups Groups) : List (Side × String) :=
  groups.first.keys.map (Side.first, ·) ++ groups.second.keys.map (Side.second, ·)

def ofGroups (groups : Pair Groups Groups) : Except (Stuck ClassNames) ClassNames :=
  (queue groups).foldlM assign {}

end ClassNames

namespace Block

def indent : String := "    "

/-- A line of a header as a comment; one that is a comment already stays as it is. -/
def comment (line : List Char) : String :=
  match Text.trim line with
  | '#' :: rest => String.ofList ('#' :: rest)
  | trimmed => "# " ++ String.ofList trimmed

def headerLines (header : String) : List String := (Text.lines header.toList).map comment

/-- Blank lines carry no indentation. -/
def indented (line : String) : String := if line.isEmpty then "" else indent ++ line

def lines (header : Option String) (body : List String) : List String :=
  ["feature kern \x7b"] ++ ((header.map headerLines).getD []).map (indent ++ ·) ++
    body.map indented ++ ["\x7d kern;"]

def text (header : Option String) (body : List String) : String :=
  "\n".intercalate (lines header body)

end Block

structure KernFeature where
  /-- Class names by group name. -/
  classNames : Std.ExtTreeMap String String
  /-- Members by class name. -/
  groups : Pair Groups Groups
  /-- Values by keys whose groups go by class name. -/
  pairs : Pairs

namespace KernFeature

def ofFont (font : Font) : Except (Stuck ClassNames) KernFeature := do
  let groups := font.sideGroups
  let names := (← ClassNames.ofGroups groups).names
  return {
    classNames := names
    groups := groups.map (Groups.rename names)
    pairs := (font.pairs groups).rename names }

def owners (feature : KernFeature) : Pair Owners Owners := feature.groups.owners

def separation (feature : KernFeature) : Separation := .ofPairs feature.pairs feature.groups

def body (feature : KernFeature) : List String :=
  feature.groups.classLines ++ feature.separation.lines

/-- The feature block, or nothing when there is no kerning. -/
def text (feature : KernFeature) (header : Option String) : String :=
  if feature.pairs.isEmpty then "" else Block.text header feature.body

end KernFeature

def Font.kernText (font : Font) (header : Option String) : Except (Stuck ClassNames) String :=
  (KernFeature.ofFont font).map (·.text header)

end FontPrep
