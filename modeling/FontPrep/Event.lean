import FontPrep.Text.Quoted

namespace FontPrep

inductive Level where
  | error
  | warn
  | info
  | debug
  | trace
  deriving DecidableEq, Repr

def Level.label : Level → String
  | error => "ERROR"
  | warn => "WARN"
  | info => "INFO"
  | debug => "DEBUG"
  | trace => "TRACE"

inductive Event where
  | collecting
  | groupDropped (group : String)
  | groupMissing (name : String)
  | glyphMissing (name : String)
  | collected (kept total firstGroups secondGroups : Nat)
  | classNamed (group className : String)
  | glyphShared (glyph owner className : String)
  | noKerning
  | spelledOut (first second : String) (count : Nat)
  | numbered (name : String)
  | productionReplaced (production design final : String)
  | renamed (design final : String)
  deriving DecidableEq, Repr

namespace Event

def level : Event → Level
  | collecting | noKerning => .info
  | glyphShared .. | productionReplaced .. => .warn
  | classNamed .. => .trace
  | _ => .debug

def text : Event → String
  | collecting => "Collecting kerning groups and pairs"
  | groupDropped group => "Dropping group " ++ group ++ ": none of its glyphs are in the font"
  | groupMissing name => "Dropping kerning with " ++ name ++ ": group is empty or missing"
  | glyphMissing name => "Dropping kerning with " ++ name ++ ": no such glyph"
  | collected kept total firstGroups secondGroups =>
    "Kept " ++ toString kept ++ " of " ++ toString total ++ " pairs, " ++ toString firstGroups ++
      " first and " ++ toString secondGroups ++ " second groups"
  | classNamed group className => "Group " ++ group ++ " becomes class " ++ className
  | glyphShared glyph owner className =>
    "Glyph " ++ glyph ++ " is in both " ++ owner ++ " and " ++ className ++ "; keeping " ++ owner
  | noKerning => "No kerning pairs survived filtering; not writing a kern feature"
  | spelledOut first second count =>
    "Decomposing " ++ first ++ " " ++ second ++ " into " ++ toString count ++ " exceptions"
  | numbered name =>
    "No legal name derivable from " ++ Text.quoted name ++ ", using a numbered fallback"
  | productionReplaced production design final =>
    "Production name " ++ production ++ " for " ++ design ++ " is illegal or taken, using " ++ final
  | renamed design final => "Renaming glyph " ++ design ++ " to " ++ final

def line (event : Event) : String := event.level.label ++ " " ++ event.text

end Event
end FontPrep
