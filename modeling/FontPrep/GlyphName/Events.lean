import FontPrep.Event
import FontPrep.GlyphName.Assignment

namespace FontPrep.GlyphName

/-- Naming by number is an event of its own; `source` is what had to be named. -/
def Derived.events (source : String) : Derived → List Event
  | spelled _ => []
  | numbered _ => [.numbered source]

def Entry.events (entry : Entry) : List Event :=
  match entry.choice with
  | .provided _ | .own => []
  | .replaced production derived =>
    derived.events production ++ [.productionReplaced production entry.design derived.name]
  | .renamed derived => derived.events entry.design ++ [.renamed entry.design derived.name]

def Assignment.events (done : Assignment) : List Event := done.entries.toList.flatMap Entry.events

def exhaustedEvents : Exhausted → List Event
  | .counters _ => []
  | .numbers source => [.numbered source]

def events : Except (Stuck Assignment) Assignment → List Event
  | .ok done => done.events
  | .error stuck => stuck.done.events ++ exhaustedEvents stuck.cause

end FontPrep.GlyphName
