import FontPrep.Text.Quoted
import Std.Data.ExtTreeSet

namespace FontPrep

/-- `counters name`: the name and all its counted variants are taken. `numbers source`: all
numbered glyph names are, and `source` spells no other. -/
inductive Exhausted where
  | counters (name : String)
  | numbers (source : String)
  deriving DecidableEq, Repr

def numberedStem : String := "glyph"

namespace Exhausted

def stem : Exhausted → String
  | counters name => name
  | numbers _ => numberedStem

def message (cause : Exhausted) : String :=
  "Internal error: could not find a unique name for " ++ Text.quoted cause.stem

end Exhausted

/-- Why a run over many names stopped, and what it had done by then. -/
structure Stuck (α : Type) where
  cause : Exhausted
  done : α

abbrev NameSet := Std.ExtTreeSet String

namespace Name

/-- The counters tried after a name, in order: 1 to 99,999. -/
def counters : List Nat := List.range' 1 99999

/-- The first `limit` characters of the name, less the room that `tail` takes, then `tail`. -/
def withTail (limit : Nat) (name tail : String) : String :=
  String.ofList (name.toList.take (limit - tail.utf8ByteSize)) ++ tail

def counted (limit : Nat) (separator name : String) (counter : Nat) : String :=
  withTail limit name (separator ++ toString counter)

/-- The name itself, or else the name with the least counter that makes it free. -/
def unique (taken : NameSet) (limit : Nat) (separator name : String) : Except Exhausted String :=
  if name ∈ taken then
    match counters.find? fun counter => counted limit separator name counter ∉ taken with
    | some counter => .ok (counted limit separator name counter)
    | none => .error (.counters name)
  else .ok name

def maxLength : Nat := 31

def fallback : String := "noTransPossible"

def isNameChar (c : Char) : Bool := c.isAlphanum || c == '_' || c == '.'

/-- The kept characters of `raw`, at most `room` of them, or the start of the fallback name. -/
def body (allowed : Char → Bool) (room : Nat) (raw : String) : String :=
  match (raw.toList.filter allowed).take room with
  | [] => String.ofList (fallback.toList.take room)
  | kept => String.ofList kept

/-- A free identifier that starts with `lead` and keeps what it can of `raw`. -/
def legalize (taken : NameSet) (allowed : Char → Bool) (limit : Nat) (lead raw : String) :
    Except Exhausted String :=
  unique taken limit "" (lead ++ body allowed (limit - lead.length) raw)

theorem mem_counters {counter : Nat} : counter ∈ counters ↔ 1 ≤ counter ∧ counter ≤ 99999 := by
  simp only [counters, List.mem_range'_1]
  omega

theorem unique_of_not_mem {taken : NameSet} {limit : Nat} {separator name : String}
    (free : name ∉ taken) : unique taken limit separator name = .ok name := by
  simp [unique, free]

theorem not_mem_of_unique {taken : NameSet} {limit : Nat} {separator name chosen : String}
    (found : unique taken limit separator name = .ok chosen) : chosen ∉ taken := by
  unfold unique at found
  split at found
  · split at found
    · rename_i counter hit
      cases found
      simpa using List.find?_some hit
    · cases found
  · rename_i free
    cases found
    exact free

end Name
end FontPrep
