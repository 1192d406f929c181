namespace FontPrep.Cli

structure Options where
  font : String
  /-- Where the kern feature goes; standard output if nothing is given. -/
  output : Option String := none
  header : Option String := none
  glyphOrder : Option String := none
  /-- A name map in place of the font's own production names. -/
  nameMap : Option String := none
  deriving DecidableEq, Repr

inductive UsageError where
  | missingRequiredArgument
  | unknownArgument
  | argumentConflict
  | invalidValue
  | tooManyValues
  | displayHelp
  | displayVersion
  deriving DecidableEq, Repr

inductive Setting where
  | font
  | output
  | header
  | glyphOrder
  | nameMap
  deriving DecidableEq, Repr

inductive Switch where
  | help
  | version
  | verbose
  | quiet
  deriving DecidableEq, Repr

inductive Flag where
  | setting (setting : Setting)
  | switch (switch : Switch)
  deriving DecidableEq, Repr

def Flag.ofLong? : String → Option Flag
  | "output" => some (setting .output)
  | "header" => some (setting .header)
  | "glyph-order" => some (setting .glyphOrder)
  | "name-map" => some (setting .nameMap)
  | "help" => some (switch .help)
  | "version" => some (switch .version)
  | "verbose" => some (switch .verbose)
  | "quiet" => some (switch .quiet)
  | _ => none

def Flag.ofShort? : Char → Option Flag
  | 'o' => some (setting .output)
  | 'h' => some (switch .help)
  | 'V' => some (switch .version)
  | 'v' => some (switch .verbose)
  | 'q' => some (switch .quiet)
  | _ => none

/-- The font and the options are paths, which are never empty; a header is any text. -/
def Setting.accepts (setting : Setting) (value : String) : Bool :=
  setting == .header || !value.isEmpty

structure Reading where
  values : List (Setting × String) := []
  /-- The setting met last, and its value if that has come; it counts only when the next argument
  comes. -/
  pending : Option (Setting × Option String) := none
  verbose : Bool := false
  quiet : Bool := false
  escaped : Bool := false

namespace Reading

def hasFont (reading : Reading) : Bool :=
  (reading.values.lookup .font).isSome || (reading.pending.map Prod.fst) == some .font

def set (reading : Reading) (setting : Setting) (value : String) : Except UsageError Reading :=
  if (reading.values.lookup setting).isSome then .error .argumentConflict
  else if setting.accepts value then
    .ok { reading with values := (setting, value) :: reading.values }
  else .error .invalidValue

def settle (reading : Reading) : Except UsageError Reading :=
  match reading.pending with
  | none => .ok reading
  | some (_, none) => .error .invalidValue
  | some (setting, some value) => { reading with pending := none }.set setting value

def turn (reading : Reading) : Switch → Except UsageError Reading
  | .help => .error .displayHelp
  | .version => .error .displayVersion
  | .verbose => .ok { reading with verbose := true }
  | .quiet => .ok { reading with quiet := true }

def await (reading : Reading) (setting : Setting) : Except UsageError Reading := do
  return { (← reading.settle) with pending := some (setting, none) }

def attach (reading : Reading) (setting : Setting) (value : String) : Except UsageError Reading := do
  (← reading.settle).set setting value

def long (reading : Reading) (text : List Char) : Except UsageError Reading :=
  match Flag.ofLong? (String.ofList (text.takeWhile (· != '='))), text.dropWhile (· != '=') with
  | none, _ => .error .unknownArgument
  | some (.setting setting), [] => reading.await setting
  | some (.setting setting), _ :: value => reading.attach setting (String.ofList value)
  | some (.switch switch), [] => do (← reading.settle).turn switch
  | some (.switch _), _ :: _ => .error .tooManyValues

def short (reading : Reading) : List Char → Except UsageError Reading
  | [] => .ok reading
  | c :: rest =>
    match Flag.ofShort? c, rest with
    | none, _ => .error .unknownArgument
    | some (.setting setting), [] => reading.await setting
    | some (.setting setting), '=' :: value => reading.attach setting (String.ofList value)
    | some (.setting setting), value => reading.attach setting (String.ofList value)
    | some (.switch switch), _ => do ((← (← reading.settle).turn switch).short rest)

/-- The value a setting waits for, or else the font. -/
def value (reading : Reading) (text : String) : Except UsageError Reading :=
  match reading.pending, reading.escaped with
  | some (setting, none), false => .ok { reading with pending := some (setting, some text) }
  | _, _ =>
    if reading.hasFont then .error .unknownArgument
    else do return { (← reading.settle) with pending := some (.font, some text) }

def next (reading : Reading) (arg : String) : Except UsageError Reading :=
  if reading.escaped then reading.value arg
  else match arg.toList with
    | ['-', '-'] => .ok { reading with escaped := true }
    | '-' :: '-' :: text => reading.long text
    | ['-'] => reading.value arg
    | '-' :: text => reading.short text
    | _ => reading.value arg

def finish (reading : Reading) : Except UsageError Options := do
  let reading ← reading.settle
  if reading.verbose && reading.quiet then throw .argumentConflict
  let some font := reading.values.lookup .font | throw .missingRequiredArgument
  let glyphOrder := reading.values.lookup .glyphOrder
  let nameMap := reading.values.lookup .nameMap
  if nameMap.isSome && glyphOrder.isNone then throw .missingRequiredArgument
  return { font, glyphOrder, nameMap
           output := reading.values.lookup .output
           header := reading.values.lookup .header }

end Reading

def Options.ofArgs (args : List String) : Except UsageError Options := do
  (← args.foldlM Reading.next {}).finish

end FontPrep.Cli
