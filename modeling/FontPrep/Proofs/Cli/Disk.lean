import FontPrep.Cli.World

namespace FontPrep

/-- A file system: how a font is loaded from a tree, which leaves the tree as it is, how a name map
is read off a text and a name decomposed, and which reads and writes fail though the tree would
allow them. A run writes each of its files once, so that failures by path and text cover every way
in which its writes can end. -/
structure Disk where
  ufo : FileTree → String → Except Ufo.LoadError Font
  nameMap? : String → Option (Std.ExtTreeMap String String)
  decompose : String → String
  unreadable? : String → Option FileError := fun _ => none
  unwritable? : String → String → Option FileError := fun _ _ => none

namespace Disk
variable (disk : Disk)

def read (tree : FileTree) (path : String) : Except FileError String :=
  match disk.unreadable? path with
  | some cause => .error cause
  | none => tree.read path

/-- The tree with the file's whole content replaced, unless that fails. -/
def write (tree : FileTree) (path text : String) : Except FileError FileTree :=
  match disk.unwritable? path text with
  | some cause => .error cause
  | none => tree.write path text

/-- The world after a write, which is the one before if the write fails. -/
def writeFile (path text : String) (world : World) : Except FileError Unit × World :=
  match disk.write world.tree path text with
  | .ok tree => (.ok (), { world with tree })
  | .error cause => (.error cause, world)

def host : Host (StateM World) where
  ufo path := do return disk.ufo (← get).tree path
  read path := do return disk.read (← get).tree path
  write path text := fun world => disk.writeFile path text world
  print text := modify fun world => { world with printed := world.printed ++ text }
  nameMap? := disk.nameMap?
  decompose := disk.decompose

/-- The outcome of a run, and the world it leaves. -/
def run (options : Cli.Options) (world : World) : Except Failure Unit × World :=
  (disk.host.run options).run.run world

/-- With what the program uses, and where nothing fails but what the tree forbids, a run is a run in
the world alone. -/
theorem run_world : Disk.run {
    ufo := fun tree path => (tree.package path).bind (·.load path)
    nameMap? := NameMap.ofText?
    decompose := Unicode.decompose } = World.run := rfl

/-! ### The steps as functions of the world -/

def font (tree : FileTree) (path : String) : Except Failure Font :=
  if Path.extension? path = some "ufo" then (disk.ufo tree path).mapError .load
  else .error (.unknownFileType path)

def feature (tree : FileTree) (options : Cli.Options) : Except Failure (Font × String) :=
  match disk.font tree options.font with
  | .error failure => .error failure
  | .ok font =>
    match font.kernText options.header with
    | .error stuck => .error (.exhausted stuck.cause)
    | .ok text => .ok (font, text)

/-- What is printed of a feature: nothing if it goes to a file. -/
def printout (output : Option String) (text : String) : String :=
  if output.isSome || text.isEmpty then "" else text ++ "\n"

def deliver (output : Option String) (text : String) (world : World) :
    Except FileError Unit × World :=
  match output with
  | some path => disk.writeFile path text world
  | none => (.ok (), { world with printed := world.printed ++ printout none text })

def names (tree : FileTree) (font : Font) :
    Option String → Except Failure (Std.ExtTreeMap String String)
  | none => .ok font.declaredNames
  | some path =>
    match disk.read tree path with
    | .error .isDirectory => .error .unreadableNameMap
    | .error cause => .error (.file cause)
    | .ok text => (disk.nameMap? text).elim (.error .unreadableNameMap) .ok

def order (tree : FileTree) (font : Font) (nameMap : Option String) : Except Failure String :=
  match disk.names tree font nameMap with
  | .error failure => .error failure
  | .ok provided =>
    match font.finalNames disk.decompose font.glyphNames provided with
    | .error stuck => .error (.exhausted stuck.cause)
    | .ok names => .ok (GlyphOrder.text font names.finals font.glyphNames)

def finish (options : Cli.Options) (font : Font) (world : World) : Except Failure Unit × World :=
  match options.glyphOrder with
  | none => (.ok (), world)
  | some path =>
    match disk.order world.tree font options.nameMap with
    | .error failure => (.error failure, world)
    | .ok text =>
      let (outcome, after) := disk.writeFile path text world
      (outcome.mapError .file, after)

variable {disk}

/-- A run goes on where its first part ends, unless that part fails. -/
theorem bind_run {α β : Type} (first : ExceptT Failure (StateM World) α)
    (next : α → ExceptT Failure (StateM World) β) (world : World) :
    (first >>= next).run.run world = match first.run.run world with
      | (.ok value, after) => (next value).run.run after
      | (.error failure, after) => (.error failure, after) := by
  change (ExceptT.bindCont next (first.run.run world).1).run (first.run.run world).2 = _
  cases first.run.run world with
  | mk outcome after => cases outcome <;> rfl

theorem liftM_run {α : Type} (action : StateM World α) (world : World) :
    (liftM action : ExceptT Failure (StateM World) α).run.run world =
      (.ok (action world).1, (action world).2) := rfl

theorem lift_run {ε α : Type} (failure : ε → Failure) (result : Except ε α) (world : World) :
    (Host.lift failure result : ExceptT Failure (StateM World) α).run.run world =
      (result.mapError failure, world) := rfl

theorem load_run (path : String) (world : World) :
    (disk.host.load path).run.run world = (disk.font world.tree path, world) := by
  unfold Host.load font
  split
  · have loaded : disk.host.ufo path world = (disk.ufo world.tree path, world) := rfl
    rw [bind_run, liftM_run, loaded]
    exact lift_run ..
  · rfl

theorem nameMap_run (path : String) (font : Font) (world : World) :
    (disk.host.nameMap path).run.run world = (disk.names world.tree font (some path), world) := by
  have read : disk.host.read path world = (disk.read world.tree path, world) := rfl
  rw [Host.nameMap, bind_run, liftM_run, read, names]
  cases disk.read world.tree path with
  | error cause => cases cause <;> rfl
  | ok text =>
    have parsed : disk.host.nameMap? text = disk.nameMap? text := rfl
    dsimp only
    rw [parsed]
    cases disk.nameMap? text <;> rfl

theorem names_run (font : Font) (nameMap : Option String) (world : World) :
    (nameMap.elim (pure font.declaredNames) disk.host.nameMap).run.run world =
      (disk.names world.tree font nameMap, world) := by
  cases nameMap with
  | none => rfl
  | some path => exact nameMap_run path font world

theorem writeGlyphOrder_bind (font : Font) (path : String) (nameMap : Option String) :
    disk.host.writeGlyphOrder font path nameMap =
      nameMap.elim (pure font.declaredNames) disk.host.nameMap >>= fun provided =>
        Host.lift (Failure.exhausted ∘ Stuck.cause)
            (font.finalNames disk.decompose font.glyphNames provided) >>= fun names =>
          disk.host.writeFile path (GlyphOrder.text font names.finals font.glyphNames) := by
  cases nameMap <;> rfl

theorem writeGlyphOrder_run (font : Font) (path : String) (nameMap : Option String) (world : World) :
    (disk.host.writeGlyphOrder font path nameMap).run.run world =
      match disk.order world.tree font nameMap with
      | .error failure => (.error failure, world)
      | .ok text => ((disk.writeFile path text world).1.mapError .file,
          (disk.writeFile path text world).2) := by
  rw [writeGlyphOrder_bind, bind_run, names_run, order]
  cases disk.names world.tree font nameMap with
  | error failure => rfl
  | ok provided =>
    dsimp only
    rw [bind_run, lift_run]
    cases font.finalNames disk.decompose font.glyphNames provided <;> rfl

theorem deliver_run (output : Option String) (text : String) (world : World) :
    (output.elim (if text.isEmpty then pure () else liftM (disk.host.print (text ++ "\n")))
        (disk.host.writeFile · text) : ExceptT Failure (StateM World) Unit).run.run world =
      ((disk.deliver output text world).1.mapError .file, (disk.deliver output text world).2) := by
  cases output with
  | some path => rfl
  | none =>
    rw [Option.elim_none, deliver, printout]
    split
    · next empty => simp [empty]; rfl
    · next full => simp [full]; rfl

theorem finish_run (options : Cli.Options) (font : Font) (world : World) :
    (options.glyphOrder.elim (pure ())
      (disk.host.writeGlyphOrder font · options.nameMap)).run.run world =
      disk.finish options font world := by
  rw [finish]
  cases options.glyphOrder with
  | none => rfl
  | some path => exact writeGlyphOrder_run font path options.nameMap world

theorem run_bind (options : Cli.Options) :
    disk.host.run options =
      disk.host.load options.font >>= fun font =>
        Host.lift (Failure.exhausted ∘ Stuck.cause) (font.kernText options.header) >>= fun text =>
          options.output.elim
              (if text.isEmpty then pure () else liftM (disk.host.print (text ++ "\n")))
              (disk.host.writeFile · text) >>= fun _ =>
            options.glyphOrder.elim (pure ())
              (disk.host.writeGlyphOrder font · options.nameMap) := by
  unfold Host.run
  congr 1; funext font; congr 1; funext text
  cases options.output with
  | some path => cases options.glyphOrder <;> rfl
  | none =>
    dsimp only [Option.elim_none]
    split <;> cases options.glyphOrder <;> rfl

theorem run_eq (options : Cli.Options) (world : World) :
    disk.run options world = match disk.feature world.tree options with
      | .error failure => (.error failure, world)
      | .ok (font, text) => match disk.deliver options.output text world with
        | (.error cause, after) => (.error (.file cause), after)
        | (.ok (), after) => disk.finish options font after := by
  rw [run, run_bind, bind_run, load_run, feature]
  cases disk.font world.tree options.font with
  | error failure => rfl
  | ok font =>
    dsimp only
    rw [bind_run, lift_run]
    cases font.kernText options.header with
    | error stuck => rfl
    | ok text =>
      dsimp only [Except.mapError]
      rw [bind_run, deliver_run]
      cases disk.deliver options.output text world with
      | mk outcome after =>
        cases outcome with
        | error cause => rfl
        | ok done => exact finish_run options font after

end Disk
end FontPrep
