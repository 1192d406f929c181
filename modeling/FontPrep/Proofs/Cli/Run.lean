import FontPrep.Proofs.Cli.Disk
import FontPrep.Proofs.FileTree
import FontPrep.Proofs.Runs

/-! What a run leaves behind when one of its steps fails. The feature is written before the name map
is read and the glyph order is made; so what is done up to the failing step stands, complete, and
nothing of the later steps is there. -/
namespace FontPrep

/-- Whether the feature goes to a file of its own: where neither the glyph order is wanted nor the
name map read. -/
structure Cli.Options.Parted (options : Cli.Options) (tree : FileTree) : Prop where
  glyphOrder : ∀ output ∈ options.output, ∀ path ∈ options.glyphOrder, tree.Apart output path
  nameMap : ∀ output ∈ options.output, ∀ path ∈ options.nameMap, tree.Apart output path

namespace Disk
variable {disk : Disk} {options : Cli.Options} {before after world : World}
  {tree changed : FileTree} {font : Font} {output nameMap : Option String} {path text : String}

/-! ### What a step leaves -/

/-- Whether the text can be written there. -/
def Takes (disk : Disk) (tree : FileTree) (path text : String) : Prop :=
  ∃ changed, disk.write tree path text = .ok changed

instance instDecidableTakes (disk : Disk) (tree : FileTree) (path text : String) :
    Decidable (disk.Takes tree path text) :=
  decidable_of_iff ((disk.write tree path text).toOption.isSome = true) <| by
    unfold Takes
    cases disk.write tree path text <;> simp [Except.toOption]

theorem write_eq_ok_iff : disk.write tree path text = .ok changed ↔
    disk.unwritable? path text = none ∧ tree.write path text = .ok changed := by
  unfold write
  cases disk.unwritable? path text <;> simp

theorem takes_iff : disk.Takes tree path text ↔
    disk.unwritable? path text = none ∧ ∃ changed, tree.write path text = .ok changed := by
  simp only [Takes, write_eq_ok_iff, exists_and_left]

theorem takes_of_same (same : tree.SameDirectories changed) :
    disk.Takes changed path text ↔ disk.Takes tree path text := by
  rw [takes_iff, takes_iff, same.exists_write]

theorem writeFile_taken (taken : disk.Takes world.tree path text) :
    ∃ tree, disk.writeFile path text world = (.ok (), { world with tree }) ∧
      world.tree.DifferAt (some path) tree ∧ tree.read path = .ok text := by
  obtain ⟨tree, written⟩ := taken
  have accepted := (write_eq_ok_iff.mp written).2
  refine ⟨tree, ?_, FileTree.write_differAt accepted, FileTree.write_read accepted⟩
  rw [writeFile, written]

theorem writeFile_refused (refused : ¬ disk.Takes world.tree path text) :
    ∃ cause, disk.writeFile path text world = (.error cause, world) := by
  unfold writeFile
  cases written : disk.write world.tree path text with
  | ok tree => exact absurd ⟨tree, written⟩ refused
  | error cause => exact ⟨cause, rfl⟩

/-- The feature's whole text is where it is wanted, and nothing else has changed. -/
structure Delivered (output : Option String) (text : String) (before after : World) : Prop where
  differ : before.tree.DifferAt output after.tree
  content : ∀ path ∈ output, after.tree.read path = .ok text
  printed : after.printed = before.printed ++ printout output text

theorem deliver_taken (taken : ∀ path ∈ output, disk.Takes before.tree path text) :
    ∃ after, disk.deliver output text before = (.ok (), after) ∧
      Delivered output text before after := by
  cases output with
  | none =>
    exact ⟨_, rfl, .refl none before.tree, by simp, rfl⟩
  | some path =>
    obtain ⟨tree, written, differ, content⟩ := writeFile_taken (taken path rfl)
    refine ⟨_, written, differ, ?_, String.append_empty.symm⟩
    rintro _ ⟨⟩
    exact content

theorem deliver_refused (refused : ¬ ∀ path ∈ output, disk.Takes before.tree path text) :
    ∃ cause, disk.deliver output text before = (.error cause, before) := by
  cases output with
  | none => exact absurd (by simp) refused
  | some path =>
    refine writeFile_refused fun taken => refused ?_
    rintro _ ⟨⟩
    exact taken

theorem read_eq_ok_iff : disk.read tree path = .ok text ↔
    disk.unreadable? path = none ∧ tree.read path = .ok text := by
  unfold read
  cases disk.unreadable? path <;> simp

theorem names_eq_ok_iff {provided : Std.ExtTreeMap String String} :
    disk.names tree font (some path) = .ok provided ↔
      ∃ text, disk.read tree path = .ok text ∧ disk.nameMap? text = some provided := by
  rw [names]
  cases disk.read tree path with
  | error cause => cases cause <;> simp
  | ok text => cases found : disk.nameMap? text <;> simp [found]

theorem order_eq_ok_iff : disk.order tree font nameMap = .ok text ↔
    ∃ provided names, disk.names tree font nameMap = .ok provided ∧
      font.finalNames disk.decompose font.glyphNames provided = .ok names ∧
      GlyphOrder.text font names.finals font.glyphNames = text := by
  rw [order]
  cases disk.names tree font nameMap with
  | error failure => simp
  | ok provided =>
    cases made : font.finalNames disk.decompose font.glyphNames provided <;> simp [made]

/-- The glyph order does not depend on files apart from the name map. -/
theorem order_of_differ (differ : tree.DifferAt output changed)
    (apart : ∀ file ∈ output, ∀ path ∈ nameMap, tree.Apart file path) :
    disk.order changed font nameMap = .ok text ↔ disk.order tree font nameMap = .ok text := by
  cases nameMap with
  | none => rw [order, order, names, names]
  | some path =>
    simp only [order_eq_ok_iff, names_eq_ok_iff, read_eq_ok_iff,
      differ.read fun file given => apart file given path rfl]

/-- Whether the glyph order can be made and written to the path. -/
def Orders (disk : Disk) (tree : FileTree) (font : Font) (nameMap : Option String) (path : String) :
    Prop :=
  ∃ text, disk.order tree font nameMap = .ok text ∧ disk.Takes tree path text

theorem orders_of_differ (differ : tree.DifferAt output changed)
    (apart : ∀ file ∈ output, ∀ path ∈ nameMap, tree.Apart file path) :
    disk.Orders changed font nameMap path ↔ disk.Orders tree font nameMap path := by
  simp only [Orders, order_of_differ differ apart, takes_of_same differ.toSameDirectories]

theorem finish_unordered
    (failed : ¬ ∀ path ∈ options.glyphOrder, disk.Orders world.tree font options.nameMap path) :
    ∃ failure, disk.finish options font world = (.error failure, world) := by
  rw [finish]
  cases given : options.glyphOrder with
  | none => simp [given] at failed
  | some path =>
    cases made : disk.order world.tree font options.nameMap with
    | error failure => exact ⟨failure, rfl⟩
    | ok text =>
      have refused : ¬ disk.Takes world.tree path text := by
        refine fun taken => failed ?_
        rw [given]
        rintro _ ⟨⟩
        exact ⟨text, made, taken⟩
      obtain ⟨cause, written⟩ := writeFile_refused refused
      exact ⟨.file cause, by dsimp only; rw [written]; rfl⟩

theorem finish_ordered
    (ordered : ∀ path ∈ options.glyphOrder, disk.Orders world.tree font options.nameMap path) :
    ∃ tree, disk.finish options font world = (.ok (), { world with tree }) ∧
      world.tree.DifferAt options.glyphOrder tree ∧
      ∀ path ∈ options.glyphOrder, ∀ text,
        disk.order world.tree font options.nameMap = .ok text → tree.read path = .ok text := by
  cases given : options.glyphOrder with
  | none => exact ⟨world.tree, by rw [finish, given], .refl none world.tree, by simp⟩
  | some path =>
    obtain ⟨text, made, taken⟩ := ordered path given
    obtain ⟨tree, written, differ, content⟩ := writeFile_taken taken
    refine ⟨tree, ?_, differ, ?_⟩
    · rw [finish, given, made]
      dsimp only
      rw [written]
      rfl
    · rintro _ ⟨⟩ other same
      rwa [← Except.ok.inj (made.symm.trans same)]

theorem finish_differs (disk : Disk) (options : Cli.Options) (font : Font) (world : World) :
    world.tree.DifferAt options.glyphOrder (disk.finish options font world).2.tree ∧
      (disk.finish options font world).2.printed = world.printed := by
  by_cases ordered : ∀ path ∈ options.glyphOrder, disk.Orders world.tree font options.nameMap path
  · obtain ⟨tree, finished, differ, -⟩ := finish_ordered ordered
    exact finished ▸ ⟨differ, rfl⟩
  · obtain ⟨failure, finished⟩ := finish_unordered ordered
    exact finished ▸ ⟨.refl options.glyphOrder world.tree, rfl⟩

/-! ### What a run leaves -/

theorem run_unmade {failure : Failure}
    (unmade : disk.feature before.tree options = .error failure) :
    disk.run options before = (.error failure, before) := by
  rw [run_eq, unmade]

theorem run_undelivered (made : disk.feature before.tree options = .ok (font, text))
    (refused : ¬ ∀ path ∈ options.output, disk.Takes before.tree path text) :
    ∃ cause, disk.run options before = (.error (.file cause), before) := by
  obtain ⟨cause, refused⟩ := deliver_refused refused
  exact ⟨cause, by rw [run_eq, made]; dsimp only; rw [refused]⟩

theorem run_delivered (made : disk.feature before.tree options = .ok (font, text))
    (taken : ∀ path ∈ options.output, disk.Takes before.tree path text) :
    ∃ middle, Delivered options.output text before middle ∧
      disk.run options before = disk.finish options font middle := by
  obtain ⟨middle, delivered, left⟩ := deliver_taken taken
  exact ⟨middle, left, by rw [run_eq, made]; dsimp only; rw [delivered]⟩

/-- A run changes the file of the feature and then that of the glyph order, or less. -/
theorem run_differs (disk : Disk) (options : Cli.Options) (before : World) :
    ∃ middle, before.tree.DifferAt options.output middle ∧
      middle.DifferAt options.glyphOrder (disk.run options before).2.tree := by
  cases made : disk.feature before.tree options with
  | error failure =>
    exact ⟨before.tree, .refl _ _, run_unmade made ▸ .refl options.glyphOrder before.tree⟩
  | ok result =>
    obtain ⟨font, text⟩ := result
    by_cases taken : ∀ path ∈ options.output, disk.Takes before.tree path text
    · obtain ⟨middle, delivered, run⟩ := run_delivered made taken
      exact ⟨middle.tree, delivered.differ, run ▸ (finish_differs disk options font middle).1⟩
    · obtain ⟨cause, run⟩ := run_undelivered made taken
      exact ⟨before.tree, .refl _ _, run ▸ .refl options.glyphOrder before.tree⟩

/-- Whether every step of a run can be taken. -/
def Completes (disk : Disk) (tree : FileTree) (options : Cli.Options) : Prop :=
  ∃ font text, disk.feature tree options = .ok (font, text) ∧
    (∀ path ∈ options.output, disk.Takes tree path text) ∧
    ∀ path ∈ options.glyphOrder, disk.Orders tree font options.nameMap path

theorem run_unordered (parted : options.Parted before.tree)
    (made : disk.feature before.tree options = .ok (font, text))
    (taken : ∀ path ∈ options.output, disk.Takes before.tree path text)
    (failed : ¬ ∀ path ∈ options.glyphOrder, disk.Orders before.tree font options.nameMap path) :
    ∃ middle failure, Delivered options.output text before middle ∧
      disk.run options before = (.error failure, middle) := by
  obtain ⟨middle, delivered, run⟩ := run_delivered made taken
  -- The feature is no part of what the glyph order comes from, so it fails after it as before it.
  simp only [← orders_of_differ delivered.differ parted.nameMap] at failed
  obtain ⟨failure, finished⟩ := finish_unordered failed
  exact ⟨middle, failure, delivered, run.trans finished⟩

theorem run_ordered (parted : options.Parted before.tree)
    (made : disk.feature before.tree options = .ok (font, text))
    (taken : ∀ path ∈ options.output, disk.Takes before.tree path text)
    (ordered : ∀ path ∈ options.glyphOrder, disk.Orders before.tree font options.nameMap path) :
    ∃ after, disk.run options before = (.ok (), after) ∧
      ∀ path ∈ options.glyphOrder, ∀ order,
        disk.order before.tree font options.nameMap = .ok order →
          after.tree.read path = .ok order := by
  obtain ⟨middle, delivered, run⟩ := run_delivered made taken
  obtain ⟨tree, finished, -, content⟩ := finish_ordered fun path given =>
    (orders_of_differ delivered.differ parted.nameMap).mpr (ordered path given)
  refine ⟨_, run.trans finished, fun path given order same => content path given order ?_⟩
  exact (order_of_differ delivered.differ parted.nameMap).mpr same

theorem run_success_iff (parted : options.Parted before.tree) :
    (disk.run options before).1 = .ok () ↔ disk.Completes before.tree options := by
  constructor
  · intro success
    cases made : disk.feature before.tree options with
    | error failure => rw [run_unmade made] at success; cases success
    | ok result =>
      obtain ⟨font, text⟩ := result
      have taken : ∀ path ∈ options.output, disk.Takes before.tree path text := by
        refine Classical.byContradiction fun refused => ?_
        obtain ⟨cause, run⟩ := run_undelivered made refused
        rw [run] at success
        cases success
      refine ⟨font, text, made, taken, Classical.byContradiction fun failed => ?_⟩
      obtain ⟨middle, failure, -, run⟩ := run_unordered parted made taken failed
      rw [run] at success
      cases success
  · rintro ⟨font, text, made, taken, ordered⟩
    obtain ⟨after, run, -⟩ := run_ordered parted made taken ordered
    rw [run]

/-- What stands of a run, whatever step it fails at. -/
structure Tidy (disk : Disk) (options : Cli.Options) (before : World)
    (outcome : Except Failure Unit) (after : World) : Prop where
  /-- Without a feature, nothing happens. -/
  unmade : ∀ failure, disk.feature before.tree options = .error failure →
    outcome = .error failure ∧ after = before
  /-- Nor does anything if the feature cannot be written. -/
  undelivered : ∀ font text, disk.feature before.tree options = .ok (font, text) →
    ∀ path ∈ options.output, ¬ disk.Takes before.tree path text →
      (∃ cause, outcome = .error (.file cause)) ∧ after = before
  /-- Else the whole feature is where it is wanted, whatever comes later. -/
  delivered : ∀ font text, disk.feature before.tree options = .ok (font, text) →
    (∀ path ∈ options.output, disk.Takes before.tree path text) →
      (∀ path ∈ options.output, after.tree.read path = .ok text) ∧
        after.printed = before.printed ++ printout options.output text
  /-- A glyph order that cannot be had or written leaves its file as it was. -/
  unordered : ∀ font text, disk.feature before.tree options = .ok (font, text) →
    ∀ path ∈ options.glyphOrder, ¬ disk.Orders before.tree font options.nameMap path →
      (∃ failure, outcome = .error failure) ∧ ∀ location,
        before.tree.locate path = .ok location →
          after.tree.node? location = before.tree.node? location
  success : outcome = .ok () ↔ disk.Completes before.tree options
  /-- After a success the whole glyph order is in its file. -/
  ordered : outcome = .ok () → ∀ font text, disk.feature before.tree options = .ok (font, text) →
    ∀ path ∈ options.glyphOrder, ∃ order, disk.order before.tree font options.nameMap = .ok order ∧
      after.tree.read path = .ok order
  /-- Every path means what it meant. -/
  paths : ∀ path location,
    after.tree.locate path = .ok location ↔ before.tree.locate path = .ok location
  /-- Files and directories other than these two files are as they were. -/
  elsewhere : ∀ location, (∀ path ∈ options.output, before.tree.locate path ≠ .ok location) →
    (∀ path ∈ options.glyphOrder, before.tree.locate path ≠ .ok location) →
      after.tree.node? location = before.tree.node? location

theorem run_tidy (disk : Disk) (options : Cli.Options) (before : World)
    (parted : options.Parted before.tree) :
    disk.Tidy options before (disk.run options before).1 (disk.run options before).2 where
  unmade failure unmade := by rw [run_unmade unmade]; exact ⟨rfl, rfl⟩
  undelivered font text made path given refused := by
    obtain ⟨cause, run⟩ := run_undelivered made fun taken => refused (taken path given)
    rw [run]
    exact ⟨⟨cause, rfl⟩, rfl⟩
  delivered font text made taken := by
    obtain ⟨middle, delivered, run⟩ := run_delivered made taken
    obtain ⟨differ, printed⟩ := finish_differs disk options font middle
    rw [run]
    refine ⟨fun path given => ?_, printed.trans delivered.printed⟩
    refine (differ.read fun file wanted => ?_).mpr (delivered.content path given)
    exact delivered.differ.apart (parted.glyphOrder path given file wanted).symm
  unordered font text made path given failed := by
    by_cases taken : ∀ path ∈ options.output, disk.Takes before.tree path text
    · obtain ⟨middle, failure, delivered, run⟩ :=
        run_unordered parted made taken fun ordered => failed (ordered path given)
      rw [run]
      refine ⟨⟨failure, rfl⟩, fun location found => delivered.differ.elsewhere location ?_⟩
      exact fun output wanted here => parted.glyphOrder output wanted path given location here found
    · obtain ⟨cause, run⟩ := run_undelivered made taken
      rw [run]
      exact ⟨⟨_, rfl⟩, fun _ _ => rfl⟩
  success := run_success_iff parted
  ordered success font text made path given := by
    obtain ⟨font', text', made', taken, ordered⟩ := (run_success_iff parted).mp success
    obtain ⟨rfl, rfl⟩ := Prod.mk.inj (Except.ok.inj (made.symm.trans made'))
    obtain ⟨after, run, content⟩ := run_ordered parted made taken ordered
    obtain ⟨order, same, -⟩ := ordered path given
    rw [run]
    exact ⟨order, same, content path given order same⟩
  paths path location := by
    obtain ⟨middle, first, second⟩ := run_differs disk options before
    exact second.locate.trans first.locate
  elsewhere location notOutput notOrder := by
    obtain ⟨middle, first, second⟩ := run_differs disk options before
    rw [second.elsewhere location fun path given here =>
      notOrder path given (first.locate.mp here), first.elsewhere location notOutput]

private def kerned : Font where
  glyphs := [{ name := "A", codepoints := [0x41] }]
  kerning := .ofList ([(⟨"A", "A"⟩, -10)] : List (Pair String String × Int))

private def readable : Disk where
  ufo _ _ := .ok kerned
  nameMap? := NameMap.ofText?
  decompose := Unicode.decompose

private def careless : Cli.Options :=
  { font := "A.ufo", output := some "kern.fea", glyphOrder := some "order.txt"
    nameMap := some "./names.json" }

private def used : World where
  tree := { nodes := .ofList [(["order.txt"], Node.file "A"), (["names.json"], .file "[]")] }

private def ruled : String := "feature kern \x7b\n\n    # glyph, glyph\n    pos A A -10;\n\x7d kern;"

/-- The name map holds no map. The feature is there all the same, and the glyph order of an earlier
run too. -/
theorem run_tidy_interrupted : careless.Parted used.tree ∧
    (∃ failure, (readable.run careless used).1 = .error failure) ∧
    (readable.run careless used).2.tree.read "kern.fea" = .ok ruled ∧
    (readable.run careless used).2.printed = "" ∧
    (readable.run careless used).2.tree.node? ["order.txt"] = some (.file "A") := by
  have parted : careless.Parted used.tree := ⟨by decide +kernel, by decide +kernel⟩
  have taken : ∀ path ∈ careless.output, readable.Takes used.tree path ruled := by decide +kernel
  have made : (readable.feature used.tree careless).toOption.map Prod.snd = some ruled := by
    decide +kernel
  have held : (readable.read used.tree "./names.json").toOption.map
      (fun text => (readable.nameMap? text).isNone) = some true := by
    decide +kernel
  have place : (used.tree.locate "order.txt").toOption.map id = some ["order.txt"] := by
    decide +kernel
  have old : used.tree.node? ["order.txt"] = some (.file "A") := by decide +kernel
  obtain ⟨⟨font, _⟩, made, rfl⟩ := exists_of_map_toOption made
  obtain ⟨map, read, unparsed⟩ := exists_of_map_toOption held
  obtain ⟨_, place, rfl⟩ := exists_of_map_toOption place
  have failed : ¬ readable.Orders used.tree font careless.nameMap "order.txt" := by
    rintro ⟨order, made, -⟩
    obtain ⟨provided, -, given, -⟩ := order_eq_ok_iff.mp made
    obtain ⟨map, again, parsed⟩ := names_eq_ok_iff.mp given
    obtain rfl := Except.ok.inj (read.symm.trans again)
    simp [parsed] at unparsed
  have tidy := run_tidy readable careless used parted
  obtain ⟨content, printed⟩ := tidy.delivered font ruled made taken
  obtain ⟨stopped, kept⟩ := tidy.unordered font ruled made "order.txt" rfl failed
  exact ⟨parted, stopped, content "kern.fea" rfl, printed, (kept _ place).trans old⟩

end Disk
end FontPrep
