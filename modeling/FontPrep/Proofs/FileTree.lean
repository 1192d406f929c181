import FontPrep.FileTree

namespace FontPrep.FileTree

/-- Trees with the same directories. -/
structure SameDirectories (before after : FileTree) : Prop where
  home : after.home = before.home
  directory : ∀ location,
    after.node? location = some .directory ↔ before.node? location = some .directory

/-- Trees that differ at most in the file that a path means, if there is a path. -/
structure DifferAt (path : Option String) (before after : FileTree) : Prop
    extends SameDirectories before after where
  elsewhere : ∀ location, (∀ file ∈ path, before.locate file ≠ .ok location) →
    after.node? location = before.node? location

/-- Paths that do not mean one location. -/
def Apart (tree : FileTree) (one other : String) : Prop :=
  ∀ location, tree.locate one = .ok location → tree.locate other ≠ .ok location

instance instDecidableApart (tree : FileTree) (one other : String) :
    Decidable (tree.Apart one other) :=
  decidable_of_iff
    (∀ location ∈ (tree.locate one).toOption, location ∉ (tree.locate other).toOption) <| by
      unfold Apart
      cases tree.locate one <;> cases tree.locate other <;> simp [Except.toOption]

variable {tree before after : FileTree} {path : Option String} {file text : String}
  {location : List String}

theorem follow_cons {start rest : List String} {name : String} :
    tree.follow start (name :: rest) = .ok location ↔
      tree.node? start = some .directory ∧ ¬ nameLimit < name.utf8ByteSize ∧
        tree.follow (step start name) rest = .ok location := by
  rw [follow]
  cases tree.node? start with
  | none => simp
  | some node =>
    cases node with
    | file text => simp
    | directory => by_cases long : nameLimit < name.utf8ByteSize <;> simp [long]

theorem SameDirectories.follow (same : before.SameDirectories after) {start names : List String} :
    after.follow start names = .ok location ↔ before.follow start names = .ok location := by
  induction names generalizing start with
  | nil => rfl
  | cons name rest ih => rw [follow_cons, follow_cons, same.directory, ih]

/-- Paths mean the same in trees with the same directories. Why a path means nothing may be another
reason, as a file may have come in its way. -/
theorem SameDirectories.locate (same : before.SameDirectories after) :
    after.locate file = .ok location ↔ before.locate file = .ok location := by
  simp only [FileTree.locate, followPath, same.home]
  split
  · rfl
  · split
    · rfl
    · split
      · rfl
      · exact same.follow

theorem read_eq_ok_iff :
    tree.read file = .ok text ↔ ∃ location, tree.locate file = .ok location ∧
      tree.node? location = some (.file text) ∧ Path.wantsDirectory file = false := by
  unfold read
  cases tree.locate file with
  | error cause => simp [bind, Except.bind]
  | ok location =>
    cases found : tree.node? location with
    | none => simp [bind, Except.bind, found]
    | some node =>
      cases node <;> cases Path.wantsDirectory file <;>
        simp [bind, Except.bind, pure, Except.pure, found]

theorem write_eq_ok_iff :
    before.write file text = .ok after ↔ ∃ location, before.locate file = .ok location ∧
      before.node? location ≠ some .directory ∧ Path.wantsDirectory file = false ∧
      { before with nodes := before.nodes.insert location (.file text) } = after := by
  unfold write
  cases Path.wantsDirectory file with
  | true =>
    cases before.followPath file ((Path.steps file).dropLast ++ ["."]) <;>
      simp [bind, Except.bind]
  | false =>
    cases before.locate file with
    | error cause => simp [bind, Except.bind]
    | ok location =>
      cases found : before.node? location with
      | none => simp [bind, Except.bind, pure, Except.pure, found]
      | some node => cases node <;> simp [bind, Except.bind, pure, Except.pure, found]

/-- The root stays a directory, whatever is put there. -/
theorem node?_insert {place : List String} (below : place ≠ []) :
    FileTree.node? { tree with nodes := tree.nodes.insert place (.file text) } location =
      if place = location then some (.file text) else tree.node? location := by
  cases location with
  | nil => simp [node?, below]
  | cons name rest => simp [node?, Std.ExtTreeMap.getElem?_insert]

theorem ne_nil_of_node? (absent : tree.node? location ≠ some .directory) : location ≠ [] := by
  rintro rfl
  exact absent rfl

theorem write_differAt (written : before.write file text = .ok after) :
    before.DifferAt (some file) after := by
  obtain ⟨place, found, absent, plain, rfl⟩ := write_eq_ok_iff.mp written
  have below := ne_nil_of_node? absent
  refine ⟨⟨rfl, fun location => ?_⟩, fun location other => ?_⟩
  · rw [node?_insert below]
    split
    · next here => subst here; simp [absent]
    · rfl
  · have away : place ≠ location := fun here => other file rfl (here ▸ found)
    rw [node?_insert below, if_neg away]

theorem write_read (written : before.write file text = .ok after) :
    after.read file = .ok text := by
  have same := (write_differAt written).toSameDirectories
  obtain ⟨place, found, absent, plain, rfl⟩ := write_eq_ok_iff.mp written
  refine read_eq_ok_iff.mpr ⟨place, same.locate.mpr found, ?_, plain⟩
  rw [node?_insert (ne_nil_of_node? absent), if_pos rfl]

/-- Whether a file can be written is a matter of the directories, and not of its text. -/
theorem exists_write_iff :
    (∃ after, before.write file text = .ok after) ↔ ∃ location, before.locate file = .ok location ∧
      before.node? location ≠ some .directory ∧ Path.wantsDirectory file = false := by
  simp only [write_eq_ok_iff]
  constructor
  · rintro ⟨_, location, found, absent, plain, -⟩
    exact ⟨location, found, absent, plain⟩
  · rintro ⟨location, found, absent, plain⟩
    exact ⟨_, location, found, absent, plain, rfl⟩

theorem SameDirectories.exists_write (same : before.SameDirectories after) :
    (∃ changed, after.write file text = .ok changed) ↔
      ∃ changed, before.write file text = .ok changed := by
  simp only [exists_write_iff, same.locate, ne_eq, same.directory]

theorem SameDirectories.refl (tree : FileTree) : tree.SameDirectories tree :=
  ⟨rfl, fun _ => Iff.rfl⟩

theorem DifferAt.refl (path : Option String) (tree : FileTree) : DifferAt path tree tree :=
  ⟨.refl tree, fun _ _ => rfl⟩

theorem SameDirectories.apart {one two : String} (same : before.SameDirectories after)
    (apart : before.Apart one two) : after.Apart one two := fun location found here =>
  apart location (same.locate.mp found) (same.locate.mp here)

theorem Apart.symm {one two : String} (apart : tree.Apart one two) : tree.Apart two one :=
  fun location found here => apart location here found

theorem DifferAt.read (differ : DifferAt path before after)
    (apart : ∀ changed ∈ path, before.Apart changed file) :
    after.read file = .ok text ↔ before.read file = .ok text := by
  simp only [read_eq_ok_iff, differ.locate]
  refine exists_congr fun location => and_congr_right fun found => ?_
  rw [differ.elsewhere location fun changed given here => apart changed given location here found]

end FontPrep.FileTree
