import FontPrep.Proofs.Kerning.Lookup
import FontPrep.Proofs.Kerning.Owners

namespace FontPrep

theorem bracketed_eq (members : List String) :
    bracketed members = "[" ++ " ".intercalate (members.mergeSort (· ≤ ·)) ++ "]" := by
  have order (a b : String) : (compare a b).isLE = decide (a ≤ b) := by
    rw [Bool.eq_iff_iff, decide_eq_true_iff, Ordering.isLE_iff_ne_gt, ← compare_le_iff_le]
  simp only [bracketed, order]

theorem bracketed_of_ascending {members : List String} (ascending : members.Pairwise (· < ·)) :
    bracketed members = "[" ++ " ".intercalate members ++ "]" := by
  rw [bracketed_eq, List.mergeSort_eq_self (· ≤ ·) (ascending.imp le_of_lt)]

/-- The order of the names is not written. -/
theorem bracketed_of_perm {members others : List String} (same : members.Perm others) :
    bracketed members = bracketed others := by
  have sorted := (List.mergeSort_perm members (· ≤ ·)).trans
    (same.trans (List.mergeSort_perm others (· ≤ ·)).symm)
  rw [bracketed_eq, bracketed_eq, sorted.eq_of_pairwise' (List.pairwise_mergeSort' (· ≤ ·) members)
    (List.pairwise_mergeSort' (· ≤ ·) others)]

theorem Pair.getElem?_classes {groups : Pair Groups Groups} {name : String} :
    groups.classes[name]? = (groups.second[name]?).or (groups.first[name]?) := by
  unfold Pair.classes
  cases found : groups.second[name]? with
  | some members =>
    have entry := Std.ExtTreeMap.mem_toList_iff_getElem?_eq_some.mpr found
    rw [Std.ExtTreeMap.getElem?_insertMany_list_of_mem Std.ReflOrd.compare_self
      Std.ExtTreeMap.distinct_keys_toList entry, Option.some_or]
  | none =>
    have absent : (groups.second.toList.map Prod.fst).contains name = false := by
      simpa using found
    rw [Std.ExtTreeMap.getElem?_insertMany_list_of_contains_eq_false absent, Option.none_or]

theorem Pair.exists_side_of_classes {groups : Pair Groups Groups} {name : String}
    {members : List String} (found : groups.classes[name]? = some members) :
    ∃ side, (groups.get side)[name]? = some members := by
  rw [getElem?_classes, Option.or_eq_some_iff] at found
  rcases found with second | ⟨_, first⟩
  · exact ⟨.second, second⟩
  · exact ⟨.first, first⟩

namespace KernFeature

variable {feature : KernFeature} {font : Font} {side : Side} {name glyph : String}

theorem isClassName_of_mem (built : ofFont font = .ok feature)
    (member : name ∈ feature.groups.get side) : side.IsClassName name := by
  obtain ⟨group, retained, found⟩ := (mem_groups built).mp member
  obtain ⟨given, named, shaped⟩ := exists_className built retained
  rwa [Option.some.inj (found.symm.trans named)]

theorem getElem?_groups_of_other (built : ofFont font = .ok feature) {other : Side}
    (named : side.IsClassName name) (differs : side ≠ other) :
    (feature.groups.get other)[name]? = none := by
  apply Std.ExtTreeMap.getElem?_eq_none
  intro member
  exact differs (Side.isClassName_unique named (isClassName_of_mem built member))

/-- A class is defined with the members that it has on its own side. -/
theorem getElem?_classes (built : ofFont font = .ok feature) (named : side.IsClassName name) :
    feature.groups.classes[name]? = (feature.groups.get side)[name]? := by
  rw [Pair.getElem?_classes]
  cases side with
  | first =>
    have differs : Side.first ≠ .second := by decide
    have absent : feature.groups.second[name]? = none :=
      getElem?_groups_of_other built named differs
    rw [absent, Option.none_or]
    rfl
  | second =>
    have differs : Side.second ≠ .first := by decide
    have absent : feature.groups.first[name]? = none :=
      getElem?_groups_of_other built named differs
    rw [absent, Option.or_none]
    rfl

/-- The class definitions that are written; without kerning nothing is. -/
def definitions (feature : KernFeature) : List (String × List String) :=
  if feature.pairs.isEmpty then [] else feature.groups.classes.toList

theorem mem_definitions (built : ofFont font = .ok feature) (named : side.IsClassName name)
    {members : List String} : (name, members) ∈ feature.definitions ↔
      feature.pairs.isEmpty = false ∧ (feature.groups.get side)[name]? = some members := by
  unfold definitions
  split <;> rename_i empty
  · simp [empty]
  · rw [Std.ExtTreeMap.mem_toList_iff_getElem?_eq_some, getElem?_classes built named]
    simp [empty]

/-- Whether each glyph is in no class definition of a side but that of its owner. -/
def KeepsOwners (feature : KernFeature) : Prop :=
  ∀ (side : Side) (name : String) (members : List String), side.IsClassName name →
    (name, members) ∈ feature.definitions → ∀ glyph ∈ members,
      (feature.owners.get side)[glyph]? = some name

theorem lists_groups (built : ofFont font = .ok feature) :
    (feature.groups.get side).Lists name glyph ↔ ∃ group,
      (font.kerningGroups side).Lists group glyph ∧ feature.classNames[group]? = some name := by
  simp only [Groups.lists_iff, getElem?_groups built]
  constructor
  · intro listed
    obtain ⟨members, ⟨group, found, named⟩, member⟩ := listed
    exact ⟨group, ⟨members, found, member⟩, named⟩
  · intro listed
    obtain ⟨group, ⟨members, found, member⟩, named⟩ := listed
    exact ⟨members, ⟨group, found, named⟩, member⟩

theorem mem_glyphNames_of_lists (built : ofFont font = .ok feature)
    (lists : (feature.groups.get side).Lists name glyph) : glyph ∈ font.glyphNames := by
  obtain ⟨group, listed, _⟩ := (lists_groups built).mp lists
  exact (Font.lists_kerningGroups.mp listed).2.1

theorem disjoint_groups_iff (built : ofFont font = .ok feature) :
    (feature.groups.get side).Disjoint ↔ (font.kerningGroups side).Disjoint := by
  constructor
  · intro disjoint glyph group other listed listedOther
    obtain ⟨members, found, _⟩ := Groups.lists_iff.mp listed
    obtain ⟨others, foundOther, _⟩ := Groups.lists_iff.mp listedOther
    obtain ⟨name, named, _⟩ := exists_className built (Rows.mem_of_found found)
    obtain ⟨again, namedOther, _⟩ := exists_className built (Rows.mem_of_found foundOther)
    obtain rfl := disjoint ((lists_groups built).mpr ⟨group, listed, named⟩)
      ((lists_groups built).mpr ⟨other, listedOther, namedOther⟩)
    exact className_injective built named namedOther
  · intro disjoint
    rw [get_groups built]
    exact Groups.disjoint_rename (apart_groups built) disjoint

/-- Owners alone decide who is in a class exactly if there is nothing to decide: no glyph of the
font is in two kerning groups of a side, or nothing is written. -/
theorem keepsOwners_iff (built : ofFont font = .ok feature) :
    feature.KeepsOwners ↔ feature.pairs.isEmpty = true ∨ font.GroupsApart := by
  have owner (side : Side) : feature.owners.get side = Owners.ofGroups (feature.groups.get side) :=
    Pair.get_map ..
  rw [Font.groupsApart_iff]
  simp only [KeepsOwners, owner, Owners.getElem?_ofGroups_eq_some_iff, ← disjoint_groups_iff built]
  cases empty : feature.pairs.isEmpty with
  | true => simp [definitions, empty]
  | false =>
    simp only [Bool.false_eq_true, false_or]
    constructor
    · intro kept side glyph name other lists listsOther
      have smallest {name : String} (lists : (feature.groups.get side).Lists name glyph) :
          ∀ other, (feature.groups.get side).Lists other glyph → name ≤ other := by
        obtain ⟨members, found, member⟩ := Groups.lists_iff.mp lists
        have named := isClassName_of_mem built (Rows.mem_of_found found)
        have written := (mem_definitions built named).mpr ⟨empty, found⟩
        exact (kept side name members named written glyph member).2
      exact le_antisymm (smallest lists other listsOther) (smallest listsOther name lists)
    · intro disjoint side name members named written glyph member
      have lists : (feature.groups.get side).Lists name glyph :=
        Groups.lists_iff.mpr ⟨members, ((mem_definitions built named).mp written).2, member⟩
      exact ⟨lists, fun other listsOther => le_of_eq (disjoint side lists listsOther)⟩

private def doubled : Font where
  glyphs := [{ name := "A" }, { name := "B" }, { name := "X" }]
  groups := .ofList [("public.kern1.second", ["A", "B"]), ("public.kern1.first", ["A"])]
  kerning := .ofList ([(⟨"public.kern1.second", "X"⟩, -10)] : List (Pair String String × Int))

private theorem built_doubled : ∃ feature, ofFont doubled = .ok feature ∧
    feature.pairs.isEmpty = false ∧ feature.owners.first["A"]? = some "@kern1.first" ∧
    feature.groups.classes.toList = [("@kern1.first", ["A"]), ("@kern1.second", ["A", "B"])] ∧
    feature.separation.lines = ["", "# group, glyph", "pos @kern1.second X -10;"] := by
  have shown : (ofFont doubled).toOption.map (fun feature =>
      ((feature.pairs.isEmpty, feature.owners.first["A"]?),
        (feature.groups.classes.toList, feature.separation.lines))) =
    some ((false, some "@kern1.first"),
      ([("@kern1.first", ["A"]), ("@kern1.second", ["A", "B"])],
        ["", "# group, glyph", "pos @kern1.second X -10;"])) := by decide +kernel
  obtain ⟨feature, built, seen⟩ := exists_of_map_toOption shown
  simp only [Prod.mk.injEq] at seen
  obtain ⟨⟨kerned, owned⟩, classes, rules⟩ := seen
  exact ⟨feature, built, kerned, owned, classes, rules⟩

theorem not_keepsOwners_doubled :
    ∃ feature, ofFont doubled = .ok feature ∧ ¬ feature.KeepsOwners := by
  obtain ⟨feature, built, kerned, _⟩ := built_doubled
  refine ⟨feature, built, fun kept => ?_⟩
  rcases (keepsOwners_iff built).mp kept with empty | apart
  · cases empty.symm.trans kerned
  · exact absurd apart (by decide +kernel)

/-- A glyph owned by one class is written in the definition of another too. -/
theorem text_doubled : ∃ feature, ofFont doubled = .ok feature ∧
    feature.owners.first["A"]? = some "@kern1.first" ∧
    feature.text none = "\n".intercalate ["feature kern \x7b", "    @kern1.first = [A];",
      "    @kern1.second = [A B];", "", "    # group, glyph", "    pos @kern1.second X -10;",
      "\x7d kern;"] := by
  obtain ⟨feature, built, kerned, owned, classes, rules⟩ := built_doubled
  refine ⟨feature, built, owned, ?_⟩
  have alone : bracketed ["A"] = _ := bracketed_of_ascending (by decide)
  have both : bracketed ["A", "B"] = _ := bracketed_of_ascending (by decide)
  simp only [text, kerned, Bool.false_eq_true, if_false, body, Pair.classLines, classes, rules,
    List.map_cons, List.map_nil, alone, both]
  decide +kernel

end KernFeature
end FontPrep
