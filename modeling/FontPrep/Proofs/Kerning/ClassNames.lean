import FontPrep.Kerning.Feature
import FontPrep.Proofs.Kerning.Collection
import FontPrep.Proofs.Name.Identifier
import FontPrep.Proofs.Runs

namespace FontPrep

/-- A class name of the given side: its lead, then word characters, in 31 characters at most. -/
def Side.IsClassName (side : Side) (name : String) : Prop :=
  ∃ rest, name = side.classLead ++ rest ∧ rest ≠ "" ∧ name.length ≤ 31 ∧
    ∀ c ∈ rest.toList, Name.IsWordChar c

theorem Side.IsClassName.starts {side : Side} {name : String} (named : side.IsClassName name) :
    side.classLead.toList <+: name.toList := by
  obtain ⟨rest, rfl, _⟩ := named
  rw [String.toList_append]
  exact List.prefix_append _ _

theorem Side.isClassName_unique {side other : Side} {name : String} (named : side.IsClassName name)
    (namedToo : other.IsClassName name) : side = other :=
  eq_of_leads (by decide) (by decide) named.starts namedToo.starts

namespace ClassNames

variable {taken : NameSet} {side : Side} {group name : String}
variable {state next : ClassNames} {item : Side × String} {done : List (Side × String)}

theorem isClassName_of_choose (found : choose taken side group = .ok name) :
    side.IsClassName name := by
  have fits : side.classLead.length + 5 ≤ Name.maxLength := by cases side <;> decide
  obtain ⟨rest, spelled, filled, short, word⟩ := Name.legalize_isNameChar fits found
  exact ⟨rest, spelled, filled, short, fun c member => Name.isNameChar_iff.mp (word c member)⟩

theorem not_mem_of_choose (found : choose taken side group = .ok name) : name ∉ taken :=
  Name.not_mem_of_unique found

theorem choose_of_assign (assigned : assign state item = .ok next) :
    ∃ name, choose state.taken item.1 item.2 = .ok name ∧
      next = { names := state.names.insert item.2 name, taken := state.taken.insert name } := by
  unfold assign at assigned
  split at assigned
  · rename_i name found
    cases assigned
    exact ⟨name, found, rfl⟩
  · cases assigned

/-- Exactly the groups asked for have a name, each one of its side, none of them twice. -/
structure Valid (done : List (Side × String)) (state : ClassNames) : Prop where
  given : ∀ item ∈ done, ∃ name, state.names[item.2]? = some name ∧ item.1.IsClassName name
  asked : ∀ group ∈ state.names, ∃ side, (side, group) ∈ done
  taken : ∀ ⦃group name : String⦄, state.names[group]? = some name → name ∈ state.taken
  injective : ∀ ⦃group other name : String⦄, state.names[group]? = some name →
    state.names[other]? = some name → group = other

theorem valid_empty : Valid [] {} where
  given _ member := by cases member
  asked group member := by simp at member
  taken group name found := by simp at found
  injective group other name found := by simp at found

theorem Valid.assign (valid : Valid done state) (assigned : state.assign item = .ok next)
    (new : item.2 ∉ done.map Prod.snd) : Valid (done ++ [item]) next := by
  obtain ⟨name, found, rfl⟩ := choose_of_assign assigned
  have fresh := not_mem_of_choose found
  have look (group : String) : (state.names.insert item.2 name)[group]? =
      if item.2 = group then some name else state.names[group]? := by
    rw [Std.ExtTreeMap.getElem?_insert]
    simp only [Std.LawfulEqOrd.compare_eq_iff_eq]
  constructor
  · intro asked member
    rw [look]
    rcases List.mem_append.mp member with old | last
    · have other : item.2 ≠ asked.2 := fun same => new (List.mem_map.mpr ⟨asked, old, same.symm⟩)
      rw [if_neg other]
      exact valid.given asked old
    · obtain rfl := List.mem_singleton.mp last
      exact ⟨name, if_pos rfl, isClassName_of_choose found⟩
  · intro group member
    rw [Std.ExtTreeMap.mem_insert, Std.LawfulEqOrd.compare_eq_iff_eq] at member
    rcases member with rfl | old
    · exact ⟨item.1, by simp⟩
    · obtain ⟨side, present⟩ := valid.asked group old
      exact ⟨side, List.mem_append_left _ present⟩
  · intro group given found
    rw [look] at found
    rw [Std.ExtTreeSet.mem_insert, Std.LawfulEqOrd.compare_eq_iff_eq]
    split at found
    · exact .inl (Option.some.inj found)
    · exact .inr (valid.taken found)
  · intro group other given found foundOther
    rw [look] at found foundOther
    -- A name given before is taken, and the new one is not.
    split at found <;> split at foundOther
    · simp_all
    · cases found
      exact absurd (valid.taken foundOther) fresh
    · cases foundOther
      exact absurd (valid.taken found) fresh
    · exact valid.injective found foundOther

theorem valid_ofGroups {groups : Pair Groups Groups} (named : ofGroups groups = .ok state)
    (distinct : ((queue groups).map Prod.snd).Nodup) : Valid (queue groups) state := by
  refine foldlM_keeps (fun done state => (done.map Prod.snd).Nodup → Valid done state) ?_
    (fun _ => valid_empty) named distinct
  intro done item state next valid assigned distinct
  rw [List.map_append, List.map_singleton, List.nodup_append] at distinct
  obtain ⟨before, _, apart⟩ := distinct
  have new : item.2 ∉ done.map Prod.snd :=
    fun member => apart _ member _ (List.mem_singleton_self _) rfl
  exact (valid before).assign assigned new

end ClassNames

namespace Font

variable {font : Font} {side : Side} {group : String}

theorem mem_queue_sideGroups :
    (side, group) ∈ ClassNames.queue font.sideGroups ↔ group ∈ font.kerningGroups side := by
  cases side <;> simp [ClassNames.queue, sideGroups_eq]

/-- A group stands on one side only, so no group is named twice. -/
theorem nodup_queue_sideGroups (font : Font) :
    ((ClassNames.queue font.sideGroups).map Prod.snd).Nodup := by
  have once (groups : Groups) : groups.keys.Nodup := groups.nodup_keys
  simp only [ClassNames.queue, sideGroups_eq, List.map_append, List.map_map, Function.comp_def,
    List.map_id']
  refine List.nodup_append.mpr ⟨once _, once _, ?_⟩
  rintro group first other second rfl
  have ownsFirst := (mem_kerningGroups.mp (Std.ExtTreeMap.mem_keys.mp first)).1
  have ownsSecond := (mem_kerningGroups.mp (Std.ExtTreeMap.mem_keys.mp second)).1
  cases Side.owns_unique ownsFirst ownsSecond

end Font

namespace KernFeature

variable {feature : KernFeature} {font : Font} {side : Side} {group other name : String}

theorem valid_classNames (built : ofFont font = .ok feature) : ∃ state,
    ClassNames.Valid (ClassNames.queue font.sideGroups) state ∧ feature = {
      classNames := state.names
      groups := font.sideGroups.map (Groups.rename state.names)
      pairs := (font.pairs font.sideGroups).rename state.names } := by
  unfold ofFont at built
  cases named : ClassNames.ofGroups font.sideGroups with
  | error stuck => simp [named, bind, Except.bind] at built
  | ok state =>
    simp only [named, bind, Except.bind, pure, Except.pure, Except.ok.injEq] at built
    exact ⟨state, ClassNames.valid_ofGroups named font.nodup_queue_sideGroups, built.symm⟩

theorem get_groups (built : ofFont font = .ok feature) :
    feature.groups.get side = Groups.rename feature.classNames (font.kerningGroups side) := by
  obtain ⟨state, _, rfl⟩ := valid_classNames built
  cases side <;> rfl

theorem pairs_eq (built : ofFont font = .ok feature) :
    feature.pairs = (font.pairs font.sideGroups).rename feature.classNames := by
  obtain ⟨state, _, rfl⟩ := valid_classNames built
  rfl

theorem exists_className (built : ofFont font = .ok feature)
    (retained : group ∈ font.kerningGroups side) :
    ∃ name, feature.classNames[group]? = some name ∧ side.IsClassName name := by
  obtain ⟨state, valid, rfl⟩ := valid_classNames built
  exact valid.given _ (Font.mem_queue_sideGroups.mpr retained)

theorem retained_of_className (built : ofFont font = .ok feature)
    (named : group ∈ feature.classNames) : ∃ side, group ∈ font.kerningGroups side := by
  obtain ⟨state, valid, rfl⟩ := valid_classNames built
  obtain ⟨side, queued⟩ := valid.asked group named
  exact ⟨side, Font.mem_queue_sideGroups.mp queued⟩

theorem className_injective (built : ofFont font = .ok feature)
    (found : feature.classNames[group]? = some name)
    (foundOther : feature.classNames[other]? = some name) : group = other := by
  obtain ⟨state, valid, rfl⟩ := valid_classNames built
  exact valid.injective found foundOther

/-- Retained groups of either side get one class name only if they are one group. -/
theorem eq_of_getD_classNames (built : ofFont font = .ok feature) {side side' : Side}
    (retained : group ∈ font.kerningGroups side) (retainedOther : other ∈ font.kerningGroups side')
    (same : feature.classNames.getD group group = feature.classNames.getD other other) :
    group = other := by
  obtain ⟨name, found, _⟩ := exists_className built retained
  obtain ⟨name', foundOther, _⟩ := exists_className built retainedOther
  rw [Std.ExtTreeMap.getD_eq_getD_getElem?, Std.ExtTreeMap.getD_eq_getD_getElem?, found,
    foundOther] at same
  obtain rfl : name = name' := same
  exact className_injective built found foundOther

theorem apart_groups (built : ofFont font = .ok feature) :
    (font.kerningGroups side).Apart feature.classNames :=
  fun _ _ retained retainedOther same => eq_of_getD_classNames built retained retainedOther same

/-- The class of a retained group has what the group has. -/
theorem getElem?_groups (built : ofFont font = .ok feature) {kept : List String} :
    (feature.groups.get side)[name]? = some kept ↔
      ∃ group : String, (font.kerningGroups side)[group]? = some kept ∧
        feature.classNames[group]? = some name := by
  rw [get_groups built, Groups.getElem?_rename (apart_groups built)]
  refine exists_congr fun group => and_congr_right
    fun (found : (font.kerningGroups side)[group]? = some kept) => ?_
  obtain ⟨given, named, _⟩ := exists_className built (Rows.mem_of_found found)
  simp [Std.ExtTreeMap.getD_eq_getD_getElem?, named]

theorem mem_groups (built : ofFont font = .ok feature) : name ∈ feature.groups.get side ↔
    ∃ group ∈ font.kerningGroups side, feature.classNames[group]? = some name := by
  simp only [Std.ExtTreeMap.mem_iff_isSome_getElem?, Option.isSome_iff_exists,
    getElem?_groups built]
  constructor
  · intro member
    obtain ⟨kept, group, found, named⟩ := member
    exact ⟨group, ⟨kept, found⟩, named⟩
  · intro holds
    obtain ⟨group, ⟨kept, found⟩, named⟩ := holds
    exact ⟨kept, group, found, named⟩

/-- The kerning groups of the font under class names, none of them lost and no two confused. The
glyphs of a class come in the order in which the group first has them. -/
structure Classifies (feature : KernFeature) (font : Font) : Prop where
  named : ∀ group, group ∈ feature.classNames ↔ ∃ side : Side, side.owns group = true ∧
    ∃ members, font.groups[group]? = some members ∧ ∃ glyph ∈ members, glyph ∈ font.glyphNames
  injective : ∀ ⦃group other name : String⦄, feature.classNames[group]? = some name →
    feature.classNames[other]? = some name → group = other
  shape : ∀ ⦃side : Side⦄ ⦃group name : String⦄, side.owns group = true →
    feature.classNames[group]? = some name → side.IsClassName name
  members : ∀ ⦃side : Side⦄ ⦃group name : String⦄ ⦃members : List String⦄,
    side.owns group = true → feature.classNames[group]? = some name →
    font.groups[group]? = some members → ∃ kept, (feature.groups.get side)[name]? = some kept ∧
      (∀ glyph, glyph ∈ kept ↔ glyph ∈ members ∧ glyph ∈ font.glyphNames) ∧
      kept.Pairwise fun one two => members.idxOf one < members.idxOf two
  classes : ∀ ⦃side : Side⦄ ⦃name : String⦄, name ∈ feature.groups.get side →
    ∃ group, side.owns group = true ∧ feature.classNames[group]? = some name

/-- A group with a class name was retained, and on the side that owns it. -/
theorem mem_kerningGroups_of_className (built : ofFont font = .ok feature)
    (owns : side.owns group = true) (found : feature.classNames[group]? = some name) :
    group ∈ font.kerningGroups side := by
  obtain ⟨other, retained⟩ := retained_of_className built (Rows.mem_of_found found)
  rwa [Side.owns_unique owns (Font.mem_kerningGroups.mp retained).1]

theorem classifies_ofFont (built : ofFont font = .ok feature) : feature.Classifies font := by
  constructor
  · intro group
    simp only [← Font.mem_kerningGroups]
    constructor
    · exact retained_of_className built
    · intro retained
      obtain ⟨side, retained⟩ := retained
      obtain ⟨name, found, _⟩ := exists_className built retained
      exact Rows.mem_of_found found
  · intro group other name found foundOther
    exact className_injective built found foundOther
  · intro side group name owns found
    obtain ⟨given, named, shaped⟩ :=
      exists_className built (mem_kerningGroups_of_className built owns found)
    rwa [Option.some.inj (found.symm.trans named)]
  · intro side group name members owns found listed
    have retained := mem_kerningGroups_of_className built owns found
    rw [Std.ExtTreeMap.mem_iff_isSome_getElem?, Option.isSome_iff_exists] at retained
    obtain ⟨kept, present⟩ := retained
    obtain ⟨_, again, listedAgain, same, _⟩ := Font.getElem?_kerningGroups.mp present
    obtain rfl := Option.some.inj (listed.symm.trans listedAgain)
    refine ⟨kept, (getElem?_groups built).mpr ⟨group, present, found⟩, fun glyph => ?_, ?_⟩
    · rw [same, Groups.mem_present, Font.mem_nameSet]
    · rw [same]
      exact Groups.present_ordered _ _
  · intro side name member
    obtain ⟨group, retained, found⟩ := (mem_groups built).mp member
    exact ⟨group, (Font.mem_kerningGroups.mp retained).1, found⟩

private def lookalikes : Font where
  glyphs := [{ name := "A" }, { name := "B" }]
  groups := .ofList [("public.kern1.a b", ["B", "A", "B", "C"]), ("public.kern1.a-b", ["A"]),
    ("public.kern2.a b", ["A"]), ("public.kern2.lost", ["C"])]

/-- Two groups of one side whose names differ only in what a class name cannot have. -/
theorem classifies_lookalikes :
    ∃ feature, ofFont lookalikes = .ok feature ∧ feature.Classifies lookalikes := by
  cases built : ofFont lookalikes with
  | error stuck =>
    have fits : (ofFont lookalikes).isOk = true := by decide +kernel
    rw [built] at fits
    cases fits
  | ok feature => exact ⟨feature, rfl, classifies_ofFont built⟩

end KernFeature
end FontPrep
