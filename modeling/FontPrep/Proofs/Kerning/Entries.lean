import FontPrep.Proofs.Kerning.Lookup

namespace FontPrep

namespace KernFeature

variable {feature : KernFeature} {font : Font} {side : Side} {name other : String} {key : Key}
variable {entry again : Pair String String} {pair : Pair Key Key} {value : Int}

/-- What a name stands for on one side: the class of a retained group of that side before a glyph,
and nothing if it only looks like the name of such a group. -/
def key? (feature : KernFeature) (font : Font) (side : Side) (name : String) : Option Key :=
  if font.Retains side name then (feature.classNames[name]?).map Key.group
  else if side.owns name then none
  else if name ∈ font.glyphNames then some (.glyph name)
  else none

def Stands (feature : KernFeature) (font : Font) (entry : Pair String String)
    (pair : Pair Key Key) : Prop :=
  ∀ side, feature.key? font side (entry.get side) = some (pair.get side)

theorem key?_of_retains (built : ofFont font = .ok feature) (retained : font.Retains side name) :
    ∃ className, feature.classNames[name]? = some className ∧
      feature.key? font side name = some (.group className) := by
  obtain ⟨className, found, _⟩ :=
    exists_className built (Font.mem_kerningGroups_iff_retains.mpr retained)
  exact ⟨className, found, by rw [key?, if_pos retained, found, Option.map_some]⟩

/-- What a name stands for is what it means under class names. -/
theorem key?_eq_some_iff (built : ofFont font = .ok feature) :
    feature.key? font side name = some key ↔
      ∃ source, Key.resolve side (font.kerningGroups side) font.nameSet name = .ok source ∧
        source.rename feature.classNames = key := by
  simp only [Key.resolve_eq_ok_iff, Font.mem_kerningGroups_iff_retains, Font.mem_nameSet]
  by_cases retained : font.Retains side name
  · obtain ⟨className, found, stands⟩ := key?_of_retains built retained
    simp [stands, retained, Key.rename, Std.ExtTreeMap.getD_eq_getD_getElem?, found]
  · rw [key?, if_neg retained]
    cases owns : side.owns name
    · by_cases named : name ∈ font.glyphNames <;> simp [retained, named, Key.rename]
    · simp [retained]

theorem eq_of_key? (built : ofFont font = .ok feature)
    (stands : feature.key? font side name = some key)
    (standsToo : feature.key? font side other = some key) : name = other := by
  obtain ⟨source, resolved, renamed⟩ := (key?_eq_some_iff built).mp stands
  obtain ⟨sourceToo, resolvedToo, renamedToo⟩ := (key?_eq_some_iff built).mp standsToo
  have same := eq_of_rename built resolved resolvedToo (renamed.trans renamedToo.symm)
  rw [← Key.name_of_resolve resolved, ← Key.name_of_resolve resolvedToo, same]

theorem Stands.entry_unique (built : ofFont font = .ok feature)
    (stands : feature.Stands font entry pair) (standsToo : feature.Stands font again pair) :
    entry = again := by
  obtain ⟨first, second⟩ := entry
  obtain ⟨firstToo, secondToo⟩ := again
  have one : first = firstToo := eq_of_key? built (stands .first) (standsToo .first)
  have two : second = secondToo := eq_of_key? built (stands .second) (standsToo .second)
  rw [one, two]

/-- The pairs of a feature are what the entries of the font stand for. -/
theorem getElem?_pairs_iff (built : ofFont font = .ok feature) :
    feature.pairs[pair]? = some value ↔
      ∃ entry, font.kerning[entry]? = some value ∧ feature.Stands font entry pair := by
  rw [pairs_eq built, Pairs.getElem?_rename (apart_pairs built)]
  simp only [Font.getElem?_pairs, Pairs.resolve_eq_ok_iff, Stands, Side.forall_iff,
    key?_eq_some_iff built]
  constructor
  · intro kept
    obtain ⟨source, ⟨entry, found, first, second⟩, rfl⟩ := kept
    exact ⟨entry, found, ⟨source.first, first, rfl⟩, source.second, second, rfl⟩
  · intro stands
    obtain ⟨entry, found, ⟨one, first, same⟩, two, second, sameToo⟩ := stands
    refine ⟨⟨one, two⟩, ⟨entry, found, first, second⟩, ?_⟩
    obtain ⟨left, right⟩ := pair
    exact congrArg₂ Pair.mk same sameToo

theorem exists_key?_of_mem_pairs (built : ofFont font = .ok feature) (member : pair ∈ feature.pairs)
    (side : Side) : ∃ name, feature.key? font side name = some (pair.get side) := by
  obtain ⟨value, found⟩ := Rows.exists_of_mem member
  obtain ⟨entry, _, stands⟩ := (getElem?_pairs_iff built).mp found
  exact ⟨entry.get side, stands side⟩

theorem mem_groups_of_mem_pairs (built : ofFont font = .ok feature) (member : pair ∈ feature.pairs)
    (group : pair.get side = .group name) : name ∈ feature.groups.get side := by
  obtain ⟨source, stands⟩ := exists_key?_of_mem_pairs built member side
  rw [group, key?_eq_some_iff built] at stands
  obtain ⟨key, resolved, renamed⟩ := stands
  rcases Key.resolve_eq_ok_iff.mp resolved with ⟨rfl, retained⟩ | ⟨rfl, _⟩
  · obtain ⟨className, found, _⟩ := exists_className built retained
    rw [Key.rename, Std.ExtTreeMap.getD_eq_getD_getElem?, found] at renamed
    exact (mem_groups built).mpr ⟨source, retained, Key.group.inj renamed ▸ found⟩
  · cases renamed

theorem mem_glyphNames_of_mem_pairs (built : ofFont font = .ok feature)
    (member : pair ∈ feature.pairs) (glyph : pair.get side = .glyph name) :
    name ∈ font.glyphNames := by
  obtain ⟨source, stands⟩ := exists_key?_of_mem_pairs built member side
  rw [glyph, key?_eq_some_iff built] at stands
  obtain ⟨key, resolved, renamed⟩ := stands
  rcases Key.resolve_eq_ok_iff.mp resolved with ⟨rfl, _⟩ | ⟨rfl, _, _, named⟩
  · cases renamed
  · cases renamed
    exact Font.mem_nameSet.mp named

/-- The kerning of the font under the keys that its names stand for, none of it lost, merged or
added. -/
structure KeepsKerning (feature : KernFeature) (font : Font) : Prop where
  /-- No retained group lacks a class to stand for. -/
  retained : ∀ side name, font.Retains side name →
    ∃ className, feature.classNames[name]? = some className ∧
      feature.key? font side name = some (.group className)
  kept : ∀ entry value pair, font.kerning[entry]? = some value → feature.Stands font entry pair →
    feature.pairs[pair]? = some value
  source : ∀ pair ∈ feature.pairs, ∃! entry, entry ∈ font.kerning ∧ feature.Stands font entry pair
  classes : ∀ pair ∈ feature.pairs, ∀ side name, pair.get side = .group name →
    name ∈ feature.groups.get side

theorem keepsKerning_ofFont (built : ofFont font = .ok feature) : feature.KeepsKerning font where
  retained _ _ := key?_of_retains built
  kept entry value pair found stands := (getElem?_pairs_iff built).mpr ⟨entry, found, stands⟩
  source pair member := by
    obtain ⟨value, present⟩ := Rows.exists_of_mem member
    obtain ⟨entry, found, stands⟩ := (getElem?_pairs_iff built).mp present
    refine ⟨entry, ⟨Table.mem_of_found found, stands⟩, ?_⟩
    rintro again ⟨_, standsToo⟩
    exact standsToo.entry_unique built stands
  classes _ member _ _ group := mem_groups_of_mem_pairs built member group

private def ambivalent : Font where
  glyphs := [{ name := "A" }, { name := "public.kern1.A" }, { name := "public.kern1.lost" },
    { name := "public.kern2.V" }]
  groups := .ofList [("public.kern1.A", ["A"]), ("public.kern1.lost", ["Lost"]),
    ("public.kern2.W", ["A"])]
  kerning := .ofList ([(⟨"public.kern1.A", "public.kern1.A"⟩, 1), (⟨"public.kern1.lost", "A"⟩, 2),
    (⟨"public.kern2.V", "public.kern2.W"⟩, 3), (⟨"public.kern2.W", "A"⟩, 4),
    (⟨"A", "public.kern2.V"⟩, 5), (⟨"A", "public.kern1.lost"⟩, 6)] :
      List (Pair String String × Int))

/-- Glyphs that are named like groups, and groups named on the side that is not theirs. -/
theorem keepsKerning_ambivalent : ∃ feature, ofFont ambivalent = .ok feature ∧
    feature.KeepsKerning ambivalent ∧ feature.pairs.toList =
      [(⟨.glyph "A", .glyph "public.kern1.lost"⟩, 6),
        (⟨.glyph "public.kern2.V", .group "@kern2.W"⟩, 3),
        (⟨.group "@kern1.A", .glyph "public.kern1.A"⟩, 1)] := by
  have pairs : (ofFont ambivalent).toOption.map (·.pairs.toList) =
      some [(⟨.glyph "A", .glyph "public.kern1.lost"⟩, 6),
        (⟨.glyph "public.kern2.V", .group "@kern2.W"⟩, 3),
        (⟨.group "@kern1.A", .glyph "public.kern1.A"⟩, 1)] := by decide +kernel
  obtain ⟨feature, built, pairs⟩ := exists_of_map_toOption pairs
  exact ⟨feature, built, keepsKerning_ofFont built, pairs⟩

end KernFeature
end FontPrep
