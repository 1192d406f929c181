import FontPrep.Proofs.Kerning.Ambiguity
import FontPrep.Proofs.Kerning.ClassNames

/-! What kerning two glyphs get. A source looks for it under the two glyphs, then with the group of
the second, of the first and of both in their place; the first rule of a feature that speaks for
the glyphs has the value that is found so. -/
namespace FontPrep

namespace Pair

variable {α β : Type} {firsts seconds : List α}

/-- The pairs of the listed things, in the order of what stands first. -/
def product (firsts seconds : List α) : List (Pair α α) :=
  firsts.flatMap fun one => seconds.map (Pair.mk one)

theorem mem_product {pair : Pair α α} :
    pair ∈ product firsts seconds ↔ pair.first ∈ firsts ∧ pair.second ∈ seconds := by
  obtain ⟨one, two⟩ := pair
  simp [product]

theorem product_map (f : α → β) :
    product (firsts.map f) (seconds.map f) = (product firsts seconds).map (Pair.map f) := by
  simp [product, List.map_flatMap, List.flatMap_map, Function.comp_def, Pair.map]

end Pair

/-- What stands for a glyph in kerning, the glyph before its group. -/
def Key.standing (glyph : String) (owner : Option String) : List Key :=
  .glyph glyph :: owner.toList.map .group

namespace Groups

/-- Whether that is the one group that lists the glyph, or no group does. -/
def OwnedBy (groups : Groups) (glyph : String) (owner : Option String) : Prop :=
  ∀ group, groups.Lists group glyph ↔ owner = some group

theorem OwnedBy.exists_iff {groups : Groups} {glyph : String} {owner : Option String}
    (owned : groups.OwnedBy glyph owner) : (∃ group, groups.Lists group glyph) ↔ owner ≠ none := by
  simp only [owned _, Option.ne_none_iff_exists']

/-- In disjoint groups every glyph has one owner or none. -/
theorem Disjoint.exists_ownedBy {groups : Groups} (disjoint : groups.Disjoint) (glyph : String) :
    ∃ owner, groups.OwnedBy glyph owner := by
  by_cases owned : ∃ group, groups.Lists group glyph
  · obtain ⟨group, listed⟩ := owned
    refine ⟨some group, fun other => ⟨fun again => ?_, fun same => ?_⟩⟩
    · rw [disjoint listed again]
    · rwa [← Option.some.inj same]
  · exact ⟨none, fun group => ⟨fun listed => absurd ⟨group, listed⟩ owned, nofun⟩⟩

theorem OwnedBy.rename {groups : Groups} {glyph : String} {owner : Option String}
    {names : Std.ExtTreeMap String String} (owned : groups.OwnedBy glyph owner)
    (apart : groups.Apart names) :
    (groups.rename names).OwnedBy glyph (owner.map fun group => names.getD group group) := by
  intro name
  rw [lists_rename apart, Option.map_eq_some_iff]
  simp only [owned _]

end Groups

theorem SpeakOnce.value_eq_some_iff {rules : List Rule} {groups : Pair Groups Groups}
    {glyphs : Pair String String} {value : Int} (once : SpeakOnce rules groups glyphs) :
    (rules.find? (·.speaks groups glyphs)).map Rule.value = some value ↔
      Says rules groups glyphs value := by
  simp only [Option.map_eq_some_iff, find?_eq_some_iff_of_countP once, Says, and_assoc]

namespace Separation

variable {pairs : Pairs} {groups : Pair Groups Groups} {first second : String} {value : Int}
variable {owner ownerToo : Option String}

theorem value?_eq_some_iff (disjoint : groups.first.Disjoint)
    (disjointToo : groups.second.Disjoint) :
    (ofPairs pairs groups).value? groups ⟨first, second⟩ = some value ↔
      Says (ofPairs pairs groups).glyphRules groups ⟨first, second⟩ value ∨
        (∀ number, ¬ Says (ofPairs pairs groups).glyphRules groups ⟨first, second⟩ number) ∧
          Says (ofPairs pairs groups).groupRules groups ⟨first, second⟩ value := by
  rw [value?, rules_eq, List.find?_append, Option.map_or, Option.or_eq_some_iff,
    (once_groupRules disjoint disjointToo).value_eq_some_iff,
    Option.eq_none_iff_forall_ne_some]
  simp only [ne_eq, once_glyphRules.value_eq_some_iff]

section
variable (owned : groups.first.OwnedBy first owner)
  (ownedToo : groups.second.OwnedBy second ownerToo)
include owned ownedToo

theorem says_glyphListed_owned :
    Says (ofPairs pairs groups).glyphListedRules groups ⟨first, second⟩ value ↔ owner ≠ none ∧
      ∃ two, ownerToo = some two ∧ pairs[Pair.mk (Key.glyph first) (Key.group two)]? = some value ∧
        Pair.mk (Key.glyph first) (Key.glyph second) ∉ pairs := by
  simp only [says_glyphListed, owned.exists_iff, Pairs.GlyphListed, ownedToo _]
  constructor
  · intro said
    obtain ⟨two, found, owns, same, unspoken, _⟩ := said
    exact ⟨owns, two, same, found, unspoken⟩
  · intro holds
    obtain ⟨owns, two, same, found, unspoken⟩ := holds
    refine ⟨two, found, owns, same, unspoken, fun earlier smaller _ again => ?_⟩
    obtain rfl := Option.some.inj (same.symm.trans again)
    exact absurd smaller (lt_irrefl _)

theorem says_listedGlyph_owned :
    Says (ofPairs pairs groups).listedGlyphRules groups ⟨first, second⟩ value ↔ ownerToo ≠ none ∧
      ∃ one, owner = some one ∧ pairs[Pair.mk (Key.group one) (Key.glyph second)]? = some value ∧
        Pair.mk (Key.glyph first) (Key.glyph second) ∉ pairs ∧
          ∀ two, ownerToo = some two → Pair.mk (Key.glyph first) (Key.group two) ∉ pairs := by
  rw [says_listedGlyph, ownedToo.exists_iff]
  simp only [Pairs.ListedGlyph, owned _, ownedToo _]
  constructor
  · intro said
    obtain ⟨one, found, owns, same, unspoken, free, _⟩ := said
    exact ⟨owns, one, same, found, unspoken, fun two equal spoken => free two spoken equal⟩
  · intro holds
    obtain ⟨owns, one, same, found, unspoken, free⟩ := holds
    refine ⟨one, found, owns, same, unspoken, fun two spoken equal => free two equal spoken,
      fun earlier smaller _ again => ?_⟩
    obtain rfl := Option.some.inj (same.symm.trans again)
    exact absurd smaller (lt_irrefl _)

theorem says_glyphGroup_owned :
    Says (ofPairs pairs groups).glyphGroupRules groups ⟨first, second⟩ value ↔ owner = none ∧
      ∃ two, ownerToo = some two ∧
        pairs[Pair.mk (Key.glyph first) (Key.group two)]? = some value := by
  simp only [says_glyphGroup, owned.exists_iff, ownedToo _, not_not]
  constructor
  · intro said
    obtain ⟨two, found, free, same⟩ := said
    exact ⟨free, two, same, found⟩
  · intro holds
    obtain ⟨free, two, same, found⟩ := holds
    exact ⟨two, found, free, same⟩

theorem says_groupGlyph_owned :
    Says (ofPairs pairs groups).groupGlyphRules groups ⟨first, second⟩ value ↔ ownerToo = none ∧
      ∃ one, owner = some one ∧
        pairs[Pair.mk (Key.group one) (Key.glyph second)]? = some value := by
  simp only [says_groupGlyph, ownedToo.exists_iff, owned _, not_not]
  constructor
  · intro said
    obtain ⟨one, found, free, same⟩ := said
    exact ⟨free, one, same, found⟩
  · intro holds
    obtain ⟨free, one, same, found⟩ := holds
    exact ⟨one, found, free, same⟩

theorem says_groupGroup_owned :
    Says (ofPairs pairs groups).groupGroupRules groups ⟨first, second⟩ value ↔
      ∃ one two, owner = some one ∧ ownerToo = some two ∧
        pairs[Pair.mk (Key.group one) (Key.group two)]? = some value := by
  simp only [says_groupGroup, owned _, ownedToo _]
  constructor
  · intro said
    obtain ⟨one, two, found, same, sameToo⟩ := said
    exact ⟨one, two, same, sameToo, found⟩
  · intro holds
    obtain ⟨one, two, same, sameToo, found⟩ := holds
    exact ⟨one, two, found, same, sameToo⟩

/-- Two glyphs get what the first pair has that is there, of them and of their groups. -/
theorem value?_eq_findSome? (disjoint : groups.first.Disjoint)
    (disjointToo : groups.second.Disjoint) :
    (ofPairs pairs groups).value? groups ⟨first, second⟩ =
      (Pair.product (Key.standing first owner) (Key.standing second ownerToo)).findSome?
        fun pair => pairs[pair]? := by
  have spoken (pair : Pair Key Key) : pair ∈ pairs ↔ pairs[pair]? ≠ none := by
    rw [Std.ExtTreeMap.mem_iff_isSome_getElem?, Option.isSome_iff_ne_none]
  refine Option.ext fun value => ?_
  rw [value?_eq_some_iff disjoint disjointToo]
  simp only [glyphRules, exceptionRules, groupRules, says_append, says_glyphGlyph,
    says_glyphListed_owned owned ownedToo, says_listedGlyph_owned owned ownedToo,
    says_glyphGroup_owned owned ownedToo, says_groupGlyph_owned owned ownedToo,
    says_groupGroup_owned owned ownedToo, spoken]
  -- A pair of the glyphs keeps them out of every list. Without one it matters who has an owner:
  -- only if both have can two mixed pairs compete, and then the one with `first` as a glyph wins.
  cases both : pairs[Pair.mk (Key.glyph first) (Key.glyph second)]? with
  | some number => simp [Pair.product, Key.standing, both]
  | none =>
    cases owner with
    | none => cases ownerToo <;> simp [Pair.product, Key.standing, both]
    | some one =>
      cases ownerToo with
      | none => simp [Pair.product, Key.standing, both]
      | some two =>
        have listed := spoken ⟨.glyph first, .group two⟩
        cases left : pairs[Pair.mk (Key.glyph first) (Key.group two)]? with
        | some number => simp_all [Pair.product, Key.standing]
        | none =>
          cases right : pairs[Pair.mk (Key.group one) (Key.glyph second)]? <;>
            simp_all [Pair.product, Key.standing]

end

end Separation

namespace Font

variable {font : Font} {side : Side} {glyph group : String}

/-- No glyph has a name that looks like the name of a kerning group. -/
def NamesApart (font : Font) : Prop :=
  ∀ name ∈ font.glyphNames, ∀ side : Side, side.owns name = false

instance instDecidableNamesApart (font : Font) : Decidable font.NamesApart :=
  inferInstanceAs (Decidable (∀ name ∈ font.glyphNames, ∀ side : Side, side.owns name = false))

/-- No glyph of the font is in two kerning groups of one side. -/
def GroupsApart (font : Font) : Prop :=
  ∀ side : Side, ∀ glyph ∈ font.glyphNames, ∀ group other : String,
    side.owns group = true → side.owns other = true →
      Groups.Lists font.groups group glyph → Groups.Lists font.groups other glyph → group = other

/-- The first kerning group of the side that lists the glyph. -/
def groupOf? (font : Font) (side : Side) (glyph : String) : Option String :=
  font.groups.keys.find? fun group => side.owns group && Groups.Lists font.groups group glyph

/-- The names under which there can be kerning for a glyph, its own before that of its group. -/
def kerningNames (font : Font) (side : Side) (glyph : String) : List String :=
  glyph :: (font.groupOf? side glyph).toList

/-- The value of the first entry that is there for the glyphs, the second varying fastest. -/
def kerningValue? (font : Font) (glyphs : Pair String String) : Option Int :=
  (Pair.product (font.kerningNames .first glyphs.first)
    (font.kerningNames .second glyphs.second)).findSome? fun entry => font.kerning[entry]?

theorem groupOf?_eq_some_iff (once : font.GroupsApart) (present : glyph ∈ font.glyphNames) :
    font.groupOf? side glyph = some group ↔
      side.owns group = true ∧ Groups.Lists font.groups group glyph := by
  have meets {name : String} (found : font.groupOf? side glyph = some name) :
      side.owns name = true ∧ Groups.Lists font.groups name glyph := by
    simpa using List.find?_some found
  constructor
  · exact meets
  · intro listed
    obtain ⟨owns, lists⟩ := listed
    obtain ⟨members, found, _⟩ := Groups.lists_iff.mp lists
    have some : (font.groupOf? side glyph).isSome = true := by
      refine List.find?_isSome.mpr ⟨group, ?_, by simp [owns, lists]⟩
      exact Table.mem_of_found ((Table.getElem?_sorted ..).symm.trans found)
    obtain ⟨name, same⟩ := Option.isSome_iff_exists.mp some
    obtain ⟨ownsName, listsName⟩ := meets same
    rw [same, once side glyph present name group ownsName owns listsName lists]

theorem ownedBy_kerningGroups (once : font.GroupsApart) (present : glyph ∈ font.glyphNames) :
    (font.kerningGroups side).OwnedBy glyph (font.groupOf? side glyph) := by
  intro group
  rw [lists_kerningGroups, groupOf?_eq_some_iff once present]
  exact and_congr_right fun _ => and_iff_right present

theorem groupsApart_iff : font.GroupsApart ↔ ∀ side, (font.kerningGroups side).Disjoint := by
  simp only [GroupsApart, Groups.Disjoint, lists_kerningGroups]
  constructor
  · rintro once side glyph group other ⟨owns, present, lists⟩ ⟨ownsOther, _, listsOther⟩
    exact once side glyph present group other owns ownsOther lists listsOther
  · intro once side glyph present group other owns ownsOther lists listsOther
    exact once side ⟨owns, present, lists⟩ ⟨ownsOther, present, listsOther⟩

instance instDecidableGroupsApart (font : Font) : Decidable font.GroupsApart :=
  decidable_of_iff _ groupsApart_iff.symm

/-- What stands for a glyph is what its names mean. -/
theorem resolve_standing (apart : font.NamesApart) (once : font.GroupsApart)
    (present : glyph ∈ font.glyphNames) {key : Key}
    (stands : key ∈ Key.standing glyph (font.groupOf? side glyph)) :
    Key.resolve side (font.kerningGroups side) font.nameSet key.name = .ok key := by
  rw [Key.resolve_eq_ok_iff]
  rcases List.mem_cons.mp stands with rfl | grouped
  · have free := apart glyph present side
    refine .inr ⟨rfl, fun retained => ?_, free, mem_nameSet.mpr present⟩
    have owns := (mem_kerningGroups.mp retained).1
    exact absurd owns (by simp [Key.name, free])
  · obtain ⟨group, owner, rfl⟩ := List.mem_map.mp grouped
    have lists := (ownedBy_kerningGroups once present group).mpr (Option.mem_toList.mp owner)
    obtain ⟨members, found, _⟩ := Groups.lists_iff.mp lists
    exact .inl ⟨rfl, Rows.mem_of_found found⟩

end Font

namespace KernFeature

variable {feature : KernFeature} {font : Font} {side : Side} {glyph : String}
variable {glyphs : Pair String String}

/-- What two names mean on one side stays apart under class names. -/
theorem eq_of_rename (built : ofFont font = .ok feature) {name again : String} {key other : Key}
    (resolved : Key.resolve side (font.kerningGroups side) font.nameSet name = .ok key)
    (resolvedOther : Key.resolve side (font.kerningGroups side) font.nameSet again = .ok other)
    (same : key.rename feature.classNames = other.rename feature.classNames) : key = other := by
  rcases Key.resolve_eq_ok_iff.mp resolved with ⟨rfl, retained⟩ | ⟨rfl, _⟩ <;>
    rcases Key.resolve_eq_ok_iff.mp resolvedOther with ⟨rfl, retainedOther⟩ | ⟨rfl, _⟩
  · rw [eq_of_getD_classNames built retained retainedOther (Key.group.inj same)]
  · cases same
  · cases same
  · exact same

theorem eq_of_map_rename (built : ofFont font = .ok feature) {entry again : Pair String String}
    {pair other : Pair Key Key}
    (resolved : Pairs.resolve font.sideGroups font.nameSet entry = .ok pair)
    (resolvedOther : Pairs.resolve font.sideGroups font.nameSet again = .ok other)
    (same : pair.map (Key.rename feature.classNames) = other.map (Key.rename feature.classNames)) :
    pair = other := by
  obtain ⟨first, second⟩ := Pairs.resolve_eq_ok_iff.mp resolved
  obtain ⟨firstOther, secondOther⟩ := Pairs.resolve_eq_ok_iff.mp resolvedOther
  obtain ⟨one, two⟩ := pair
  obtain ⟨one', two'⟩ := other
  simp only [Pair.map, Pair.mk.injEq] at same
  have sameFirst : one = one' := eq_of_rename built first firstOther same.1
  have sameSecond : two = two' := eq_of_rename built second secondOther same.2
  rw [sameFirst, sameSecond]

theorem apart_pairs (built : ofFont font = .ok feature) :
    (font.pairs font.sideGroups).Apart feature.classNames := by
  intro pair other present presentOther same
  obtain ⟨value, found⟩ := Rows.exists_of_mem present
  obtain ⟨number, foundOther⟩ := Rows.exists_of_mem presentOther
  obtain ⟨entry, _, resolved⟩ := Font.getElem?_pairs.mp found
  obtain ⟨again, _, resolvedOther⟩ := Font.getElem?_pairs.mp foundOther
  exact eq_of_map_rename built resolved resolvedOther same

/-- A pair has under class names what the font has under the names that mean it. -/
theorem getElem?_pairs (built : ofFont font = .ok feature) {pair : Pair Key Key}
    (resolved : Pairs.resolve font.sideGroups font.nameSet (pair.map Key.name) = .ok pair) :
    feature.pairs[pair.map (Key.rename feature.classNames)]? =
      font.kerning[pair.map Key.name]? := by
  refine Option.ext fun value => ?_
  rw [pairs_eq built, Pairs.getElem?_rename (apart_pairs built)]
  simp only [Font.getElem?_pairs]
  constructor
  · intro spoken
    obtain ⟨source, ⟨entry, found, meant⟩, same⟩ := spoken
    obtain rfl := eq_of_map_rename built meant resolved same
    obtain ⟨first, second⟩ := Pairs.resolve_eq_ok_iff.mp meant
    have spelled : entry = source.map Key.name := by
      obtain ⟨one, two⟩ := entry
      rw [Pair.map, Key.name_of_resolve first, Key.name_of_resolve second]
    rwa [← spelled]
  · intro found
    exact ⟨pair, ⟨_, found, resolved⟩, rfl⟩

theorem ownedBy_groups (built : ofFont font = .ok feature) {owner : Option String}
    (owned : (font.kerningGroups side).OwnedBy glyph owner) :
    (feature.groups.get side).OwnedBy glyph
      (owner.map fun group => feature.classNames.getD group group) := by
  rw [get_groups built]
  exact owned.rename (apart_groups built)

theorem standing_rename {names : Std.ExtTreeMap String String} {owner : Option String} :
    Key.standing glyph (owner.map fun group => names.getD group group) =
      (Key.standing glyph owner).map (Key.rename names) := by
  cases owner <;> rfl

theorem kerningNames_eq :
    font.kerningNames side glyph =
      (Key.standing glyph (font.groupOf? side glyph)).map Key.name := by
  unfold Font.kerningNames
  cases font.groupOf? side glyph <;> rfl

/-- The values under what stands for two glyphs are those of the font under their names. -/
theorem getElem?_pairs_of_standing (built : ofFont font = .ok feature) (apart : font.NamesApart)
    (once : font.GroupsApart) (present : glyphs.first ∈ font.glyphNames)
    (presentToo : glyphs.second ∈ font.glyphNames) :
    ∀ pair ∈ Pair.product (Key.standing glyphs.first (font.groupOf? .first glyphs.first))
      (Key.standing glyphs.second (font.groupOf? .second glyphs.second)),
      feature.pairs[pair.map (Key.rename feature.classNames)]? =
        font.kerning[pair.map Key.name]? := by
  intro pair member
  obtain ⟨stands, standsToo⟩ := Pair.mem_product.mp member
  refine getElem?_pairs built (Pairs.resolve_eq_ok_iff.mpr ⟨?_, ?_⟩)
  · exact Font.resolve_standing apart once present stands
  · exact Font.resolve_standing apart once presentToo standsToo

/-- The first rule that speaks for two glyphs of the font has the value that the font has for them,
and none speaks exactly if the font has no value. -/
theorem value?_ofFont (built : ofFont font = .ok feature) (apart : font.NamesApart)
    (once : font.GroupsApart) (present : glyphs.first ∈ font.glyphNames)
    (presentToo : glyphs.second ∈ font.glyphNames) :
    feature.separation.value? feature.groups glyphs = font.kerningValue? glyphs := by
  have disjoint (side : Side) : (feature.groups.get side).Disjoint := by
    rw [get_groups built]
    exact Groups.disjoint_rename (apart_groups built) (Font.groupsApart_iff.mp once side)
  have owned (side : Side) {glyph : String} (here : glyph ∈ font.glyphNames) :
      (feature.groups.get side).OwnedBy glyph
        ((font.groupOf? side glyph).map fun group => feature.classNames.getD group group) :=
    ownedBy_groups built (Font.ownedBy_kerningGroups once here)
  have values :=
    List.map_congr_left (getElem?_pairs_of_standing built apart once present presentToo)
  have chosen : feature.separation.value? feature.groups glyphs = _ :=
    Separation.value?_eq_findSome? (owned .first present) (owned .second presentToo)
      (disjoint .first) (disjoint .second)
  rw [standing_rename, standing_rename, Pair.product_map, List.findSome?_map] at chosen
  rw [Font.kerningValue?, kerningNames_eq, kerningNames_eq, Pair.product_map, List.findSome?_map]
  refine chosen.trans ?_
  simpa only [List.findSome?_map, Function.comp_def, id] using congrArg (List.findSome? id) values

private def layered : Font where
  glyphs := [{ name := "A" }, { name := "B" }, { name := "V" }]
  groups := .ofList [("public.kern1.A", ["A", "B"]), ("public.kern2.V", ["V"])]
  kerning := .ofList ([(⟨"A", "public.kern2.V"⟩, -10), (⟨"public.kern1.A", "V"⟩, -20),
    (⟨"public.kern1.A", "public.kern2.V"⟩, -30)] : List (Pair String String × Int))

/-- A glyph with the group of the other comes before its group with the other glyph. -/
theorem value?_layered : ∃ feature, ofFont layered = .ok feature ∧
    feature.separation.value? feature.groups ⟨"A", "V"⟩ = some (-10) := by
  cases built : ofFont layered with
  | error stuck =>
    have fits : (ofFont layered).isOk = true := by decide +kernel
    rw [built] at fits
    cases fits
  | ok feature =>
    refine ⟨feature, rfl, ?_⟩
    rw [value?_ofFont built (by decide +kernel) (by decide +kernel) (by decide) (by decide)]
    decide +kernel

end KernFeature
end FontPrep
