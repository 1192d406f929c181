import FontPrep.Proofs.Kerning.Lookup

/-! Kerning under other group names. Separating takes pairs in the order of their group names, but
where no glyph is in two groups of a side that order shows nowhere. So separating and giving new
names go in either order, as long as the new names keep apart the groups of each side. -/
namespace FontPrep

variable {names : Std.ExtTreeMap String String}

namespace Pair

variable {α β : Type} {side : Side} {here there : α}

theorem eq_on_iff {pair : Pair α α} :
    pair = on side here there ↔ pair.get side = here ∧ pair.get side.other = there := by
  cases pair
  cases side <;> simp [on, get, Side.other, and_comm]

theorem exists_on (side : Side) (pair : Pair α α) : ∃ here there, pair = on side here there :=
  ⟨_, _, eq_on_iff.mpr ⟨rfl, rfl⟩⟩

theorem map_on {f : α → β} : (on side here there).map f = on side (f here) (f there) := by
  cases side <;> rfl

end Pair

namespace Key

variable {key : Key} {name : String}

theorem rename_eq_glyph_iff : key.rename names = .glyph name ↔ key = .glyph name := by
  cases key <;> simp [rename]

theorem rename_eq_group_iff : key.rename names = .group name ↔
    ∃ group, key = .group group ∧ names.getD group group = name := by
  cases key <;> simp [rename]

end Key

namespace Pairs

variable {pairs : Pairs} {groups : Pair Groups Groups} {side : Side} {name : String}

/-- The group names of one side, in groups and in pairs. -/
def groupNames (pairs : Pairs) (groups : Pair Groups Groups) (side : Side) : List String :=
  (groups.get side).keys ++ pairs.keys.filterMap fun pair =>
    match pair.get side with
    | .group name => some name
    | .glyph _ => none

theorem mem_groupNames : name ∈ pairs.groupNames groups side ↔
    name ∈ groups.get side ∨ ∃ pair ∈ pairs, pair.get side = .group name := by
  simp only [groupNames, List.mem_append, Std.ExtTreeMap.mem_keys, List.mem_filterMap]
  refine or_congr_right (exists_congr fun pair => and_congr_right fun _ => ?_)
  cases pair.get side <;> simp

theorem mem_groupNames_of_lists {member : String} (listed : (groups.get side).Lists name member) :
    name ∈ pairs.groupNames groups side := by
  obtain ⟨members, found, _⟩ := Groups.lists_iff.mp listed
  exact mem_groupNames.mpr (.inl (Rows.mem_of_found found))

theorem mem_groupNames_of_mem {pair : Pair Key Key} (spoken : pair ∈ pairs)
    (stands : pair.get side = .group name) : name ∈ pairs.groupNames groups side :=
  mem_groupNames.mpr (.inr ⟨pair, spoken, stands⟩)

/-- Whether new names keep apart the group names of each side. -/
def KeptApart (names : Std.ExtTreeMap String String) (pairs : Pairs)
    (groups : Pair Groups Groups) : Prop :=
  ∀ side, ∀ one ∈ pairs.groupNames groups side, ∀ two ∈ pairs.groupNames groups side,
    names.getD one one = names.getD two two → one = two

instance instDecidableKeptApart (names : Std.ExtTreeMap String String) (pairs : Pairs)
    (groups : Pair Groups Groups) : Decidable (KeptApart names pairs groups) :=
  inferInstanceAs (Decidable (∀ side, ∀ one ∈ pairs.groupNames groups side,
    ∀ two ∈ pairs.groupNames groups side, names.getD one one = names.getD two two → one = two))

variable (apart : KeptApart names pairs groups)
include apart

theorem KeptApart.apart_groups (side : Side) : (groups.get side).Apart names :=
  fun one two member memberToo => apart side one (mem_groupNames.mpr (.inl member)) two
    (mem_groupNames.mpr (.inl memberToo))

/-- Keys of one side that become the same were the same. -/
theorem KeptApart.key_eq {one two : Key}
    (known : ∀ name, one = .group name → name ∈ pairs.groupNames groups side)
    (knownToo : ∀ name, two = .group name → name ∈ pairs.groupNames groups side)
    (same : one.rename names = two.rename names) : one = two := by
  cases two with
  | glyph name => exact Key.rename_eq_glyph_iff.mp same
  | group name =>
    obtain ⟨group, rfl, equal⟩ := Key.rename_eq_group_iff.mp same
    rw [apart side group (known _ rfl) name (knownToo _ rfl) equal]

theorem KeptApart.pair_eq {one two : Pair Key Key}
    (known : ∀ side name, one.get side = .group name → name ∈ pairs.groupNames groups side)
    (knownToo : ∀ side name, two.get side = .group name → name ∈ pairs.groupNames groups side)
    (same : one.map (Key.rename names) = two.map (Key.rename names)) : one = two := by
  have side (side : Side) : one.get side = two.get side := by
    have equal := congrArg (·.get side) same
    simp only [Pair.get_map] at equal
    exact apart.key_eq (known side) (knownToo side) equal
  obtain ⟨first, second⟩ := one
  obtain ⟨firstToo, secondToo⟩ := two
  exact congrArg₂ Pair.mk (side .first) (side .second)

theorem KeptApart.apart_pairs : pairs.Apart names := by
  intro pair other member memberToo same
  exact apart.pair_eq (fun _ _ => mem_groupNames_of_mem member)
    (fun _ _ => mem_groupNames_of_mem memberToo) same

/-- A pair whose groups occur has under new names what it had, also if that is nothing. -/
theorem KeptApart.getElem?_rename (pair : Pair Key Key)
    (known : ∀ side name, pair.get side = .group name → name ∈ pairs.groupNames groups side) :
    (pairs.rename names)[pair.map (Key.rename names)]? = pairs[pair]? := by
  refine Option.ext fun value => ?_
  rw [Pairs.getElem?_rename apart.apart_pairs]
  constructor
  · rintro ⟨source, found, same⟩
    have spoken := Rows.mem_of_found found
    rwa [← apart.pair_eq (fun _ _ => mem_groupNames_of_mem spoken) known same]
  · intro found
    exact ⟨pair, found, rfl⟩

section
variable {first second glyph group other member : String} {value : Int}

theorem getElem?_rename_glyphs :
    (rename names pairs)[Pair.mk (Key.glyph first) (Key.glyph second)]? =
      pairs[Pair.mk (Key.glyph first) (Key.glyph second)]? :=
  apart.getElem?_rename ⟨.glyph first, .glyph second⟩ fun side name stands => by
    cases side <;> cases stands

theorem getElem?_rename_mixed (side : Side) :
    (rename names pairs)[Pair.on side (Key.group name) (Key.glyph glyph)]? = some value ↔
      ∃ group, pairs[Pair.on side (Key.group group) (Key.glyph glyph)]? = some value ∧
        names.getD group group = name := by
  rw [getElem?_rename apart.apart_pairs]
  constructor
  · rintro ⟨source, found, same⟩
    obtain ⟨here, there⟩ := Pair.eq_on_iff.mp same
    rw [Pair.get_map] at here there
    obtain ⟨group, stands, renamed⟩ := Key.rename_eq_group_iff.mp here
    obtain rfl := Pair.eq_on_iff.mpr ⟨stands, Key.rename_eq_glyph_iff.mp there⟩
    exact ⟨group, found, renamed⟩
  · rintro ⟨group, found, rfl⟩
    exact ⟨_, found, Pair.map_on⟩

theorem getElem?_rename_groups :
    (rename names pairs)[Pair.mk (Key.group name) (Key.group other)]? = some value ↔
      ∃ one two, pairs[Pair.mk (Key.group one) (Key.group two)]? = some value ∧
        names.getD one one = name ∧ names.getD two two = other := by
  rw [getElem?_rename apart.apart_pairs]
  constructor
  · rintro ⟨⟨left, right⟩, found, same⟩
    obtain ⟨renamed, renamedToo⟩ := Pair.mk.inj same
    obtain ⟨one, rfl, equal⟩ : ∃ one, left = .group one ∧ _ := Key.rename_eq_group_iff.mp renamed
    obtain ⟨two, rfl, equalToo⟩ : ∃ two, right = .group two ∧ _ :=
      Key.rename_eq_group_iff.mp renamedToo
    exact ⟨one, two, found, equal, equalToo⟩
  · rintro ⟨one, two, found, rfl, rfl⟩
    exact ⟨_, found, rfl⟩

/-- A glyph has a group under new names exactly if it had one. -/
theorem exists_lists_rename (side : Side) :
    (∃ owner, ((groups.map (Groups.rename names)).get side).Lists owner glyph) ↔
      ∃ owner, (groups.get side).Lists owner glyph := by
  rw [Pair.get_map]
  simp only [Groups.lists_rename (apart.apart_groups side)]
  constructor
  · rintro ⟨_, group, listed, _⟩
    exact ⟨group, listed⟩
  · rintro ⟨group, listed⟩
    exact ⟨_, group, listed, rfl⟩

/-- A group that occurs lists under its new name what it listed. -/
theorem lists_rename_iff (known : group ∈ pairs.groupNames groups side) :
    ((groups.map (Groups.rename names)).get side).Lists (names.getD group group) member ↔
      (groups.get side).Lists group member := by
  rw [Pair.get_map, Groups.lists_rename (apart.apart_groups side)]
  constructor
  · rintro ⟨source, listed, same⟩
    rwa [apart side group known source (mem_groupNames_of_lists listed) same.symm]
  · intro listed
    exact ⟨group, listed, rfl⟩

theorem mem_rename_glyphs :
    Pair.mk (Key.glyph first) (Key.glyph second) ∈ rename names pairs ↔
      Pair.mk (Key.glyph first) (Key.glyph second) ∈ pairs := by
  rw [Std.ExtTreeMap.mem_iff_isSome_getElem?, getElem?_rename_glyphs apart,
    Std.ExtTreeMap.mem_iff_isSome_getElem?]

theorem mem_rename_mixed (side : Side) :
    Pair.on side (Key.group name) (Key.glyph glyph) ∈ rename names pairs ↔
      ∃ group, Pair.on side (Key.group group) (Key.glyph glyph) ∈ pairs ∧
        names.getD group group = name := by
  simp only [Std.ExtTreeMap.mem_iff_isSome_getElem?, Option.isSome_iff_exists,
    getElem?_rename_mixed apart side]
  constructor
  · rintro ⟨value, group, found, same⟩
    exact ⟨group, ⟨value, found⟩, same⟩
  · rintro ⟨group, ⟨value, found⟩, same⟩
    exact ⟨value, group, found, same⟩

omit apart in
/-- In disjoint groups no other group keeps a member out of a list. -/
theorem glyphListed_iff_of_disjoint (disjoint : groups.second.Disjoint) :
    pairs.GlyphListed groups glyph group member ↔ groups.second.Lists group member ∧
      Pair.mk (Key.glyph glyph) (Key.glyph member) ∉ pairs := by
  refine and_congr_right fun listed => and_iff_left fun earlier smaller _ again => ?_
  exact absurd smaller (disjoint listed again ▸ lt_irrefl _)

omit apart in
theorem listedGlyph_iff_of_disjoint (disjoint : groups.first.Disjoint) :
    pairs.ListedGlyph groups group glyph member ↔ groups.first.Lists group member ∧
      Pair.mk (Key.glyph member) (Key.glyph glyph) ∉ pairs ∧
        ∀ other, Pair.mk (Key.glyph member) (Key.group other) ∈ pairs →
          ¬ groups.second.Lists other glyph := by
  refine and_congr_right fun listed => and_congr_right fun _ => and_iff_left ?_
  exact fun earlier smaller _ again => absurd smaller (disjoint listed again ▸ lt_irrefl _)

theorem glyphListed_rename (disjoint : groups.second.Disjoint)
    (known : group ∈ pairs.groupNames groups .second) :
    (rename names pairs).GlyphListed (groups.map (Groups.rename names)) glyph
        (names.getD group group) member ↔
      pairs.GlyphListed groups glyph group member := by
  have disjointToo : (groups.map (Groups.rename names)).second.Disjoint :=
    Groups.disjoint_rename (apart.apart_groups .second) disjoint
  rw [glyphListed_iff_of_disjoint disjoint, glyphListed_iff_of_disjoint disjointToo,
    mem_rename_glyphs apart]
  exact and_congr_left' (lists_rename_iff apart known)

theorem listedGlyph_rename (disjoint : groups.first.Disjoint)
    (known : group ∈ pairs.groupNames groups .first) :
    (rename names pairs).ListedGlyph (groups.map (Groups.rename names))
        (names.getD group group) glyph member ↔
      pairs.ListedGlyph groups group glyph member := by
  have disjointToo : (groups.map (Groups.rename names)).first.Disjoint :=
    Groups.disjoint_rename (apart.apart_groups .first) disjoint
  rw [listedGlyph_iff_of_disjoint disjoint, listedGlyph_iff_of_disjoint disjointToo,
    mem_rename_glyphs apart]
  refine and_congr (lists_rename_iff apart known) (and_congr_right fun _ => ?_)
  have spoken (name : String) : Pair.mk (Key.glyph member) (Key.group name) ∈ rename names pairs ↔
      ∃ group, Pair.mk (Key.glyph member) (Key.group group) ∈ pairs ∧
        names.getD group group = name := mem_rename_mixed apart .second
  simp only [spoken]
  constructor
  · intro free other kerned listed
    have knownToo : other ∈ pairs.groupNames groups .second := mem_groupNames_of_mem kerned rfl
    exact free _ ⟨other, kerned, rfl⟩ ((lists_rename_iff apart knownToo).mpr listed)
  · rintro free _ ⟨other, kerned, rfl⟩ listed
    have knownToo : other ∈ pairs.groupNames groups .second := mem_groupNames_of_mem kerned rfl
    exact free other kerned ((lists_rename_iff apart knownToo).mp listed)

/-- What lists the pairs with a group and an owned glyph give is the same under new names. -/
theorem exists_listed_rename {members : List String} {holds holdsToo : String → String → Prop}
    (side : Side) (same : ∀ group ∈ pairs.groupNames groups side, ∀ member,
      holdsToo (names.getD group group) member ↔ holds group member) :
    (∃ name, (rename names pairs)[Pair.on side (Key.group name) (Key.glyph glyph)]? = some value ∧
      (∃ owner, ((groups.map (Groups.rename names)).get side.other).Lists owner glyph) ∧
        Enumerates members (holdsToo name)) ↔
      ∃ group, pairs[Pair.on side (Key.group group) (Key.glyph glyph)]? = some value ∧
        (∃ owner, (groups.get side.other).Lists owner glyph) ∧
          Enumerates members (holds group) := by
  have listed (group : String)
      (found : pairs[Pair.on side (Key.group group) (Key.glyph glyph)]? = some value) :
      Enumerates members (holdsToo (names.getD group group)) ↔ Enumerates members (holds group) :=
    Enumerates.congr (same group
      (mem_groupNames_of_mem (Rows.mem_of_found found) (Pair.get_on_self _ _ _)))
  simp only [getElem?_rename_mixed apart, exists_lists_rename apart]
  constructor
  · rintro ⟨_, ⟨group, found, rfl⟩, owned, all⟩
    exact ⟨group, found, owned, (listed group found).mp all⟩
  · rintro ⟨group, found, owned, all⟩
    exact ⟨_, ⟨group, found, rfl⟩, owned, (listed group found).mpr all⟩

end

end Pairs

/-- Whether rules are others under new keys, with their values and no two under one key. -/
structure Rules.Rekeyed (rekey : Pair String String → Pair String String)
    (rules renamed : Rules String String) : Prop where
  kept : ∀ pair value, rules[pair]? = some value → renamed[rekey pair]? = some value
  source : ∀ pair ∈ renamed, ∃! source, source ∈ rules ∧ rekey source = pair

theorem Rules.rekeyed_of_iff {rekey : Pair String String → Pair String String}
    {rules renamed : Rules String String}
    (found : ∀ pair value, renamed[pair]? = some value ↔
      ∃ source, rules[source]? = some value ∧ rekey source = pair)
    (injective : ∀ one ∈ rules, ∀ two ∈ rules, rekey one = rekey two → one = two) :
    Rekeyed rekey rules renamed where
  kept pair value present := (found _ value).mpr ⟨pair, present, rfl⟩
  source pair member := by
    obtain ⟨value, present⟩ := Rows.exists_of_mem member
    obtain ⟨source, given, same⟩ := (found pair value).mp present
    refine ⟨source, ⟨Rows.mem_of_found given, same⟩, ?_⟩
    rintro other ⟨memberToo, sameToo⟩
    exact injective other memberToo source (Rows.mem_of_found given) (sameToo.trans same.symm)

namespace Separation

variable {pairs : Pairs} {groups : Pair Groups Groups}

/-- Whether separated kerning is other kerning with new names for its groups. -/
structure Renamed (names : Std.ExtTreeMap String String) (separation renamed : Separation) :
    Prop where
  glyphGlyph : renamed.glyphGlyph = separation.glyphGlyph
  glyphListed : renamed.glyphListed = separation.glyphListed
  listedGlyph : renamed.listedGlyph = separation.listedGlyph
  glyphGroup : Rules.Rekeyed (fun pair => ⟨pair.first, names.getD pair.second pair.second⟩)
    separation.glyphGroup renamed.glyphGroup
  groupGlyph : Rules.Rekeyed (fun pair => ⟨names.getD pair.first pair.first, pair.second⟩)
    separation.groupGlyph renamed.groupGlyph
  groupGroup : Rules.Rekeyed (Pair.map fun name => names.getD name name)
    separation.groupGroup renamed.groupGroup

section
variable (apart : Pairs.KeptApart names pairs groups)
include apart

theorem glyphGlyph_rename : (ofPairs (pairs.rename names)
    (groups.map (Groups.rename names))).glyphGlyph = (ofPairs pairs groups).glyphGlyph := by
  refine Std.ExtTreeMap.ext_getElem? fun key => Option.ext fun value => ?_
  obtain ⟨first, second⟩ := key
  rw [glyphGlyph_iff, glyphGlyph_iff, Pairs.getElem?_rename_glyphs apart]

theorem glyphListed_rename (disjoint : groups.second.Disjoint) :
    (ofPairs (pairs.rename names) (groups.map (Groups.rename names))).glyphListed =
      (ofPairs pairs groups).glyphListed := by
  refine Std.ExtTreeMap.ext_getElem? fun key => Option.ext fun value => ?_
  obtain ⟨glyph, members⟩ := key
  rw [glyphListed_iff, glyphListed_iff]
  exact and_congr_right fun _ => Pairs.exists_listed_rename apart .second fun group known member =>
    Pairs.glyphListed_rename apart disjoint known

theorem listedGlyph_rename (disjoint : groups.first.Disjoint) :
    (ofPairs (pairs.rename names) (groups.map (Groups.rename names))).listedGlyph =
      (ofPairs pairs groups).listedGlyph := by
  refine Std.ExtTreeMap.ext_getElem? fun key => Option.ext fun value => ?_
  obtain ⟨members, glyph⟩ := key
  rw [listedGlyph_iff, listedGlyph_iff]
  exact and_congr_right fun _ => Pairs.exists_listed_rename apart .first fun group known member =>
    Pairs.listedGlyph_rename apart disjoint known

/-- Sections of the plain mixed pairs with the group on one side. -/
theorem rekeyed_plain {rules renamed : Rules String String} (side : Side)
    (plain : ∀ group glyph value, rules[Pair.on side group glyph]? = some value ↔
      pairs[Pair.on side (Key.group group) (Key.glyph glyph)]? = some value ∧
        ¬ ∃ owner, (groups.get side.other).Lists owner glyph)
    (plainToo : ∀ name glyph value, renamed[Pair.on side name glyph]? = some value ↔
      (pairs.rename names)[Pair.on side (Key.group name) (Key.glyph glyph)]? = some value ∧
        ¬ ∃ owner, ((groups.map (Groups.rename names)).get side.other).Lists owner glyph) :
    Rules.Rekeyed (fun pair => Pair.on side (names.getD (pair.get side) (pair.get side))
      (pair.get side.other)) rules renamed := by
  apply Rules.rekeyed_of_iff
  · intro pair value
    obtain ⟨name, glyph, rfl⟩ := Pair.exists_on side pair
    rw [plainToo, Pairs.getElem?_rename_mixed apart, Pairs.exists_lists_rename apart]
    constructor
    · rintro ⟨⟨group, found, rfl⟩, unowned⟩
      exact ⟨Pair.on side group glyph, (plain _ _ _).mpr ⟨found, unowned⟩, by simp⟩
    · rintro ⟨source, found, same⟩
      obtain ⟨group, other, rfl⟩ := Pair.exists_on side source
      simp only [Pair.get_on_self, Pair.get_on_other, Pair.on_inj] at same
      obtain ⟨rfl, rfl⟩ := same
      obtain ⟨found, unowned⟩ := (plain _ _ _).mp found
      exact ⟨⟨group, found, rfl⟩, unowned⟩
  · intro one member two memberToo same
    have known {group glyph : String} (member : Pair.on side group glyph ∈ rules) :
        group ∈ pairs.groupNames groups side := by
      obtain ⟨value, found⟩ := Rows.exists_of_mem member
      exact Pairs.mem_groupNames_of_mem (Rows.mem_of_found ((plain _ _ _).mp found).1)
        (Pair.get_on_self _ _ _)
    obtain ⟨group, glyph, rfl⟩ := Pair.exists_on side one
    obtain ⟨groupToo, glyphToo, rfl⟩ := Pair.exists_on side two
    simp only [Pair.get_on_self, Pair.get_on_other, Pair.on_inj] at same
    obtain ⟨equal, rfl⟩ := same
    rw [apart side group (known member) groupToo (known memberToo) equal]

theorem glyphGroup_rename : Rules.Rekeyed
    (fun pair => ⟨pair.first, names.getD pair.second pair.second⟩) (ofPairs pairs groups).glyphGroup
    (ofPairs (pairs.rename names) (groups.map (Groups.rename names))).glyphGroup :=
  rekeyed_plain apart .second (fun _ _ _ => glyphGroup_iff) (fun _ _ _ => glyphGroup_iff)

theorem groupGlyph_rename : Rules.Rekeyed
    (fun pair => ⟨names.getD pair.first pair.first, pair.second⟩) (ofPairs pairs groups).groupGlyph
    (ofPairs (pairs.rename names) (groups.map (Groups.rename names))).groupGlyph :=
  rekeyed_plain apart .first (fun _ _ _ => groupGlyph_iff) (fun _ _ _ => groupGlyph_iff)

theorem groupGroup_rename : Rules.Rekeyed (Pair.map fun name => names.getD name name)
    (ofPairs pairs groups).groupGroup
    (ofPairs (pairs.rename names) (groups.map (Groups.rename names))).groupGroup := by
  apply Rules.rekeyed_of_iff
  · rintro ⟨name, other⟩ value
    rw [groupGroup_iff, Pairs.getElem?_rename_groups apart]
    constructor
    · rintro ⟨one, two, found, rfl, rfl⟩
      exact ⟨⟨one, two⟩, groupGroup_iff.mpr found, rfl⟩
    · rintro ⟨⟨one, two⟩, found, same⟩
      cases same
      exact ⟨one, two, groupGroup_iff.mp found, rfl, rfl⟩
  · rintro ⟨one, two⟩ member ⟨oneToo, twoToo⟩ memberToo same
    obtain ⟨value, found⟩ := Rows.exists_of_mem member
    obtain ⟨valueToo, foundToo⟩ := Rows.exists_of_mem memberToo
    have spoken := Rows.mem_of_found (groupGroup_iff.mp found)
    have spokenToo := Rows.mem_of_found (groupGroup_iff.mp foundToo)
    obtain ⟨equal, equalToo⟩ := Pair.mk.inj same
    rw [apart .first one (Pairs.mem_groupNames_of_mem spoken rfl) oneToo
        (Pairs.mem_groupNames_of_mem spokenToo rfl) equal,
      apart .second two (Pairs.mem_groupNames_of_mem spoken rfl) twoToo
        (Pairs.mem_groupNames_of_mem spokenToo rfl) equalToo]

/-- What stands for two glyphs has one value under both names. -/
theorem value?_rename (disjoint : ∀ side, (groups.get side).Disjoint)
    (glyphs : Pair String String) :
    (ofPairs (pairs.rename names) (groups.map (Groups.rename names))).value?
      (groups.map (Groups.rename names)) glyphs = (ofPairs pairs groups).value? groups glyphs := by
  obtain ⟨first, second⟩ := glyphs
  obtain ⟨owner, owned⟩ := (disjoint .first).exists_ownedBy first
  obtain ⟨ownerToo, ownedToo⟩ := (disjoint .second).exists_ownedBy second
  have known (side : Side) {glyph name : String} {owner : Option String}
      (owned : (groups.get side).OwnedBy glyph owner)
      (stands : Key.group name ∈ Key.standing glyph owner) :
      name ∈ pairs.groupNames groups side := by
    have same : owner = some name := by simpa [Key.standing] using stands
    exact Pairs.mem_groupNames_of_lists ((owned name).mpr same)
  have values : ∀ pair ∈ Pair.product (Key.standing first owner) (Key.standing second ownerToo),
      (pairs.rename names)[pair.map (Key.rename names)]? = pairs[pair]? := by
    intro pair member
    obtain ⟨stands, standsToo⟩ := Pair.mem_product.mp member
    refine apart.getElem?_rename pair fun side name same => ?_
    cases side with
    | first => exact known .first owned (same ▸ stands)
    | second => exact known .second ownedToo (same ▸ standsToo)
  have chosen : (ofPairs (pairs.rename names) (groups.map (Groups.rename names))).value?
      (groups.map (Groups.rename names)) ⟨first, second⟩ = _ :=
    value?_eq_findSome? (owned.rename (apart.apart_groups .first))
      (ownedToo.rename (apart.apart_groups .second))
      (Groups.disjoint_rename (apart.apart_groups .first) (disjoint .first))
      (Groups.disjoint_rename (apart.apart_groups .second) (disjoint .second))
  rw [KernFeature.standing_rename, KernFeature.standing_rename, Pair.product_map,
    List.findSome?_map] at chosen
  rw [chosen, value?_eq_findSome? owned ownedToo (disjoint .first) (disjoint .second)]
  simpa only [List.findSome?_map, Function.comp_def, id] using
    congrArg (List.findSome? id) (List.map_congr_left values)

end

/-- Separating under new names gives the same pairs and lists of glyphs, the same pairs with groups
under their new names, and for every two glyphs the same kerning. -/
theorem ofPairs_renamed (disjoint : ∀ side, (groups.get side).Disjoint)
    (apart : Pairs.KeptApart names pairs groups) :
    (ofPairs pairs groups).Renamed names
        (ofPairs (pairs.rename names) (groups.map (Groups.rename names))) ∧
      ∀ glyphs, (ofPairs (pairs.rename names) (groups.map (Groups.rename names))).value?
        (groups.map (Groups.rename names)) glyphs =
          (ofPairs pairs groups).value? groups glyphs := by
  refine ⟨?_, value?_rename apart disjoint⟩
  exact
    { glyphGlyph := glyphGlyph_rename apart
      glyphListed := glyphListed_rename apart (disjoint .second)
      listedGlyph := listedGlyph_rename apart (disjoint .first)
      glyphGroup := glyphGroup_rename apart
      groupGlyph := groupGlyph_rename apart
      groupGroup := groupGroup_rename apart }

private def orderedGroups : Pair Groups Groups :=
  ⟨.ofList [("@kern1.A", ["A", "B"]), ("@kern1.C", ["C"])],
    .ofList [("@kern2.V", ["V", "W"]), ("@kern2.Y", ["Y"])]⟩

private def orderedPairs : Pairs :=
  .ofList ([(⟨.glyph "A", .glyph "V"⟩, 1), (⟨.glyph "A", .group "@kern2.V"⟩, 2),
    (⟨.glyph "D", .group "@kern2.Y"⟩, 3), (⟨.group "@kern1.A", .glyph "V"⟩, 4),
    (⟨.group "@kern1.C", .glyph "V"⟩, 5), (⟨.group "@kern1.C", .group "@kern2.V"⟩, 6)] :
    List (Pair Key Key × Int))

private def swapped : Std.ExtTreeMap String String :=
  .ofList [("@kern1.A", "@kern1.C"), ("@kern1.C", "@kern1.A"), ("@kern2.V", "@kern2.Z")]

/-- Groups that change their names change places in the order of the pairs. The lists of glyphs are
those they were, and the pair of groups is there under the new names. -/
theorem ofPairs_renamed_swapped :
    (orderedPairs.mixed .first).map Mixed.value = [4, 5] ∧
      ((orderedPairs.rename swapped).mixed .first).map Mixed.value = [5, 4] ∧
      (ofPairs orderedPairs orderedGroups).listedGlyph.toList =
        [(⟨["B"], "V"⟩, 4), (⟨["C"], "V"⟩, 5)] ∧
      (ofPairs orderedPairs orderedGroups).groupGroup.toList = [(⟨"@kern1.C", "@kern2.V"⟩, 6)] ∧
      (ofPairs (orderedPairs.rename swapped)
        (orderedGroups.map (Groups.rename swapped))).groupGroup.toList =
          [(⟨"@kern1.A", "@kern2.Z"⟩, 6)] ∧
      (ofPairs orderedPairs orderedGroups).Renamed swapped
        (ofPairs (orderedPairs.rename swapped) (orderedGroups.map (Groups.rename swapped))) :=
  ⟨by decide +kernel, by decide +kernel, by decide +kernel, by decide +kernel, by decide +kernel,
    (ofPairs_renamed (by decide +kernel) (by decide +kernel)).1⟩

end Separation
end FontPrep
