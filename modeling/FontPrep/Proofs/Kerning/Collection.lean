import FontPrep.Kerning.Pairs
import FontPrep.Proofs.Kerning.Groups
import FontPrep.Proofs.Rows
import Mathlib.Data.List.Basic

namespace FontPrep

namespace Side

theorem forall_iff {holds : Side → Prop} : (∀ side, holds side) ↔ holds .first ∧ holds .second := by
  constructor
  · intro both
    exact ⟨both .first, both .second⟩
  · rintro ⟨first, second⟩ side
    cases side with
    | first => exact first
    | second => exact second

instance instDecidableForall {holds : Side → Prop} [DecidablePred holds] :
    Decidable (∀ side, holds side) :=
  decidable_of_iff _ forall_iff.symm

/-- A text does not start with the leads of both sides if they are equally long and differ. -/
theorem eq_of_leads {lead : Side → String} {side other : Side} {text : List Char}
    (long : ∀ one two, (lead one).toList.length = (lead two).toList.length)
    (apart : ∀ one two, (lead one).toList = (lead two).toList → one = two)
    (starts : (lead side).toList <+: text) (startsToo : (lead other).toList <+: text) :
    side = other := by
  have within := List.prefix_of_prefix_length_le starts startsToo (Nat.le_of_eq (long side other))
  exact apart side other (within.eq_of_length (long side other))

/-- No name looks like that of a group of both sides. -/
theorem owns_unique {side other : Side} {name : String} (owns : side.owns name = true)
    (ownsToo : other.owns name = true) : side = other := by
  unfold Side.owns at owns ownsToo
  rw [List.isPrefixOf_iff_prefix] at owns ownsToo
  exact eq_of_leads (by decide) (by decide) owns ownsToo

theorem ofGroup?_eq_some_iff {side : Side} {name : String} :
    ofGroup? name = some side ↔ side.owns name = true := by
  have owner {other : Side} (found : ofGroup? name = some other) : other.owns name = true := by
    unfold ofGroup? at found
    simpa using List.find?_some found
  constructor
  · exact owner
  · intro owns
    have found : (ofGroup? name).isSome = true :=
      List.find?_isSome.mpr ⟨side, by cases side <;> simp, owns⟩
    obtain ⟨other, same⟩ := Option.isSome_iff_exists.mp found
    rw [same, owns_unique (owner same) owns]

end Side

namespace Groups

private theorem pairwise_cons_idxOf {head : String} {rest names : List String}
    (others : ∀ name ∈ names, name ≠ head)
    (ordered : names.Pairwise fun one two => rest.idxOf one < rest.idxOf two) :
    names.Pairwise fun one two => (head :: rest).idxOf one < (head :: rest).idxOf two := by
  refine ordered.imp_of_mem fun {one two} memberOne memberTwo smaller => ?_
  rw [List.idxOf_cons_ne _ (others one memberOne).symm,
    List.idxOf_cons_ne _ (others two memberTwo).symm]
  omega

/-- Dropping repeats from what a test keeps leaves it in the order of first positions. -/
theorem eraseDups_filter_ordered (members : List String) (test : String → Bool) :
    (members.filter test).eraseDups.Pairwise fun one two =>
      members.idxOf one < members.idxOf two := by
  induction members generalizing test with
  | nil => simp
  | cons head rest ih =>
    by_cases kept : test head = true
    · rw [List.filter_cons_of_pos kept, List.eraseDups_cons, List.filter_filter]
      have others (name : String)
          (member : name ∈ (rest.filter fun name => !name == head && test name).eraseDups) :
          name ≠ head := by
        intro same
        simp [List.mem_eraseDups, same] at member
      refine List.pairwise_cons.mpr ⟨fun name member => ?_, pairwise_cons_idxOf others (ih _)⟩
      rw [List.idxOf_cons_self, List.idxOf_cons_ne _ (others name member).symm]
      omega
    · rw [List.filter_cons_of_neg kept]
      refine pairwise_cons_idxOf (fun name member same => kept ?_) (ih test)
      rw [List.mem_eraseDups, List.mem_filter] at member
      exact same ▸ member.2

theorem present_ordered (names : NameSet) (members : List String) :
    (present names members).Pairwise fun one two => members.idxOf one < members.idxOf two :=
  eraseDups_filter_ordered members _

theorem retained?_eq_some_iff {names : NameSet} {side : Side} {group : String}
    {members kept : List String} : retained? names side group members = some kept ↔
      side.owns group = true ∧ kept = present names members ∧ kept ≠ [] := by
  unfold retained?
  by_cases owns : side.owns group = true
  · rw [if_pos owns]
    split
    · rename_i empty
      simp [empty]
    · rename_i filled
      constructor
      · intro found
        cases found
        exact ⟨owns, rfl, filled⟩
      · intro holds
        obtain ⟨_, rfl, _⟩ := holds
        rfl
  · simp [owns]

theorem get_collect (names : NameSet) (sides : Pair Groups Groups) (row : String × List String)
    (side : Side) : (collect names sides row).get side =
      match retained? names side row.1 row.2 with
      | none => sides.get side
      | some kept => (sides.get side).insert row.1 kept := by
  -- A name belongs to one side at most, so a row of the other side is none for this one.
  have foreign (free : side.owns row.1 ≠ true) : retained? names side row.1 row.2 = none :=
    if_neg free
  unfold collect
  cases found : Side.ofGroup? row.1 with
  | none =>
    rw [foreign fun owns => by simp [Side.ofGroup?_eq_some_iff.mpr owns] at found]
  | some own =>
    dsimp only
    by_cases same : own = side
    · subst own
      cases retained? names side row.1 row.2 with
      | none => rfl
      | some kept => exact (Pair.get_modify ..).trans (if_pos rfl)
    · have owns := Side.ofGroup?_eq_some_iff.mp found
      rw [foreign fun ownsToo => same (Side.owns_unique owns ownsToo)]
      cases retained? names own row.1 row.2 with
      | none => rfl
      | some kept => exact (Pair.get_modify ..).trans (if_neg same)

/-- Collecting enters the retained groups of a side in the order in which they come. -/
theorem get_foldl_collect (names : NameSet) (rows : List (String × List String))
    (sides : Pair Groups Groups) (side : Side) : (rows.foldl (collect names) sides).get side =
      (sides.get side).insertMany (rows.filterMap fun row =>
        (retained? names side row.1 row.2).map fun kept => (row.1, kept)) := by
  induction rows generalizing sides with
  | nil => rfl
  | cons row rest ih =>
    rw [List.foldl_cons, ih, get_collect, List.filterMap_cons]
    cases retained? names side row.1 row.2 with
    | none => rfl
    | some kept => exact Std.ExtTreeMap.insertMany_cons.symm

end Groups

namespace Font

variable {font : Font} {side : Side} {group : String} {kept : List String}

theorem getElem?_kerningGroups : (font.kerningGroups side)[group]? = some kept ↔
    side.owns group = true ∧ ∃ members, font.groups[group]? = some members ∧
      kept = Groups.present font.nameSet members ∧ kept ≠ [] := by
  have entered : font.kerningGroups side = .ofList (font.groups.toList.filterMap fun row =>
      (Groups.retained? font.nameSet side row.1 row.2).map fun kept => (row.1, kept)) := by
    rw [kerningGroups, sideGroups, Groups.get_foldl_collect,
      Std.ExtTreeMap.ofList_eq_insertMany_empty]
    cases side <;> rfl
  rw [entered]
  refine Rows.getElem?_ofList_iff (fun group kept => side.owns group = true ∧
    ∃ members, font.groups[group]? = some members ∧
      kept = Groups.present font.nameSet members ∧ kept ≠ []) (fun group kept => ?_) ?_
  · simp only [List.mem_filterMap, Option.map_eq_some_iff, Groups.retained?_eq_some_iff,
      Table.getElem?_eq_some_iff, Prod.exists, Prod.mk.injEq]
    constructor
    · rintro ⟨_, members, found, _, ⟨owns, same, filled⟩, rfl, rfl⟩
      exact ⟨owns, members, found, same, filled⟩
    · rintro ⟨owns, members, found, same, filled⟩
      exact ⟨group, members, found, kept, ⟨owns, same, filled⟩, rfl, rfl⟩
  · rintro group kept other ⟨_, members, found, rfl, _⟩ ⟨_, again, foundAgain, rfl, _⟩
    rw [Option.some.inj (found.symm.trans foundAgain)]

theorem mem_kerningGroups : group ∈ font.kerningGroups side ↔
    side.owns group = true ∧ ∃ members, font.groups[group]? = some members ∧
      ∃ glyph ∈ members, glyph ∈ font.glyphNames := by
  rw [Std.ExtTreeMap.mem_iff_isSome_getElem?, Option.isSome_iff_exists]
  simp only [getElem?_kerningGroups]
  constructor
  · intro retained
    obtain ⟨_, owns, members, found, rfl, filled⟩ := retained
    obtain ⟨glyph, present⟩ := List.exists_mem_of_ne_nil _ filled
    obtain ⟨member, named⟩ := Groups.mem_present.mp present
    exact ⟨owns, members, found, glyph, member, mem_nameSet.mp named⟩
  · intro holds
    obtain ⟨owns, members, found, glyph, member, named⟩ := holds
    have present := Groups.mem_present.mpr ⟨member, mem_nameSet.mpr named⟩
    exact ⟨_, owns, members, found, rfl, List.ne_nil_of_mem present⟩

/-- Whether a name is that of a kerning group of the side that lists a glyph of the font. -/
def Retains (font : Font) (side : Side) (name : String) : Prop :=
  side.owns name = true ∧ ∃ glyph ∈ font.glyphNames, Groups.Lists font.groups name glyph

instance instDecidableRetains (font : Font) (side : Side) (name : String) :
    Decidable (font.Retains side name) :=
  inferInstanceAs (Decidable (_ ∧ _))

theorem mem_kerningGroups_iff_retains :
    group ∈ font.kerningGroups side ↔ font.Retains side group := by
  rw [mem_kerningGroups, Retains]
  simp only [Groups.lists_iff, Table.getElem?_sorted]
  constructor
  · intro retained
    obtain ⟨owns, members, found, glyph, member, named⟩ := retained
    exact ⟨owns, glyph, named, members, found, member⟩
  · intro retained
    obtain ⟨owns, glyph, named, members, found, member⟩ := retained
    exact ⟨owns, members, found, glyph, member, named⟩

/-- A retained group lists the members that are glyphs of the font. -/
theorem lists_kerningGroups {glyph : String} : (font.kerningGroups side).Lists group glyph ↔
    side.owns group = true ∧ glyph ∈ font.glyphNames ∧ Groups.Lists font.groups group glyph := by
  simp only [Groups.lists_iff, getElem?_kerningGroups, Table.getElem?_sorted]
  constructor
  · intro listed
    obtain ⟨_, ⟨owns, members, found, rfl, _⟩, present⟩ := listed
    obtain ⟨member, named⟩ := Groups.mem_present.mp present
    exact ⟨owns, mem_nameSet.mp named, members, found, member⟩
  · intro holds
    obtain ⟨owns, named, members, found, member⟩ := holds
    have present := Groups.mem_present.mpr ⟨member, mem_nameSet.mpr named⟩
    exact ⟨_, ⟨owns, members, found, rfl, List.ne_nil_of_mem present⟩, present⟩

end Font

namespace Key

variable {side : Side} {groups : Groups} {glyphs : NameSet} {name : String} {key : Key}

theorem resolve_eq_ok_iff : resolve side groups glyphs name = .ok key ↔
    Key.group name = key ∧ name ∈ groups ∨
      Key.glyph name = key ∧ name ∉ groups ∧ side.owns name = false ∧ name ∈ glyphs := by
  unfold resolve
  split
  · simp_all
  · split
    · simp_all
    · split <;> simp_all

/-- A key keeps the name that it resolves. -/
theorem name_of_resolve (resolved : resolve side groups glyphs name = .ok key) :
    key.name = name := by
  rcases resolve_eq_ok_iff.mp resolved with ⟨rfl, _⟩ | ⟨rfl, _⟩ <;> rfl

end Key

theorem Pairs.resolve_eq_ok_iff {groups : Pair Groups Groups} {glyphs : NameSet}
    {entry : Pair String String} {pair : Pair Key Key} :
    Pairs.resolve groups glyphs entry = .ok pair ↔
      Key.resolve .first groups.first glyphs entry.first = .ok pair.first ∧
        Key.resolve .second groups.second glyphs entry.second = .ok pair.second := by
  obtain ⟨first, second⟩ := pair
  unfold Pairs.resolve
  cases Key.resolve .first groups.first glyphs entry.first <;>
    cases Key.resolve .second groups.second glyphs entry.second <;>
      simp [bind, Except.bind, pure, Except.pure]

/-- Each kept entry stands under the pair that it resolves to, and no two under one. -/
theorem Font.getElem?_pairs {font : Font} {groups : Pair Groups Groups} {pair : Pair Key Key}
    {value : Int} : (font.pairs groups)[pair]? = some value ↔
      ∃ entry, font.kerning[entry]? = some value ∧
        Pairs.resolve groups font.nameSet entry = .ok pair := by
  refine Rows.getElem?_ofList_iff (fun pair value => ∃ entry, font.kerning[entry]? = some value ∧
    Pairs.resolve groups font.nameSet entry = .ok pair) (fun pair value => ?_) ?_
  · simp only [List.mem_filterMap, Prod.exists, Table.getElem?_eq_some_iff, Option.map_eq_some_iff,
      Prod.mk.injEq]
    constructor
    · intro member
      obtain ⟨entry, _, found, _, resolved, rfl, rfl⟩ := member
      refine ⟨entry, found, ?_⟩
      cases same : Pairs.resolve groups font.nameSet entry with
      | error cause => simp [same, Except.toOption] at resolved
      | ok pair => simpa [same, Except.toOption] using resolved
    · intro holds
      obtain ⟨entry, found, resolved⟩ := holds
      exact ⟨entry, value, found, pair, by rw [resolved]; rfl, rfl, rfl⟩
  · rintro pair value other ⟨entry, found, resolved⟩ ⟨again, foundAgain, resolvedAgain⟩
    rw [Pairs.resolve_eq_ok_iff] at resolved resolvedAgain
    have same : entry = again := by
      cases entry
      cases again
      simp only [Pair.mk.injEq]
      exact ⟨(Key.name_of_resolve resolved.1).symm.trans (Key.name_of_resolve resolvedAgain.1),
        (Key.name_of_resolve resolved.2).symm.trans (Key.name_of_resolve resolvedAgain.2)⟩
    subst again
    exact Option.some.inj (found.symm.trans foundAgain)

namespace Font

variable {font other : Font}

theorem nameSet_of_perm (glyphs : font.glyphs.Perm other.glyphs) :
    font.nameSet = other.nameSet := by
  refine Std.ExtTreeSet.ext_mem fun name => ?_
  rw [mem_nameSet, mem_nameSet]
  exact (glyphs.map Glyph.name).mem_iff

/-- Groups are collected alike in whatever order the font has them. -/
theorem sideGroups_of_perm (glyphs : font.glyphs.Perm other.glyphs)
    (groups : font.groups.toList.Perm other.groups.toList) :
    font.sideGroups = other.sideGroups := by
  have collected (side : Side) : font.kerningGroups side = other.kerningGroups side := by
    refine Std.ExtTreeMap.ext_getElem? fun group => Option.ext fun kept => ?_
    rw [getElem?_kerningGroups, getElem?_kerningGroups, Table.getElem?_of_perm groups,
      nameSet_of_perm glyphs]
  rw [sideGroups_eq, sideGroups_eq, collected, collected]

/-- Kerning is collected alike in whatever order the font has it. -/
theorem pairs_of_perm (glyphs : font.glyphs.Perm other.glyphs)
    (kerning : font.kerning.toList.Perm other.kerning.toList) (groups : Pair Groups Groups) :
    font.pairs groups = other.pairs groups := by
  refine Std.ExtTreeMap.ext_getElem? fun pair => Option.ext fun value => ?_
  simp only [getElem?_pairs, Table.getElem?_of_perm kerning, nameSet_of_perm glyphs]

end Font

end FontPrep
