import FontPrep.Proofs.Kerning.Expansion
import FontPrep.Proofs.Kerning.Owners

/-! What separated kerning holds, said of the pairs and groups alone. Pairs of two glyphs and of two
groups stay as they are. A mixed pair stays if its glyph is in no group of its own side; else it
becomes a list of the members of its group that no pair of glyphs and no exception made before it
speaks for. -/
namespace FontPrep

theorem Pair.compare_eq_lt {α β : Type} [Ord α] [Ord β] {one two : Pair α β} :
    compare one two = .lt ↔ compare one.first two.first = .lt ∨
      compare one.first two.first = .eq ∧ compare one.second two.second = .lt := by
  simp [compare, compareLex, compareOn, Ordering.then_eq_lt]

@[simp] theorem Key.compare_group {one two : String} :
    compare (Key.group one) (.group two) = .lt ↔ one < two := by
  change compare one two = .lt ↔ one < two
  exact compare_lt_iff_lt

namespace Pairs

variable {pairs : Pairs} {groups : Pair Groups Groups} {side : Side} {entry : Mixed}

/-- Whether the exception for a glyph and a second-side group lists the member. -/
def GlyphListed (pairs : Pairs) (groups : Pair Groups Groups) (glyph group member : String) :
    Prop :=
  groups.second.Lists group member ∧ ⟨.glyph glyph, .glyph member⟩ ∉ pairs ∧
    ∀ earlier < group, ⟨.glyph glyph, .group earlier⟩ ∈ pairs → ¬ groups.second.Lists earlier member

/-- Whether the exception for a first-side group and a glyph lists the member. The exceptions of
glyphs and second-side groups come before it. -/
def ListedGlyph (pairs : Pairs) (groups : Pair Groups Groups) (group glyph member : String) :
    Prop :=
  groups.first.Lists group member ∧ ⟨.glyph member, .glyph glyph⟩ ∉ pairs ∧
    (∀ other, ⟨.glyph member, .group other⟩ ∈ pairs → ¬ groups.second.Lists other glyph) ∧
    ∀ earlier < group, ⟨.group earlier, .glyph glyph⟩ ∈ pairs → ¬ groups.first.Lists earlier member

theorem mem_glyphPairs {first second : String} {value : Int} :
    (⟨first, second⟩, value) ∈ pairs.glyphPairs ↔
      pairs[Pair.mk (Key.glyph first) (Key.glyph second)]? = some value := by
  rw [← Std.ExtTreeMap.mem_toList_iff_getElem?_eq_some]
  simp only [glyphPairs, List.mem_filterMap, Prod.exists]
  constructor
  · intro member
    obtain ⟨⟨one, two⟩, found, present, same⟩ := member
    cases one <;> cases two <;> simp_all
  · intro present
    exact ⟨_, _, present, rfl⟩

theorem mem_groupPairs {first second : String} {value : Int} :
    (⟨first, second⟩, value) ∈ pairs.groupPairs ↔
      pairs[Pair.mk (Key.group first) (Key.group second)]? = some value := by
  rw [← Std.ExtTreeMap.mem_toList_iff_getElem?_eq_some]
  simp only [groupPairs, List.mem_filterMap, Prod.exists]
  constructor
  · intro member
    obtain ⟨⟨one, two⟩, found, present, same⟩ := member
    cases one <;> cases two <;> simp_all
  · intro present
    exact ⟨_, _, present, rfl⟩

theorem mem_mixed_iff : entry ∈ pairs.mixed side ↔ pairs[entry.pair side]? = some entry.value := by
  rw [mem_mixed, Std.ExtTreeMap.mem_toList_iff_getElem?_eq_some]

private theorem lt_of_pair_lt {earlier later : Mixed} (same : earlier.glyph = later.glyph)
    (smaller : compare (earlier.pair side) (later.pair side) = .lt) :
    earlier.group < later.group := by
  rw [Pair.compare_eq_lt] at smaller
  have self : compare (Key.glyph later.glyph) (.glyph later.glyph) = .eq := Std.ReflOrd.compare_self
  cases side <;> simpa [Mixed.pair, Pair.on, same, self] using smaller

theorem mixed_ordered (pairs : Pairs) (side : Side) : Expansion.Ordered (pairs.mixed side) := by
  have ordered := Std.ExtTreeMap.ordered_keys_toList (t := pairs)
  refine ordered.filterMap _ fun one two smaller earlier found later next same => ?_
  have sourceOne : one.1 = earlier.pair side := by
    obtain ⟨⟨first, second⟩, value⟩ := one
    cases side <;> cases first <;> cases second <;> cases found <;> rfl
  have sourceTwo : two.1 = later.pair side := by
    obtain ⟨⟨first, second⟩, value⟩ := two
    cases side <;> cases first <;> cases second <;> cases next <;> rfl
  rw [sourceOne, sourceTwo] at smaller
  exact lt_of_pair_lt same smaller

/-- A mixed pair that is there may be generalized exactly if some group lists its glyph. -/
theorem mayBeGeneralized_iff (found : pairs[entry.pair side]? = some entry.value) :
    pairs.mayBeGeneralized groups.owners (entry.pair side) = true ↔
      ∃ owner, (groups.get side.other).Lists owner entry.glyph := by
  rw [mayBeGeneralized_mixed, Pair.owners, Pair.get_map, Bool.and_eq_true, decide_eq_true_iff,
    decide_eq_true_iff, Owners.mem_ofGroups]
  exact and_iff_left (Rows.mem_of_found found)

theorem mem_ambiguous : entry ∈ pairs.ambiguous groups side ↔
    pairs[entry.pair side]? = some entry.value ∧
      ∃ owner, (groups.get side.other).Lists owner entry.glyph := by
  rw [ambiguous, List.mem_filter, mem_mixed_iff]
  exact and_congr_right fun found => mayBeGeneralized_iff found

theorem mem_plain : entry ∈ pairs.plain groups side ↔
    pairs[entry.pair side]? = some entry.value ∧
      ¬ ∃ owner, (groups.get side.other).Lists owner entry.glyph := by
  rw [plain, List.mem_filter, mem_mixed_iff]
  refine and_congr_right fun found => ?_
  rw [Bool.not_eq_true', ← Bool.not_eq_true]
  exact not_congr (mayBeGeneralized_iff found)

theorem ambiguous_ordered (pairs : Pairs) (groups : Pair Groups Groups) (side : Side) :
    Expansion.Ordered (pairs.ambiguous groups side) :=
  (mixed_ordered pairs side).sublist List.filter_sublist

/-- The entries with one glyph that are spelled out are the pairs with it, if it has an owner. -/
theorem exists_ambiguous_iff {glyph : String} (holds : String → Prop) :
    (∃ entry ∈ pairs.ambiguous groups side, entry.glyph = glyph ∧ holds entry.group) ↔
      (∃ owner, (groups.get side.other).Lists owner glyph) ∧
        ∃ group, Pair.on side (Key.group group) (.glyph glyph) ∈ pairs ∧ holds group := by
  constructor
  · intro made
    obtain ⟨entry, present, rfl, condition⟩ := made
    obtain ⟨found, owned⟩ := mem_ambiguous.mp present
    exact ⟨owned, entry.group, Rows.mem_of_found found, condition⟩
  · intro holds
    obtain ⟨owned, group, present, condition⟩ := holds
    obtain ⟨value, found⟩ := Rows.exists_of_mem present
    exact ⟨⟨group, glyph, value⟩, mem_ambiguous.mpr ⟨found, owned⟩, rfl, condition⟩

/-- The exceptions with the group on one side, over what is covered before them. -/
theorem mem_exceptions_iff {covered : Covered} {members : List String} :
    ⟨entry, members⟩ ∈ ((pairs.ambiguous groups side).foldl
        (Expansion.spellOut side (groups.get side)) { covered }).exceptions ↔
      entry ∈ pairs.ambiguous groups side ∧ Enumerates members fun member =>
        (groups.get side).Lists entry.group member ∧ Pair.on side member entry.glyph ∉ covered ∧
          ∀ earlier < entry.group, Pair.on side (.group earlier) (.glyph entry.glyph) ∈ pairs →
            ¬ (groups.get side).Lists earlier member := by
  have condition (present : entry ∈ pairs.ambiguous groups side) (member : String) :
      (¬ ∃ earlier ∈ pairs.ambiguous groups side, earlier.glyph = entry.glyph ∧
        earlier.group < entry.group ∧ (groups.get side).Lists earlier.group member) ↔
      ∀ earlier < entry.group, Pair.on side (.group earlier) (.glyph entry.glyph) ∈ pairs →
        ¬ (groups.get side).Lists earlier member := by
    have owned := (mem_ambiguous.mp present).2
    rw [exists_ambiguous_iff fun group =>
      group < entry.group ∧ (groups.get side).Lists group member]
    constructor
    · intro none earlier smaller spoken listed
      exact none ⟨owned, earlier, spoken, smaller, listed⟩
    · rintro free ⟨_, earlier, spoken, smaller, listed⟩
      exact free earlier smaller spoken listed
  rw [Expansion.mem_exceptions_ordered (ambiguous_ordered pairs groups side)]
  refine and_congr_right fun present => ?_
  simp only [condition present]

theorem mem_covered_glyphPairs {first second : String} :
    Pair.mk first second ∈ Std.ExtTreeSet.ofList (pairs.glyphPairs.map Prod.fst) ↔
      ⟨.glyph first, .glyph second⟩ ∈ pairs := by
  simp only [Std.ExtTreeSet.mem_ofList, List.contains_iff_mem, List.mem_map, Prod.exists,
    exists_and_right, exists_eq_right, mem_glyphPairs, Std.ExtTreeMap.mem_iff_isSome_getElem?,
    Option.isSome_iff_exists]

/-- After the exceptions for glyphs and second-side groups, what is covered is what pairs of glyphs
and pairs of a glyph with an owner and a group speak for. -/
theorem mem_covered_second {first second : String} :
    Pair.mk first second ∈ (pairs.expansions groups).second.covered ↔
      ⟨.glyph first, .glyph second⟩ ∈ pairs ∨ (∃ owner, groups.first.Lists owner first) ∧
        ∃ group, ⟨.glyph first, .group group⟩ ∈ pairs ∧ groups.second.Lists group second := by
  rw [← mem_covered_glyphPairs]
  have spoken : (∃ entry ∈ pairs.ambiguous groups .second, entry.glyph = first ∧
      groups.second.Lists entry.group second) ↔ _ :=
    exists_ambiguous_iff fun group => groups.second.Lists group second
  exact Expansion.mem_covered_run.trans (or_congr_right spoken)

theorem mem_exceptions_second {members : List String} :
    ⟨entry, members⟩ ∈ (pairs.expansions groups).second.exceptions ↔
      entry ∈ pairs.ambiguous groups .second ∧
        Enumerates members (pairs.GlyphListed groups entry.glyph entry.group) := by
  refine mem_exceptions_iff.trans (and_congr_right fun _ => Enumerates.congr fun member => ?_)
  simp only [Pair.on, mem_covered_glyphPairs]
  rfl

/-- A member has an owner, so the pairs of it and a group of the glyph are all spelled out. -/
theorem mem_exceptions_first {members : List String} :
    ⟨entry, members⟩ ∈ (pairs.expansions groups).first.exceptions ↔
      entry ∈ pairs.ambiguous groups .first ∧
        Enumerates members (pairs.ListedGlyph groups entry.group entry.glyph) := by
  refine mem_exceptions_iff.trans (and_congr_right fun _ => Enumerates.congr fun member =>
    and_congr_right fun listed => ?_)
  have owned : ∃ owner, groups.first.Lists owner member := ⟨entry.group, listed⟩
  have spoken : Pair.mk member entry.glyph ∉ (pairs.expansions groups).second.covered ↔
      ⟨.glyph member, .glyph entry.glyph⟩ ∉ pairs ∧
        ∀ other, ⟨.glyph member, .group other⟩ ∈ pairs →
          ¬ groups.second.Lists other entry.glyph := by
    rw [mem_covered_second]
    simp only [owned, true_and, not_or, not_exists, not_and]
  exact (and_congr_left' spoken).trans and_assoc

theorem exists_glyphListed {glyph group : String} {value : Int}
    (found : pairs[Pair.mk (Key.glyph glyph) (Key.group group)]? = some value)
    (owned : ∃ owner, groups.first.Lists owner glyph) :
    ∃ members, Enumerates members (pairs.GlyphListed groups glyph group) := by
  have present : Mixed.mk group glyph value ∈ pairs.ambiguous groups .second :=
    mem_ambiguous.mpr ⟨found, owned⟩
  obtain ⟨members, made⟩ := Expansion.exists_exception present
  exact ⟨members, (mem_exceptions_second.mp made).2⟩

theorem exists_listedGlyph {group glyph : String} {value : Int}
    (found : pairs[Pair.mk (Key.group group) (Key.glyph glyph)]? = some value)
    (owned : ∃ owner, groups.second.Lists owner glyph) :
    ∃ members, Enumerates members (pairs.ListedGlyph groups group glyph) := by
  have present : Mixed.mk group glyph value ∈ pairs.ambiguous groups .first :=
    mem_ambiguous.mpr ⟨found, owned⟩
  obtain ⟨members, made⟩ := Expansion.exists_exception present
  exact ⟨members, (mem_exceptions_first.mp made).2⟩

/-- Of the groups that list a member, only the smallest one spoken for has no smaller one. -/
private theorem eq_of_smallest {lists spoken : String → Prop} {group other : String}
    (listed : lists group) (listedOther : lists other) (present : spoken group)
    (presentOther : spoken other) (smallest : ∀ earlier < group, spoken earlier → ¬ lists earlier)
    (smallestOther : ∀ earlier < other, spoken earlier → ¬ lists earlier) : group = other := by
  rcases lt_trichotomy group other with smaller | same | larger
  · exact absurd listed (smallestOther group smaller present)
  · exact same
  · exact absurd listedOther (smallest other larger presentOther)

/-- A member is listed with a glyph for one second-side group only. -/
theorem GlyphListed.group_unique {glyph group other member : String}
    (listed : pairs.GlyphListed groups glyph group member)
    (again : pairs.GlyphListed groups glyph other member)
    (spoken : ⟨.glyph glyph, .group group⟩ ∈ pairs)
    (spokenAgain : ⟨.glyph glyph, .group other⟩ ∈ pairs) : group = other := by
  obtain ⟨lists, _, smallest⟩ := listed
  obtain ⟨listsAgain, _, smallestAgain⟩ := again
  exact eq_of_smallest lists listsAgain spoken spokenAgain smallest smallestAgain

/-- A member is listed with a glyph for one first-side group only. -/
theorem ListedGlyph.group_unique {glyph group other member : String}
    (listed : pairs.ListedGlyph groups group glyph member)
    (again : pairs.ListedGlyph groups other glyph member)
    (spoken : ⟨.group group, .glyph glyph⟩ ∈ pairs)
    (spokenAgain : ⟨.group other, .glyph glyph⟩ ∈ pairs) : group = other := by
  obtain ⟨lists, _, _, smallest⟩ := listed
  obtain ⟨listsAgain, _, _, smallestAgain⟩ := again
  exact eq_of_smallest lists listsAgain spoken spokenAgain smallest smallestAgain

theorem glyphListed_apart {glyph group other : String} {members : List String} {value number : Int}
    (filled : members ≠ [])
    (listed : Enumerates members (pairs.GlyphListed groups glyph group))
    (again : Enumerates members (pairs.GlyphListed groups glyph other))
    (found : pairs[Pair.mk (Key.glyph glyph) (Key.group group)]? = some value)
    (foundAgain : pairs[Pair.mk (Key.glyph glyph) (Key.group other)]? = some number) :
    group = other := by
  obtain ⟨member, present⟩ := List.exists_mem_of_ne_nil _ filled
  exact ((listed.2 member).mp present).group_unique ((again.2 member).mp present)
    (Rows.mem_of_found found) (Rows.mem_of_found foundAgain)

theorem listedGlyph_apart {group other glyph : String} {members : List String} {value number : Int}
    (filled : members ≠ [])
    (listed : Enumerates members (pairs.ListedGlyph groups group glyph))
    (again : Enumerates members (pairs.ListedGlyph groups other glyph))
    (found : pairs[Pair.mk (Key.group group) (Key.glyph glyph)]? = some value)
    (foundAgain : pairs[Pair.mk (Key.group other) (Key.glyph glyph)]? = some number) :
    group = other := by
  obtain ⟨member, present⟩ := List.exists_mem_of_ne_nil _ filled
  exact ((listed.2 member).mp present).group_unique ((again.2 member).mp present)
    (Rows.mem_of_found found) (Rows.mem_of_found foundAgain)

end Pairs

namespace Separation

variable {pairs : Pairs} {groups : Pair Groups Groups}

theorem glyphGlyph_iff {first second : String} {value : Int} :
    (ofPairs pairs groups).glyphGlyph[Pair.mk first second]? = some value ↔
      pairs[Pair.mk (Key.glyph first) (Key.glyph second)]? = some value :=
  Rows.getElem?_ofList_iff (fun (key : Pair String String) value =>
      pairs[Pair.mk (Key.glyph key.first) (Key.glyph key.second)]? = some value)
    (fun _ _ => Pairs.mem_glyphPairs) (fun _ _ _ one two => Option.some.inj (one.symm.trans two))

theorem groupGroup_iff {first second : String} {value : Int} :
    (ofPairs pairs groups).groupGroup[Pair.mk first second]? = some value ↔
      pairs[Pair.mk (Key.group first) (Key.group second)]? = some value :=
  Rows.getElem?_ofList_iff (fun (key : Pair String String) value =>
      pairs[Pair.mk (Key.group key.first) (Key.group key.second)]? = some value)
    (fun _ _ => Pairs.mem_groupPairs) (fun _ _ _ one two => Option.some.inj (one.symm.trans two))

/-- A glyph in no first-side group keeps its pairs with second-side groups as they are. -/
theorem glyphGroup_iff {glyph group : String} {value : Int} :
    (ofPairs pairs groups).glyphGroup[Pair.mk glyph group]? = some value ↔
      pairs[Pair.mk (Key.glyph glyph) (Key.group group)]? = some value ∧
        ¬ ∃ owner, groups.first.Lists owner glyph := by
  refine Rows.getElem?_ofList_iff (fun (key : Pair String String) value =>
    pairs[Pair.mk (Key.glyph key.first) (Key.group key.second)]? = some value ∧
      ¬ ∃ owner, groups.first.Lists owner key.first) (fun key value => ?_)
    (fun _ _ _ one two => Option.some.inj (one.1.symm.trans two.1))
  rw [Rows.mem_map_iff (fun row => Mixed.mk row.1.second row.1.first row.2) (fun _ => rfl)
    (fun _ => rfl)]
  exact Pairs.mem_plain

/-- A glyph in no second-side group keeps its pairs with first-side groups as they are. -/
theorem groupGlyph_iff {group glyph : String} {value : Int} :
    (ofPairs pairs groups).groupGlyph[Pair.mk group glyph]? = some value ↔
      pairs[Pair.mk (Key.group group) (Key.glyph glyph)]? = some value ∧
        ¬ ∃ owner, groups.second.Lists owner glyph := by
  refine Rows.getElem?_ofList_iff (fun (key : Pair String String) value =>
    pairs[Pair.mk (Key.group key.first) (Key.glyph key.second)]? = some value ∧
      ¬ ∃ owner, groups.second.Lists owner key.second) (fun key value => ?_)
    (fun _ _ _ one two => Option.some.inj (one.1.symm.trans two.1))
  rw [Rows.mem_map_iff (fun row => Mixed.mk row.1.first row.1.second row.2) (fun _ => rfl)
    (fun _ => rfl)]
  exact Pairs.mem_plain

theorem mem_listed {expansion : Expansion} {members : List String} {glyph : String} {value : Int} :
    (members, glyph, value) ∈ listed expansion ↔
      members ≠ [] ∧ ∃ group, ⟨⟨group, glyph, value⟩, members⟩ ∈ expansion.exceptions := by
  simp only [listed, List.mem_filterMap, Array.mem_toList_iff]
  constructor
  · intro member
    obtain ⟨⟨⟨group, name, number⟩, names⟩, present, same⟩ := member
    cases names with
    | nil => cases same
    | cons head rest =>
      cases same
      exact ⟨List.cons_ne_nil _ _, group, present⟩
  · intro made
    obtain ⟨filled, group, present⟩ := made
    refine ⟨_, present, ?_⟩
    cases members with
    | nil => exact absurd rfl filled
    | cons head rest => rfl

/-- Every list made for a glyph and a second-side group comes from one pair of them. -/
theorem glyphListed_iff {glyph : String} {members : List String} {value : Int} :
    (ofPairs pairs groups).glyphListed[Pair.mk glyph members]? = some value ↔
      members ≠ [] ∧ ∃ group, pairs[Pair.mk (Key.glyph glyph) (Key.group group)]? = some value ∧
        (∃ owner, groups.first.Lists owner glyph) ∧
          Enumerates members (pairs.GlyphListed groups glyph group) := by
  refine Rows.getElem?_ofList_iff (fun (key : Pair String (List String)) value =>
    key.second ≠ [] ∧ ∃ group,
      pairs[Pair.mk (Key.glyph key.first) (Key.group group)]? = some value ∧
        (∃ owner, groups.first.Lists owner key.first) ∧
          Enumerates key.second (pairs.GlyphListed groups key.first group))
    (fun key value => ?_) ?_
  · rw [Rows.mem_map_iff (fun row => (row.1.second, row.1.first, row.2)) (fun _ => rfl)
      (fun _ => rfl), mem_listed]
    simp only [Pairs.mem_exceptions_second, Pairs.mem_ambiguous, and_assoc]
    rfl
  · rintro key value other ⟨filled, group, found, _, listed⟩ ⟨_, again, foundAgain, _, listedAgain⟩
    obtain rfl := Pairs.glyphListed_apart filled listed listedAgain found foundAgain
    exact Option.some.inj (found.symm.trans foundAgain)

/-- Every list made for a first-side group and a glyph comes from one pair of them. -/
theorem listedGlyph_iff {members : List String} {glyph : String} {value : Int} :
    (ofPairs pairs groups).listedGlyph[Pair.mk members glyph]? = some value ↔
      members ≠ [] ∧ ∃ group, pairs[Pair.mk (Key.group group) (Key.glyph glyph)]? = some value ∧
        (∃ owner, groups.second.Lists owner glyph) ∧
          Enumerates members (pairs.ListedGlyph groups group glyph) := by
  refine Rows.getElem?_ofList_iff (fun (key : Pair (List String) String) value =>
    key.first ≠ [] ∧ ∃ group,
      pairs[Pair.mk (Key.group group) (Key.glyph key.second)]? = some value ∧
        (∃ owner, groups.second.Lists owner key.second) ∧
          Enumerates key.first (pairs.ListedGlyph groups group key.second))
    (fun key value => ?_) ?_
  · rw [Rows.mem_map_iff (fun row => (row.1.first, row.1.second, row.2)) (fun _ => rfl)
      (fun _ => rfl), mem_listed]
    simp only [Pairs.mem_exceptions_first, Pairs.mem_ambiguous, and_assoc]
    rfl
  · rintro key value other ⟨filled, group, found, _, listed⟩ ⟨_, again, foundAgain, _, listedAgain⟩
    obtain rfl := Pairs.listedGlyph_apart filled listed listedAgain found foundAgain
    exact Option.some.inj (found.symm.trans foundAgain)

/-- What separated kerning is to hold: the pairs of two glyphs and of two groups, the mixed pairs
whose glyph is in no group of its own side, and for every other mixed pair the list of the members
that are left to it, if there are any. -/
structure Specified (separation : Separation) (pairs : Pairs) (groups : Pair Groups Groups) :
    Prop where
  glyphGlyph : ∀ first second value, separation.glyphGlyph[Pair.mk first second]? = some value ↔
    pairs[Pair.mk (Key.glyph first) (Key.glyph second)]? = some value
  groupGroup : ∀ first second value, separation.groupGroup[Pair.mk first second]? = some value ↔
    pairs[Pair.mk (Key.group first) (Key.group second)]? = some value
  glyphGroup : ∀ glyph group value, separation.glyphGroup[Pair.mk glyph group]? = some value ↔
    pairs[Pair.mk (Key.glyph glyph) (Key.group group)]? = some value ∧
      ¬ ∃ owner, groups.first.Lists owner glyph
  groupGlyph : ∀ group glyph value, separation.groupGlyph[Pair.mk group glyph]? = some value ↔
    pairs[Pair.mk (Key.group group) (Key.glyph glyph)]? = some value ∧
      ¬ ∃ owner, groups.second.Lists owner glyph
  glyphListed : ∀ glyph group value,
    pairs[Pair.mk (Key.glyph glyph) (Key.group group)]? = some value →
      (∃ owner, groups.first.Lists owner glyph) →
        ∃ members, Enumerates members (pairs.GlyphListed groups glyph group) ∧
          (members ≠ [] → separation.glyphListed[Pair.mk glyph members]? = some value)
  /-- Every list is that of one pair alone. -/
  glyphListed_source : ∀ glyph members value,
    separation.glyphListed[Pair.mk glyph members]? = some value →
      members ≠ [] ∧ ∃! group,
        pairs[Pair.mk (Key.glyph glyph) (Key.group group)]? = some value ∧
          (∃ owner, groups.first.Lists owner glyph) ∧
            Enumerates members (pairs.GlyphListed groups glyph group)
  listedGlyph : ∀ group glyph value,
    pairs[Pair.mk (Key.group group) (Key.glyph glyph)]? = some value →
      (∃ owner, groups.second.Lists owner glyph) →
        ∃ members, Enumerates members (pairs.ListedGlyph groups group glyph) ∧
          (members ≠ [] → separation.listedGlyph[Pair.mk members glyph]? = some value)
  /-- Every list is that of one pair alone. -/
  listedGlyph_source : ∀ members glyph value,
    separation.listedGlyph[Pair.mk members glyph]? = some value →
      members ≠ [] ∧ ∃! group,
        pairs[Pair.mk (Key.group group) (Key.glyph glyph)]? = some value ∧
          (∃ owner, groups.second.Lists owner glyph) ∧
            Enumerates members (pairs.ListedGlyph groups group glyph)

/-- Separating does exactly what it should on all kerning, whatever the groups share, repeat or
lack. -/
theorem ofPairs_specified (pairs : Pairs) (groups : Pair Groups Groups) :
    (ofPairs pairs groups).Specified pairs groups where
  glyphGlyph _ _ _ := glyphGlyph_iff
  groupGroup _ _ _ := groupGroup_iff
  glyphGroup _ _ _ := glyphGroup_iff
  groupGlyph _ _ _ := groupGlyph_iff
  glyphListed glyph group value found owned := by
    obtain ⟨members, listed⟩ := Pairs.exists_glyphListed found owned
    exact ⟨members, listed, fun filled => glyphListed_iff.mpr ⟨filled, group, found, owned, listed⟩⟩
  glyphListed_source glyph members value entry := by
    obtain ⟨filled, group, found, owned, listed⟩ := glyphListed_iff.mp entry
    refine ⟨filled, group, ⟨found, owned, listed⟩, ?_⟩
    rintro other ⟨foundAgain, _, listedAgain⟩
    exact Pairs.glyphListed_apart filled listedAgain listed foundAgain found
  listedGlyph group glyph value found owned := by
    obtain ⟨members, listed⟩ := Pairs.exists_listedGlyph found owned
    exact ⟨members, listed, fun filled => listedGlyph_iff.mpr ⟨filled, group, found, owned, listed⟩⟩
  listedGlyph_source members glyph value entry := by
    obtain ⟨filled, group, found, owned, listed⟩ := listedGlyph_iff.mp entry
    refine ⟨filled, group, ⟨found, owned, listed⟩, ?_⟩
    rintro other ⟨foundAgain, _, listedAgain⟩
    exact Pairs.listedGlyph_apart filled listedAgain listed foundAgain found

private def sharedGroups : Pair Groups Groups :=
  ⟨.ofList [("@kern1.A", ["A", "B", "C"]), ("@kern1.B", ["B", "D"])],
    .ofList [("@kern2.V", ["V"])]⟩

private def sharedPairs : Pairs :=
  .ofList ([(⟨.glyph "A", .group "@kern2.V"⟩, 1), (⟨.group "@kern1.A", .glyph "V"⟩, 2),
    (⟨.group "@kern1.B", .glyph "V"⟩, 3)] : List (Pair Key Key × Int))

-- The exception of `A` and the second-side group speaks for `A`, and of the two groups that have
-- `B` the first does.
example : (ofPairs sharedPairs sharedGroups).listedGlyph.toList =
    [(⟨["B", "C"], "V"⟩, 2), (⟨["D"], "V"⟩, 3)] := by decide +kernel

end Separation
end FontPrep
