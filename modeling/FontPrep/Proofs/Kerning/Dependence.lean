import FontPrep.Proofs.Kerning.Classes

/-! What a kern feature depends on: which glyphs of the font its kerning groups list, and the
kerning between names that mean something. Fonts that agree on both have one text, or fail in one
way, whatever the order of their rows. Each stage on the way to the text is shown to keep what the
fonts agree on. -/
namespace FontPrep

attribute [ext] Separation

namespace Groups

variable {groups others : Groups} {names : Std.ExtTreeMap String String} {group glyph : String}

/-- Whether two collections have the same groups, each with the same members in some order. -/
def Agree (groups others : Groups) : Prop :=
  ∀ group : String, groups[group]? = none ∧ others[group]? = none ∨
    ∃ members kept, groups[group]? = some members ∧ others[group]? = some kept ∧ members.Perm kept

theorem Agree.mem (agree : groups.Agree others) : group ∈ groups ↔ group ∈ others := by
  rw [Std.ExtTreeMap.mem_iff_isSome_getElem?, Std.ExtTreeMap.mem_iff_isSome_getElem?]
  rcases agree group with ⟨absent, absentToo⟩ | ⟨_, _, found, foundToo, _⟩
  · rw [absent, absentToo]
  · rw [found, foundToo]
    rfl

theorem Agree.lists (agree : groups.Agree others) :
    groups.Lists group glyph ↔ others.Lists group glyph := by
  rw [lists_iff, lists_iff]
  rcases agree group with ⟨absent, absentToo⟩ | ⟨_, _, found, foundToo, same⟩
  · simp [absent, absentToo]
  · simp [found, foundToo, same.mem_iff]

/-- Groups that list the same glyphs, none of them empty and no glyph in a group twice. -/
theorem agree_of_lists
    (clean : ∀ ⦃group : String⦄ ⦃members⦄, groups[group]? = some members →
      members.Nodup ∧ members ≠ [])
    (cleanToo : ∀ ⦃group : String⦄ ⦃members⦄, others[group]? = some members →
      members.Nodup ∧ members ≠ [])
    (lists : ∀ group glyph, groups.Lists group glyph ↔ others.Lists group glyph) :
    groups.Agree others := by
  intro group
  have listed (glyph : String) := lists group glyph
  simp only [lists_iff] at listed
  cases found : groups[group]? <;> cases foundToo : others[group]? <;>
    simp only [found, foundToo, Option.some.injEq, exists_eq_left', reduceCtorEq, false_and,
      exists_false, iff_false, false_iff] at listed
  · exact .inl ⟨rfl, rfl⟩
  · exact absurd (List.eq_nil_iff_forall_not_mem.mpr listed) (cleanToo foundToo).2
  · exact absurd (List.eq_nil_iff_forall_not_mem.mpr listed) (clean found).2
  · have same := (List.perm_ext_iff_of_nodup (clean found).1 (cleanToo foundToo).1).mpr listed
    exact .inr ⟨_, _, rfl, rfl, same⟩

theorem keys_ascending (groups : Groups) : groups.keys.Pairwise (· < ·) :=
  Std.ExtTreeMap.ordered_keys.imp fun smaller => compare_lt_iff_lt.mp smaller

theorem keys_eq_of_mem (same : ∀ group, group ∈ groups ↔ group ∈ others) :
    groups.keys = others.keys := by
  refine groups.keys_ascending.eq_of_mem_iff others.keys_ascending fun group => ?_
  rw [Std.ExtTreeMap.mem_keys, Std.ExtTreeMap.mem_keys, same]

/-- What is written of groups that agree is the same. -/
theorem Agree.map_bracketed (agree : groups.Agree others) :
    groups.map (fun _ => bracketed) = others.map fun _ => bracketed := by
  refine Std.ExtTreeMap.ext_getElem? fun group => ?_
  rw [Std.ExtTreeMap.getElem?_map, Std.ExtTreeMap.getElem?_map]
  rcases agree group with ⟨absent, absentToo⟩ | ⟨_, _, found, foundToo, same⟩
  · rw [absent, absentToo]
  · rw [found, foundToo, Option.map_some, Option.map_some, bracketed_of_perm same]

end Groups

namespace Pair

variable {groups others : Pair Groups Groups}

theorem agree_classes (agree : ∀ side, (groups.get side).Agree (others.get side)) :
    groups.classes.Agree others.classes := by
  intro name
  rw [getElem?_classes, getElem?_classes]
  rcases agree .second name with ⟨absent, absentToo⟩ | ⟨members, kept, found, foundToo, same⟩
  · change groups.second[name]? = none at absent
    change others.second[name]? = none at absentToo
    rw [absent, absentToo]
    exact agree .first name
  · change groups.second[name]? = some members at found
    change others.second[name]? = some kept at foundToo
    rw [found, foundToo]
    exact .inr ⟨_, _, rfl, rfl, same⟩

theorem classLines_eq (groups : Pair Groups Groups) :
    groups.classLines = (groups.classes.map fun _ => bracketed).toList.map fun row =>
      row.1 ++ " = " ++ row.2 ++ ";" := by
  rw [classLines, Std.ExtTreeMap.toList_map, List.map_map]
  rfl

theorem classLines_congr (agree : ∀ side, (groups.get side).Agree (others.get side)) :
    groups.classLines = others.classLines := by
  rw [classLines_eq, classLines_eq, (agree_classes agree).map_bracketed]

end Pair

/-- Separating depends on groups only through what they list. -/
theorem Separation.ofPairs_congr {pairs : Pairs} {groups others : Pair Groups Groups}
    (first : groups.first.Lists = others.first.Lists)
    (second : groups.second.Lists = others.second.Lists) :
    ofPairs pairs groups = ofPairs pairs others := by
  have glyphListed : pairs.GlyphListed groups = pairs.GlyphListed others := by
    funext glyph group member
    simp only [Pairs.GlyphListed, second]
  have listedGlyph : pairs.ListedGlyph groups = pairs.ListedGlyph others := by
    funext group glyph member
    simp only [Pairs.ListedGlyph, first, second]
  apply Separation.ext
  all_goals
    refine Std.ExtTreeMap.ext_getElem? fun key => Option.ext fun value => ?_
    obtain ⟨left, right⟩ := key
  · rw [glyphGlyph_iff, glyphGlyph_iff]
  · simp only [glyphListed_iff, glyphListed, first]
  · simp only [listedGlyph_iff, listedGlyph, second]
  · rw [glyphGroup_iff, glyphGroup_iff, first]
  · rw [groupGlyph_iff, groupGlyph_iff, second]
  · rw [groupGroup_iff, groupGroup_iff]

theorem ClassNames.ofGroups_congr {groups others : Pair Groups Groups}
    (first : groups.first.keys = others.first.keys)
    (second : groups.second.keys = others.second.keys) : ofGroups groups = ofGroups others := by
  rw [ofGroups, ofGroups, queue, queue, first, second]

namespace Font

variable {font other : Font} {side : Side} {name : String}

/-- Whether a name means something on a side of kerning: a kerning group of that side that lists a
glyph of the font, or a glyph whose name is not that of such a group. -/
def Means (font : Font) (side : Side) (name : String) : Prop :=
  side.owns name = true ∧ (∃ glyph ∈ font.glyphNames, Groups.Lists font.groups name glyph) ∨
    side.owns name = false ∧ name ∈ font.glyphNames

/-- Whether two fonts agree on the glyphs that each kerning group lists, where a group that is not
there lists none, and on the kerning between names that mean something. In which order either has
its rows does not matter. -/
structure SameKerning (font other : Font) : Prop where
  groups : ∀ (side : Side) (group glyph : String), side.owns group = true →
    (glyph ∈ font.glyphNames ∧ Groups.Lists font.groups group glyph ↔
      glyph ∈ other.glyphNames ∧ Groups.Lists other.groups group glyph)
  kerning : ∀ (entry : Pair String String) (value : Int),
    font.kerning[entry]? = some value ∧ font.Means .first entry.first ∧
        font.Means .second entry.second ↔
      other.kerning[entry]? = some value ∧ other.Means .first entry.first ∧
        other.Means .second entry.second

theorem mem_kerningGroups_iff_lists {group : String} : group ∈ font.kerningGroups side ↔
    ∃ glyph, (font.kerningGroups side).Lists group glyph := by
  simp only [mem_kerningGroups_iff_retains, Retains, lists_kerningGroups, exists_and_left]

theorem means_iff : font.Means side name ↔
    ∃ key, Key.resolve side (font.kerningGroups side) font.nameSet name = .ok key := by
  simp only [Means, Key.resolve_eq_ok_iff, mem_kerningGroups_iff_lists, lists_kerningGroups,
    mem_nameSet]
  constructor
  · rintro (⟨owns, glyph, named, lists⟩ | ⟨free, named⟩)
    · exact ⟨.group name, .inl ⟨rfl, glyph, owns, named, lists⟩⟩
    · exact ⟨.glyph name, .inr ⟨rfl, by simp [free], free, named⟩⟩
  · rintro ⟨_, ⟨_, glyph, owns, named, lists⟩ | ⟨_, _, free, named⟩⟩
    · exact .inl ⟨owns, glyph, named, lists⟩
    · exact .inr ⟨free, named⟩

/-- A name that means something in two fonts with the same retained groups means the same. -/
theorem resolve_congr {key : Key}
    (retained : ∀ group, group ∈ font.kerningGroups side ↔ group ∈ other.kerningGroups side)
    (resolved : Key.resolve side (font.kerningGroups side) font.nameSet name = .ok key)
    (means : other.Means side name) :
    Key.resolve side (other.kerningGroups side) other.nameSet name = .ok key := by
  rw [Key.resolve_eq_ok_iff, ← retained]
  rcases Key.resolve_eq_ok_iff.mp resolved with group | ⟨same, absent, free, _⟩
  · exact .inl group
  · rcases means with ⟨owns, _⟩ | ⟨_, named⟩
    · cases owns.symm.trans free
    · exact .inr ⟨same, absent, free, mem_nameSet.mpr named⟩

theorem getElem?_pairs_iff {pair : Pair Key Key} {value : Int} :
    (font.pairs font.sideGroups)[pair]? = some value ↔
      font.kerning[pair.map Key.name]? = some value ∧
        Pairs.resolve font.sideGroups font.nameSet (pair.map Key.name) = .ok pair := by
  rw [getElem?_pairs]
  constructor
  · intro kept
    obtain ⟨entry, found, resolved⟩ := kept
    obtain ⟨first, second⟩ := Pairs.resolve_eq_ok_iff.mp resolved
    have spelled : pair.map Key.name = entry := by
      obtain ⟨one, two⟩ := entry
      rw [Pair.map, Key.name_of_resolve first, Key.name_of_resolve second]
    rw [spelled]
    exact ⟨found, resolved⟩
  · intro holds
    exact ⟨_, holds⟩

theorem SameKerning.symm (same : font.SameKerning other) : other.SameKerning font where
  groups side group glyph owns := (same.groups side group glyph owns).symm
  kerning entry value := (same.kerning entry value).symm

theorem SameKerning.lists (same : font.SameKerning other) (side : Side) (group glyph : String) :
    (font.kerningGroups side).Lists group glyph ↔ (other.kerningGroups side).Lists group glyph := by
  rw [lists_kerningGroups, lists_kerningGroups]
  exact and_congr_right fun owns => same.groups side group glyph owns

theorem nodup_of_kerningGroups {group : String} {members : List String}
    (found : (font.kerningGroups side)[group]? = some members) : members.Nodup ∧ members ≠ [] := by
  obtain ⟨_, _, _, rfl, filled⟩ := getElem?_kerningGroups.mp found
  refine ⟨(Groups.present_ordered _ _).imp fun earlier same => ?_, filled⟩
  subst same
  exact Nat.lt_irrefl _ earlier

theorem SameKerning.agree (same : font.SameKerning other) (side : Side) :
    (font.kerningGroups side).Agree (other.kerningGroups side) :=
  Groups.agree_of_lists (fun _ _ => nodup_of_kerningGroups) (fun _ _ => nodup_of_kerningGroups)
    (same.lists side)

theorem SameKerning.pairs_of_pairs (same : font.SameKerning other) {pair : Pair Key Key}
    {value : Int} (found : (font.pairs font.sideGroups)[pair]? = some value) :
    (other.pairs other.sideGroups)[pair]? = some value := by
  obtain ⟨kerned, resolved⟩ := getElem?_pairs_iff.mp found
  obtain ⟨first, second⟩ := Pairs.resolve_eq_ok_iff.mp resolved
  obtain ⟨kernedToo, means, meansToo⟩ :=
    (same.kerning _ _).mp ⟨kerned, means_iff.mpr ⟨_, first⟩, means_iff.mpr ⟨_, second⟩⟩
  have retained (side : Side) (group : String) :
      group ∈ font.kerningGroups side ↔ group ∈ other.kerningGroups side := (same.agree side).mem
  refine getElem?_pairs_iff.mpr ⟨kernedToo, Pairs.resolve_eq_ok_iff.mpr ⟨?_, ?_⟩⟩
  · exact resolve_congr (retained .first) first means
  · exact resolve_congr (retained .second) second meansToo

theorem SameKerning.pairs (same : font.SameKerning other) :
    font.pairs font.sideGroups = other.pairs other.sideGroups := by
  refine Std.ExtTreeMap.ext_getElem? fun pair => Option.ext fun value => ?_
  constructor
  · exact same.pairs_of_pairs
  · exact same.symm.pairs_of_pairs

/-- Fonts agree exactly if their retained groups list the same and their collected pairs are one. -/
theorem sameKerning_iff : font.SameKerning other ↔
    (∀ side group glyph, (font.kerningGroups side).Lists group glyph ↔
      (other.kerningGroups side).Lists group glyph) ∧
    font.pairs font.sideGroups = other.pairs other.sideGroups := by
  constructor
  · intro same
    exact ⟨same.lists, same.pairs⟩
  · intro holds
    obtain ⟨lists, pairs⟩ := holds
    -- An entry counts exactly if a collected pair is spelled like it.
    have kept (font : Font) (entry : Pair String String) (value : Int) :
        font.kerning[entry]? = some value ∧ font.Means .first entry.first ∧
            font.Means .second entry.second ↔
          ∃ pair : Pair Key Key, (font.pairs font.sideGroups)[pair]? = some value ∧
            pair.map Key.name = entry := by
      simp only [means_iff, getElem?_pairs_iff, Pairs.resolve_eq_ok_iff]
      constructor
      · rintro ⟨found, ⟨one, first⟩, two, second⟩
        have spelled : Pair.map Key.name ⟨one, two⟩ = entry := by
          rw [Pair.map, Key.name_of_resolve first, Key.name_of_resolve second]
        exact ⟨⟨one, two⟩, ⟨spelled ▸ found, spelled ▸ first, spelled ▸ second⟩, spelled⟩
      · rintro ⟨pair, ⟨found, first, second⟩, rfl⟩
        exact ⟨found, ⟨_, first⟩, _, second⟩
    refine ⟨fun side group glyph owns => ?_, fun entry value => ?_⟩
    · simpa only [lists_kerningGroups, owns, true_and] using lists side group glyph
    · rw [kept, kept, pairs]

/-- In which order a font has its glyphs, its groups and its kerning makes no difference. -/
theorem SameKerning.of_perm (glyphs : font.glyphs.Perm other.glyphs)
    (groups : font.groups.toList.Perm other.groups.toList)
    (kerning : font.kerning.toList.Perm other.kerning.toList) : font.SameKerning other := by
  have sides := sideGroups_of_perm glyphs groups
  rw [sameKerning_iff, pairs_of_perm glyphs kerning, sides]
  simp only [kerningGroups, sides, implies_true, and_self]

end Font

namespace KernFeature

variable {font other : Font} {feature featureToo : KernFeature} {side : Side}
variable {header : Option String}

theorem ofFont_eq (font : Font) : ofFont font =
    (ClassNames.ofGroups font.sideGroups).map fun state => {
      classNames := state.names
      groups := font.sideGroups.map (Groups.rename state.names)
      pairs := (font.pairs font.sideGroups).rename state.names } := by
  cases named : ClassNames.ofGroups font.sideGroups <;>
    simp [ofFont, named, bind, Except.bind, pure, Except.pure, Except.map]

theorem nodup_of_groups (built : ofFont font = .ok feature) {name : String}
    {members : List String} (found : (feature.groups.get side)[name]? = some members) :
    members.Nodup ∧ members ≠ [] := by
  obtain ⟨group, source, _⟩ := (getElem?_groups built).mp found
  exact Font.nodup_of_kerningGroups source

/-- Classes have members, and none twice, so those that list the same glyphs agree. -/
theorem agree_of_lists (built : ofFont font = .ok feature)
    (builtToo : ofFont other = .ok featureToo)
    (lists : ∀ name glyph, (feature.groups.get side).Lists name glyph ↔
      (featureToo.groups.get side).Lists name glyph) :
    (feature.groups.get side).Agree (featureToo.groups.get side) :=
  Groups.agree_of_lists (fun _ _ => nodup_of_groups built) (fun _ _ => nodup_of_groups builtToo)
    lists

theorem text_eq_of_agree
    (agree : ∀ side, (feature.groups.get side).Agree (featureToo.groups.get side))
    (pairs : feature.pairs = featureToo.pairs) : feature.text header = featureToo.text header := by
  have lists (side : Side) : (feature.groups.get side).Lists = (featureToo.groups.get side).Lists :=
    funext fun _ => funext fun _ => propext (agree side).lists
  have separated : feature.separation = featureToo.separation := by
    rw [separation, separation, pairs]
    exact Separation.ofPairs_congr (lists .first) (lists .second)
  rw [text, text, body, body, pairs, separated, Pair.classLines_congr agree]

theorem text_congr (built : ofFont font = .ok feature) (builtToo : ofFont other = .ok featureToo)
    (named : feature.classNames = featureToo.classNames) (same : font.SameKerning other) :
    feature.text header = featureToo.text header := by
  refine text_eq_of_agree (fun side => agree_of_lists built builtToo fun name glyph => ?_) ?_
  · simp only [lists_groups built, lists_groups builtToo, same.lists, named]
  · rw [pairs_eq built, pairs_eq builtToo, same.pairs, named]

end KernFeature

/-- Fonts that agree on their kerning have the same text of it, or the same reason for having none,
in whatever order their glyphs, groups and kerning come. -/
theorem Font.kernText_congr {font other : Font} {header : Option String}
    (same : font.SameKerning other) : font.kernText header = other.kernText header := by
  have keys (side : Side) : (font.kerningGroups side).keys = (other.kerningGroups side).keys :=
    Groups.keys_eq_of_mem fun _ => (same.agree side).mem
  have named : ClassNames.ofGroups font.sideGroups = ClassNames.ofGroups other.sideGroups :=
    ClassNames.ofGroups_congr (keys .first) (keys .second)
  have built := KernFeature.ofFont_eq font
  have builtToo := KernFeature.ofFont_eq other
  rw [← named] at builtToo
  cases state : ClassNames.ofGroups font.sideGroups with
  | error stuck =>
    rw [state] at built builtToo
    simp only [kernText, built, builtToo, Except.map]
  | ok names =>
    simp only [state, Except.map] at built builtToo
    have same : KernFeature.text _ header = KernFeature.text _ header :=
      KernFeature.text_congr built builtToo rfl same
    simp only [kernText, built, builtToo, Except.map, same]

private def tidy : Font where
  glyphs := [{ name := "A" }, { name := "B" }, { name := "V" }]
  groups := .ofList [("public.kern1.A", ["A", "B"]), ("public.kern2.V", ["V"])]
  kerning := .ofList ([(⟨"A", "V"⟩, 5), (⟨"public.kern1.A", "public.kern2.V"⟩, -30)] :
    List (Pair String String × Int))

private def shuffled : Font where
  glyphs := [{ name := "B" }, { name := "V" }, { name := "A" }]
  groups := .ofList [("public.kern2.V", ["V"]), ("public.kern1.A", ["A", "B"])]
  kerning := .ofList ([(⟨"public.kern1.A", "public.kern2.V"⟩, -30), (⟨"A", "V"⟩, 5)] :
    List (Pair String String × Int))

private def untidy : Font where
  glyphs := [{ name := "V" }, { name := "unkerned" }, { name := "B" }, { name := "A" },
    { name := "B" }]
  groups := .ofList [("vowels", ["A"]), ("public.kern2.lost", ["Lost"]), ("public.kern2.V", ["V"]),
    ("public.kern1.A", ["B", "Lost", "A", "B"])]
  kerning := .ofList ([(⟨"public.kern1.A", "public.kern2.V"⟩, -30), (⟨"A", "public.kern2.lost"⟩, 8),
    (⟨"A", "V"⟩, 5), (⟨"Lost", "V"⟩, 9)] : List (Pair String String × Int))

private theorem sameKerning_untidy : tidy.SameKerning untidy := by
  rw [Font.sameKerning_iff]
  constructor
  · intro side group glyph
    rw [Groups.lists_iff_mem_toList, Groups.lists_iff_mem_toList]
    cases side with
    | first =>
      have rows : (tidy.kerningGroups .first).toList = [("public.kern1.A", ["A", "B"])] := by
        decide +kernel
      have rowsToo : (untidy.kerningGroups .first).toList = [("public.kern1.A", ["B", "A"])] := by
        decide +kernel
      simp [rows, rowsToo, or_comm]
    | second =>
      have rows : (tidy.kerningGroups .second).toList = (untidy.kerningGroups .second).toList := by
        decide +kernel
      rw [rows]
  · exact Std.ExtTreeMap.toList_inj.mp (by decide +kernel)

private def neat : String :=
  "\n".intercalate ["feature kern \x7b", "    # Kerning", "    @kern1.A = [A B];",
    "    @kern2.V = [V];", "", "    # glyph, glyph", "    pos A V 5;", "", "    # group, group",
    "    pos @kern1.A @kern2.V -30;", "\x7d kern;"]

private theorem kernText_tidy : tidy.kernText (some "Kerning") = .ok neat := by
  have shown : (KernFeature.ofFont tidy).toOption.map (fun feature =>
      ((feature.pairs.isEmpty, feature.groups.classes.toList), feature.separation.lines)) =
    some ((false, [("@kern1.A", ["A", "B"]), ("@kern2.V", ["V"])]),
      ["", "# glyph, glyph", "pos A V 5;", "", "# group, group", "pos @kern1.A @kern2.V -30;"]) := by
    decide +kernel
  obtain ⟨feature, built, seen⟩ := exists_of_map_toOption shown
  simp only [Prod.mk.injEq] at seen
  obtain ⟨⟨kerned, classes⟩, rules⟩ := seen
  have one : bracketed ["V"] = _ := bracketed_of_ascending (by decide)
  have two : bracketed ["A", "B"] = _ := bracketed_of_ascending (by decide)
  rw [Font.kernText, built]
  refine congrArg Except.ok ?_
  simp only [KernFeature.text, kerned, Bool.false_eq_true, if_false, KernFeature.body,
    Pair.classLines, classes, rules, List.map_cons, List.map_nil, one, two]
  decide +kernel

/-- The same rows in other orders; and with these repeats, glyphs that nobody kerns, other groups
and dangling names. -/
theorem kernText_untidy : tidy.SameKerning shuffled ∧ tidy.SameKerning untidy ∧
    tidy.kernText (some "Kerning") = .ok neat ∧ shuffled.kernText (some "Kerning") = .ok neat ∧
      untidy.kernText (some "Kerning") = .ok neat := by
  have sameKerning_shuffled : tidy.SameKerning shuffled :=
    .of_perm (by decide) (by decide +kernel) (by decide +kernel)
  exact ⟨sameKerning_shuffled, sameKerning_untidy, kernText_tidy,
    (Font.kernText_congr sameKerning_shuffled).symm.trans kernText_tidy,
    (Font.kernText_congr sameKerning_untidy).symm.trans kernText_tidy⟩

end FontPrep
