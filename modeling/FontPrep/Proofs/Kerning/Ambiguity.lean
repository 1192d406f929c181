import FontPrep.Proofs.Kerning.Matching

/-! Separated kerning is unambiguous: at most one rule of glyphs speaks for two glyphs, rules of
different sections of groups never both do, and where no glyph is in two groups of a side at most
one rule of groups does. What a pair of glyphs gets then depends on no order but that rules of
glyphs come before rules of groups. -/
namespace FontPrep

section
variable {α : Type} {test : α → Bool} {entries others : List α}

theorem countP_le_one (distinct : entries.Nodup)
    (single : ∀ one ∈ entries, ∀ two ∈ entries, test one = true → test two = true → one = two) :
    entries.countP test ≤ 1 := by
  rw [List.countP_eq_length_filter]
  have kept := distinct.filter test
  match same : entries.filter test with
  | [] => simp
  | [_] => simp
  | one :: two :: rest =>
    have member (entry : α) (present : entry ∈ one :: two :: rest) :
        entry ∈ entries ∧ test entry = true := List.mem_filter.mp (same ▸ present)
    obtain ⟨presentOne, meetsOne⟩ := member one (by simp)
    obtain ⟨presentTwo, meetsTwo⟩ := member two (by simp)
    have equal := single one presentOne two presentTwo meetsOne meetsTwo
    rw [same, equal] at kept
    simp at kept

theorem find?_eq_some_iff_of_countP (single : entries.countP test ≤ 1) {entry : α} :
    entries.find? test = some entry ↔ entry ∈ entries ∧ test entry = true := by
  constructor
  · intro found
    exact ⟨List.mem_of_find?_eq_some found, List.find?_some found⟩
  · intro member
    obtain ⟨present, meets⟩ := member
    induction entries with
    | nil => cases present
    | cons head rest ih =>
      rcases List.mem_cons.mp present with rfl | later
      · exact List.find?_cons_of_pos meets
      · have counted : 0 < rest.countP test := List.countP_pos_iff.mpr ⟨entry, later, meets⟩
        have missed : ¬ test head = true := by
          intro hit
          rw [List.countP_cons_of_pos hit] at single
          omega
        rw [List.countP_cons_of_neg missed] at single
        rw [List.find?_cons_of_neg missed]
        exact ih single later

theorem find?_eq_of_perm (single : entries.countP test ≤ 1) (perm : others.Perm entries) :
    others.find? test = entries.find? test := by
  have again : others.countP test ≤ 1 := by rwa [perm.countP_eq]
  refine Option.ext fun entry => ?_
  rw [find?_eq_some_iff_of_countP single, find?_eq_some_iff_of_countP again, perm.mem_iff]

end

namespace Rules

variable {α β : Type} [Ord α] [Ord β] [Std.TransOrd α] [Std.TransOrd β] [Std.LawfulEqOrd α]
  [Std.LawfulEqOrd β]
variable {one : α → Operand} {two : β → Operand} {rules : Rules α β}
variable {groups : Pair Groups Groups} {first second : String}

/-- A section speaks once at most if the sides of its rules that speak are always the same. -/
theorem countP_written_le_one
    (single : ∀ {left right left' right' value value'},
      rules[Pair.mk left right]? = some value → rules[Pair.mk left' right']? = some value' →
      (one left).takes groups.first first = true → (two right).takes groups.second second = true →
      (one left').takes groups.first first = true → (two right').takes groups.second second = true →
        left = left' ∧ right = right') :
    SpeakOnce (written one two rules) groups ⟨first, second⟩ := by
  rw [SpeakOnce, written, List.countP_map]
  refine countP_le_one ?_ ?_
  · have distinct := Std.ExtTreeMap.distinct_keys_toList (t := rules)
    refine distinct.imp fun {row other} apart same => apart ?_
    rw [same]
    exact Std.ReflOrd.compare_self
  · rintro ⟨⟨left, right⟩, value⟩ present ⟨⟨left', right'⟩, value'⟩ again speaks speaksAgain
    rw [Std.ExtTreeMap.mem_toList_iff_getElem?_eq_some] at present again
    simp only [Function.comp_apply, Rule.speaks, Bool.and_eq_true] at speaks speaksAgain
    obtain ⟨rfl, rfl⟩ := single present again speaks.1 speaks.2 speaksAgain.1 speaksAgain.2
    rw [Option.some.inj (present.symm.trans again)]

end Rules

variable {rules others : List Rule} {groups : Pair Groups Groups} {glyphs : Pair String String}

theorem SpeakOnce.append (once : SpeakOnce rules groups glyphs)
    (onceToo : SpeakOnce others groups glyphs)
    (apart : ∀ {value number}, Says rules groups glyphs value →
      ¬ Says others groups glyphs number) :
    SpeakOnce (rules ++ others) groups glyphs := by
  unfold SpeakOnce at *
  rw [List.countP_append]
  by_contra more
  obtain ⟨rule, present, speaks⟩ := List.countP_pos_iff.mp
    (show 0 < rules.countP (·.speaks groups glyphs) by omega)
  obtain ⟨other, presentOther, speaksOther⟩ := List.countP_pos_iff.mp
    (show 0 < others.countP (·.speaks groups glyphs) by omega)
  exact apart ⟨rule, present, speaks, rfl⟩ ⟨other, presentOther, speaksOther, rfl⟩

theorem says_append {value : Int} :
    Says (rules ++ others) groups glyphs value ↔
      Says rules groups glyphs value ∨ Says others groups glyphs value := by
  simp only [Says, List.mem_append, or_and_right, exists_or]

namespace Separation

variable {pairs : Pairs} {groups : Pair Groups Groups} {first second : String} {value number : Int}

theorem once_glyphGlyphRules :
    SpeakOnce (ofPairs pairs groups).glyphGlyphRules groups ⟨first, second⟩ := by
  refine Rules.countP_written_le_one fun _ _ takes takesToo takesAgain takesTooAgain => ?_
  rw [Operand.takes_glyph] at takes takesToo takesAgain takesTooAgain
  exact ⟨takes.trans takesAgain.symm, takesToo.trans takesTooAgain.symm⟩

theorem once_glyphListedRules :
    SpeakOnce (ofPairs pairs groups).glyphListedRules groups ⟨first, second⟩ := by
  refine Rules.countP_written_le_one fun entry again takes present takesAgain presentAgain => ?_
  rw [Operand.takes_glyph] at takes takesAgain
  rw [Operand.takes_listed] at present presentAgain
  subst takes takesAgain
  obtain ⟨_, group, found, _, listed⟩ := glyphListed_iff.mp entry
  obtain ⟨_, other, foundOther, _, listedOther⟩ := glyphListed_iff.mp again
  obtain rfl := ((listed.2 second).mp present).group_unique ((listedOther.2 second).mp presentAgain)
    (Rows.mem_of_found found) (Rows.mem_of_found foundOther)
  exact ⟨rfl, listed.unique listedOther⟩

theorem once_listedGlyphRules :
    SpeakOnce (ofPairs pairs groups).listedGlyphRules groups ⟨first, second⟩ := by
  refine Rules.countP_written_le_one fun entry again present takes presentAgain takesAgain => ?_
  rw [Operand.takes_glyph] at takes takesAgain
  rw [Operand.takes_listed] at present presentAgain
  subst takes takesAgain
  obtain ⟨_, group, found, _, listed⟩ := listedGlyph_iff.mp entry
  obtain ⟨_, other, foundOther, _, listedOther⟩ := listedGlyph_iff.mp again
  obtain rfl := ((listed.2 first).mp present).group_unique ((listedOther.2 first).mp presentAgain)
    (Rows.mem_of_found found) (Rows.mem_of_found foundOther)
  exact ⟨listed.unique listedOther, rfl⟩

/-- A list for a first-side group leaves out whatever a list for a second-side group speaks for. -/
theorem once_exceptionRules :
    SpeakOnce (ofPairs pairs groups).exceptionRules groups ⟨first, second⟩ := by
  refine once_glyphListedRules.append once_listedGlyphRules fun earlier later => ?_
  obtain ⟨group, found, _, taken⟩ := says_glyphListed.mp earlier
  obtain ⟨_, _, _, holds⟩ := says_listedGlyph.mp later
  exact holds.2.2.1 group (Rows.mem_of_found found) taken.1

/-- A list leaves out whatever a pair of glyphs speaks for. -/
theorem once_glyphRules :
    SpeakOnce (ofPairs pairs groups).glyphRules groups ⟨first, second⟩ := by
  refine once_glyphGlyphRules.append once_exceptionRules fun glyphs exception => ?_
  have spoken := Rows.mem_of_found (says_glyphGlyph.mp glyphs)
  rcases says_append.mp exception with listed | listed
  · obtain ⟨group, _, _, holds⟩ := says_glyphListed.mp listed
    exact holds.2.1 spoken
  · obtain ⟨group, _, _, holds⟩ := says_listedGlyph.mp listed
    exact holds.2.1 spoken

/-- An exception speaks only for glyphs that both have an owner. -/
theorem owned_of_says_exception
    (said : Says (ofPairs pairs groups).exceptionRules groups ⟨first, second⟩ value) :
    (∃ owner, groups.first.Lists owner first) ∧ ∃ owner, groups.second.Lists owner second := by
  rcases says_append.mp said with listed | listed
  · obtain ⟨group, _, owned, holds⟩ := says_glyphListed.mp listed
    exact ⟨owned, group, holds.1⟩
  · obtain ⟨group, _, owned, holds⟩ := says_listedGlyph.mp listed
    exact ⟨⟨group, holds.1⟩, owned⟩

theorem once_glyphGroupRules (disjoint : groups.second.Disjoint) :
    SpeakOnce (ofPairs pairs groups).glyphGroupRules groups ⟨first, second⟩ := by
  refine Rules.countP_written_le_one fun _ _ takes lists takesAgain listsAgain => ?_
  rw [Operand.takes_glyph] at takes takesAgain
  rw [Operand.takes_group] at lists listsAgain
  exact ⟨takes.trans takesAgain.symm, disjoint lists listsAgain⟩

theorem once_groupGlyphRules (disjoint : groups.first.Disjoint) :
    SpeakOnce (ofPairs pairs groups).groupGlyphRules groups ⟨first, second⟩ := by
  refine Rules.countP_written_le_one fun _ _ lists takes listsAgain takesAgain => ?_
  rw [Operand.takes_glyph] at takes takesAgain
  rw [Operand.takes_group] at lists listsAgain
  exact ⟨disjoint lists listsAgain, takes.trans takesAgain.symm⟩

theorem once_groupGroupRules (disjoint : groups.first.Disjoint)
    (disjointToo : groups.second.Disjoint) :
    SpeakOnce (ofPairs pairs groups).groupGroupRules groups ⟨first, second⟩ := by
  refine Rules.countP_written_le_one fun _ _ lists listsToo listsAgain listsTooAgain => ?_
  rw [Operand.takes_group] at lists listsToo listsAgain listsTooAgain
  exact ⟨disjoint lists listsAgain, disjointToo listsToo listsTooAgain⟩

theorem not_says_groupGlyph_of_glyphGroup
    (said : Says (ofPairs pairs groups).glyphGroupRules groups ⟨first, second⟩ value) :
    ¬ Says (ofPairs pairs groups).groupGlyphRules groups ⟨first, second⟩ number := by
  intro other
  obtain ⟨_, _, unowned, _⟩ := says_glyphGroup.mp said
  obtain ⟨group, _, _, lists⟩ := says_groupGlyph.mp other
  exact unowned ⟨group, lists⟩

theorem not_says_groupGroup_of_glyphGroup
    (said : Says (ofPairs pairs groups).glyphGroupRules groups ⟨first, second⟩ value) :
    ¬ Says (ofPairs pairs groups).groupGroupRules groups ⟨first, second⟩ number := by
  intro other
  obtain ⟨_, _, unowned, _⟩ := says_glyphGroup.mp said
  obtain ⟨group, _, _, lists, _⟩ := says_groupGroup.mp other
  exact unowned ⟨group, lists⟩

theorem not_says_groupGroup_of_groupGlyph
    (said : Says (ofPairs pairs groups).groupGlyphRules groups ⟨first, second⟩ value) :
    ¬ Says (ofPairs pairs groups).groupGroupRules groups ⟨first, second⟩ number := by
  intro other
  obtain ⟨_, _, unowned, _⟩ := says_groupGlyph.mp said
  obtain ⟨_, group, _, _, lists⟩ := says_groupGroup.mp other
  exact unowned ⟨group, lists⟩

theorem once_groupRules (disjoint : groups.first.Disjoint)
    (disjointToo : groups.second.Disjoint) :
    SpeakOnce (ofPairs pairs groups).groupRules groups ⟨first, second⟩ := by
  have others : SpeakOnce ((ofPairs pairs groups).groupGlyphRules ++
      (ofPairs pairs groups).groupGroupRules) groups ⟨first, second⟩ :=
    (once_groupGlyphRules disjoint).append (once_groupGroupRules disjoint disjointToo)
      fun said => not_says_groupGroup_of_groupGlyph said
  refine (once_glyphGroupRules disjointToo).append others fun said other => ?_
  rcases says_append.mp other with mixed | both
  · exact not_says_groupGlyph_of_glyphGroup said mixed
  · exact not_says_groupGroup_of_glyphGroup said both

/-- What it is for separated kerning to be unambiguous about two glyphs. -/
structure Unambiguous (separation : Separation) (groups : Pair Groups Groups)
    (glyphs : Pair String String) : Prop where
  glyphRules : SpeakOnce separation.glyphRules groups glyphs
  /-- Rules of different sections with a group do not both speak. -/
  sections : [separation.glyphGroupRules, separation.groupGlyphRules,
    separation.groupGroupRules].Pairwise fun one two =>
      ∀ value number, Says one groups glyphs value → ¬ Says two groups glyphs number
  exceptions : ∀ value number, Says separation.exceptionRules groups glyphs value →
    ¬ Says (separation.glyphGroupRules ++ separation.groupGlyphRules) groups glyphs number
  groupRules : groups.first.Disjoint → groups.second.Disjoint →
    SpeakOnce separation.groupRules groups glyphs
  /-- The rules without a group and those with one may each come in any order. -/
  order : groups.first.Disjoint → groups.second.Disjoint → ∀ early late : List Rule,
    early.Perm separation.glyphRules → late.Perm separation.groupRules →
      ((early ++ late).find? (·.speaks groups glyphs)).map Rule.value =
        separation.value? groups glyphs

/-- Separated kerning is unambiguous about any two names, whatever the pairs and groups. -/
theorem ofPairs_unambiguous (pairs : Pairs) (groups : Pair Groups Groups)
    (glyphs : Pair String String) : (ofPairs pairs groups).Unambiguous groups glyphs where
  glyphRules := once_glyphRules
  sections := by
    simp only [List.pairwise_cons, List.mem_cons, List.not_mem_nil, or_false, forall_eq_or_imp,
      forall_eq, IsEmpty.forall_iff, implies_true, List.Pairwise.nil, and_true]
    exact ⟨⟨fun _ _ => not_says_groupGlyph_of_glyphGroup,
      fun _ _ => not_says_groupGroup_of_glyphGroup⟩, fun _ _ => not_says_groupGroup_of_groupGlyph⟩
  exceptions value number exception said := by
    obtain ⟨owned, ownedToo⟩ := owned_of_says_exception exception
    rcases says_append.mp said with glyphGroup | groupGlyph
    · obtain ⟨_, _, unowned, _⟩ := says_glyphGroup.mp glyphGroup
      exact unowned owned
    · obtain ⟨_, _, unowned, _⟩ := says_groupGlyph.mp groupGlyph
      exact unowned ownedToo
  groupRules := once_groupRules
  order disjoint disjointToo early late permEarly permLate := by
    rw [value?, rules_eq, List.find?_append, List.find?_append,
      find?_eq_of_perm once_glyphRules permEarly,
      find?_eq_of_perm (once_groupRules disjoint disjointToo) permLate]

private def apartGroups : Pair Groups Groups :=
  ⟨.ofList [("@kern1.A", ["A", "B"]), ("@kern1.C", ["C"])], .ofList [("@kern2.V", ["V", "W"])]⟩

private def apartPairs : Pairs :=
  .ofList ([(⟨.glyph "A", .group "@kern2.V"⟩, 1), (⟨.group "@kern1.A", .glyph "V"⟩, 2),
    (⟨.group "@kern1.A", .group "@kern2.V"⟩, 3)] : List (Pair Key Key × Int))

theorem order_reversed :
    (((ofPairs apartPairs apartGroups).glyphRules.reverse ++
        (ofPairs apartPairs apartGroups).groupRules.reverse).find?
      (·.speaks apartGroups ⟨"A", "V"⟩)).map Rule.value = some 1 := by
  rw [(ofPairs_unambiguous apartPairs apartGroups ⟨"A", "V"⟩).order (by decide +kernel)
    (by decide +kernel) _ _ (List.reverse_perm _) (List.reverse_perm _)]
  decide +kernel

end Separation
end FontPrep
