import FontPrep.Proofs.Kerning.Closure

/-! What a kern feature has to say. Whatever pairs speak for, some rule does: a pair of glyphs is
covered only by what is written. So where there is kerning there are rules, and each is written on a
line of its own below the label of its section. -/
namespace FontPrep

namespace Expansion

variable {side : Side} {groups : Groups} {state : Expansion} {entries : List Mixed}

def Listed (state : Expansion) (glyph member : String) : Prop :=
  ∃ exception ∈ state.exceptions, exception.entry.glyph = glyph ∧ member ∈ exception.members

theorem listed_spellOut {entry : Mixed} {glyph member : String} :
    (spellOut side groups state entry).Listed glyph member ↔ state.Listed glyph member ∨
      entry.glyph = glyph ∧
        member ∈ uncovered state.covered side entry.glyph (groups.getD entry.group []) := by
  simp only [Listed, spellOut, Array.mem_push, or_and_right, exists_or, exists_eq_left]

/-- Whether what is covered is what was covered at first and what exceptions list. -/
def Accounts (side : Side) (first : Covered) (state : Expansion) : Prop :=
  ∀ glyph member, Pair.on side member glyph ∈ state.covered ↔
    Pair.on side member glyph ∈ first ∨ state.Listed glyph member

theorem accounts_empty (side : Side) (first : Covered) :
    Accounts side first { covered := first } := by
  intro glyph member
  simp [Listed]

theorem Accounts.spellOut {first : Covered} (accounts : Accounts side first state) (entry : Mixed) :
    Accounts side first (spellOut side groups state entry) := by
  intro glyph member
  rw [listed_spellOut, ← or_assoc, ← accounts]
  simp only [Expansion.spellOut, Std.ExtTreeSet.mem_insertMany_list, List.contains_iff_mem,
    List.mem_map, Pair.on_inj]
  refine or_congr_right ⟨?_, ?_⟩
  · rintro ⟨name, listed, rfl, same⟩
    exact ⟨same, listed⟩
  · rintro ⟨same, listed⟩
    exact ⟨member, listed, rfl, same⟩

theorem Accounts.run {first : Covered} (accounts : Accounts side first state) :
    Accounts side first (entries.foldl (Expansion.spellOut side groups) state) := by
  induction entries generalizing state with
  | nil => exact accounts
  | cons entry rest ih => exact ih (accounts.spellOut entry)

end Expansion

namespace Separation

variable {pairs : Pairs} {groups : Pair Groups Groups} {first second : String}

theorem says_rules_iff {separation : Separation} {glyphs : Pair String String} {value : Int} :
    Says separation.rules groups glyphs value ↔
      (Says separation.glyphGlyphRules groups glyphs value ∨
        Says separation.glyphListedRules groups glyphs value ∨
          Says separation.listedGlyphRules groups glyphs value) ∨
      Says separation.glyphGroupRules groups glyphs value ∨
        Says separation.groupGlyphRules groups glyphs value ∨
          Says separation.groupGroupRules groups glyphs value := by
  rw [rules_eq, glyphRules, exceptionRules, groupRules]
  simp only [says_append]

theorem exists_says_of_covered_second
    (covered : Pair.mk first second ∈ (pairs.expansions groups).second.covered) :
    ∃ value, Says (ofPairs pairs groups).rules groups ⟨first, second⟩ value := by
  have accounts : Expansion.Accounts .second _ (pairs.expansions groups).second :=
    (Expansion.accounts_empty _ _).run
  simp only [says_rules_iff]
  rcases (accounts first second).mp covered with glyphs | ⟨exception, made, rfl, listed⟩
  · obtain ⟨value, found⟩ := Rows.exists_of_mem (Pairs.mem_covered_glyphPairs.mp glyphs)
    exact ⟨value, .inl (.inl (says_glyphGlyph.mpr found))⟩
  · obtain ⟨present, members⟩ := Pairs.mem_exceptions_second.mp made
    obtain ⟨found, owned⟩ := Pairs.mem_ambiguous.mp present
    exact ⟨_, .inl (.inr (.inl (says_glyphListed.mpr
      ⟨_, found, owned, (members.2 second).mp listed⟩)))⟩

/-- What is covered in the end has a rule. -/
theorem exists_says_of_covered_first
    (covered : Pair.mk first second ∈ (pairs.expansions groups).first.covered) :
    ∃ value, Says (ofPairs pairs groups).rules groups ⟨first, second⟩ value := by
  have accounts : Expansion.Accounts .first (pairs.expansions groups).second.covered
      (pairs.expansions groups).first := (Expansion.accounts_empty _ _).run
  rcases (accounts second first).mp covered with earlier | ⟨exception, made, rfl, listed⟩
  · exact exists_says_of_covered_second earlier
  · obtain ⟨present, members⟩ := Pairs.mem_exceptions_first.mp made
    obtain ⟨found, owned⟩ := Pairs.mem_ambiguous.mp present
    simp only [says_rules_iff]
    exact ⟨_, .inl (.inr (.inr (says_listedGlyph.mpr
      ⟨_, found, owned, (members.2 first).mp listed⟩)))⟩

/-- Two glyphs that some pair speaks for have a rule, whatever the groups share. -/
theorem exists_says_of_mem_pairs {pair : Pair Key Key} (spoken : pair ∈ pairs)
    (takes : (Operand.ofKey pair.first).takes groups.first first = true)
    (takesToo : (Operand.ofKey pair.second).takes groups.second second = true) :
    ∃ value, Says (ofPairs pairs groups).rules groups ⟨first, second⟩ value := by
  obtain ⟨value, found⟩ := Rows.exists_of_mem spoken
  obtain ⟨left, right⟩ := pair
  cases left with
  | glyph left =>
    obtain rfl := Operand.takes_glyph.mp takes
    cases right with
    | glyph right =>
      obtain rfl := Operand.takes_glyph.mp takesToo
      exact ⟨value, says_rules_iff.mpr (.inl (.inl (says_glyphGlyph.mpr found)))⟩
    -- A mixed pair is spelled out, or else plain, by whether its glyph is in a group of its side.
    | group right =>
      have listed := Operand.takes_group.mp takesToo
      by_cases owned : ∃ owner, groups.first.Lists owner left
      · exact exists_says_of_covered_second
          (Pairs.mem_covered_second.mpr (.inr ⟨owned, right, spoken, listed⟩))
      · exact ⟨value, says_rules_iff.mpr
          (.inr (.inl (says_glyphGroup.mpr ⟨right, found, owned, listed⟩)))⟩
  | group left =>
    have listed := Operand.takes_group.mp takes
    cases right with
    | glyph right =>
      obtain rfl := Operand.takes_glyph.mp takesToo
      by_cases owned : ∃ owner, groups.second.Lists owner right
      · have present : Mixed.mk left right value ∈ pairs.ambiguous groups .first :=
          Pairs.mem_ambiguous.mpr ⟨found, owned⟩
        exact exists_says_of_covered_first
          (Expansion.mem_covered_run.mpr (.inr ⟨_, present, rfl, listed⟩))
      · exact ⟨value, says_rules_iff.mpr
          (.inr (.inr (.inl (says_groupGlyph.mpr ⟨left, found, owned, listed⟩))))⟩
    | group right =>
      exact ⟨value, says_rules_iff.mpr (.inr (.inr (.inr (says_groupGroup.mpr
        ⟨left, right, found, listed, Operand.takes_group.mp takesToo⟩))))⟩

def size (separation : Separation) : Nat :=
  separation.glyphGlyph.size + separation.glyphListed.size + separation.listedGlyph.size +
    separation.glyphGroup.size + separation.groupGlyph.size + separation.groupGroup.size

theorem length_rules (separation : Separation) : separation.rules.length = separation.size := by
  simp [rules, sections, size, Rules.written, Std.ExtTreeMap.length_toList, Nat.add_assoc]

end Separation

def isRuleLine (line : String) : Bool :=
  "pos ".toList.isPrefixOf line.toList || "enum pos ".toList.isPrefixOf line.toList

theorem isRuleLine_text (rule : Rule) : isRuleLine rule.text = true := by
  unfold isRuleLine Rule.text Rule.keyword
  split <;> simp

theorem not_isRuleLine_of_head? {line : String} {c : Char} (begins : line.toList.head? = some c)
    (plain : c ≠ 'p') (enumerated : c ≠ 'e') : isRuleLine line = false := by
  cases chars : line.toList with
  | nil => simp [chars] at begins
  | cons head rest =>
    obtain rfl : head = c := by simpa [chars] using begins
    simp [isRuleLine, chars, List.isPrefixOf, plain.symm, enumerated.symm]

namespace Section

variable {part : Section} {parts : List Section}

theorem filter_isRuleLine_lines (writable : part.Writable)
    (comment : part.label.toList.head? = some '#') :
    part.lines.filter isRuleLine = part.texts := by
  have ruled : part.texts.filter isRuleLine = part.texts := by
    refine List.filter_eq_self.mpr fun line member => ?_
    obtain ⟨rule, _, rfl⟩ := List.mem_map.mp member
    exact isRuleLine_text rule
  rw [lines_eq writable]
  split
  · rename_i none
    rw [none, List.filter_nil]
  · have label := not_isRuleLine_of_head? comment (by decide) (by decide)
    rw [List.filter_cons_of_neg (by decide), List.filter_cons_of_neg (by simp [label]), ruled]

/-- What follows a comment in a section: the comment is the label, and a rule comes next. -/
theorem rule_after_comment (writable : part.Writable) {before after : List String} {line : String}
    (split : part.lines = before ++ line :: after) (comment : line.toList.head? = some '#') :
    line = part.label ∧ ∃ rule ∈ part.rules, ∃ rest, after = rule.text :: rest := by
  rw [lines_eq writable] at split
  split at split
  · simp at split
  · rename_i filled
    cases before with
    | nil =>
      obtain ⟨rfl, _⟩ := List.cons.inj split
      cases comment
    | cons blank before =>
      obtain ⟨_, split⟩ := List.cons.inj split
      cases before with
      | nil =>
        obtain ⟨rfl, rfl⟩ := List.cons.inj split
        refine ⟨rfl, ?_⟩
        unfold texts at filled ⊢
        cases rules : part.rules with
        | nil => simp [rules] at filled
        | cons rule rest => exact ⟨rule, by simp, rest.map Rule.text, rfl⟩
      | cons label before =>
        obtain ⟨_, split⟩ := List.cons.inj split
        have member : line ∈ part.texts := by rw [split]; simp
        obtain ⟨rule, _, rfl⟩ := List.mem_map.mp member
        rcases rule.head?_text with begins | begins <;> cases begins.symm.trans comment

/-- A comment among the lines of sections is the label of one of them, and its rules follow. -/
theorem rule_after_label (writable : ∀ part ∈ parts, part.Writable) {before after : List String}
    {line : String} (split : parts.flatMap lines = before ++ line :: after)
    (comment : line.toList.head? = some '#') :
    ∃ part ∈ parts, part.label = line ∧ ∃ rule ∈ part.rules, ∃ rest, after = rule.text :: rest := by
  induction parts generalizing before with
  | nil => simp at split
  | cons part parts ih =>
    obtain ⟨first, later⟩ := List.forall_mem_cons.mp writable
    rw [List.flatMap_cons] at split
    rcases List.append_eq_append_iff.mp split with ⟨between, _, behind⟩ | ⟨inside, whole, behind⟩
    · obtain ⟨found, present, follows⟩ := ih later behind
      exact ⟨found, List.mem_cons_of_mem _ present, follows⟩
    · cases inside with
      | nil =>
        have tail : parts.flatMap lines = [] ++ line :: after := behind.symm
        obtain ⟨found, present, follows⟩ := ih later tail
        exact ⟨found, List.mem_cons_of_mem _ present, follows⟩
      | cons head inside =>
        obtain ⟨rfl, rfl⟩ := List.cons.inj behind
        obtain ⟨same, rule, present, rest, rfl⟩ := rule_after_comment first whole comment
        exact ⟨part, by simp, same.symm, rule, present, _, rfl⟩

end Section

namespace Separation

variable {separation : Separation}

/-- The rules stand on lines of their own, and no other line looks like one. -/
theorem filter_isRuleLine_lines (writable : ∀ part ∈ separation.sections, part.Writable) :
    separation.lines.filter isRuleLine = separation.rules.map Rule.text := by
  rw [lines, rules, List.filter_flatMap, List.map_flatMap]
  exact List.flatMap_congr fun part present =>
    Section.filter_isRuleLine_lines (writable part present) (separation.head?_labels part present)

end Separation

namespace KernFeature

variable {feature : KernFeature} {font : Font} {side : Side}

theorem exists_takes (built : ofFont font = .ok feature) {pair : Pair Key Key}
    (spoken : pair ∈ feature.pairs) (side : Side) :
    ∃ glyph, (Operand.ofKey (pair.get side)).takes (feature.groups.get side) glyph = true := by
  cases stands : pair.get side with
  | glyph name => exact ⟨name, Operand.takes_glyph.mpr rfl⟩
  | group name =>
    obtain ⟨kept, found⟩ := Rows.exists_of_mem (mem_groups_of_mem_pairs built spoken stands)
    obtain ⟨glyph, member⟩ := List.exists_mem_of_ne_nil _ (nodup_of_groups built found).2
    exact ⟨glyph, Operand.takes_group.mpr (Groups.lists_iff.mpr ⟨kept, found, member⟩)⟩

theorem exists_mem_rules (built : ofFont font = .ok feature)
    (kerned : feature.pairs.isEmpty = false) : ∃ rule, rule ∈ feature.separation.rules := by
  rw [Std.ExtTreeMap.isEmpty_eq_false_iff, Std.ExtTreeMap.eq_empty_iff_forall_not_mem] at kerned
  obtain ⟨pair, spoken⟩ := Classical.not_forall_not.mp kerned
  obtain ⟨first, takes⟩ := exists_takes built spoken .first
  obtain ⟨second, takesToo⟩ := exists_takes built spoken .second
  obtain ⟨value, rule, member, _⟩ := Separation.exists_says_of_mem_pairs spoken takes takesToo
  exact ⟨rule, member⟩

theorem writable_sections (built : ofFont font = .ok feature)
    (named : ∀ name ∈ font.glyphNames, name ≠ "") :
    ∀ part ∈ feature.separation.sections, part.Writable := by
  intro part present rule member
  have filled (side : Side) : (rule.sides.get side).isEmpty = false := by
    rcases Separation.operand_cases (List.mem_flatMap.mpr ⟨part, present, member⟩) side with
      ⟨pair, spoken, same⟩ | ⟨members, same, filled, _⟩
    · rw [same]
      cases stands : pair.get side with
      | glyph name =>
        have word := named name (mem_glyphNames_of_mem_pairs built spoken stands)
        simpa [Operand.ofKey, Operand.isEmpty] using word
      | group name =>
        have word := isClassName_of_mem built (mem_groups_of_mem_pairs built spoken stands)
        simpa [Operand.ofKey, Operand.isEmpty] using word.isWord.filled
    · rw [same]
      simpa [Operand.isEmpty] using filled
  have first : rule.sides.first.isEmpty = false := filled .first
  have second : rule.sides.second.isEmpty = false := filled .second
  rw [Rule.isWritable, first, second]
  rfl

/-- A feature that is written exactly if there is kerning, and then has all of it. -/
structure Substantial (feature : KernFeature) : Prop where
  empty_iff : ∀ header, feature.text header = "" ↔ feature.pairs.isEmpty = true
  wrapped : feature.pairs.isEmpty = false → ∀ header,
    feature.text header = Block.text header (feature.groups.classLines ++ feature.separation.lines)
  /-- Class definitions and rules have lines of their own in the text. -/
  lines : feature.pairs.isEmpty = false → ∀ header,
    ∀ line ∈ feature.groups.classLines ++ feature.separation.lines,
      Block.HasLine (feature.text header) line
  ruled : feature.pairs.isEmpty = false →
    ∃ line ∈ feature.separation.lines, isRuleLine line = true
  counted : feature.separation.lines.countP isRuleLine = feature.separation.size
  /-- Every comment is the label of a section, and the section's first rule comes right after. -/
  labelled : ∀ before line after, feature.separation.lines = before ++ line :: after →
    line.toList.head? = some '#' → ∃ part ∈ feature.separation.sections, part.label = line ∧
      ∃ rule ∈ part.rules, ∃ rest, after = rule.text :: rest

/-- If the glyphs of the font have names, its feature is never hollow. -/
theorem substantial_ofFont (built : ofFont font = .ok feature)
    (named : ∀ name ∈ font.glyphNames, name ≠ "") : feature.Substantial := by
  have writable := writable_sections built named
  have ruleLines := Separation.filter_isRuleLine_lines writable
  constructor
  · exact fun _ => text_eq_empty_iff
  · exact text_eq_block
  · intro kerned header line member
    exact text_eq_block kerned header ▸ Block.hasLine_text header member
  · intro kerned
    obtain ⟨rule, member⟩ := exists_mem_rules built kerned
    have listed : rule.text ∈ feature.separation.lines.filter isRuleLine := by
      rw [ruleLines]
      exact List.mem_map_of_mem member
    exact ⟨rule.text, List.mem_of_mem_filter listed, isRuleLine_text rule⟩
  · rw [List.countP_eq_length_filter, ruleLines, List.length_map, Separation.length_rules]
  · intro before line after split comment
    exact Section.rule_after_label writable split comment

private def spokenFor : Font where
  glyphs := [{ name := "A" }, { name := "V" }, { name := "W" }]
  groups := .ofList [("public.kern1.A", ["A"]), ("public.kern2.V", ["V", "W"])]
  kerning := .ofList ([(⟨"A", "public.kern2.V"⟩, 1), (⟨"public.kern1.A", "V"⟩, 2)] :
    List (Pair String String × Int))

/-- All kerning is spelled out, and nothing is left for the second exception. -/
theorem substantial_spokenFor : (∀ name ∈ spokenFor.glyphNames, name ≠ "") ∧
    ∃ feature, ofFont spokenFor = .ok feature ∧ feature.pairs.size = 2 ∧
      feature.separation.rules = [⟨⟨.glyph "A", .listed ["V", "W"]⟩, 1⟩] ∧
        feature.Substantial := by
  have named : ∀ name ∈ spokenFor.glyphNames, name ≠ "" := by decide
  have read : (ofFont spokenFor).toOption.map (fun feature =>
      (feature.pairs.size, feature.separation.rules)) =
    some (2, [⟨⟨.glyph "A", .listed ["V", "W"]⟩, 1⟩]) := by decide +kernel
  obtain ⟨feature, built, read⟩ := exists_of_map_toOption read
  obtain ⟨size, rules⟩ := Prod.mk.inj read
  exact ⟨named, feature, built, size, rules, substantial_ofFont built named⟩

end KernFeature
end FontPrep
