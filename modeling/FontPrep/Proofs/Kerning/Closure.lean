import FontPrep.Proofs.Kerning.Lossless

namespace FontPrep

namespace Operand

def glyphs : Operand → List String
  | glyph name => [name]
  | group _ => []
  | listed members => members

end Operand

def definitionLine (name : String) (members : List String) : String :=
  name ++ " = [" ++ " ".intercalate members ++ "];"

/-- The line that defines a class, its members in order. -/
def definitionOf (row : String × List String) : String :=
  definitionLine row.1 (row.2.mergeSort (· ≤ ·))

/-- Whether a line starts like the definition of a class. -/
def Defines (name line : String) : Prop := (name ++ " = ").toList <+: line.toList

theorem definitionLine_mergeSort (name : String) (members : List String) :
    definitionLine name (members.mergeSort (· ≤ ·)) =
      name ++ " = " ++ bracketed members ++ ";" := by
  have opening : " = [" = " = " ++ "[" := rfl
  have closing : "];" = "]" ++ ";" := rfl
  simp only [definitionLine, bracketed_eq, opening, closing, String.append_assoc]

theorem Pair.classLines_eq_map (groups : Pair Groups Groups) :
    groups.classLines = groups.classes.toList.map definitionOf :=
  List.map_congr_left fun row _ => (definitionLine_mergeSort row.1 row.2).symm

theorem Defines.head? {side : Side} {name line : String} (named : side.IsClassName name)
    (defines : Defines name line) : line.toList.head? = some '@' := by
  obtain ⟨rest, rfl, _⟩ := named
  obtain ⟨tail, same⟩ := defines
  rw [← same, String.toList_append, String.toList_append, List.append_assoc, List.append_assoc]
  cases side <;> rfl

theorem defines_definitionLine (name : String) (members : List String) :
    Defines name (definitionLine name members) := by
  have equals : " = [" = " = " ++ "[" := rfl
  rw [Defines, definitionLine, equals]
  simp only [String.toList_append, List.append_assoc, List.prefix_append_right_inj]
  exact List.prefix_append _ _

/-- A definition starts like that of its own class only. -/
theorem Defines.eq {side other : Side} {name again : String} {members : List String}
    (named : side.IsClassName name) (namedToo : other.IsClassName again)
    (defines : Defines name (definitionLine again members)) : name = again := by
  obtain ⟨tail, same⟩ := defines
  obtain ⟨rest, own⟩ := defines_definitionLine again members
  have chars := same.trans own.symm
  have equals : " = ".toList = [' ', '=', ' '] := rfl
  rw [String.toList_append, String.toList_append, equals, List.append_assoc, List.append_assoc]
    at chars
  obtain ⟨front, _⟩ := Text.append_inj_of_separator named.isWord.space namedToo.isWord.space
    (by simp) (by simp) chars
  exact String.toList_inj.mp front

theorem Rule.head?_text (rule : Rule) :
    rule.text.toList.head? = some 'p' ∨ rule.text.toList.head? = some 'e' := by
  simp only [text, String.toList_append, List.append_assoc]
  unfold keyword
  split
  · exact .inr rfl
  · exact .inl rfl

theorem Section.mem_lines {part : Section} {line : String} (member : line ∈ part.lines) :
    line = "" ∨ line = part.label ∨ ∃ rule ∈ part.rules, line = rule.text := by
  unfold lines at member
  split at member
  · cases member
  · rcases List.mem_cons.mp member with rfl | member
    · exact .inl rfl
    · rcases List.mem_cons.mp member with rfl | member
      · exact .inr (.inl rfl)
      · obtain ⟨rule, present, rfl⟩ := List.mem_map.mp member
        exact .inr (.inr ⟨rule, List.mem_of_mem_filter present, rfl⟩)

namespace Separation

variable {separation : Separation}

theorem head?_labels (separation : Separation) :
    ∀ part ∈ separation.sections, part.label.toList.head? = some '#' := by
  simp [sections]

theorem mem_lines {line : String} (member : line ∈ separation.lines) :
    line = "" ∨ line.toList.head? = some '#' ∨ ∃ rule ∈ separation.rules, line = rule.text := by
  obtain ⟨part, present, within⟩ := List.mem_flatMap.mp member
  rcases Section.mem_lines within with empty | rfl | ⟨rule, listed, written⟩
  · exact .inl empty
  · exact .inr (.inl (separation.head?_labels part present))
  · exact .inr (.inr ⟨rule, List.mem_flatMap.mpr ⟨part, present, listed⟩, written⟩)

theorem not_defines_of_mem_lines {side : Side} {name line : String}
    (named : side.IsClassName name) (member : line ∈ separation.lines) : ¬ Defines name line := by
  intro defines
  have sign := defines.head? named
  rcases mem_lines member with rfl | comment | ⟨rule, _, rfl⟩
  · cases sign
  · cases comment.symm.trans sign
  · rcases rule.head?_text with begins | begins <;> cases begins.symm.trans sign

end Separation

namespace KernFeature

variable {feature : KernFeature} {font : Font} {side : Side} {name : String} {rule : Rule}

theorem definitionLine_of_mem_classLines (built : ofFont font = .ok feature) {line : String}
    (member : line ∈ feature.groups.classLines) : ∃ name members,
      (∃ side : Side, side.IsClassName name) ∧ line = definitionLine name members := by
  obtain ⟨name, members, found, rfl⟩ := Pair.mem_classLines.mp member
  obtain ⟨side, present⟩ := Pair.exists_side_of_classes found
  exact ⟨name, _, ⟨side, isClassName_of_mem built (Rows.mem_of_found present)⟩,
    (definitionLine_mergeSort name members).symm⟩

theorem text_not_mem_classLines (built : ofFont font = .ok feature) (rule : Rule) :
    rule.text ∉ feature.groups.classLines := by
  intro member
  obtain ⟨name, members, ⟨side, named⟩, same⟩ := definitionLine_of_mem_classLines built member
  have sign := (defines_definitionLine name members).head? named
  rw [← same] at sign
  rcases rule.head?_text with begins | begins <;> cases begins.symm.trans sign

/-- Among the definitions that of a class stands once, since classes have different names. -/
theorem split_classLines (built : ofFont font = .ok feature) (named : side.IsClassName name)
    {kept : List String} (found : feature.groups.classes[name]? = some kept) :
    ∃ before after, feature.groups.classLines =
        before ++ definitionLine name (kept.mergeSort (· ≤ ·)) :: after ∧
      ∀ line ∈ before ++ after, ¬ Defines name line := by
  have entry := Std.ExtTreeMap.mem_toList_iff_getElem?_eq_some.mpr found
  obtain ⟨earlier, later, split⟩ := List.append_of_mem entry
  have distinct : (feature.groups.classes.toList.map Prod.fst).Nodup := by
    simpa using feature.groups.classes.nodup_keys
  rw [split, List.map_append, List.map_cons, List.nodup_middle, List.nodup_cons,
    ← List.map_append] at distinct
  refine ⟨earlier.map definitionOf, later.map definitionOf, ?_, fun line member defines => ?_⟩
  · rw [Pair.classLines_eq_map, split, List.map_append, List.map_cons]
    rfl
  -- A line that starts alike defines a class of this name, and names are keys.
  · rw [← List.map_append] at member
    obtain ⟨⟨other, members⟩, present, rfl⟩ := List.mem_map.mp member
    have listed : (other, members) ∈ feature.groups.classes.toList := by
      rw [split]
      rcases List.mem_append.mp present with before | after
      · exact List.mem_append_left _ before
      · exact List.mem_append_right _ (List.mem_cons_of_mem _ after)
    obtain ⟨_, foundToo⟩ :=
      Pair.exists_side_of_classes (Std.ExtTreeMap.mem_toList_iff_getElem?_eq_some.mp listed)
    obtain rfl := defines.eq named (isClassName_of_mem built (Rows.mem_of_found foundToo))
    exact distinct.1 (List.mem_map.mpr ⟨_, present, rfl⟩)

theorem sorted_members (built : ofFont font = .ok feature) {kept : List String}
    (found : (feature.groups.get side)[name]? = some kept) :
    kept.mergeSort (· ≤ ·) ≠ [] ∧ (kept.mergeSort (· ≤ ·)).Pairwise (· < ·) ∧
      ∀ glyph ∈ kept.mergeSort (· ≤ ·), glyph ∈ font.glyphNames := by
  obtain ⟨distinct, filled⟩ := nodup_of_groups built found
  have perm := List.mergeSort_perm kept (· ≤ ·)
  refine ⟨fun empty => filled ?_, ?_, fun glyph member => ?_⟩
  · rw [empty] at perm
    exact perm.symm.eq_nil
  · have ascending := List.pairwise_mergeSort' (· ≤ ·) kept
    exact (ascending.and (perm.nodup_iff.mpr distinct)).imp fun both => lt_of_le_of_ne both.1 both.2
  · exact mem_glyphNames_of_lists built (Groups.lists_iff.mpr ⟨kept, found, perm.mem_iff.mp member⟩)

/-- Whether one line of the body, before all rules, defines the class of the side, and lists its
members, which are glyphs of the font, in order. -/
def DefinesOnce (feature : KernFeature) (font : Font) (side : Side) (name : String) : Prop :=
  ∃ kept members before after, (feature.groups.get side)[name]? = some kept ∧ members.Perm kept ∧
    members ≠ [] ∧ members.Pairwise (· < ·) ∧ (∀ glyph ∈ members, glyph ∈ font.glyphNames) ∧
      feature.body = before ++ definitionLine name members :: after ∧
        (∀ line ∈ before ++ after, ¬ Defines name line) ∧
          ∀ rule ∈ feature.separation.rules, rule.text ∉ before ++ [definitionLine name members]

theorem definesOnce_of_mem (built : ofFont font = .ok feature)
    (member : name ∈ feature.groups.get side) : feature.DefinesOnce font side name := by
  have named := isClassName_of_mem built member
  obtain ⟨kept, found⟩ := Rows.exists_of_mem member
  obtain ⟨filled, ascending, present⟩ := sorted_members built found
  obtain ⟨before, after, split, others⟩ :=
    split_classLines built named ((getElem?_classes built named).trans found)
  refine ⟨kept, kept.mergeSort (· ≤ ·), before, after ++ feature.separation.lines, found,
    List.mergeSort_perm kept (· ≤ ·), filled, ascending, present, ?_, fun line listed => ?_,
    fun rule _ early => ?_⟩
  · rw [body, split, List.append_assoc, List.cons_append]
  · rw [← List.append_assoc] at listed
    rcases List.mem_append.mp listed with defined | ruled
    · exact others line defined
    · exact Separation.not_defines_of_mem_lines named ruled
  · refine text_not_mem_classLines built rule ?_
    rw [split, List.append_cons]
    exact List.mem_append_left _ early

/-- A class in a rule stands for a class of a pair, and so for one of the side's groups. -/
theorem definesOnce_of_mem_rules (built : ofFont font = .ok feature)
    (member : rule ∈ feature.separation.rules) (used : rule.sides.get side = .group name) :
    feature.DefinesOnce font side name := by
  rcases Separation.operand_cases member side with ⟨pair, spoken, same⟩ | ⟨members, same, _⟩
  · rw [used] at same
    cases stands : pair.get side with
    | glyph glyph =>
      rw [stands] at same
      cases same
    | group group =>
      rw [stands] at same
      cases same
      exact definesOnce_of_mem built (mem_groups_of_mem_pairs built spoken stands)
  · cases used.symm.trans same

theorem mem_glyphNames_of_mem_rules (built : ofFont font = .ok feature)
    (member : rule ∈ feature.separation.rules) {glyph : String}
    (named : glyph ∈ (rule.sides.get side).glyphs) : glyph ∈ font.glyphNames := by
  rcases Separation.operand_cases member side with ⟨pair, spoken, same⟩ |
    ⟨members, same, _, _, lists⟩
  · rw [same] at named
    cases stands : pair.get side with
    | glyph name =>
      rw [stands] at named
      obtain rfl := List.mem_singleton.mp named
      exact mem_glyphNames_of_mem_pairs built spoken stands
    | group group =>
      rw [stands] at named
      cases named
  · rw [same] at named
    obtain ⟨group, listed⟩ := lists glyph named
    exact mem_glyphNames_of_lists built listed

theorem text_eq_block (kerned : feature.pairs.isEmpty = false) (header : Option String) :
    feature.text header = Block.text header feature.body := by
  rw [text, kerned]
  rfl

/-- A body that refers to nothing but what it defines and to glyphs of the font. -/
structure Closed (feature : KernFeature) (font : Font) : Prop where
  written : ∀ header, feature.text header = Block.text header feature.body
  lines : ∀ header, ∀ line ∈ feature.body, Block.HasLine (feature.text header) line
  /-- Besides blank lines and comments there are definitions and the rules. -/
  statements : ∀ line ∈ feature.body, line = "" ∨ line.toList.head? = some '#' ∨
    (∃ name members, line = definitionLine name members) ∨
      ∃ rule ∈ feature.separation.rules, line = rule.text
  classes : ∀ rule ∈ feature.separation.rules, ∀ side name, rule.sides.get side = .group name →
    feature.DefinesOnce font side name
  glyphs : ∀ rule ∈ feature.separation.rules, ∀ side,
    ∀ glyph ∈ (rule.sides.get side).glyphs, glyph ∈ font.glyphNames

/-- Whenever there is kerning, all that its rules refer to is there. -/
theorem closed_ofFont (built : ofFont font = .ok feature) (kerned : feature.pairs.isEmpty = false) :
    feature.Closed font where
  written := text_eq_block kerned
  lines header line member := text_eq_block kerned header ▸ Block.hasLine_text header member
  statements line member := by
    rcases List.mem_append.mp member with defined | ruled
    · obtain ⟨name, members, _, written⟩ := definitionLine_of_mem_classLines built defined
      exact .inr (.inr (.inl ⟨name, members, written⟩))
    · exact (Separation.mem_lines ruled).imp_right (Or.imp_right .inr)
  classes _ member _ _ used := definesOnce_of_mem_rules built member used
  glyphs _ member _ _ named := mem_glyphNames_of_mem_rules built member named

private def sigils : Font where
  glyphs := [{ name := "B" }, { name := "A" }, { name := "@kern1.A" }, { name := "V" }]
  groups := .ofList [("public.kern1.A", ["B", "A", "Lost"]), ("public.kern1.A!", ["B"]),
    ("public.kern2.A", ["V", "A"])]
  kerning := .ofList ([(⟨"A", "public.kern2.A"⟩, 1), (⟨"@kern1.A", "public.kern2.A"⟩, 2),
    (⟨"public.kern1.A!", "Lost"⟩, 3), (⟨"public.kern1.A!", "public.kern2.A"⟩, 4)] :
      List (Pair String String × Int))

/-- A glyph that is named like a class, two classes that share a glyph, and a class of one name on
each side. -/
theorem closed_sigils : ∃ feature, ofFont sigils = .ok feature ∧
    feature.pairs.isEmpty = false ∧ feature.separation.rules =
      [⟨⟨.glyph "A", .listed ["A", "V"]⟩, 1⟩, ⟨⟨.glyph "@kern1.A", .group "@kern2.A"⟩, 2⟩,
        ⟨⟨.group "@kern1.A1", .group "@kern2.A"⟩, 4⟩] ∧
      feature.Closed sigils ∧ Block.HasLine (feature.text none) "pos @kern1.A1 @kern2.A 4;" := by
  have shown : (ofFont sigils).toOption.map (fun feature =>
      ((feature.pairs.isEmpty, feature.separation.rules), feature.separation.lines.getLast?)) =
    some ((false, [⟨⟨.glyph "A", .listed ["A", "V"]⟩, 1⟩,
      ⟨⟨.glyph "@kern1.A", .group "@kern2.A"⟩, 2⟩, ⟨⟨.group "@kern1.A1", .group "@kern2.A"⟩, 4⟩]),
        some "pos @kern1.A1 @kern2.A 4;") := by decide +kernel
  obtain ⟨feature, built, seen⟩ := exists_of_map_toOption shown
  simp only [Prod.mk.injEq] at seen
  obtain ⟨⟨kerned, rules⟩, last⟩ := seen
  have closed := closed_ofFont built kerned
  have written : "pos @kern1.A1 @kern2.A 4;" ∈ feature.body :=
    List.mem_append_right _ (List.mem_of_getLast? last)
  exact ⟨feature, built, kerned, rules, closed, closed.lines none _ written⟩

end KernFeature
end FontPrep
