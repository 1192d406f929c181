import FontPrep.Proofs.Kerning.Entries
import FontPrep.Proofs.Kerning.Spelling

/-! What the text of a kern feature tells. Where no glyph name has a blank or a sign of the feature
language, the text determines the classes with their members, and all separated kerning. -/
namespace FontPrep

namespace Section

variable {part other : Section} {parts others : List Section}

/-- A section all of whose rules have something on both sides. -/
def Writable (part : Section) : Prop := ∀ rule ∈ part.rules, rule.isWritable = true

/-- A section all of whose rules can be read back. -/
def Legible (part : Section) : Prop := ∀ rule ∈ part.rules, rule.Legible

theorem Legible.writable (legible : part.Legible) : part.Writable := fun rule member =>
  Rule.isWritable_of_legible (legible rule member)

def texts (part : Section) : List String := part.rules.map Rule.text

theorem lines_eq (writable : part.Writable) :
    part.lines = if part.texts = [] then [] else "" :: part.label :: part.texts := by
  have kept : part.rules.filter Rule.isWritable = part.rules :=
    List.filter_eq_self.mpr writable
  unfold lines texts
  rw [kept]
  cases part.rules <;> simp

theorem empty_not_mem_texts (part : Section) : "" ∉ part.texts := by
  intro member
  obtain ⟨rule, _, empty⟩ := List.mem_map.mp member
  simp [Rule.text] at empty

/-- The lines of sections begin with the blank line and the label of one of them. -/
theorem flatMap_lines_cases (legible : ∀ part ∈ parts, part.Legible) :
    parts.flatMap lines = [] ∨
      ∃ part ∈ parts, ∃ rest, parts.flatMap lines = "" :: part.label :: rest := by
  induction parts with
  | nil => exact .inl rfl
  | cons part parts ih =>
    rw [List.flatMap_cons, lines_eq (legible part (by simp)).writable]
    split
    · rcases ih fun part member => legible part (List.mem_cons_of_mem _ member) with
        none | ⟨found, member, rest, lines⟩
      · exact .inl none
      · exact .inr ⟨found, List.mem_cons_of_mem _ member, rest, lines⟩
    · exact .inr ⟨part, by simp, _, rfl⟩

theorem oneLine_lines (legible : part.Legible) (label : Text.OneLine part.label) :
    ∀ line ∈ part.lines, Text.OneLine line := by
  intro line member
  rw [lines_eq legible.writable] at member
  split at member
  · cases member
  · rcases List.mem_cons.mp member with rfl | member
    · decide
    · rcases List.mem_cons.mp member with rfl | member
      · exact label
      · obtain ⟨rule, present, rfl⟩ := List.mem_map.mp member
        exact Rule.oneLine_text (legible rule present)

theorem head?_flatMap_lines (legible : ∀ part ∈ parts, part.Legible) :
    ∀ line ∈ (parts.flatMap lines).head?, line = "" := by
  intro line member
  rcases flatMap_lines_cases legible with none | ⟨part, _, rest, begins⟩
  · simp [none] at member
  · rw [begins] at member
    exact (Option.some.inj member).symm

theorem label_mem_of_flatMap_lines (legible : ∀ part ∈ parts, part.Legible) {label : String}
    {rest : List String} (begins : parts.flatMap lines = "" :: label :: rest) :
    label ∈ parts.map Section.label := by
  rcases flatMap_lines_cases legible with none | ⟨part, member, tail, same⟩
  · cases none.symm.trans begins
  · cases same.symm.trans begins
    exact List.mem_map_of_mem member

/-- One section, with others after it that have other labels, shows its rules. -/
theorem texts_of_lines_append (labels : part.label = other.label)
    (legible : part.Legible) (legibleToo : other.Legible)
    (legibles : ∀ part ∈ parts, part.Legible) (legiblesToo : ∀ part ∈ others, part.Legible)
    (apart : part.label ∉ parts.map Section.label)
    (apartToo : other.label ∉ others.map Section.label)
    (same : part.lines ++ parts.flatMap lines = other.lines ++ others.flatMap lines) :
    part.texts = other.texts ∧ parts.flatMap lines = others.flatMap lines := by
  rw [lines_eq legible.writable, lines_eq legibleToo.writable] at same
  by_cases none : part.texts = [] <;> by_cases noneToo : other.texts = [] <;>
    simp only [none, noneToo, if_true, if_false, List.nil_append, List.cons_append] at same
  -- If just one of the two has rules, its label stands where the other has a later one.
  · exact ⟨none.trans noneToo.symm, same⟩
  · rw [← labels] at same
    exact absurd (label_mem_of_flatMap_lines legibles same) apart
  · rw [labels] at same
    exact absurd (label_mem_of_flatMap_lines legiblesToo same.symm) apartToo
  · simp only [labels, List.cons.injEq, true_and] at same
    exact Text.append_inj_of_separator part.empty_not_mem_texts other.empty_not_mem_texts
      (head?_flatMap_lines legibles) (head?_flatMap_lines legiblesToo) same

theorem texts_of_flatMap_lines (labels : parts.map Section.label = others.map Section.label)
    (distinct : (parts.map Section.label).Nodup) (legible : ∀ part ∈ parts, part.Legible)
    (legibleToo : ∀ part ∈ others, part.Legible)
    (same : parts.flatMap lines = others.flatMap lines) : parts.map texts = others.map texts := by
  induction parts generalizing others with
  | nil =>
    obtain rfl := List.map_eq_nil_iff.mp labels.symm
    rfl
  | cons part parts ih =>
    cases others with
    | nil => cases labels
    | cons other others =>
      obtain ⟨label, labels⟩ := List.cons.inj labels
      obtain ⟨apart, distinct⟩ := List.nodup_cons.mp distinct
      obtain ⟨first, legible⟩ := List.forall_mem_cons.mp legible
      obtain ⟨firstToo, legibleToo⟩ := List.forall_mem_cons.mp legibleToo
      have apartToo : other.label ∉ others.map Section.label := label ▸ labels ▸ apart
      obtain ⟨texts, after⟩ :=
        texts_of_lines_append label first firstToo legible legibleToo apart apartToo same
      rw [List.map_cons, List.map_cons, texts, ih labels distinct legible legibleToo after]

end Section

namespace Block

variable {body others : List String}

theorem text_ne_empty (header : Option String) (body : List String) : text header body ≠ "" := by
  intro empty
  have begins : lines header body = "feature kern \x7b" ::
      (((header.map headerLines).getD []).map (indent ++ ·) ++ body.map indented ++
        ["\x7d kern;"]) := rfl
  rw [text, begins] at empty
  cases after : ((header.map headerLines).getD []).map (indent ++ ·) ++ body.map indented ++
      ["\x7d kern;"] with
  | nil => simp at after
  | cons next rest =>
    rw [after, String.intercalate_cons_cons] at empty
    simp at empty

/-- Whether the line, indented unless it is blank, is a whole line of the text. -/
def HasLine (text line : String) : Prop :=
  ∃ before after, text = before ++ "\n" ++ indented line ++ "\n" ++ after

theorem hasLine_text (header : Option String) {line : String} (member : line ∈ body) :
    HasLine (text header body) line := by
  obtain ⟨earlier, later, rfl⟩ := List.append_of_mem member
  have parts : lines header (earlier ++ line :: later) =
      ("feature kern \x7b" :: (((header.map headerLines).getD []).map (indent ++ ·) ++
        earlier.map indented)) ++ indented line :: (later.map indented ++ ["\x7d kern;"]) := by
    simp [lines]
  exact ⟨_, _, by rw [text, parts, Text.intercalate_middle (by simp) (by simp)]⟩

theorem indented_injective : Function.Injective indented := by
  intro line other same
  unfold indented at same
  split at same <;> split at same
  · simp_all
  · simp [indent] at same
  · simp [indent] at same
  · exact (String.append_right_inj _).mp same

theorem body_of_text (clean : ∀ line ∈ body, Text.OneLine line)
    (cleanToo : ∀ line ∈ others, Text.OneLine line) (same : text none body = text none others) :
    body = others := by
  have oneLine {body : List String} (clean : ∀ line ∈ body, Text.OneLine line) :
      ∀ line ∈ lines none body, Text.OneLine line := by
    intro line member
    simp only [lines, Option.map_none, Option.getD_none, List.map_nil, List.append_nil,
      List.mem_append, List.mem_map, List.mem_singleton] at member
    rcases member with (rfl | ⟨line, present, rfl⟩) | rfl
    · decide
    · unfold indented
      split
      · decide
      · exact Text.OneLine.append (by decide) (clean line present)
    · decide
  have filled (body : List String) : lines none body ≠ [] := by simp [lines]
  have all := Text.intercalate_inj rfl (filled body) (filled others) (oneLine clean)
    (oneLine cleanToo) same
  simp only [lines, List.append_cancel_right_eq, List.append_cancel_left_eq] at all
  exact indented_injective.list_map all

end Block

theorem Side.IsClassName.isWord {side : Side} {name : String} (named : side.IsClassName name) :
    Text.IsWord name := by
  obtain ⟨rest, rfl, _, _, word⟩ := named
  have absent (c : Char) (lead : c ∉ side.classLead.toList) (sign : ¬ Name.IsWordChar c) :
      c ∉ (side.classLead ++ rest).toList := by
    intro member
    rw [String.toList_append, List.mem_append] at member
    rcases member with before | after
    · exact lead before
    · exact sign (word c after)
  constructor
  · intro empty
    rw [String.append_eq_empty_iff] at empty
    revert empty
    cases side <;> simp [Side.classLead]
  all_goals
    refine absent _ (by cases side <;> decide) ?_
    unfold Name.IsWordChar
    decide

namespace Separation

variable {pairs : Pairs} {groups : Pair Groups Groups}

theorem legible_of_mem_rules {rule : Rule}
    (keys : ∀ pair ∈ pairs, ∀ side, Text.IsWord (pair.get side).name)
    (members : ∀ side group glyph, (groups.get side).Lists group glyph → Text.IsWord glyph)
    (member : rule ∈ (ofPairs pairs groups).rules) : rule.Legible := by
  have legible (side : Side) : (rule.sides.get side).Legible := by
    rcases operand_cases member side with ⟨pair, spoken, same⟩ |
      ⟨names, same, filled, ascending, lists⟩
    · have word := keys pair spoken side
      rw [same]
      cases stands : pair.get side with
      | glyph name => rw [stands] at word; exact word
      | group name => rw [stands] at word; exact word
    · rw [same]
      refine ⟨⟨filled, fun glyph named => ?_⟩, ascending⟩
      obtain ⟨group, listed⟩ := lists glyph named
      exact members side group glyph listed
  exact ⟨legible .first, legible .second⟩

theorem nodup_labels (separation : Separation) :
    (separation.sections.map Section.label).Nodup := by
  simp [sections]

theorem oneLine_labels (separation : Separation) :
    ∀ part ∈ separation.sections, Text.OneLine part.label := by
  unfold Text.OneLine
  simp [sections]

theorem eq_of_texts {separation other : Separation}
    (legible : ∀ part ∈ separation.sections, part.Legible)
    (legibleToo : ∀ part ∈ other.sections, part.Legible)
    (same : separation.sections.map Section.texts = other.sections.map Section.texts) :
    separation = other := by
  have glyph : Function.Injective Operand.glyph := fun _ _ => Operand.glyph.inj
  have group : Function.Injective Operand.group := fun _ _ => Operand.group.inj
  have listed : Function.Injective Operand.listed := fun _ _ => Operand.listed.inj
  simp only [sections, List.map_cons, List.cons.injEq] at same
  simp only [sections, List.forall_mem_cons] at legible legibleToo
  obtain ⟨glyphGlyph, glyphListed, listedGlyph, glyphGroup, groupGlyph, groupGroup, _⟩ := same
  obtain ⟨one, two, three, four, five, six, _⟩ := legible
  obtain ⟨one', two', three', four', five', six', _⟩ := legibleToo
  apply Separation.ext
  · exact Rules.eq_of_texts (fun _ _ => .glyph) (fun _ _ => .glyph) glyph glyph one one' glyphGlyph
  · exact Rules.eq_of_texts (fun _ _ => .glyph) (fun _ _ => .listed) glyph listed two two'
      glyphListed
  · exact Rules.eq_of_texts (fun _ _ => .listed) (fun _ _ => .glyph) listed glyph three three'
      listedGlyph
  · exact Rules.eq_of_texts (fun _ _ => .glyph) (fun _ _ => .group) glyph group four four'
      glyphGroup
  · exact Rules.eq_of_texts (fun _ _ => .group) (fun _ _ => .glyph) group glyph five five'
      groupGlyph
  · exact Rules.eq_of_texts (fun _ _ => .group) (fun _ _ => .group) group group six six' groupGroup

end Separation

namespace Text

/-- Signs that statements of the feature language are made with. -/
def signs : List Char := ['[', ']', ';', '@', '#', '=']

/-- A name that is there and has no blank and no sign. -/
def IsPlain (name : String) : Prop :=
  name ≠ "" ∧ ∀ c ∈ name.toList, isBlank c = false ∧ c ∉ signs

-- The instance for the characters of a name is given: the one found first would try all characters.
instance instDecidableIsPlain (name : String) : Decidable (IsPlain name) :=
  @instDecidableAnd _ _ _ (List.decidableBAll _ _)

theorem IsPlain.isWord {name : String} (plain : IsPlain name) : IsWord name := by
  obtain ⟨filled, plain⟩ := plain
  constructor
  · exact filled
  all_goals
    intro inside
    exact absurd (plain _ inside) (by decide)

end Text

/-- Whether all glyph names of the font are plain. -/
def Font.Legible (font : Font) : Prop := ∀ name ∈ font.glyphNames, Text.IsPlain name

instance Font.instDecidableLegible (font : Font) : Decidable font.Legible :=
  inferInstanceAs (Decidable (∀ name ∈ font.glyphNames, Text.IsPlain name))

namespace KernFeature

variable {font other : Font} {feature featureToo : KernFeature} {side : Side}

theorem text_eq_empty_iff {header : Option String} :
    feature.text header = "" ↔ feature.pairs.isEmpty = true := by
  unfold text
  split <;> simp_all [Block.text_ne_empty]

theorem isWord_of_lists (built : ofFont font = .ok feature) (legible : font.Legible)
    {name glyph : String} (lists : (feature.groups.get side).Lists name glyph) :
    Text.IsWord glyph :=
  (legible glyph (mem_glyphNames_of_lists built lists)).isWord

theorem legible_classes (built : ofFont font = .ok feature) (legible : font.Legible) :
    feature.groups.classes.Legible := by
  intro name members defined
  obtain ⟨side, found⟩ := Pair.exists_side_of_classes defined
  refine ⟨(isClassName_of_mem built (Rows.mem_of_found found)).isWord,
    (nodup_of_groups built found).2, fun glyph member => ?_⟩
  exact isWord_of_lists built legible (Groups.lists_iff.mpr ⟨members, found, member⟩)

theorem isWord_of_mem_pairs (built : ofFont font = .ok feature) (legible : font.Legible)
    {pair : Pair Key Key} (member : pair ∈ feature.pairs) (side : Side) :
    Text.IsWord (pair.get side).name := by
  cases stands : pair.get side with
  | glyph name => exact (legible name (mem_glyphNames_of_mem_pairs built member stands)).isWord
  | group name =>
    exact (isClassName_of_mem built (mem_groups_of_mem_pairs built member stands)).isWord

theorem legible_sections (built : ofFont font = .ok feature) (legible : font.Legible) :
    ∀ part ∈ feature.separation.sections, part.Legible := by
  intro part present rule member
  exact Separation.legible_of_mem_rules (fun _ spoken => isWord_of_mem_pairs built legible spoken)
    (fun _ _ _ lists => isWord_of_lists built legible lists)
    (List.mem_flatMap.mpr ⟨part, present, member⟩)

theorem oneLine_body (built : ofFont font = .ok feature) (legible : font.Legible) :
    ∀ line ∈ feature.body, Text.OneLine line := by
  intro line member
  rcases List.mem_append.mp member with defined | ruled
  · exact Pair.oneLine_classLines (legible_classes built legible) defined
  · obtain ⟨part, present, within⟩ := List.mem_flatMap.mp ruled
    exact Section.oneLine_lines (legible_sections built legible part present)
      (feature.separation.oneLine_labels part present) line within

theorem body_of_text (built : ofFont font = .ok feature) (builtToo : ofFont other = .ok featureToo)
    (legible : font.Legible) (legibleToo : other.Legible)
    (same : feature.text none = featureToo.text none) (filled : feature.text none ≠ "") :
    feature.body = featureToo.body := by
  have filledToo : featureToo.text none ≠ "" := same ▸ filled
  rw [Ne, text_eq_empty_iff] at filled filledToo
  rw [text, text, if_neg filled, if_neg filledToo] at same
  exact Block.body_of_text (oneLine_body built legible) (oneLine_body builtToo legibleToo) same

theorem statements_of_body (built : ofFont font = .ok feature)
    (builtToo : ofFont other = .ok featureToo) (legible : font.Legible)
    (legibleToo : other.Legible) (same : feature.body = featureToo.body) :
    feature.groups.classLines = featureToo.groups.classLines ∧
      feature.separation.sections.map Section.texts =
        featureToo.separation.sections.map Section.texts := by
  have sections := legible_sections built legible
  have sectionsToo := legible_sections builtToo legibleToo
  obtain ⟨classes, rules⟩ := Text.append_inj_of_separator Pair.empty_not_mem_classLines
    Pair.empty_not_mem_classLines (Section.head?_flatMap_lines sections)
    (Section.head?_flatMap_lines sectionsToo) same
  exact ⟨classes, Section.texts_of_flatMap_lines rfl feature.separation.nodup_labels sections
    sectionsToo rules⟩

/-- Features with one text, unless it is empty, have the same classes and the same rules, so nothing
is lost in writing them. -/
theorem agree_of_text (built : ofFont font = .ok feature) (builtToo : ofFont other = .ok featureToo)
    (legible : font.Legible) (legibleToo : other.Legible)
    (same : feature.text none = featureToo.text none) (filled : feature.text none ≠ "") :
    (∀ side, (feature.groups.get side).Agree (featureToo.groups.get side)) ∧
      feature.separation = featureToo.separation := by
  obtain ⟨classes, rules⟩ := statements_of_body built builtToo legible legibleToo
    (body_of_text built builtToo legible legibleToo same filled)
  have defined := Pair.agree_of_classLines (legible_classes built legible)
    (legible_classes builtToo legibleToo) classes
  refine ⟨fun side name => ?_, Separation.eq_of_texts (legible_sections built legible)
    (legible_sections builtToo legibleToo) rules⟩
  by_cases named : side.IsClassName name
  · rw [← getElem?_classes built named, ← getElem?_classes builtToo named]
    exact defined name
  · have absent {font : Font} {feature : KernFeature} (built : ofFont font = .ok feature) :
        (feature.groups.get side)[name]? = none :=
      Std.ExtTreeMap.getElem?_eq_none fun member => named (isClassName_of_mem built member)
    exact .inl ⟨absent built, absent builtToo⟩

private def ordered : Font where
  glyphs := [{ name := "A" }, { name := "B" }, { name := "V" }, { name := "W" }]
  groups := .ofList [("public.kern1.A", ["A", "B"]), ("public.kern2.V", ["V", "W"])]
  kerning := .ofList ([(⟨"A", "V"⟩, 10), (⟨"A", "public.kern2.V"⟩, 5),
    (⟨"public.kern1.A", "public.kern2.V"⟩, -30)] : List (Pair String String × Int))

private def reordered : Font where
  glyphs := [{ name := "W" }, { name := "V" }, { name := "B" }, { name := "A" }, { name := "C" }]
  groups := .ofList [("public.kern1.A!", ["B", "A", "lost"]), ("public.kern2.V", ["W", "V"])]
  kerning := .ofList ([(⟨"A", "V"⟩, 10), (⟨"A", "public.kern2.V"⟩, 5),
    (⟨"public.kern1.A!", "public.kern2.V"⟩, -30)] : List (Pair String String × Int))

private theorem built_reordered : ∃ feature featureToo,
    ofFont ordered = .ok feature ∧ ofFont reordered = .ok featureToo ∧
      feature.text none = featureToo.text none ∧ feature.text none ≠ "" := by
  have kerned : (ofFont ordered).toOption.map (fun feature =>
      (feature.groups.first.toList, feature.groups.second.toList, feature.pairs.isEmpty)) =
    some ([("@kern1.A", ["A", "B"])], [("@kern2.V", ["V", "W"])], false) := by decide +kernel
  have kernedToo : (ofFont reordered).toOption.map (fun feature =>
      (feature.groups.first.toList, feature.groups.second.toList)) =
    some ([("@kern1.A", ["B", "A"])], [("@kern2.V", ["W", "V"])]) := by decide +kernel
  have pairs : (ofFont ordered).toOption.map (·.pairs.toList) =
      (ofFont reordered).toOption.map (·.pairs.toList) := by decide +kernel
  cases built : ofFont ordered with
  | error stuck => simp [built, Except.toOption] at kerned
  | ok feature =>
    cases builtToo : ofFont reordered with
    | error stuck => simp [builtToo, Except.toOption] at kernedToo
    | ok featureToo =>
      simp only [built, builtToo, Except.toOption, Option.map_some, Option.some.injEq,
        Prod.mk.injEq] at kerned kernedToo pairs
      obtain ⟨first, second, filled⟩ := kerned
      obtain ⟨firstToo, secondToo⟩ := kernedToo
      refine ⟨feature, featureToo, rfl, rfl, text_eq_of_agree (fun side => ?_)
        (Std.ExtTreeMap.toList_inj.mp pairs), by simp [text_eq_empty_iff, filled]⟩
      refine agree_of_lists built builtToo fun name glyph => ?_
      rw [Groups.lists_iff_mem_toList, Groups.lists_iff_mem_toList]
      cases side
      · simp [Pair.get, first, firstToo, or_comm]
      · simp [Pair.get, second, secondToo, or_comm]

/-- Members in another order, and a group under another name. -/
theorem agree_of_text_reordered : ordered.Legible ∧ reordered.Legible ∧ ∃ feature featureToo,
    ofFont ordered = .ok feature ∧ ofFont reordered = .ok featureToo ∧
      feature.text none = featureToo.text none ∧ feature.text none ≠ "" ∧
        (∀ side, (feature.groups.get side).Agree (featureToo.groups.get side)) ∧
          feature.separation = featureToo.separation := by
  have legible : ordered.Legible := by decide +kernel
  have legibleToo : reordered.Legible := by decide +kernel
  obtain ⟨feature, featureToo, built, builtToo, same, filled⟩ := built_reordered
  exact ⟨legible, legibleToo, feature, featureToo, built, builtToo, same, filled,
    agree_of_text built builtToo legible legibleToo same filled⟩

end KernFeature
end FontPrep
