import FontPrep.Proofs.Kerning.Dependence
import FontPrep.Proofs.Text

/-! How statements of kerning are told apart. Where names are words, each part of a statement shows
where it ends, so a statement is read back from the left: what is written of a part, with more text
after it, determines the part and the text. -/
namespace FontPrep

namespace Text

/-- A name without the characters at which names end in a statement. -/
structure IsWord (name : String) : Prop where
  filled : name ≠ ""
  space : ' ' ∉ name.toList
  newline : '\n' ∉ name.toList
  bracket : ']' ∉ name.toList

/-- Names that can be written in brackets. -/
def IsWordList (names : List String) : Prop := names ≠ [] ∧ ∀ name ∈ names, IsWord name

end Text

theorem oneLine_bracketed {members : List String} (words : ∀ name ∈ members, Text.IsWord name) :
    Text.OneLine (bracketed members) := by
  have opening : Text.OneLine "[" := by decide
  have space : Text.OneLine " " := by decide
  have closing : Text.OneLine "]" := by decide
  rw [bracketed_eq]
  refine (opening.append (space.intercalate fun name member => ?_)).append closing
  exact (words name (List.mem_mergeSort.mp member)).newline

/-- A list in brackets shows its members, but not their order. -/
theorem perm_of_bracketed_append {members others : List String} {rest tail : String}
    (words : Text.IsWordList members) (wordsToo : Text.IsWordList others)
    (same : bracketed members ++ rest = bracketed others ++ tail) :
    members.Perm others ∧ rest = tail := by
  have sorted {members : List String} (words : Text.IsWordList members) :
      Text.IsWordList (members.mergeSort (· ≤ ·)) := by
    refine ⟨fun empty => words.1 ?_, fun name member => ?_⟩
    · have perm := List.mergeSort_perm members (· ≤ ·)
      rw [empty] at perm
      exact perm.symm.eq_nil
    · exact words.2 name (List.mem_mergeSort.mp member)
  have within {members : List String} (words : Text.IsWordList members) :
      ']' ∉ (" ".intercalate members).toList := by
    intro member
    rcases Text.mem_intercalate member with between | ⟨name, present, inside⟩
    · exact absurd between (by decide)
    · exact (words.2 name present).bracket inside
  rw [bracketed_eq, bracketed_eq] at same
  simp only [String.append_assoc, String.append_right_inj] at same
  -- The first closing bracket ends the list, and the blanks before it part the names.
  obtain ⟨inside, outside⟩ :=
    Text.append_inj_of_not_mem rfl (within (sorted words)) (within (sorted wordsToo)) same
  have ordered := Text.intercalate_inj rfl (sorted words).1 (sorted wordsToo).1
    (fun name member => ((sorted words).2 name member).space)
    (fun name member => ((sorted wordsToo).2 name member).space) inside
  refine ⟨?_, outside⟩
  exact (List.mergeSort_perm members (· ≤ ·)).symm.trans
    (ordered ▸ List.mergeSort_perm others (· ≤ ·))

namespace Operand

/-- An operand that can be read back: its names are words, and a list of them ascends. -/
def Legible : Operand → Prop
  | glyph name | group name => Text.IsWord name
  | listed members => Text.IsWordList members ∧ members.Pairwise (· < ·)

/-- Whether two operands are of one kind. -/
inductive Alike : Operand → Operand → Prop where
  | glyph : Alike (glyph name) (glyph other)
  | group : Alike (group name) (group other)
  | listed : Alike (listed members) (listed others)

variable {one two : Operand} {rest tail : String}

theorem isEmpty_of_legible (legible : one.Legible) : one.isEmpty = false := by
  cases one with
  | glyph name => simpa [isEmpty] using legible.filled
  | group name => simpa [isEmpty] using legible.filled
  | listed members => simpa [isEmpty] using legible.1.1

theorem oneLine_text (legible : one.Legible) : Text.OneLine one.text := by
  cases one with
  | glyph name => exact legible.newline
  | group name => exact legible.newline
  | listed members => exact oneLine_bracketed legible.1.2

theorem isInline_of_alike (alike : one.Alike two) : one.isInline = two.isInline := by
  cases alike <;> rfl

/-- Whatever follows it, an operand is told apart from all others of its kind. -/
theorem eq_of_text_append (alike : one.Alike two) (legible : one.Legible)
    (legibleToo : two.Legible) (same : one.text ++ (" " ++ rest) = two.text ++ (" " ++ tail)) :
    one = two ∧ rest = tail := by
  cases alike with
  | glyph =>
    obtain ⟨rfl, after⟩ := Text.append_inj_of_not_mem rfl legible.space legibleToo.space same
    exact ⟨rfl, after⟩
  | group =>
    obtain ⟨rfl, after⟩ := Text.append_inj_of_not_mem rfl legible.space legibleToo.space same
    exact ⟨rfl, after⟩
  | listed =>
    obtain ⟨perm, after⟩ := perm_of_bracketed_append legible.1 legibleToo.1 same
    obtain rfl := perm.eq_of_pairwise' (legible.2.imp le_of_lt) (legibleToo.2.imp le_of_lt)
    exact ⟨rfl, (String.append_right_inj " ").mp after⟩

end Operand

namespace Rule

variable {rule other : Rule}

def Legible (rule : Rule) : Prop := rule.sides.first.Legible ∧ rule.sides.second.Legible

theorem isWritable_of_legible (legible : rule.Legible) : rule.isWritable = true := by
  simp [isWritable, Operand.isEmpty_of_legible legible.1, Operand.isEmpty_of_legible legible.2]

theorem oneLine_keyword (rule : Rule) : Text.OneLine rule.keyword := by
  unfold keyword
  split <;> decide

theorem oneLine_text (legible : rule.Legible) : Text.OneLine rule.text := by
  have space : Text.OneLine " " := by decide
  have stop : Text.OneLine ";" := by decide
  exact (((((((oneLine_keyword rule).append space).append (Operand.oneLine_text legible.1)).append
    space).append (Operand.oneLine_text legible.2)).append space).append
      (Text.oneLine_toString _)).append stop

theorem eq_of_text (first : rule.sides.first.Alike other.sides.first)
    (second : rule.sides.second.Alike other.sides.second) (legible : rule.Legible)
    (legibleToo : other.Legible) (same : rule.text = other.text) : rule = other := by
  have keyword : rule.keyword = other.keyword := by
    rw [Rule.keyword, Rule.keyword, Operand.isInline_of_alike first,
      Operand.isInline_of_alike second]
  simp only [text, keyword, String.append_assoc, String.append_right_inj] at same
  obtain ⟨front, same⟩ := Operand.eq_of_text_append first legible.1 legibleToo.1 same
  obtain ⟨back, same⟩ := Operand.eq_of_text_append second legible.2 legibleToo.2 same
  rw [String.append_left_inj, Int.toString_eq_repr, Int.toString_eq_repr] at same
  have value := Int.repr_injective same
  obtain ⟨⟨one, two⟩, number⟩ := rule
  obtain ⟨⟨one', two'⟩, number'⟩ := other
  simp_all

end Rule

/-- Lists are equal if what is written of them is, item by item, where items are told apart. -/
theorem eq_of_map_eq {α β : Type} {items others : List α} {write : α → β}
    (apart : ∀ item ∈ items, ∀ other ∈ others, write item = write other → item = other)
    (same : items.map write = others.map write) : items = others := by
  induction items generalizing others with
  | nil => exact (List.map_eq_nil_iff.mp same.symm).symm
  | cons item rest ih =>
    cases others with
    | nil => cases same
    | cons other tail =>
      obtain ⟨head, after⟩ := List.cons.inj same
      have later := ih (fun item member other present => apart item (List.mem_cons_of_mem _ member)
        other (List.mem_cons_of_mem _ present)) after
      rw [apart item (by simp) other (by simp) head, later]

namespace Rules

variable {α β : Type} [Ord α] [Ord β] [Std.TransOrd α] [Std.TransOrd β]
variable {first : α → Operand} {second : β → Operand} {rules others : Rules α β}

theorem eq_of_texts (alike : ∀ one two, (first one).Alike (first two))
    (alikeToo : ∀ one two, (second one).Alike (second two))
    (injective : Function.Injective first) (injectiveToo : Function.Injective second)
    (legible : ∀ rule ∈ written first second rules, rule.Legible)
    (legibleToo : ∀ rule ∈ written first second others, rule.Legible)
    (same : (written first second rules).map Rule.text =
      (written first second others).map Rule.text) : rules = others := by
  have rows : written first second rules = written first second others := by
    refine eq_of_map_eq (fun rule member other present texts => ?_) same
    obtain ⟨row, _, rfl⟩ := List.mem_map.mp member
    obtain ⟨entry, _, rfl⟩ := List.mem_map.mp present
    exact Rule.eq_of_text (alike _ _) (alikeToo _ _) (legible _ member) (legibleToo _ present) texts
  refine Std.ExtTreeMap.toList_inj.mp (Function.Injective.list_map (fun row entry made => ?_) rows)
  obtain ⟨⟨one, two⟩, value⟩ := row
  obtain ⟨⟨one', two'⟩, value'⟩ := entry
  simp only [Rule.mk.injEq, Pair.mk.injEq, injective.eq_iff, injectiveToo.eq_iff] at made
  simp [made]

end Rules

def Groups.Legible (groups : Groups) : Prop :=
  ∀ ⦃name : String⦄ ⦃members⦄, groups[name]? = some members →
    Text.IsWord name ∧ Text.IsWordList members

theorem Groups.agree_of_map_bracketed {groups others : Groups} (legible : groups.Legible)
    (legibleToo : others.Legible)
    (same : groups.map (fun _ => bracketed) = others.map fun _ => bracketed) :
    groups.Agree others := by
  intro name
  have written := congrArg (·[name]?) same
  simp only [Std.ExtTreeMap.getElem?_map] at written
  cases found : groups[name]? <;> cases foundToo : others[name]? <;>
    simp only [found, foundToo, Option.map_some, Option.map_none, reduceCtorEq,
      Option.some.injEq] at written
  · exact .inl ⟨rfl, rfl⟩
  · obtain ⟨perm, _⟩ := perm_of_bracketed_append (legible found).2 (legibleToo foundToo).2
      (congrArg (· ++ "") written)
    exact .inr ⟨_, _, rfl, rfl, perm⟩

namespace Pair

variable {groups others : Pair Groups Groups}

theorem mem_classLines {line : String} : line ∈ groups.classLines ↔
    ∃ name members, groups.classes[name]? = some members ∧
      line = name ++ " = " ++ bracketed members ++ ";" := by
  simp only [classLines, List.mem_map, Prod.exists,
    Std.ExtTreeMap.mem_toList_iff_getElem?_eq_some, eq_comm]

theorem empty_not_mem_classLines : "" ∉ groups.classLines := by
  intro member
  obtain ⟨name, members, _, empty⟩ := mem_classLines.mp member
  simp at empty

theorem oneLine_classLines (legible : groups.classes.Legible) {line : String}
    (member : line ∈ groups.classLines) : Text.OneLine line := by
  have equals : Text.OneLine " = " := by decide
  have stop : Text.OneLine ";" := by decide
  obtain ⟨name, members, found, rfl⟩ := mem_classLines.mp member
  obtain ⟨word, words⟩ := legible found
  have opening : Text.OneLine (name ++ " = ") := Text.OneLine.append word.newline equals
  exact (opening.append (oneLine_bracketed words.2)).append stop

/-- The definitions of classes show who is in them. -/
theorem agree_of_classLines (legible : groups.classes.Legible) (legibleToo : others.classes.Legible)
    (same : groups.classLines = others.classLines) : groups.classes.Agree others.classes := by
  have word {groups : Groups} (legible : groups.Legible) :
      ∀ row ∈ (groups.map fun _ => bracketed).toList, Text.IsWord row.1 := by
    intro row member
    rw [Std.ExtTreeMap.mem_toList_iff_getElem?_eq_some, Std.ExtTreeMap.getElem?_map,
      Option.map_eq_some_iff] at member
    obtain ⟨members, found, _⟩ := member
    exact (legible found).1
  refine Groups.agree_of_map_bracketed legible legibleToo ?_
  rw [classLines_eq, classLines_eq] at same
  refine Std.ExtTreeMap.toList_inj.mp (eq_of_map_eq (fun row member other present texts => ?_) same)
  simp only [String.append_assoc] at texts
  obtain ⟨name, text⟩ := Text.append_inj_of_not_mem rfl (word legible row member).space
    (word legibleToo other present).space texts
  exact Prod.ext name ((String.append_left_inj ";").mp text)

end Pair
end FontPrep
