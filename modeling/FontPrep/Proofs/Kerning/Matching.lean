import FontPrep.Kerning.Rule
import FontPrep.Proofs.Kerning.Separation

namespace FontPrep

/-- Whether an operand takes in the glyph; a group takes in its members. -/
def Operand.takes (groups : Groups) (glyph : String) : Operand → Bool
  | .glyph name => name = glyph
  | .group name => groups.Lists name glyph
  | .listed members => glyph ∈ members

/-- What is written for a key. -/
def Operand.ofKey : Key → Operand
  | .glyph name => .glyph name
  | .group name => .group name

def Rule.speaks (groups : Pair Groups Groups) (glyphs : Pair String String) (rule : Rule) : Bool :=
  rule.sides.first.takes groups.first glyphs.first &&
    rule.sides.second.takes groups.second glyphs.second

namespace Operand

variable {groups : Groups} {name glyph : String} {members : List String}

@[simp] theorem takes_glyph : (Operand.glyph name).takes groups glyph = true ↔ name = glyph := by
  simp [takes]

@[simp] theorem takes_group :
    (Operand.group name).takes groups glyph = true ↔ groups.Lists name glyph := by
  simp [takes]

@[simp] theorem takes_listed :
    (Operand.listed members).takes groups glyph = true ↔ glyph ∈ members := by
  simp [takes]

end Operand

namespace Rules

variable {α β : Type} [Ord α] [Ord β] [Std.TransOrd α] [Std.TransOrd β]
variable {first : α → Operand} {second : β → Operand} {rules : Rules α β}

theorem mem_written [Std.LawfulEqOrd α] [Std.LawfulEqOrd β] {rule : Rule} :
    rule ∈ written first second rules ↔ ∃ one two value,
      rules[Pair.mk one two]? = some value ∧ rule = ⟨⟨first one, second two⟩, value⟩ := by
  simp only [written, List.mem_map, Prod.exists, Std.ExtTreeMap.mem_toList_iff_getElem?_eq_some]
  constructor
  · intro member
    obtain ⟨⟨one, two⟩, value, found, rfl⟩ := member
    exact ⟨one, two, value, found, rfl⟩
  · intro holds
    obtain ⟨one, two, value, found, rfl⟩ := holds
    exact ⟨⟨one, two⟩, value, found, rfl⟩

end Rules

/-- Whether at most one of the rules speaks for the glyphs. -/
def SpeakOnce (rules : List Rule) (groups : Pair Groups Groups) (glyphs : Pair String String) :
    Prop :=
  rules.countP (·.speaks groups glyphs) ≤ 1

/-- Whether some rule speaks for the glyphs with that value. -/
def Says (rules : List Rule) (groups : Pair Groups Groups) (glyphs : Pair String String)
    (value : Int) : Prop :=
  ∃ rule ∈ rules, rule.speaks groups glyphs = true ∧ rule.value = value

namespace Separation

def glyphGlyphRules (separation : Separation) : List Rule :=
  Rules.written .glyph .glyph separation.glyphGlyph

def glyphListedRules (separation : Separation) : List Rule :=
  Rules.written .glyph .listed separation.glyphListed

def listedGlyphRules (separation : Separation) : List Rule :=
  Rules.written .listed .glyph separation.listedGlyph

def glyphGroupRules (separation : Separation) : List Rule :=
  Rules.written .glyph .group separation.glyphGroup

def groupGlyphRules (separation : Separation) : List Rule :=
  Rules.written .group .glyph separation.groupGlyph

def groupGroupRules (separation : Separation) : List Rule :=
  Rules.written .group .group separation.groupGroup

/-- The rules with a list of glyphs. -/
def exceptionRules (separation : Separation) : List Rule :=
  separation.glyphListedRules ++ separation.listedGlyphRules

/-- The rules without a group. -/
def glyphRules (separation : Separation) : List Rule :=
  separation.glyphGlyphRules ++ separation.exceptionRules

/-- The rules with a group. -/
def groupRules (separation : Separation) : List Rule :=
  separation.glyphGroupRules ++ (separation.groupGlyphRules ++ separation.groupGroupRules)

theorem rules_eq (separation : Separation) :
    separation.rules = separation.glyphRules ++ separation.groupRules := by
  simp [rules, sections, glyphRules, exceptionRules, groupRules, glyphGlyphRules,
    glyphListedRules, listedGlyphRules, glyphGroupRules, groupGlyphRules, groupGroupRules]

/-- The value of the first rule in writing order that speaks for the glyphs. -/
def value? (separation : Separation) (groups : Pair Groups Groups) (glyphs : Pair String String) :
    Option Int :=
  (separation.rules.find? (·.speaks groups glyphs)).map Rule.value

variable {pairs : Pairs} {groups : Pair Groups Groups} {first second : String} {value : Int}

theorem says_iff {α β : Type} [Ord α] [Ord β] [Std.TransOrd α] [Std.TransOrd β]
    [Std.LawfulEqOrd α] [Std.LawfulEqOrd β] {one : α → Operand} {two : β → Operand}
    {rules : Rules α β} : Says (Rules.written one two rules) groups ⟨first, second⟩ value ↔
      ∃ left right, rules[Pair.mk left right]? = some value ∧
        (one left).takes groups.first first = true ∧
          (two right).takes groups.second second = true := by
  simp only [Says, Rules.mem_written, Rule.speaks, Bool.and_eq_true]
  constructor
  · intro said
    obtain ⟨rule, ⟨left, right, number, found, rfl⟩, ⟨takesFirst, takesSecond⟩, rfl⟩ := said
    exact ⟨left, right, found, takesFirst, takesSecond⟩
  · intro holds
    obtain ⟨left, right, found, takesFirst, takesSecond⟩ := holds
    exact ⟨_, ⟨left, right, value, found, rfl⟩, ⟨takesFirst, takesSecond⟩, rfl⟩

theorem says_glyphGlyph :
    Says (ofPairs pairs groups).glyphGlyphRules groups ⟨first, second⟩ value ↔
      pairs[Pair.mk (Key.glyph first) (Key.glyph second)]? = some value := by
  simp [glyphGlyphRules, says_iff, glyphGlyph_iff]

theorem says_glyphListed :
    Says (ofPairs pairs groups).glyphListedRules groups ⟨first, second⟩ value ↔
      ∃ group, pairs[Pair.mk (Key.glyph first) (Key.group group)]? = some value ∧
          (∃ owner, groups.first.Lists owner first) ∧
            pairs.GlyphListed groups first group second := by
  simp only [glyphListedRules, says_iff, glyphListed_iff, Operand.takes_glyph, Operand.takes_listed]
  constructor
  · intro said
    obtain ⟨_, members, ⟨_, group, found, owned, listed⟩, rfl, present⟩ := said
    exact ⟨group, found, owned, (listed.2 second).mp present⟩
  · intro holds
    obtain ⟨group, found, owned, holds⟩ := holds
    obtain ⟨members, listed⟩ := Pairs.exists_glyphListed found owned
    have present := (listed.2 second).mpr holds
    exact ⟨first, members, ⟨List.ne_nil_of_mem present, group, found, owned, listed⟩, rfl, present⟩

theorem says_listedGlyph :
    Says (ofPairs pairs groups).listedGlyphRules groups ⟨first, second⟩ value ↔
      ∃ group, pairs[Pair.mk (Key.group group) (Key.glyph second)]? = some value ∧
          (∃ owner, groups.second.Lists owner second) ∧
            pairs.ListedGlyph groups group second first := by
  simp only [listedGlyphRules, says_iff, listedGlyph_iff, Operand.takes_glyph, Operand.takes_listed]
  constructor
  · intro said
    obtain ⟨members, _, ⟨_, group, found, owned, listed⟩, present, rfl⟩ := said
    exact ⟨group, found, owned, (listed.2 first).mp present⟩
  · intro holds
    obtain ⟨group, found, owned, holds⟩ := holds
    obtain ⟨members, listed⟩ := Pairs.exists_listedGlyph found owned
    have present := (listed.2 first).mpr holds
    exact ⟨members, second, ⟨List.ne_nil_of_mem present, group, found, owned, listed⟩, present, rfl⟩

theorem says_glyphGroup :
    Says (ofPairs pairs groups).glyphGroupRules groups ⟨first, second⟩ value ↔
      ∃ group, pairs[Pair.mk (Key.glyph first) (Key.group group)]? = some value ∧
          (¬ ∃ owner, groups.first.Lists owner first) ∧ groups.second.Lists group second := by
  simp [glyphGroupRules, says_iff, glyphGroup_iff, and_assoc]

theorem says_groupGlyph :
    Says (ofPairs pairs groups).groupGlyphRules groups ⟨first, second⟩ value ↔
      ∃ group, pairs[Pair.mk (Key.group group) (Key.glyph second)]? = some value ∧
          (¬ ∃ owner, groups.second.Lists owner second) ∧ groups.first.Lists group first := by
  simp [groupGlyphRules, says_iff, groupGlyph_iff, and_assoc]

theorem says_groupGroup :
    Says (ofPairs pairs groups).groupGroupRules groups ⟨first, second⟩ value ↔
      ∃ one two, pairs[Pair.mk (Key.group one) (Key.group two)]? = some value ∧
          groups.first.Lists one first ∧ groups.second.Lists two second := by
  simp [groupGroupRules, says_iff, groupGroup_iff]

/-- On each side of a rule stands what stands there in a pair, or a list of members of a group. -/
theorem operand_cases {rule : Rule} (member : rule ∈ (ofPairs pairs groups).rules) (side : Side) :
    (∃ pair ∈ pairs, rule.sides.get side = .ofKey (pair.get side)) ∨
      ∃ members, rule.sides.get side = .listed members ∧ members ≠ [] ∧
        members.Pairwise (· < ·) ∧
          ∀ glyph ∈ members, ∃ group, (groups.get side).Lists group glyph := by
  have spoken {one two : Key} {value : Int} (found : pairs[Pair.mk one two]? = some value) :
      Pair.mk one two ∈ pairs := Rows.mem_of_found found
  simp only [rules, sections, List.flatMap_cons, List.flatMap_nil, List.append_nil,
    List.mem_append, Rules.mem_written] at member
  rcases member with both | listed | listed | mixed | mixed | both
  · obtain ⟨one, two, value, found, rfl⟩ := both
    refine .inl ⟨_, spoken (glyphGlyph_iff.mp found), ?_⟩
    cases side <;> rfl
  · obtain ⟨one, two, value, found, rfl⟩ := listed
    obtain ⟨filled, group, kerned, _, ascending, lists⟩ := glyphListed_iff.mp found
    cases side with
    | first => exact .inl ⟨_, spoken kerned, rfl⟩
    | second =>
      exact .inr ⟨two, rfl, filled, ascending, fun glyph member =>
        ⟨group, ((lists glyph).mp member).1⟩⟩
  · obtain ⟨one, two, value, found, rfl⟩ := listed
    obtain ⟨filled, group, kerned, _, ascending, lists⟩ := listedGlyph_iff.mp found
    cases side with
    | first =>
      exact .inr ⟨one, rfl, filled, ascending, fun glyph member =>
        ⟨group, ((lists glyph).mp member).1⟩⟩
    | second => exact .inl ⟨_, spoken kerned, rfl⟩
  · obtain ⟨one, two, value, found, rfl⟩ := mixed
    refine .inl ⟨_, spoken (glyphGroup_iff.mp found).1, ?_⟩
    cases side <;> rfl
  · obtain ⟨one, two, value, found, rfl⟩ := mixed
    refine .inl ⟨_, spoken (groupGlyph_iff.mp found).1, ?_⟩
    cases side <;> rfl
  · obtain ⟨one, two, value, found, rfl⟩ := both
    refine .inl ⟨_, spoken (groupGroup_iff.mp found), ?_⟩
    cases side <;> rfl

end Separation
end FontPrep
