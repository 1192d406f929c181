import FontPrep.Name
import Mathlib.Data.List.Basic
import Mathlib.Data.List.Find

/-! The shape of identifiers. With room for its lead and five characters more, an identifier keeps
its lead and its limit, and what follows the lead is not empty and made of kept characters, of the
fallback name and of digits. So only taken names with that lead are in its way, and one that is made
of name characters is the identifier of what follows its lead. -/
namespace FontPrep.Name

variable {taken others : NameSet} {allowed : Char → Bool} {limit room counter : Nat}
variable {name chosen raw separator lead : String}

/-- The decimal digits of a counter. -/
def digits (counter : Nat) : List Char := Nat.toDigits 10 counter

theorem utf8ByteSize_ofList {chars : List Char} (narrow : ∀ c ∈ chars, c.utf8Size = 1) :
    (String.ofList chars).utf8ByteSize = chars.length := by
  induction chars with
  | nil => simp
  | cons head rest ih =>
    rw [String.ofList_cons, String.utf8ByteSize_append, String.utf8ByteSize_singleton,
      ih fun c member => narrow c (List.mem_cons_of_mem _ member),
      narrow head (List.mem_cons_self ..), List.length_cons, Nat.add_comm]

theorem isDigit_of_mem_digits {c : Char} (member : c ∈ digits counter) : c.isDigit = true :=
  Nat.isDigit_of_mem_toDigits (by decide) (by decide) member

theorem utf8Size_of_isDigit {c : Char} (digit : c.isDigit = true) : c.utf8Size = 1 := by
  simp only [Char.isDigit, Bool.and_eq_true, decide_eq_true_iff] at digit
  simp only [Char.utf8Size]
  rw [if_pos (UInt32.le_trans digit.2 (by decide))]

theorem utf8ByteSize_counter (counter : Nat) :
    (toString counter).utf8ByteSize = (digits counter).length := by
  rw [Nat.toString_eq_ofList_toDigits]
  exact utf8ByteSize_ofList fun c member => utf8Size_of_isDigit (isDigit_of_mem_digits member)

theorem digits_ne_nil (counter : Nat) : digits counter ≠ [] := Nat.toDigits_ne_nil

theorem length_digits_le (member : counter ∈ counters) : (digits counter).length ≤ 5 := by
  have bound := mem_counters.mp member
  exact (Nat.length_toDigits_le_iff (by decide) (by decide)).mpr (by omega)

theorem toList_counted :
    (counted limit separator name counter).toList =
      name.toList.take (limit - (separator.utf8ByteSize + (digits counter).length)) ++
        (separator.toList ++ digits counter) := by
  rw [counted, withTail, String.utf8ByteSize_append, utf8ByteSize_counter]
  simp [digits]

/-- A free name is the name itself or the name with one of the counters. -/
theorem unique_cases (found : unique taken limit separator name = .ok chosen) :
    chosen = name ∨ ∃ counter ∈ counters, chosen = counted limit separator name counter := by
  unfold unique at found
  split at found
  · split at found
    · rename_i counter hit
      cases found
      exact .inr ⟨counter, List.mem_of_find?_eq_some hit, rfl⟩
    · cases found
  · cases found
    exact .inl rfl

theorem toList_body :
    (body allowed room raw).toList = (raw.toList.filter allowed).take room ∧
        (raw.toList.filter allowed).take room ≠ [] ∨
      (body allowed room raw).toList = fallback.toList.take room := by
  unfold body
  split
  · exact .inr (by simp)
  · rename_i filled
    refine .inl ⟨by simp, ?_⟩
    intro empty
    exact filled empty

theorem length_body_le : (body allowed room raw).length ≤ room := by
  rw [← String.length_toList]
  rcases toList_body with ⟨same, _⟩ | same
  all_goals
    rw [same]
    exact List.length_take_le ..

theorem body_ne_empty (some : 0 < room) : body allowed room raw ≠ "" := by
  rw [ne_eq, ← String.toList_eq_nil_iff]
  rcases toList_body with ⟨same, filled⟩ | same
  · rwa [same]
  · rw [same]
    simp [fallback, List.take_eq_nil_iff]
    omega

theorem mem_body {c : Char} (member : c ∈ (body allowed room raw).toList) :
    allowed c = true ∨ c ∈ fallback.toList := by
  rcases toList_body with ⟨same, _⟩ | same
  · rw [same] at member
    exact .inl (List.mem_filter.mp (List.mem_of_mem_take member)).2
  · rw [same] at member
    exact .inr (List.mem_of_mem_take member)

theorem counted_ne_empty : counted limit separator name counter ≠ "" := by
  rw [ne_eq, ← String.toList_eq_nil_iff, toList_counted]
  simp [digits_ne_nil]

theorem mem_counted {c : Char} (member : c ∈ (counted limit "" name counter).toList) :
    c ∈ name.toList ∨ c.isDigit = true := by
  rw [toList_counted, String.toList_empty, List.nil_append, List.mem_append] at member
  exact member.imp List.mem_of_mem_take isDigit_of_mem_digits

/-- A counter takes no room from the lead. -/
theorem counted_lead (fits : lead.length + 5 ≤ limit) (member : counter ∈ counters)
    (rest : String) : counted limit "" (lead ++ rest) counter =
      lead ++ counted (limit - lead.length) "" rest counter := by
  have short := length_digits_le member
  have whole : lead.toList.take (limit - (digits counter).length) = lead.toList := by
    apply List.take_of_length_le
    rw [String.length_toList]
    omega
  rw [← String.toList_inj, String.toList_append, toList_counted, toList_counted,
    String.utf8ByteSize_empty, Nat.zero_add, String.toList_append, List.take_append, whole,
    String.length_toList, Nat.sub_right_comm, List.append_assoc]

/-- Where the limit has no room for a counter, the counter is all there is. -/
theorem length_counted_le (member : counter ∈ counters) :
    (counted limit "" name counter).length ≤ max limit 5 := by
  have short := length_digits_le member
  rw [← String.length_toList, toList_counted, List.length_append, List.length_append,
    List.length_take, String.utf8ByteSize_empty, String.toList_empty, List.length_nil]
  omega

/-- Without room for its lead an identifier still has all of it, unless it has a counter. -/
theorem length_legalize_le (found : legalize taken allowed limit lead raw = .ok name) :
    name.length ≤ max limit (max lead.length 5) := by
  rcases unique_cases found with rfl | ⟨counter, member, rfl⟩
  · have kept : (body allowed (limit - lead.length) raw).length ≤ limit - lead.length :=
      length_body_le
    rw [String.length_append]
    omega
  · apply Nat.le_trans (length_counted_le member)
    omega

theorem legalize_shape (fits : lead.length + 5 ≤ limit)
    (found : legalize taken allowed limit lead raw = .ok name) :
    ∃ rest, name = lead ++ rest ∧ rest ≠ "" ∧ name.length ≤ limit ∧
      ∀ c ∈ rest.toList, allowed c = true ∨ c ∈ fallback.toList ∨ c.isDigit = true := by
  have short : name.length ≤ limit := by
    have bound := length_legalize_le found
    omega
  rcases unique_cases found with rfl | ⟨counter, member, rfl⟩
  · refine ⟨_, rfl, body_ne_empty (by omega), short, fun c present => ?_⟩
    exact (mem_body present).imp_right .inl
  · refine ⟨_, counted_lead fits member _, counted_ne_empty, short, fun c present => ?_⟩
    rcases mem_counted present with old | digit
    · exact (mem_body old).imp_right .inl
    · exact .inr (.inr digit)

/-- Taken names matter only where they are the name or the name with a counter. -/
theorem unique_congr (same : name ∈ taken ↔ name ∈ others)
    (counts : ∀ counter ∈ counters, counted limit separator name counter ∈ taken ↔
      counted limit separator name counter ∈ others) :
    unique taken limit separator name = unique others limit separator name := by
  have searched :
      counters.find? (fun counter => counted limit separator name counter ∉ taken) =
        counters.find? fun counter => counted limit separator name counter ∉ others :=
    List.find?_congr fun counter member => decide_eq_decide.mpr (not_congr (counts counter member))
  simp only [unique, same, searched]

/-- Names that start otherwise are not in the way of an identifier. -/
theorem legalize_congr (fits : lead.length + 5 ≤ limit)
    (same : ∀ name : String, lead.toList <+: name.toList → (name ∈ taken ↔ name ∈ others)) :
    legalize taken allowed limit lead raw = legalize others allowed limit lead raw := by
  refine unique_congr (same _ ?_) fun counter member => same _ ?_
  · rw [String.toList_append]
    exact List.prefix_append _ _
  · rw [counted_lead fits member, String.toList_append]
    exact List.prefix_append _ _

/-- A letter or digit of ASCII, an underscore or a period. -/
def IsWordChar (c : Char) : Prop :=
  'A' ≤ c ∧ c ≤ 'Z' ∨ 'a' ≤ c ∧ c ≤ 'z' ∨ '0' ≤ c ∧ c ≤ '9' ∨ c = '_' ∨ c = '.'

theorem isNameChar_iff {c : Char} : isNameChar c = true ↔ IsWordChar c := by
  have upper : c.isUpper = decide ('A' ≤ c ∧ c ≤ 'Z') := rfl
  have lower : c.isLower = (decide ('a' ≤ c) && decide (c ≤ 'z')) := rfl
  have digit : c.isDigit = (decide ('0' ≤ c) && decide (c ≤ '9')) := rfl
  have word : c.isAlphanum = (c.isUpper || c.isLower || c.isDigit) := rfl
  simp only [isNameChar, IsWordChar, word, upper, lower, digit, Bool.or_eq_true, Bool.and_eq_true,
    decide_eq_true_iff, beq_iff_eq, or_assoc]

theorem isNameChar_of_mem_fallback {c : Char} (member : c ∈ fallback.toList) :
    isNameChar c = true := by
  have kept : fallback.toList.all isNameChar = true := by decide
  exact List.all_eq_true.mp kept c member

theorem isNameChar_of_isDigit {c : Char} (digit : c.isDigit = true) : isNameChar c = true := by
  simp [isNameChar, Char.isAlphanum, digit]

theorem isNameChar_of_cases {c : Char}
    (made : isNameChar c = true ∨ c ∈ fallback.toList ∨ c.isDigit = true) : isNameChar c = true := by
  rcases made with kept | fallback | digit
  · exact kept
  · exact isNameChar_of_mem_fallback fallback
  · exact isNameChar_of_isDigit digit

/-- Of a name that keeps name characters only, all that follows the lead is such characters. -/
theorem legalize_isNameChar (fits : lead.length + 5 ≤ limit)
    (found : legalize taken isNameChar limit lead raw = .ok name) :
    ∃ rest, name = lead ++ rest ∧ rest ≠ "" ∧ name.length ≤ limit ∧
      ∀ c ∈ rest.toList, isNameChar c = true := by
  obtain ⟨rest, spelled, filled, short, made⟩ := legalize_shape fits found
  exact ⟨rest, spelled, filled, short, fun c member => isNameChar_of_cases (made c member)⟩

/-- A text that is kept whole is its own body. -/
theorem body_eq_self (filled : raw ≠ "") (kept : ∀ c ∈ raw.toList, allowed c = true)
    (short : raw.length ≤ room) : body allowed room raw = raw := by
  have whole : (raw.toList.filter allowed).take room = raw.toList := by
    rw [List.filter_eq_self.mpr kept, List.take_of_length_le (by rwa [String.length_toList])]
  unfold body
  rw [whole]
  split
  · rename_i empty
    exact absurd (String.toList_eq_nil_iff.mp empty) filled
  · rw [String.ofList_toList]

theorem legalize_of_free (filled : raw ≠ "") (kept : ∀ c ∈ raw.toList, allowed c = true)
    (short : lead.length + raw.length ≤ limit) (free : lead ++ raw ∉ taken) :
    legalize taken allowed limit lead raw = .ok (lead ++ raw) := by
  rw [legalize, body_eq_self filled kept (by omega), unique_of_not_mem free]

/-- Legalizing settles a name. It is new, and no longer than the limit, the lead or a counter. With
room for the lead and a counter it keeps its limit and its lead, and what follows the lead is not
empty and made of kept characters, of the fallback name and of digits; where name characters are
kept, the name is the one that is made of what follows its lead as long as it is free. -/
theorem legalize_settles (found : legalize taken allowed limit lead raw = .ok name) :
    name ∉ taken ∧ name.length ≤ max limit (max lead.length 5) ∧
      (lead.length + 5 ≤ limit → name.length ≤ limit ∧ ∃ rest, name = lead ++ rest ∧ rest ≠ "" ∧
        (∀ c ∈ rest.toList, allowed c = true ∨ c ∈ fallback.toList ∨ c.isDigit = true) ∧
        (allowed = isNameChar → ∀ others : NameSet, name ∉ others →
          legalize others allowed limit lead rest = .ok name)) := by
  refine ⟨not_mem_of_unique found, length_legalize_le found, fun fits => ?_⟩
  obtain ⟨rest, rfl, filled, short, made⟩ := legalize_shape fits found
  refine ⟨short, rest, rfl, filled, made, ?_⟩
  rintro rfl others free
  have words : ∀ c ∈ rest.toList, isNameChar c = true := fun c member =>
    isNameChar_of_cases (made c member)
  exact legalize_of_free filled words (by rwa [← String.length_append]) free

private def nearby : NameSet := .ofList ["@kern1.fooba", "@kern1.foob1", "ß"]

/-- A counter takes the place of a letter where the limit is just wide enough, and of all else,
the lead included, where there is no room at all. -/
theorem legalize_settles_cramped :
    (legalize nearby isNameChar 12 "@kern1." "fo•obar" = .ok "@kern1.foob2" ∧
      "@kern1.".length + 5 ≤ 12 ∧ "@kern1.foob2" ∉ nearby ∧ "@kern1.foob2".length ≤ 12 ∧
      legalize nearby isNameChar 12 "@kern1." "foob2" = .ok "@kern1.foob2") ∧
      legalize nearby isNameChar 0 "ß" "" = .ok "1" ∧ "1" ∉ nearby ∧
        "1".length ≤ max 0 (max "ß".length 5) := by
  have numbered : legalize nearby isNameChar 12 "@kern1." "fo•obar" = .ok "@kern1.foob2" := by
    decide +kernel
  have bare : legalize nearby isNameChar 0 "ß" "" = .ok "1" := by decide +kernel
  obtain ⟨free, _, shape⟩ := legalize_settles numbered
  obtain ⟨short, rest, parts, _, _, again⟩ := shape (by decide)
  obtain rfl : rest = "foob2" :=
    (String.append_right_inj "@kern1.").mp (parts.symm.trans (by decide))
  obtain ⟨freeToo, bound, _⟩ := legalize_settles bare
  exact ⟨⟨numbered, by decide, free, short, again rfl nearby free⟩, bare, freeToo, bound⟩

end FontPrep.Name
