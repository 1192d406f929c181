import FontPrep.GlyphName.Derived
import FontPrep.Proofs.Name.Identifier
import FontPrep.Unicode.Compatibility

namespace FontPrep.GlyphName

variable {decompose : String → String} {taken : NameSet} {cp : Option Nat} {name : String}
variable {derived : Derived}

theorem toList_numberedName (number : Nat) :
    (numberedName number).toList = ['g', 'l', 'y', 'p', 'h'] ++ Name.digits number := by
  rw [numberedName, String.toList_append, Nat.toString_eq_ofList_toDigits, String.toList_ofList]
  rfl

theorem isLegal_numberedName {number : Nat} (member : number ∈ Name.counters) :
    isLegal (numberedName number) = true := by
  have spelled := toList_numberedName number
  have words : (numberedName number).toList.all Name.isNameChar = true := by
    rw [spelled, List.all_append, Bool.and_eq_true]
    refine ⟨by decide, List.all_eq_true.mpr fun c digit => ?_⟩
    exact Name.isNameChar_of_isDigit (Name.isDigit_of_mem_digits digit)
  have long : (numberedName number).length ≤ Name.maxLength := by
    have short := Name.length_digits_le member
    rw [← String.length_toList, spelled, List.length_append, Name.maxLength]
    simp only [List.length_cons, List.length_nil]
    omega
  unfold isLegal
  split
  · rename_i empty
    cases spelled.symm.trans empty
  · rename_i first rest starts
    cases spelled.symm.trans starts
    simp [words, long]

theorem number_cases (found : number taken name = .ok derived) :
    ∃ number ∈ Name.counters, derived = .numbered number ∧ numberedName number ∉ taken := by
  unfold number at found
  split at found
  · rename_i number hit
    cases found
    exact ⟨number, List.mem_of_find?_eq_some hit, rfl, by simpa using List.find?_some hit⟩
  · cases found

theorem not_mem_of_freeSpelling {spelled candidate : String}
    (found : freeSpelling taken spelled = .ok candidate) (legal : isLegal candidate = true) :
    candidate ∉ taken := by
  unfold freeSpelling at found
  split at found
  · rename_i empty
    cases found
    rw [String.isEmpty_iff.mp empty] at legal
    cases not_isLegal_empty.symm.trans legal
  · exact Name.not_mem_of_unique found

theorem derive_usable (found : derive decompose taken cp name = .ok derived) :
    isLegal derived.name = true ∧ derived.name ∉ taken := by
  unfold derive at found
  cases spelled : freeSpelling taken (spelling decompose cp name) with
  | error cause => simp [spelled, bind, Except.bind] at found
  | ok candidate =>
    simp only [spelled, bind, Except.bind] at found
    split at found
    · rename_i legal
      cases found
      exact ⟨legal, not_mem_of_freeSpelling spelled legal⟩
    · obtain ⟨number, member, rfl, free⟩ := number_cases found
      exact ⟨isLegal_numberedName member, free⟩

/-- What makes a glyph name legal, condition by condition. -/
theorem isLegal_iff : isLegal name = true ↔
    (∃ first rest, name.toList = first :: rest ∧ first.isDigit = false ∧
      (first = '.' → name = notdef)) ∧
      name.length ≤ Name.maxLength ∧ ∀ c ∈ name.toList, Name.IsWordChar c := by
  unfold isLegal
  split
  · rename_i empty
    simp [empty]
  · rename_i first rest starts
    simp only [Bool.and_eq_true, Bool.or_eq_true, Bool.not_eq_true', bne_iff_ne, ne_eq, beq_iff_eq,
      ← imp_iff_not_or, decide_eq_true_iff, List.all_eq_true, Name.isNameChar_iff, starts,
      List.cons.injEq]
    constructor
    · rintro ⟨⟨⟨digit, period⟩, long⟩, words⟩
      exact ⟨⟨first, rest, ⟨rfl, rfl⟩, digit, period⟩, long, words⟩
    · rintro ⟨⟨_, _, ⟨rfl, rfl⟩, digit, period⟩, long, words⟩
      exact ⟨⟨⟨digit, period⟩, long⟩, words⟩

theorem isEmpty_of_isLegal (legal : isLegal name = true) : name.isEmpty = false := by
  obtain ⟨⟨first, rest, starts, _⟩, _⟩ := isLegal_iff.mp legal
  rw [Bool.eq_false_iff, ne_eq, String.isEmpty_iff]
  rintro rfl
  cases starts

/-- Whether decomposing leaves plain ASCII text alone. -/
def KeepsAscii (decompose : String → String) : Prop :=
  ∀ text, (∀ c ∈ text.toList, c.toNat < 0x80) → decompose text = text

theorem ascii_of_isLegal (legal : isLegal name = true) : ∀ c ∈ name.toList, c.toNat < 0x80 := by
  intro c member
  have bound {last : Char} (below : c ≤ last) : c.toNat ≤ last.toNat := below
  rcases (isLegal_iff.mp legal).2.2 c member with ⟨_, upper⟩ | ⟨_, lower⟩ | ⟨_, digit⟩ | rfl | rfl
  · exact Nat.lt_of_le_of_lt (bound upper) (by decide)
  · exact Nat.lt_of_le_of_lt (bound lower) (by decide)
  · exact Nat.lt_of_le_of_lt (bound digit) (by decide)
  all_goals decide

/-- A legal name loses nothing when it is spelled with name characters. -/
theorem spelling_of_isLegal (keeps : KeepsAscii decompose) (legal : isLegal name = true) :
    spelling decompose cp name = name := by
  obtain ⟨⟨first, rest, starts, _⟩, long, words⟩ := isLegal_iff.mp legal
  have kept : (name.toList.filter Name.isNameChar).take Name.maxLength = name.toList := by
    rw [List.filter_eq_self.mpr fun c member => Name.isNameChar_iff.mpr (words c member),
      List.take_of_length_le (by rwa [String.length_toList])]
  have spelled : String.ofList (first :: rest) = name := by rw [← starts, String.ofList_toList]
  unfold spelling
  rw [keeps name (ascii_of_isLegal legal), kept, starts]
  exact spelled

theorem derive_of_free (keeps : KeepsAscii decompose) (legal : isLegal name = true)
    (free : name ∉ taken) : derive decompose taken cp name = .ok (.spelled name) := by
  have chosen : freeSpelling taken (spelling decompose cp name) = .ok name := by
    rw [spelling_of_isLegal keeps legal, freeSpelling, isEmpty_of_isLegal legal,
      Name.unique_of_not_mem free]
    rfl
  simp [derive, chosen, legal, bind, Except.bind, pure, Except.pure]

/-- Deriving settles a name: what is derived is legal, free and derived from itself, whatever
codepoint it is given then; and a legal, free name is never changed. -/
theorem derive_settles (keeps : KeepsAscii decompose) :
    (∀ derived, derive decompose taken cp name = .ok derived →
      isLegal derived.name = true ∧ derived.name ∉ taken ∧
        ∀ other, derive decompose taken other derived.name = .ok (.spelled derived.name)) ∧
      (isLegal name = true → name ∉ taken →
        derive decompose taken cp name = .ok (.spelled name)) := by
  constructor
  · intro derived found
    obtain ⟨legal, free⟩ := derive_usable found
    exact ⟨legal, free, fun _ => derive_of_free keeps legal free⟩
  · exact derive_of_free keeps

private def inUse : NameSet := .ofList [".notdef", "glyph1", "fi", "fi.1"]

/-- No counter makes `.notdef` a legal name, so it is numbered; a ligature becomes two letters and
then runs into two names. Both results stay. -/
theorem derive_settles_inUse :
    KeepsAscii Unicode.decompose ∧
      derive Unicode.decompose inUse (some 0x41) ".notdef" = .ok (.numbered 2) ∧
      (isLegal "glyph2" = true ∧ "glyph2" ∉ inUse ∧
        derive Unicode.decompose inUse none "glyph2" = .ok (.spelled "glyph2")) ∧
      derive Unicode.decompose inUse none "\ufb01" = .ok (.spelled "fi.2") ∧
      derive Unicode.decompose inUse (some 0xfb01) "fi.2" = .ok (.spelled "fi.2") := by
  have keeps : KeepsAscii Unicode.decompose := fun _ => Unicode.decompose_of_ascii
  have numbered : derive Unicode.decompose inUse (some 0x41) ".notdef" = .ok (.numbered 2) := by
    decide +kernel
  have ligature : derive Unicode.decompose inUse none "\ufb01" = .ok (.spelled "fi.2") := by
    decide +kernel
  obtain ⟨legal, free, again⟩ := (derive_settles keeps).1 _ numbered
  have legalToo : isLegal "fi.2" = true := by decide +kernel
  have freeToo : "fi.2" ∉ inUse := by decide +kernel
  exact ⟨keeps, numbered, ⟨legal, free, again none⟩, ligature,
    (derive_settles keeps).2 legalToo freeToo⟩

end FontPrep.GlyphName
