import FontPrep.Text.Chars
import Mathlib.Data.List.Basic
import Std.Data.String.ToInt

namespace FontPrep.Text

/-- Two lists that agree up to their first separator agree after it as well. -/
theorem append_inj_of_separator {α : Type} [DecidableEq α] {one two rest tail : List α}
    {separator : α} (clean : separator ∉ one) (cleanToo : separator ∉ two)
    (ends : ∀ item ∈ rest.head?, item = separator) (endsToo : ∀ item ∈ tail.head?, item = separator)
    (same : one ++ rest = two ++ tail) : one = two ∧ rest = tail := by
  have before {one rest : List α} (clean : separator ∉ one)
      (ends : ∀ item ∈ rest.head?, item = separator) :
      (one ++ rest).takeWhile (· ≠ separator) = one := by
    have apart : ∀ item ∈ one, decide (item ≠ separator) = true := fun item member =>
      decide_eq_true (ne_of_mem_of_not_mem member clean)
    rw [List.takeWhile_append_of_pos apart]
    cases rest with
    | nil => simp
    | cons item rest => simp [ends item rfl]
  obtain rfl : one = two := by rw [← before clean ends, same, before cleanToo endsToo]
  exact ⟨rfl, List.append_cancel_left same⟩

variable {text other rest tail separator : String} {parts others : List String} {c : Char}

/-- What comes before a sign is told apart from it where it does not have the sign's first
character. -/
theorem append_inj_of_not_mem (begins : separator.toList.head? = some c) (clean : c ∉ text.toList)
    (cleanToo : c ∉ other.toList)
    (same : text ++ (separator ++ rest) = other ++ (separator ++ tail)) :
    text = other ∧ rest = tail := by
  have ends (rest : String) : ∀ item ∈ (separator ++ rest).toList.head?, item = c := by
    intro item member
    rw [String.toList_append, List.head?_append, begins] at member
    exact (Option.some.inj member).symm
  have chars : text.toList ++ (separator ++ rest).toList =
      other.toList ++ (separator ++ tail).toList := by
    rw [← String.toList_append, ← String.toList_append, same]
  obtain ⟨front, back⟩ := append_inj_of_separator clean cleanToo (ends rest) (ends tail) chars
  exact ⟨String.toList_inj.mp front, (String.append_right_inj _).mp (String.toList_inj.mp back)⟩

theorem splitOn_intercalate (sign : separator.toList = [c]) (filled : parts ≠ [])
    (clean : ∀ part ∈ parts, c ∉ part.toList) :
    (separator.intercalate parts).toList.splitOn c = parts.map String.toList := by
  rw [String.toList_intercalate, sign, List.splitOn_intercalate c (by simpa) (by simpa)]

theorem intercalate_inj (sign : separator.toList = [c]) (filled : parts ≠ [])
    (filledToo : others ≠ []) (clean : ∀ part ∈ parts, c ∉ part.toList)
    (cleanToo : ∀ part ∈ others, c ∉ part.toList)
    (same : separator.intercalate parts = separator.intercalate others) : parts = others := by
  have chars : parts.map String.toList = others.map String.toList := by
    rw [← splitOn_intercalate sign filled clean, same,
      splitOn_intercalate sign filledToo cleanToo]
  exact Function.Injective.list_map (fun _ _ => String.toList_inj.mp) chars

/-- A part with others on both sides has a separator on both sides. -/
theorem intercalate_middle (filled : parts ≠ []) (filledToo : others ≠ []) :
    separator.intercalate (parts ++ text :: others) = separator.intercalate parts ++ separator ++
      text ++ separator ++ separator.intercalate others := by
  rw [String.intercalate_append_of_ne_nil filled (List.cons_ne_nil _ _),
    String.intercalate_cons_of_ne_nil filledToo]
  simp only [String.append_assoc]

theorem mem_intercalate (member : c ∈ (separator.intercalate parts).toList) :
    c ∈ separator.toList ∨ ∃ part ∈ parts, c ∈ part.toList := by
  induction parts with
  | nil => simp at member
  | cons part rest ih =>
    cases rest with
    | nil => exact .inr ⟨part, by simp, by simpa using member⟩
    | cons next rest =>
      rw [String.intercalate_cons_cons, String.toList_append, String.toList_append,
        List.mem_append, List.mem_append] at member
      rcases member with (here | between) | later
      · exact .inr ⟨part, by simp, here⟩
      · exact .inl between
      · rcases ih later with between | ⟨found, present, inside⟩
        · exact .inl between
        · exact .inr ⟨found, List.mem_cons_of_mem _ present, inside⟩

/-- A text in one line. -/
def OneLine (text : String) : Prop := '\n' ∉ text.toList

instance instDecidableOneLine (text : String) : Decidable (OneLine text) :=
  inferInstanceAs (Decidable ('\n' ∉ text.toList))

theorem OneLine.append (first : OneLine text) (second : OneLine other) :
    OneLine (text ++ other) := by
  unfold OneLine at *
  simp [first, second]

theorem OneLine.intercalate (between : OneLine separator) (each : ∀ part ∈ parts, OneLine part) :
    OneLine (separator.intercalate parts) := by
  intro member
  rcases mem_intercalate member with inside | ⟨part, present, inside⟩
  · exact between inside
  · exact each part present inside

theorem oneLine_toString (value : Int) : OneLine (toString value) := by
  have digits (number : Nat) : OneLine number.repr := by
    intro member
    rw [Nat.repr_eq_ofList_toDigits, String.toList_ofList] at member
    have digit := Nat.isDigit_of_mem_toDigits (by decide) (by decide) member
    exact absurd digit (by decide)
  rw [Int.toString_eq_repr, Int.repr_eq_if]
  split
  · exact digits _
  · have sign : OneLine "-" := by decide
    exact sign.append (digits _)

/-- Lines that each end with a line feed, and nothing after the last. -/
theorem splitOn_lines (clean : ∀ part ∈ parts, OneLine part) :
    (String.join (parts.map (· ++ "\n"))).toList.splitOn '\n' =
      parts.map String.toList ++ [[]] := by
  induction parts with
  | nil => rfl
  | cons part rest ih =>
    obtain ⟨first, later⟩ := List.forall_mem_cons.mp clean
    have feed : "\n".toList = ['\n'] := rfl
    rw [List.map_cons, String.join_cons, String.toList_append, String.toList_append, feed,
      List.append_assoc, List.singleton_append, List.splitOn_append_cons_self_of_not_mem first,
      ih later, List.map_cons, List.cons_append]

/-- Items are read back one by one. -/
theorem mapM_read {α β : Type} {items : List α} {write : α → β} {read : β → Option α}
    (back : ∀ item ∈ items, read (write item) = some item) :
    (items.map write).mapM read = some items := by
  induction items with
  | nil => rfl
  | cons item rest ih =>
    obtain ⟨first, later⟩ := List.forall_mem_cons.mp back
    simp [first, ih later]

/-- The number that digits write. -/
def hexNumber? (digits : List Char) : Option Nat :=
  digits.foldlM (fun number c => (hexValue? c).map (16 * number + ·)) 0

theorem hexValue?_digitChar : ∀ digit < 16, hexValue? (Nat.digitChar digit).toUpper = some digit :=
  by decide

theorem hexDigits_of_lt {number : Nat} (small : number < 16) :
    hexDigits number = [number.digitChar.toUpper] := by
  rw [hexDigits, Nat.toDigits_of_lt_base small, List.map_singleton]

theorem hexDigits_of_le {number : Nat} (large : 16 ≤ number) :
    hexDigits number = hexDigits (number / 16) ++ [(number % 16).digitChar.toUpper] := by
  rw [hexDigits, Nat.toDigits_of_base_le (by decide) large, List.map_append, List.map_singleton,
    hexDigits]

theorem hexNumber?_hexDigits (number : Nat) : hexNumber? (hexDigits number) = some number := by
  induction number using Nat.strongRecOn with
  | ind number ih =>
    rcases Nat.lt_or_ge number 16 with small | large
    · simp [hexNumber?, hexDigits_of_lt small, hexValue?_digitChar number small]
    · have front := ih (number / 16) (by omega)
      have last := hexValue?_digitChar (number % 16) (by omega)
      rw [hexNumber?] at front
      rw [hexDigits_of_le large, hexNumber?, List.foldlM_append, front]
      simp only [Option.bind_eq_bind, Option.bind_some, List.foldlM_cons, List.foldlM_nil, last,
        Option.map_some, Option.pure_def, Nat.div_add_mod]

theorem hexNumber?_paddedHex (width number : Nat) :
    hexNumber? (paddedHex width number) = some number := by
  have zeros (count : Nat) : hexNumber? (List.replicate count '0' ++ hexDigits number) =
      hexNumber? (hexDigits number) := by
    induction count with
    | zero => rfl
    | succ count ih => exact ih
  rw [paddedHex, zeros, hexNumber?_hexDigits]

theorem isSome_hexValue?_of_read {digits : List Char} {start number : Nat}
    (read : digits.foldlM (fun number c => (hexValue? c).map (16 * number + ·)) start =
      some number) : ∀ c ∈ digits, (hexValue? c).isSome = true := by
  induction digits generalizing start with
  | nil => simp
  | cons digit rest ih =>
    rw [List.foldlM_cons] at read
    obtain ⟨next, first, later⟩ := Option.bind_eq_some_iff.mp read
    obtain ⟨value, found, _⟩ := Option.map_eq_some_iff.mp first
    exact List.forall_mem_cons.mpr ⟨Option.isSome_of_eq_some found, ih later⟩

/-- Only digits are written. -/
theorem isSome_hexValue?_of_mem {width number : Nat} (member : c ∈ paddedHex width number) :
    (hexValue? c).isSome = true :=
  isSome_hexValue?_of_read (hexNumber?_paddedHex width number) c member

end FontPrep.Text
