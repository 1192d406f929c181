import FontPrep.Kerning.Feature
import Mathlib.Data.List.Infix

/-! Headers against the reader of a feature file. The reader ends a line at a carriage return too,
where the header is cut at line feeds only; so a header adds nothing but comments exactly if nothing
else follows a carriage return inside one of its lines. -/
namespace FontPrep.Block

/-! ### Reading -/

/-- The lines of a feature file. A line ends at a line feed, at a carriage return, or at both in
this order. -/
def readLines : List Char → List (List Char)
  | [] => [[]]
  | '\r' :: '\n' :: rest => [] :: readLines rest
  | '\r' :: rest => [] :: readLines rest
  | '\n' :: rest => [] :: readLines rest
  | c :: rest => Text.onFirstLine c (readLines rest)

/-- What stands on a line before a comment, if that is not blank. -/
def statement? (line : List Char) : Option (List Char) :=
  let before := line.takeWhile (· != '#')
  if before.all Text.isBlank then none else some before

/-- The lines of a feature file without comments and without the lines that are blank then. -/
def statements (text : List Char) : List (List Char) := (readLines text).filterMap statement?

variable {chars rest line : List Char} {one two more : List (List Char)} {c : Char}

/-- Whether `two` has the lines of `one` and then those of `more`, empty ones apart. They have the
first in common even if it is empty, so that it can be put in front of. -/
def Joins (one more two : List (List Char)) : Prop :=
  ∃ first later joined, one = first :: later ∧ two = first :: joined ∧
    joined.filter (!·.isEmpty) = (later ++ more).filter (!·.isEmpty)

theorem Joins.ended (joins : Joins one more two) : Joins ([] :: one) more ([] :: two) := by
  obtain ⟨first, later, joined, rfl, rfl, same⟩ := joins
  refine ⟨[], first :: later, first :: joined, rfl, rfl, ?_⟩
  rw [List.cons_append, List.filter_cons, List.filter_cons, same]

theorem Joins.onFirstLine (joins : Joins one more two) :
    Joins (Text.onFirstLine c one) more (Text.onFirstLine c two) := by
  obtain ⟨first, later, joined, rfl, rfl, same⟩ := joins
  exact ⟨c :: first, later, joined, rfl, rfl, same⟩

theorem readLines_return (single : ∀ rest', rest = '\n' :: rest' → False) :
    readLines ('\r' :: rest) = [] :: readLines rest := readLines.eq_3 rest single

theorem readLines_cons (feed : c ≠ '\n') (carriage : c ≠ '\r') :
    readLines (c :: rest) = Text.onFirstLine c (readLines rest) :=
  readLines.eq_5 c rest (fun _ same _ => carriage same) carriage feed

theorem readLines_ne_nil (text : List Char) : readLines text ≠ [] := by
  induction text using readLines.induct with
  | case1 => exact List.cons_ne_nil _ _
  | case2 text ih => exact List.cons_ne_nil _ _
  | case3 text single ih => exact readLines_return single ▸ List.cons_ne_nil _ _
  | case4 text ih => exact List.cons_ne_nil _ _
  | case5 c text notBoth carriage feed ih =>
    rw [readLines_cons feed carriage]
    unfold Text.onFirstLine
    split <;> exact List.cons_ne_nil _ _

/-- A line feed behind a text ends the last line of the text. -/
theorem joins_readLines (text rest : List Char) :
    Joins (readLines text) (readLines rest) (readLines (text ++ '\n' :: rest)) := by
  induction text using readLines.induct with
  | case1 => exact ⟨[], [], readLines rest, rfl, rfl, rfl⟩
  | case2 text ih => exact ih.ended
  | case3 text single ih =>
    cases text with
    | nil => exact ⟨[], [[]], readLines rest, rfl, rfl, rfl⟩
    | cons c text =>
      have singleToo : ∀ rest', c :: (text ++ '\n' :: rest) = '\n' :: rest' → False := by
        intro rest' same
        exact single text (by rw [(List.cons.inj same).1])
      rw [readLines_return single, List.cons_append, List.cons_append, readLines_return singleToo]
      exact ih.ended
  | case4 text ih => exact ih.ended
  | case5 c text notBoth carriage feed ih =>
    rw [List.cons_append, readLines_cons feed carriage, readLines_cons feed carriage]
    exact ih.onFirstLine

theorem filterMap_statement? (lines : List (List Char)) :
    (lines.filter (!·.isEmpty)).filterMap statement? = lines.filterMap statement? := by
  rw [List.filterMap_filter]
  congr 1
  funext line
  cases line <;> rfl

theorem statements_append (text rest : List Char) :
    statements (text ++ '\n' :: rest) = statements text ++ statements rest := by
  obtain ⟨first, later, joined, one, two, same⟩ := joins_readLines text rest
  have lines := congrArg (List.filterMap statement?) same
  rw [filterMap_statement?, filterMap_statement?, List.filterMap_append] at lines
  rw [statements, statements, statements, one, two, List.filterMap_cons, List.filterMap_cons, lines]
  cases statement? first <;> rfl

/-- Lines that are put together are read one by one, whatever line ends they have in them. -/
theorem statements_intercalate (lines : List String) :
    statements ("\n".intercalate lines).toList =
      lines.flatMap fun line => statements line.toList := by
  induction lines with
  | nil => rfl
  | cons line rest ih =>
    cases rest with
    | nil => simp
    | cons next rest =>
      have feed : "\n".toList = ['\n'] := rfl
      rw [String.intercalate_cons_cons, String.toList_append, String.toList_append, feed,
        List.append_assoc, List.singleton_append, statements_append, ih]
      simp only [List.flatMap_cons]

/-! ### Comments -/

theorem tail_onFirstLine (c : Char) (lines : List (List Char)) :
    (Text.onFirstLine c lines).tail = lines.tail := by
  cases lines <;> rfl

/-- Of a comment that has line ends in it only the first line is a comment. -/
theorem statements_remark (text : List Char) :
    statements (indent.toList ++ '#' :: text) = (readLines text).tail.filterMap statement? := by
  have spaces : indent.toList = [' ', ' ', ' ', ' '] := rfl
  obtain ⟨first, later, lines⟩ := List.exists_cons_of_ne_nil (readLines_ne_nil text)
  have read : readLines (indent.toList ++ '#' :: text) =
      (' ' :: ' ' :: ' ' :: ' ' :: '#' :: first) :: later := by
    simp only [spaces, List.cons_append, List.nil_append, readLines_cons (c := ' ') (by decide)
      (by decide), readLines_cons (c := '#') (by decide) (by decide), lines, Text.onFirstLine]
  rw [statements, read, lines, List.filterMap_cons]
  rfl

/-- What the lines of a header hold behind their first line ends, as a feature file is read. -/
theorem statements_comment (line : List Char) : statements (indent ++ comment line).toList =
    (readLines (Text.trim line)).tail.filterMap statement? := by
  rw [String.toList_append, comment]
  split
  · rename_i rest starts
    rw [String.toList_ofList, statements_remark, starts,
      readLines_cons (by decide) (by decide), tail_onFirstLine]
  · have sign : "# ".toList = ['#', ' '] := rfl
    rw [String.toList_append, sign, String.toList_ofList, List.cons_append, List.singleton_append,
      statements_remark, readLines_cons (by decide) (by decide), tail_onFirstLine]

/-! ### Headers -/

variable {header : String} {body : List String}

/-- Whether every line of a header, cut and trimmed as for the block, has nothing but blank lines
and comments behind a carriage return. -/
def Confined (header : String) : Prop :=
  ∀ line ∈ Text.lines header.toList, ∀ later ∈ (readLines (Text.trim line)).tail,
    statement? later = none

instance instDecidableConfined (header : String) : Decidable (Confined header) :=
  inferInstanceAs (Decidable (∀ line ∈ Text.lines header.toList,
    ∀ later ∈ (readLines (Text.trim line)).tail, statement? later = none))

theorem statements_text (header : Option String) (body : List String) :
    statements (text header body).toList = statements "feature kern \x7b".toList ++
      (((header.map headerLines).getD []).flatMap fun line => statements (indent ++ line).toList) ++
        (body.flatMap fun line => statements (indented line).toList) ++
          statements "\x7d kern;".toList := by
  rw [text, statements_intercalate, lines]
  simp only [List.flatMap_append, List.flatMap_map, List.flatMap_cons, List.flatMap_nil,
    List.append_nil]

theorem headerStatements_eq_nil_iff :
    ((headerLines header).flatMap fun line => statements (indent ++ line).toList) = [] ↔
      Confined header := by
  simp only [headerLines, List.flatMap_map, List.flatMap_eq_nil_iff, statements_comment,
    List.filterMap_eq_nil_iff, Confined]

/-- Whether every carriage return of a text stands before a line feed. -/
def Paired (chars : List Char) : Prop :=
  ∀ rest ∈ chars.tails, rest.head? = some '\r' → rest.tail.head? = some '\n'

instance instDecidablePaired (chars : List Char) : Decidable (Paired chars) :=
  inferInstanceAs (Decidable (∀ rest ∈ chars.tails,
    rest.head? = some '\r' → rest.tail.head? = some '\n'))

theorem Paired.of_append (before : List Char) {after : List Char}
    (paired : Paired (before ++ after)) : Paired after := by
  intro rest member
  rw [List.mem_tails] at member
  exact paired rest ((List.mem_tails _ _).mpr (member.trans (List.suffix_append _ _)))

theorem mem_onFirstLine {lines : List (List Char)} (member : line ∈ Text.onFirstLine c lines) :
    (∃ front, (front = [] ∨ front ∈ lines) ∧ line = c :: front) ∨ line ∈ lines := by
  cases lines with
  | nil => exact .inl ⟨[], .inl rfl, List.mem_singleton.mp member⟩
  | cons first rest =>
    rcases List.mem_cons.mp member with same | later
    · exact .inl ⟨first, .inr (List.mem_cons_self ..), same⟩
    · exact .inr (List.mem_cons_of_mem _ later)

theorem not_mem_lines_return (paired : Paired chars) (member : line ∈ Text.lines chars) :
    '\r' ∉ line := by
  induction chars using Text.lines.induct generalizing line with
  | case1 => simp [Text.lines] at member
  | case2 rest ih =>
    rcases List.mem_cons.mp member with rfl | later
    · simp
    · exact ih (Paired.of_append ['\n'] paired) later
  | case3 rest ih =>
    rcases List.mem_cons.mp member with rfl | later
    · simp
    · exact ih (Paired.of_append ['\r', '\n'] paired) later
  | case4 c rest notFeed notBoth ih =>
    have pairedRest : Paired rest := Paired.of_append [c] paired
    have carriage : c ≠ '\r' := by
      rintro rfl
      have whole : '\r' :: rest ∈ ('\r' :: rest).tails := (List.mem_tails _ _).mpr List.suffix_rfl
      obtain ⟨after, rfl⟩ := List.head?_eq_some_iff.mp (paired _ whole rfl)
      exact notBoth after rfl rfl
    rw [Text.lines.eq_4 c rest notFeed notBoth] at member
    rcases mem_onFirstLine member with ⟨front, inside, rfl⟩ | later
    · rw [List.mem_cons, not_or]
      refine ⟨Ne.symm carriage, ?_⟩
      rcases inside with rfl | first
      · simp
      · exact ih pairedRest first
    · exact ih pairedRest later

theorem readLines_of_not_mem (feed : '\n' ∉ chars) (carriage : '\r' ∉ chars) :
    readLines chars = [chars] := by
  induction chars with
  | nil => rfl
  | cons c rest ih =>
    rw [List.mem_cons, not_or] at feed carriage
    rw [readLines_cons (Ne.symm feed.1) (Ne.symm carriage.1), ih feed.2 carriage.2]
    rfl

theorem mem_of_mem_trim (member : c ∈ Text.trim chars) : c ∈ chars := by
  rw [Text.trim, Text.trimEnd, List.mem_reverse] at member
  have ended := List.mem_reverse.mp ((List.dropWhile_sublist _).subset member)
  exact (List.dropWhile_sublist _).subset ended

theorem Paired.confined (paired : Paired header.toList) : Confined header := by
  intro line member later behind
  have feed : '\n' ∉ Text.trim line := fun inside =>
    Text.not_mem_lines_newline member (mem_of_mem_trim inside)
  have carriage : '\r' ∉ Text.trim line := fun inside =>
    not_mem_lines_return paired member (mem_of_mem_trim inside)
  rw [readLines_of_not_mem feed carriage] at behind
  cases behind

/-- A header adds nothing but comments, whatever the body is, exactly if it is confined. So it is if
each of its carriage returns stands before a line feed. -/
theorem statements_text_header_iff (header : String) (body : List String) :
    (statements (text (some header) body).toList = statements (text none body).toList ↔
      Confined header) ∧
      (Paired header.toList →
        statements (text (some header) body).toList = statements (text none body).toList) := by
  have added : statements (text (some header) body).toList =
      statements (text none body).toList ↔ Confined header := by
    rw [← headerStatements_eq_nil_iff, statements_text, statements_text]
    simp only [Option.map_some, Option.map_none, Option.getD_some, Option.getD_none,
      List.flatMap_nil, List.append_nil, List.append_left_inj, List.append_right_eq_self]
  exact ⟨added, fun paired => added.mpr paired.confined⟩

private def rules : List String := ["@kern1.A = [A];", "", "pos A A 1; # on its own"]

/-- Line ends of two kinds, blank lines, and a comment behind blanks; and a header that is confined
although two of its carriage returns stand alone. -/
theorem statements_text_header_mixed :
    Paired " Kerning\r\n\n\t# by hand \r\n".toList ∧
      statements (text (some " Kerning\r\n\n\t# by hand \r\n") rules).toList =
        statements (text none rules).toList ∧
      Confined "Kerning\r # by hand\r\n\rpos A B 1;" ∧
      statements (text (some "Kerning\r # by hand\r\n\rpos A B 1;") rules).toList =
        statements (text none rules).toList := by
  have paired : Paired " Kerning\r\n\n\t# by hand \r\n".toList := by decide +kernel
  have confined : Confined "Kerning\r # by hand\r\n\rpos A B 1;" := by decide +kernel
  exact ⟨paired, (statements_text_header_iff _ rules).2 paired, confined,
    (statements_text_header_iff _ rules).1.mpr confined⟩

/-- A header that adds a rule: what follows its carriage return is no comment. -/
theorem statements_text_smuggled :
    statements (text (some "a\rpos A B 1;") ["pos A A 2;"]).toList =
      ["feature kern \x7b".toList, "pos A B 1;".toList, "    pos A A 2;".toList,
        "\x7d kern;".toList] ∧
      statements (text none ["pos A A 2;"]).toList =
        ["feature kern \x7b".toList, "    pos A A 2;".toList, "\x7d kern;".toList] := by
  decide +kernel

end FontPrep.Block
