import FontPrep.GlyphOrder
import FontPrep.Proofs.Rows
import FontPrep.Proofs.Text

/-! Glyph orders read back. Names without spaces and line feeds leave every line in the columns it
was made of, and since hexadecimal digits have no `n` in them, `uni` is never part of a number. -/
namespace FontPrep

/-- The last glyph of that name. -/
def Font.lastGlyph? (font : Font) (name : String) : Option Glyph :=
  font.glyphs.reverse.find? (·.name = name)

theorem Font.getElem?_glyphsByName {font : Font} {name : String} :
    font.glyphsByName[name]? = font.lastGlyph? name := by
  rw [glyphsByName, Rows.getElem?_ofList, ← List.map_reverse, List.find?_map, Option.map_map]
  simp [lastGlyph?, Function.comp_def]

namespace GlyphName

variable {codepoint : Nat}

/-- The codepoint that a token writes. -/
def codepointOf? : List Char → Option Nat
  | 'u' :: 'n' :: 'i' :: digits => Text.hexNumber? digits
  | 'u' :: digits => Text.hexNumber? digits
  | _ => none

theorem toList_token : (token codepoint).toList = 'u' :: 'n' :: 'i' :: Text.paddedHex 4 codepoint ∨
    (token codepoint).toList = 'u' :: Text.paddedHex 4 codepoint := by
  unfold token codepointName
  split
  · exact .inl (by simp)
  · exact .inr (by simp)

theorem codepointOf?_token (codepoint : Nat) :
    codepointOf? (token codepoint).toList = some codepoint := by
  rcases toList_token with short | long
  · rw [short, codepointOf?, Text.hexNumber?_paddedHex]
  · rw [long, codepointOf?.eq_2, Text.hexNumber?_paddedHex]
    intro digits same
    have member : 'n' ∈ Text.paddedHex 4 codepoint := by simp [same]
    exact absurd (Text.isSome_hexValue?_of_mem member) (by decide)

theorem not_mem_token {c : Char} (letter : c ∉ ['u', 'n', 'i']) (digit : Text.hexValue? c = none) :
    c ∉ (token codepoint).toList := by
  have free : c ∉ Text.paddedHex 4 codepoint := fun member => by
    have valued := Text.isSome_hexValue?_of_mem member
    simp [digit] at valued
  rcases toList_token with short | long
  · rw [short]
    simpa [free] using letter
  · rw [long]
    simpa [free] using fun same => letter (by simp [same])

end GlyphName

namespace GlyphOrder

namespace Line

variable {line : Line}

/-- What stands on a line: two names, and the codepoints if there are any. -/
def columns (line : Line) : List String :=
  [line.final, line.design] ++ match line.codepoints with
    | [] => []
    | codepoints => [",".intercalate (codepoints.map GlyphName.token)]

theorem text_eq : line.text = " ".intercalate line.columns ++ "\n" := by
  obtain ⟨final, design, codepoints⟩ := line
  cases codepoints <;> simp [text, columns, String.append_assoc]

/-- The line that columns write. -/
def read? (line : List Char) : Option Line :=
  match line.splitOn ' ' with
  | [final, design] => some ⟨.ofList final, .ofList design, []⟩
  | [final, design, codes] =>
    ((codes.splitOn ',').mapM GlyphName.codepointOf?).map (⟨.ofList final, .ofList design, ·⟩)
  | _ => none

theorem not_mem_codes {codepoints : List Nat} {c : Char} (comma : c ≠ ',')
    (letter : c ∉ ['u', 'n', 'i']) (digit : Text.hexValue? c = none) :
    c ∉ (",".intercalate (codepoints.map GlyphName.token)).toList := by
  intro member
  rcases Text.mem_intercalate member with between | ⟨token, present, inside⟩
  · exact comma (by simpa using between)
  · obtain ⟨codepoint, _, rfl⟩ := List.mem_map.mp present
    exact GlyphName.not_mem_token letter digit inside

theorem not_mem_columns {c : Char} (names : ∀ name ∈ [line.final, line.design], c ∉ name.toList)
    (comma : c ≠ ',') (letter : c ∉ ['u', 'n', 'i']) (digit : Text.hexValue? c = none) :
    ∀ column ∈ line.columns, c ∉ column.toList := by
  refine List.forall_mem_append.mpr ⟨names, ?_⟩
  split
  · simp
  · simpa using not_mem_codes comma letter digit

theorem mapM_codepointOf? {codepoints : List Nat} (filled : codepoints ≠ []) :
    ((",".intercalate (codepoints.map GlyphName.token)).toList.splitOn ',').mapM
      GlyphName.codepointOf? = some codepoints := by
  rw [Text.splitOn_intercalate rfl (by simpa), List.map_map]
  · exact Text.mapM_read fun codepoint _ => GlyphName.codepointOf?_token codepoint
  · intro token present
    obtain ⟨codepoint, _, rfl⟩ := List.mem_map.mp present
    exact GlyphName.not_mem_token (by decide) (by decide)

/-- No name on the line has a space or a line feed. -/
def Legible (line : Line) : Prop :=
  ∀ name ∈ [line.final, line.design], ' ' ∉ name.toList ∧ '\n' ∉ name.toList

theorem oneLine_columns (legible : line.Legible) :
    Text.OneLine (" ".intercalate line.columns) := by
  have space : Text.OneLine " " := by decide
  exact space.intercalate (not_mem_columns (fun name member => (legible name member).2)
    (by decide) (by decide) (by decide))

theorem read?_columns (legible : line.Legible) :
    read? (" ".intercalate line.columns).toList = some line := by
  have columns : (" ".intercalate line.columns).toList.splitOn ' ' =
      line.columns.map String.toList :=
    Text.splitOn_intercalate rfl (by simp [Line.columns])
      (not_mem_columns (fun name member => (legible name member).1)
        (by decide) (by decide) (by decide))
  rw [read?, columns]
  obtain ⟨final, design, codepoints⟩ := line
  cases codepoints with
  | nil => simp [Line.columns]
  | cons codepoint rest =>
    have codes := mapM_codepointOf? (List.cons_ne_nil codepoint rest)
    rw [List.map_cons] at codes
    simp only [Line.columns, List.map_cons, List.map_nil, List.cons_append, List.nil_append,
      String.ofList_toList, codes, Option.map_some]

end Line

/-- The lines that a text writes, each ended by a line feed. -/
def read? (text : String) : Option (List Line) :=
  (text.toList.splitOn '\n').dropLast.mapM Line.read?

theorem read?_join {lines : List Line} (legible : ∀ line ∈ lines, line.Legible) :
    read? (String.join (lines.map Line.text)) = some lines := by
  have ended : lines.map Line.text =
      (lines.map fun line => " ".intercalate line.columns).map (· ++ "\n") := by
    rw [List.map_map]
    exact List.map_congr_left fun line _ => Line.text_eq
  have oneLine : ∀ part ∈ lines.map fun line => " ".intercalate line.columns,
      Text.OneLine part := by
    intro part member
    obtain ⟨line, present, rfl⟩ := List.mem_map.mp member
    exact Line.oneLine_columns (legible line present)
  rw [read?, ended, Text.splitOn_lines oneLine, List.dropLast_concat, List.map_map]
  exact Text.mapM_read fun line member => Line.read?_columns (legible line member)

variable {font : Font} {finals : Std.ExtTreeMap String String} {order : List String}

/-- What the text is to say: for each design its final name, or the design where it has none, the
design, and the codepoints of the last glyph of that name. -/
def said (font : Font) (finals : Std.ExtTreeMap String String) (order : List String) : List Line :=
  order.map fun design =>
    { final := finals[design]?.getD design
      design
      codepoints := ((font.lastGlyph? design).map Glyph.codepoints).getD [] }

theorem lines_eq : lines font finals order = said font finals order := by
  simp only [lines, said, Font.getElem?_glyphsByName, Std.ExtTreeMap.getD_eq_getD_getElem?]

/-- No design in the order and no final name of one has a space or a line feed. -/
def Legible (finals : Std.ExtTreeMap String String) (order : List String) : Prop :=
  ∀ design ∈ order, ∀ name ∈ [finals[design]?.getD design, design],
    ' ' ∉ name.toList ∧ '\n' ∉ name.toList

instance instDecidableLegible (finals : Std.ExtTreeMap String String) (order : List String) :
    Decidable (Legible finals order) :=
  inferInstanceAs (Decidable (∀ design ∈ order, ∀ name ∈ [finals[design]?.getD design, design],
    ' ' ∉ name.toList ∧ '\n' ∉ name.toList))

theorem Legible.said (legible : Legible finals order) :
    ∀ line ∈ said font finals order, line.Legible := by
  intro line member
  obtain ⟨design, present, rfl⟩ := List.mem_map.mp member
  exact legible design present

theorem read?_eq_said (legible : Legible finals order) :
    read? (text font finals order) = some (said font finals order) := by
  rw [text, lines_eq, read?_join legible.said]

/-- All that the text is to say is read back from it, so one text never says two things. -/
theorem read?_text (legible : Legible finals order) :
    read? (text font finals order) = some (said font finals order) ∧
      ∀ fontToo finalsToo orderToo, Legible finalsToo orderToo →
        text fontToo finalsToo orderToo = text font finals order →
          said fontToo finalsToo orderToo = said font finals order := by
  refine ⟨read?_eq_said legible, fun fontToo finalsToo orderToo legibleToo same => ?_⟩
  have reading : read? (text fontToo finalsToo orderToo) = _ := read?_eq_said legibleToo
  rw [same, read?_eq_said legible] at reading
  exact (Option.some.inj reading).symm

private def coded : Font where
  glyphs := [{ name := "A", codepoints := [0x41] }, { name := "B" },
    { name := "C", codepoints := [0xFFFF, 0x10000, 0xFFFFFFFF] },
    { name := "A", codepoints := [0x391, 0x1F600] }]

/-- Codes of four, five and eight digits, a name that stands for a second glyph, one that stands
twice in the order and one that looks like a code. -/
theorem read?_text_coded :
    read? (text coded (.ofList [("A", "Alpha"), ("uni0041", "A")])
        ["C", "A", "uni0041", "A", "B"]) =
      some [⟨"C", "C", [0xFFFF, 0x10000, 0xFFFFFFFF]⟩, ⟨"Alpha", "A", [0x391, 0x1F600]⟩,
        ⟨"A", "uni0041", []⟩, ⟨"Alpha", "A", [0x391, 0x1F600]⟩, ⟨"B", "B", []⟩] :=
  (read?_text (by decide +kernel)).1.trans (by decide +kernel)

end GlyphOrder
end FontPrep
