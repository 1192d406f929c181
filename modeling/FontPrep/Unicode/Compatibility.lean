import FontPrep.Unicode.CompatibilityImages

/-! Compatibility decomposition of names. A character whose decomposition holds nothing that a name
may keep is left as it is, so the result is exact once the other characters are dropped. -/
namespace FontPrep.Unicode

def ImageRun.words (run : ImageRun) : List (List Char) := run.images.toList.splitOn ' '

/-- What the last run that starts no later than the character has for it, if it reaches that far. -/
def image? (c : Char) : Option (List Char) :=
  (compatibilityRuns.reverse.find? (·.start ≤ c.toNat)).bind fun run =>
    run.words[c.toNat - run.start]?

/-- What a character becomes; an ASCII character stays itself. -/
def image (c : Char) : List Char := if c.toNat < 0x80 then [c] else (image? c).getD [c]

def decompose (text : String) : String := String.ofList (text.toList.flatMap image)

theorem image_of_ascii {c : Char} (h : c.toNat < 0x80) : image c = [c] := by simp [image, h]

private theorem flatMap_image_of_ascii {text : List Char} (h : ∀ c ∈ text, c.toNat < 0x80) :
    text.flatMap image = text := by
  induction text with
  | nil => rfl
  | cons c rest ih =>
    rw [List.flatMap_cons, image_of_ascii (h c (by simp)),
      ih fun d member => h d (List.mem_cons_of_mem c member)]
    rfl

theorem decompose_of_ascii {text : String} (h : ∀ c ∈ text.toList, c.toNat < 0x80) :
    decompose text = text := by
  rw [decompose, flatMap_image_of_ascii h, String.ofList_toList]

end FontPrep.Unicode
