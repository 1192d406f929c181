namespace FontPrep.Text

def onFirstLine (c : Char) : List (List Char) → List (List Char)
  | [] => [[c]]
  | line :: rest => (c :: line) :: rest

/-- A line ends at a line feed, which takes one carriage return just before it along; a text that
ends with a line feed has no further empty line. -/
def lines : List Char → List (List Char)
  | [] => []
  | '\n' :: rest => [] :: lines rest
  | '\r' :: '\n' :: rest => [] :: lines rest
  | c :: rest => onFirstLine c (lines rest)

theorem not_mem_lines_newline {text : List Char} {line : List Char} (h : line ∈ lines text) :
    '\n' ∉ line := by
  induction text using lines.induct generalizing line with
  | case1 => simp [lines] at h
  | case2 rest ih =>
    simp only [lines, List.mem_cons] at h
    rcases h with rfl | h
    · simp
    · exact ih h
  | case3 rest ih =>
    simp only [lines, List.mem_cons] at h
    rcases h with rfl | h
    · simp
    · exact ih h
  | case4 c rest notFeed notBoth ih =>
    have feed : c ≠ '\n' := fun h => notFeed h
    rw [lines.eq_4 c rest notFeed notBoth] at h
    cases found : lines rest with
    | nil =>
      simp only [found, onFirstLine, List.mem_singleton] at h
      subst h
      simpa using feed.symm
    | cons head tail =>
      simp only [found, onFirstLine, List.mem_cons] at h
      rcases h with rfl | h
      · have := @ih head (by simp [found])
        simp [this, feed.symm]
      · exact ih (by simp [found, h])

end FontPrep.Text
