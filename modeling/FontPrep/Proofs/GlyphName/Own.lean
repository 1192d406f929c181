import FontPrep.Proofs.GlyphName.Supply

namespace FontPrep

namespace GlyphName.Assignment

variable {decompose : String → String} {codepoint : String → Option Nat}
variable {order designs : List String} {provided : Std.ExtTreeMap String String}
variable {done given next : Assignment} {name design other final : String}

theorem Valid.mem_taken_iff (valid : Valid done) (spent : Spent done) :
    name ∈ done.taken ↔ ∃ design : String, done.finals[design]? = some name := by
  constructor
  · intro present
    obtain ⟨⟨design, final⟩, listed, rfl⟩ := List.mem_map.mp (spent name present)
    exact ⟨design, valid.look.mpr listed⟩
  · intro given
    obtain ⟨design, found⟩ := given
    exact valid.taken found

theorem Grows.getElem?_finals (grown : Grows done design next)
    (found : done.finals[other]? = some final) : next.finals[other]? = some final := by
  cases grown with
  | kept => exact found
  | added choice new =>
    rw [getElem?_finals_add, if_neg]
    · exact found
    · rintro rfl
      exact new (Rows.mem_of_found found)

theorem getElem?_finals_renamed
    (run : designs.foldlM (addRenamed decompose codepoint) done = .ok next)
    (found : done.finals[other]? = some final) : next.finals[other]? = some final :=
  foldlM_keeps (fun _ state => state.finals[other]? = some final)
    (fun kept assigned => (addRenamed_cases assigned).1.getElem?_finals kept) found run

/-- Whether a design name is legal and no provided design got it. -/
def Unclaimed (done : Assignment) (provided : Std.ExtTreeMap String String) (name : String) :
    Prop :=
  isLegal name = true ∧ ∀ design ∈ provided, done.finals[design]? ≠ some name

section Passes

variable (began : provided.toList.foldlM (addProvided decompose codepoint) {} = .ok given)
variable (last : (order.filter (· ∉ given.finals)).foldlM (addRenamed decompose codepoint)
  ((order.filter (· ∉ given.finals)).foldl addOwn given) = .ok done)

include last

theorem getElem?_finals_given (found : given.finals[design]? = some final) :
    done.finals[design]? = some final := by
  refine getElem?_finals_renamed last ?_
  rw [getElem?_finals_own, if_neg]
  · exact found
  · rintro ⟨member, -⟩
    simp [Rows.mem_of_found found] at member

/-- A legal design name that was free after the first pass is its own final name. -/
theorem getElem?_finals_of_free (asked : name ∈ order) (new : name ∉ given.finals)
    (legal : isLegal name = true) (free : name ∉ given.taken) :
    done.finals[name]? = some name := by
  refine getElem?_finals_renamed last ?_
  have unnamed : name ∈ order.filter (· ∉ given.finals) := by simp [asked, new]
  rw [getElem?_finals_own, if_pos ⟨unnamed, legal, free⟩]

include began

theorem getElem?_finals_provided (present : design ∈ provided) :
    done.finals[design]? = given.finals[design]? := by
  obtain ⟨final, found⟩ := Rows.exists_of_mem ((mem_given began).mpr present)
  rw [found, getElem?_finals_given last found]

theorem Unclaimed.not_mem_taken (unclaimed : done.Unclaimed provided name) :
    name ∉ given.taken := by
  rw [(covers_given began).valid.mem_taken_iff (spent_provided began)]
  rintro ⟨design, found⟩
  have present := (mem_given began).mp (Rows.mem_of_found found)
  exact unclaimed.2 design present (getElem?_finals_given last found)

end Passes

end GlyphName.Assignment

namespace Font

open GlyphName GlyphName.Assignment

variable {font : Font} {decompose : String → String} {order : List String}
variable {provided : Std.ExtTreeMap String String} {done : Assignment} {name : String}

/-- What becomes of a design name that is asked for and not provided. If it is unclaimed, it is its
own final name, no other design gets it, and no order of the same names changes that; else it gets
another. -/
structure Protects (font : Font) (decompose : String → String) (order : List String)
    (provided : Std.ExtTreeMap String String) (done : Assignment) (name : String) : Prop where
  kept : done.Unclaimed provided name → done.finals[name]? = some name
  sole : done.Unclaimed provided name →
    ∀ design : String, done.finals[design]? = some name → design = name
  reordered : done.Unclaimed provided name → ∀ (other : List String) (again : Assignment),
    other.Perm order → font.finalNames decompose other provided = .ok again →
      again.finals[name]? = some name
  renamed : isLegal name = false ∨ (∃ design ∈ provided, done.finals[design]? = some name) →
    ∃ final ≠ name, done.finals[name]? = some final

/-- Legal design names are protected from renamed ones, wherever they stand in the order. -/
theorem finalNames_protects (named : font.finalNames decompose order provided = .ok done)
    (asked : name ∈ order) (new : name ∉ provided) :
    font.Protects decompose order provided done name := by
  obtain ⟨given, began, last⟩ := ofOrder_eq_ok_iff.mp named
  obtain ⟨valid, designs⟩ := valid_ofOrder named
  have newToo : name ∉ given.finals := mt (mem_given began).mp new
  have kept (unclaimed : done.Unclaimed provided name) : done.finals[name]? = some name :=
    getElem?_finals_of_free last asked newToo unclaimed.1 (unclaimed.not_mem_taken began last)
  constructor
  · exact kept
  · intro unclaimed design found
    exact valid.injective found (kept unclaimed)
  · intro unclaimed other again same namedAgain
    -- The first pass does not see the order.
    obtain ⟨givenAgain, beganAgain, lastAgain⟩ := ofOrder_eq_ok_iff.mp namedAgain
    cases began.symm.trans beganAgain
    exact getElem?_finals_of_free lastAgain (same.mem_iff.mpr asked) newToo unclaimed.1
      (unclaimed.not_mem_taken began last)
  · intro claimed
    obtain ⟨final, found⟩ := Rows.exists_of_mem ((designs name).mpr (.inr asked))
    refine ⟨final, ?_, found⟩
    rintro rfl
    rcases claimed with illegal | ⟨design, present, foundToo⟩
    · cases illegal.symm.trans (valid.legal found)
    · exact new (valid.injective foundToo found ▸ present)

private def overlapping : Font where
  glyphs := [{ name := "A" }, { name := "a*b" }, { name := "B" }, { name := "ab" }]

private def overlappingOrder : List String := ["a*b", "B", "ab", "ab"]

private def overlappingNames : Std.ExtTreeMap String String := .ofList [("A", "B")]

private theorem named_overlapping : ∃ done,
    overlapping.finalNames Unicode.decompose overlappingOrder overlappingNames = .ok done ∧
      done.toList = [("A", "B"), ("ab", "ab"), ("a*b", "ab.1"), ("B", "B.1")] :=
  exists_of_map_toOption (by decide +kernel)

/-- An illegal name before a legal one keeps the same characters, and another was provided. -/
theorem finalNames_protects_overlapping : ∃ done,
    overlapping.finalNames Unicode.decompose overlappingOrder overlappingNames = .ok done ∧
      ("ab" ∈ overlappingOrder ∧ "ab" ∉ overlappingNames) ∧
      overlapping.Protects Unicode.decompose overlappingOrder overlappingNames done "ab" ∧
      ("B" ∈ overlappingOrder ∧ "B" ∉ overlappingNames) ∧
      overlapping.Protects Unicode.decompose overlappingOrder overlappingNames done "B" ∧
      done.toList = [("A", "B"), ("ab", "ab"), ("a*b", "ab.1"), ("B", "B.1")] := by
  obtain ⟨done, named, names⟩ := named_overlapping
  have kept : "ab" ∈ overlappingOrder ∧ "ab" ∉ overlappingNames := by decide +kernel
  have claimed : "B" ∈ overlappingOrder ∧ "B" ∉ overlappingNames := by decide +kernel
  exact ⟨done, named, kept, finalNames_protects named kept.1 kept.2, claimed,
    finalNames_protects named claimed.1 claimed.2, names⟩

end Font
end FontPrep
