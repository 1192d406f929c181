import FontPrep.GlyphName.Assignment
import FontPrep.Proofs.GlyphName.Derived
import FontPrep.Proofs.Rows
import FontPrep.Proofs.Runs

/-! Final glyph names. Three passes share the names given so far, and whichever pass chooses a name,
it is legal and was free; so every design name that is asked for gets one final name, and no two get
the same. -/
namespace FontPrep

namespace GlyphName

variable {decompose : String → String} {taken : NameSet} {cp : Option Nat} {name : String}
variable {derived : Derived}

namespace Assignment

variable {codepoint : String → Option Nat} {done next : Assignment} {design final : String}
variable {choice : Choice}

theorem toList_add : (done.add design choice).toList =
    done.toList ++ [(design, Entry.final ⟨design, choice⟩)] := by
  simp [add, toList]

theorem getElem?_finals_add {other : String} : (done.add design choice).finals[other]? =
    if design = other then some (Entry.final ⟨design, choice⟩) else done.finals[other]? := by
  simp only [add, Std.ExtTreeMap.getElem?_insert, Std.LawfulEqOrd.compare_eq_iff_eq]

theorem mem_finals_add {other : String} :
    other ∈ (done.add design choice).finals ↔ design = other ∨ other ∈ done.finals := by
  simp only [add, Std.ExtTreeMap.mem_insert, Std.LawfulEqOrd.compare_eq_iff_eq]

theorem mem_taken_add {other : String} :
    other ∈ (done.add design choice).taken ↔
      Entry.final ⟨design, choice⟩ = other ∨ other ∈ done.taken := by
  simp only [add, Std.ExtTreeSet.mem_insert, Std.LawfulEqOrd.compare_eq_iff_eq]

/-- The list of choices and the map of final names are one assignment: each design name is in it
once, and no final name is given twice. -/
structure Valid (done : Assignment) : Prop where
  look : ∀ {design final : String},
    done.finals[design]? = some final ↔ (design, final) ∈ done.toList
  taken : ∀ {design final : String}, done.finals[design]? = some final → final ∈ done.taken
  once : (done.toList.map Prod.fst).Nodup
  legal : ∀ {design final : String}, done.finals[design]? = some final → isLegal final = true
  injective : ∀ {design other final : String}, done.finals[design]? = some final →
    done.finals[other]? = some final → design = other

theorem valid_empty : Valid {} where
  look := by simp [toList]
  taken found := by simp at found
  once := by simp [toList]
  legal found := by simp at found
  injective found := by simp at found

/-- Whether a step left the assignment as it was or gave a new design name a legal, free name. -/
inductive Grows (done : Assignment) (design : String) : Assignment → Prop where
  | kept : Grows done design done
  | added (choice : Choice) (new : design ∉ done.finals)
      (legal : isLegal (Entry.final ⟨design, choice⟩) = true)
      (free : Entry.final ⟨design, choice⟩ ∉ done.taken) :
      Grows done design (done.add design choice)

theorem Valid.grows (valid : Valid done) (grown : Grows done design next) : Valid next := by
  cases grown with
  | kept => exact valid
  | added choice new legal free =>
    have missing : done.finals[design]? = none := by simpa using new
    have named {other final : String}
        (found : (done.add design choice).finals[other]? = some final) :
        design = other ∧ Entry.final ⟨design, choice⟩ = final ∨
          done.finals[other]? = some final := by
      rw [getElem?_finals_add] at found
      split at found
      · exact .inl ⟨‹_›, Option.some.inj found⟩
      · exact .inr found
    constructor
    · intro other final
      rw [getElem?_finals_add, toList_add, List.mem_append, List.mem_singleton, Prod.mk.injEq,
        ← valid.look]
      split
      · rename_i same
        subst other
        simp [missing, eq_comm]
      · rename_i differs
        simp [Ne.symm differs]
    · intro other final found
      rw [mem_taken_add]
      rcases named found with ⟨_, same⟩ | old
      · exact .inl same
      · exact .inr (valid.taken old)
    · rw [toList_add, List.map_append, List.map_singleton, List.nodup_append]
      refine ⟨valid.once, by simp, ?_⟩
      rintro other member last present rfl
      obtain rfl := List.mem_singleton.mp present
      obtain ⟨final, entry⟩ : ∃ final, (other, final) ∈ done.toList := by simpa using member
      cases missing.symm.trans (valid.look.mpr entry)
    · intro other final found
      rcases named found with ⟨_, rfl⟩ | old
      · exact legal
      · exact valid.legal old
    · intro one two final found foundToo
      -- A final name given before is taken, and the new one is free.
      rcases named found with ⟨rfl, rfl⟩ | old <;> rcases named foundToo with ⟨same, again⟩ | oldToo
      · exact same
      · exact absurd (valid.taken oldToo) free
      · exact absurd (again ▸ valid.taken old) free
      · exact valid.injective old oldToo

theorem Grows.mem_finals (grown : Grows done design next) {other : String} :
    other ∈ done.finals → other ∈ next.finals := by
  cases grown with
  | kept => exact id
  | added => exact fun present => mem_finals_add.mpr (.inr present)

theorem Grows.mem_finals_cases (grown : Grows done design next) {other : String}
    (present : other ∈ next.finals) : design = other ∨ other ∈ done.finals := by
  cases grown with
  | kept => exact .inr present
  | added => exact mem_finals_add.mp present

/-- A provided design name gets a legal, free name, be it the production name or another. -/
theorem eq_add_of_addProvided {entry : String × String}
    (assigned : addProvided decompose codepoint done entry = .ok next) :
    ∃ choice, next = done.add entry.1 choice ∧
      isLegal (Entry.final ⟨entry.1, choice⟩) = true ∧
        Entry.final ⟨entry.1, choice⟩ ∉ done.taken := by
  unfold addProvided at assigned
  split at assigned
  · rename_i usable
    cases assigned
    simp only [Bool.and_eq_true, decide_eq_true_iff] at usable
    exact ⟨.provided entry.2, rfl, usable.1, usable.2⟩
  · split at assigned
    · rename_i derived found
      cases assigned
      obtain ⟨legal, free⟩ := derive_usable found
      exact ⟨.replaced entry.2 derived, rfl, legal, free⟩
    · cases assigned

theorem addProvided_cases {entry : String × String} (new : entry.1 ∉ done.finals)
    (assigned : addProvided decompose codepoint done entry = .ok next) :
    Grows done entry.1 next ∧ entry.1 ∈ next.finals := by
  obtain ⟨choice, rfl, legal, free⟩ := eq_add_of_addProvided assigned
  exact ⟨.added choice new legal free, mem_finals_add.mpr (.inl rfl)⟩

theorem addRenamed_cases (assigned : addRenamed decompose codepoint done design = .ok next) :
    Grows done design next ∧ design ∈ next.finals := by
  unfold addRenamed at assigned
  split at assigned
  · rename_i present
    cases assigned
    exact ⟨.kept, present⟩
  · rename_i new
    split at assigned
    · rename_i derived found
      cases assigned
      obtain ⟨legal, free⟩ := derive_usable found
      exact ⟨.added (.renamed derived) new legal free, mem_finals_add.mpr (.inl rfl)⟩
    · cases assigned

/-- A name that is its own final name is taken, so of a repeated name only the first is added. -/
theorem addOwn_cases (owned : design ∈ done.finals → design ∈ done.taken) :
    Grows done design (done.addOwn design) := by
  unfold addOwn
  split
  · rename_i usable
    simp only [Bool.and_eq_true, decide_eq_true_iff] at usable
    exact .added .own (fun present => usable.2 (owned present)) usable.1 usable.2
  · exact .kept

/-- What a pass over some design names reaches: they are all in it, and no others are new. -/
structure Covers (start : Assignment) (designs : List String) (done : Assignment) : Prop where
  valid : Valid done
  mem : ∀ {design : String}, design ∈ done.finals ↔ design ∈ start.finals ∨ design ∈ designs

theorem Covers.refl (valid : Valid done) : Covers done [] done := ⟨valid, by simp⟩

theorem Covers.grows {start : Assignment} {designs : List String}
    (covers : Covers start designs done) (grown : Grows done design next)
    (present : design ∈ next.finals) : Covers start (designs ++ [design]) next := by
  refine ⟨covers.valid.grows grown, fun {other} => ?_⟩
  rw [List.mem_append, List.mem_singleton, ← or_assoc, ← covers.mem]
  constructor
  · intro member
    exact (grown.mem_finals_cases member).symm.imp_right Eq.symm
  · rintro (old | rfl)
    · exact grown.mem_finals old
    · exact present

theorem covers_provided {rows : List (String × String)} (distinct : (rows.map Prod.fst).Nodup)
    (run : rows.foldlM (addProvided decompose codepoint) {} = .ok done) :
    Covers {} (rows.map Prod.fst) done := by
  refine foldlM_keeps (fun rows done => (rows.map Prod.fst).Nodup →
    Covers {} (rows.map Prod.fst) done) ?_ (fun _ => Covers.refl valid_empty) run distinct
  intro rows row state next covers assigned distinct
  rw [List.map_append, List.map_singleton] at distinct ⊢
  obtain ⟨before, _, apart⟩ := List.nodup_append.mp distinct
  have new : row.1 ∉ state.finals := by
    intro present
    rcases (covers before).mem.mp present with none | listed
    · simp at none
    · exact apart row.1 listed row.1 (List.mem_singleton_self _) rfl
  obtain ⟨grown, present⟩ := addProvided_cases new assigned
  exact (covers before).grows grown present

/-- The first pass names the provided design names. -/
theorem covers_given {provided : Std.ExtTreeMap String String}
    (run : provided.toList.foldlM (addProvided decompose codepoint) {} = .ok done) :
    Covers {} provided.keys done := by
  have keys : provided.toList.map Prod.fst = provided.keys := by simp
  rw [← keys]
  exact covers_provided (keys ▸ provided.nodup_keys) run

theorem mem_given {provided : Std.ExtTreeMap String String}
    (run : provided.toList.foldlM (addProvided decompose codepoint) {} = .ok done) :
    design ∈ done.finals ↔ design ∈ provided := by
  simp [(covers_given run).mem]

theorem covers_renamed {designs : List String} (valid : Valid done)
    (run : designs.foldlM (addRenamed decompose codepoint) done = .ok next) :
    Covers done designs next := by
  refine foldlM_keeps (Covers done) ?_ (Covers.refl valid) run
  intro designs design state next covers assigned
  obtain ⟨grown, present⟩ := addRenamed_cases assigned
  exact covers.grows grown present

theorem getElem?_finals_addOwn {name : String} : (done.addOwn design).finals[name]? =
    if design = name ∧ isLegal name = true ∧ name ∉ done.taken then some name
    else done.finals[name]? := by
  unfold addOwn
  by_cases usable : isLegal design = true ∧ design ∉ done.taken
  · rw [if_pos (by simpa using usable), getElem?_finals_add]
    by_cases same : design = name
    · subst name
      simp [usable, Entry.final]
    · simp [same]
  · rw [if_neg (by simpa using usable), if_neg]
    rintro ⟨rfl, legal, free⟩
    exact usable ⟨legal, free⟩

theorem mem_taken_addOwn {name : String} : name ∈ (done.addOwn design).taken ↔
    design = name ∧ isLegal name = true ∨ name ∈ done.taken := by
  unfold addOwn
  split
  · rename_i usable
    simp only [Bool.and_eq_true, decide_eq_true_iff] at usable
    rw [mem_taken_add]
    exact or_congr_left ⟨fun same => ⟨same, same ▸ usable.1⟩, And.left⟩
  · rename_i unusable
    simp only [Bool.and_eq_true, decide_eq_true_iff, not_and, not_not] at unusable
    constructor
    · exact .inr
    · rintro (⟨rfl, legal⟩ | old)
      · exact unusable legal
      · exact old

/-- After the pass over legal design names, those that were free are their own final names and all
else is as it was, however often a name is repeated. -/
theorem getElem?_finals_own (designs : List String) (done : Assignment) (name : String) :
    (designs.foldl addOwn done).finals[name]? =
      if name ∈ designs ∧ isLegal name = true ∧ name ∉ done.taken then some name
      else done.finals[name]? := by
  induction designs generalizing done with
  | nil => simp
  | cons design rest ih =>
    rw [List.foldl_cons, ih, getElem?_finals_addOwn]
    simp only [mem_taken_addOwn, List.mem_cons]
    by_cases same : design = name
    · subst same
      by_cases legal : isLegal design = true <;> simp [legal]
    · simp [same, Ne.symm same]

theorem valid_own (designs : List String) (valid : Valid done)
    (owned : ∀ design ∈ designs, design ∈ done.finals → design ∈ done.taken) :
    Valid (designs.foldl addOwn done) := by
  induction designs generalizing done with
  | nil => exact valid
  | cons design rest ih =>
    refine ih (valid.grows (addOwn_cases (owned design (List.mem_cons_self ..)))) ?_
    intro other member present
    obtain ⟨final, found⟩ := Rows.exists_of_mem present
    rw [getElem?_finals_addOwn] at found
    split at found
    · rename_i added
      exact mem_taken_addOwn.mpr (.inl ⟨added.1, added.2.1⟩)
    · have before := owned other (List.mem_cons_of_mem _ member) (Rows.mem_of_found found)
      exact mem_taken_addOwn.mpr (.inr before)

/-- The pass over legal design names adds none but those, and loses nothing. -/
theorem addOwn_run {designs : List String} (valid : Valid done)
    (unnamed : ∀ design ∈ designs, design ∉ done.finals) :
    Valid (designs.foldl addOwn done) ∧
      (∀ design ∈ (designs.foldl addOwn done).finals, design ∈ done.finals ∨ design ∈ designs) ∧
        ∀ design ∈ done.finals, design ∈ (designs.foldl addOwn done).finals := by
  have owned : ∀ design ∈ designs, design ∈ done.finals → design ∈ done.taken :=
    fun design member present => absurd present (unnamed design member)
  refine ⟨valid_own designs valid owned, fun design present => ?_, fun design present => ?_⟩
  · obtain ⟨final, found⟩ := Rows.exists_of_mem present
    rw [getElem?_finals_own] at found
    split at found
    · rename_i added
      exact .inr added.1
    · exact .inl (Rows.mem_of_found found)
  · obtain ⟨final, found⟩ := Rows.exists_of_mem present
    have look := getElem?_finals_own designs done design
    split at look
    · exact Rows.mem_of_found look
    · exact Rows.mem_of_found (look.trans found)

/-- The last two passes over names that have none yet: each gets one, its own if it can. -/
theorem covers_unnamed {designs : List String} (valid : Valid done)
    (unnamed : ∀ design ∈ designs, design ∉ done.finals)
    (run : designs.foldlM (addRenamed decompose codepoint) (designs.foldl addOwn done) = .ok next) :
    Covers done designs next := by
  obtain ⟨validOwn, added, kept⟩ := addOwn_run valid unnamed
  have last := covers_renamed validOwn run
  refine ⟨last.valid, fun {design} => ?_⟩
  rw [last.mem]
  constructor
  · rintro (own | listed)
    · exact added design own
    · exact .inr listed
  · exact Or.imp_left (kept design)

/-- An assignment that names the provided designs and the names in the order, and nothing else, each
once, by final names that are all legal and all different. -/
structure Usable (done : Assignment) (order : List String)
    (provided : Std.ExtTreeMap String String) : Prop where
  designs : ∀ design : String, design ∈ done.finals ↔ design ∈ provided ∨ design ∈ order
  once : (done.toList.map Prod.fst).Nodup
  look : ∀ design final : String, (design, final) ∈ done.toList ↔ done.finals[design]? = some final
  legal : ∀ design final : String, done.finals[design]? = some final → isLegal final = true
  injective : ∀ design other final : String, done.finals[design]? = some final →
    done.finals[other]? = some final → design = other

theorem not_mem_of_unnamed {order : List String} :
    ∀ design ∈ order.filter (· ∉ done.finals), design ∉ done.finals := by
  intro design member
  simpa using (List.mem_filter.mp member).2

/-- A run succeeds if its first pass does and the last one that follows. -/
theorem ofOrder_eq_ok_iff {order : List String} {provided : Std.ExtTreeMap String String} :
    ofOrder decompose codepoint order provided = .ok done ↔ ∃ given,
      provided.toList.foldlM (addProvided decompose codepoint) {} = .ok given ∧
        (order.filter (· ∉ given.finals)).foldlM (addRenamed decompose codepoint)
          ((order.filter (· ∉ given.finals)).foldl addOwn given) = .ok done := by
  unfold ofOrder
  cases provided.toList.foldlM (addProvided decompose codepoint) {} with
  | error stuck => simp [bind, Except.bind]
  | ok given => simp [bind, Except.bind]

/-- The first pass names the provided designs, the other two what the order adds to them. -/
theorem valid_ofOrder {order : List String} {provided : Std.ExtTreeMap String String}
    (named : ofOrder decompose codepoint order provided = .ok done) :
    Valid done ∧ ∀ design : String, design ∈ done.finals ↔ design ∈ provided ∨ design ∈ order := by
  obtain ⟨given, began, last⟩ := ofOrder_eq_ok_iff.mp named
  have rest := covers_unnamed (covers_given began).valid not_mem_of_unnamed last
  refine ⟨rest.valid, fun design => ?_⟩
  simp only [rest.mem, mem_given began, List.mem_filter, decide_eq_true_iff]
  tauto

end Assignment
end GlyphName

namespace Font

variable {font : Font} {decompose : String → String} {order : List String}
variable {provided : Std.ExtTreeMap String String} {done : GlyphName.Assignment}

/-- Whenever the glyphs of a font get final names, the names are usable, whatever the order repeats
and whatever is provided. -/
theorem finalNames_usable (named : font.finalNames decompose order provided = .ok done) :
    done.Usable order provided := by
  obtain ⟨valid, designs⟩ := GlyphName.Assignment.valid_ofOrder named
  exact {
    designs := designs
    once := valid.once
    look := fun _ _ => valid.look.symm
    legal := fun _ _ => valid.legal
    injective := fun _ _ _ => valid.injective }

private def contested : Font where
  glyphs := [{ name := ".notdef" }, { name := "A", codepoints := [0x41] }, { name := "a-b-c" },
    { name := "!", codepoints := [0x21] }, { name := "smiley", codepoints := [0x1F600] }]

private def contestedOrder : List String := [".notdef", "A", "a-b-c", "A", "?"]

private def contestedNames : Std.ExtTreeMap String String :=
  .ofList [("!", "1exclam"), ("a-b-c", "A"), ("smiley", "A")]

/-- Two provided names are one and a third starts with a digit; a design name is the name that the
first of them got. -/
theorem finalNames_usable_contested : ∃ done,
    contested.finalNames Unicode.decompose contestedOrder contestedNames = .ok done ∧
      done.Usable contestedOrder contestedNames ∧
        done.toList = [("!", "glyph1"), ("a-b-c", "A"), ("smiley", "A.1"), (".notdef", ".notdef"),
          ("A", "A.2"), ("?", "glyph2")] := by
  have names : (contested.finalNames Unicode.decompose contestedOrder
      contestedNames).toOption.map (·.toList) =
    some [("!", "glyph1"), ("a-b-c", "A"), ("smiley", "A.1"), (".notdef", ".notdef"),
      ("A", "A.2"), ("?", "glyph2")] := by decide +kernel
  cases named : contested.finalNames Unicode.decompose contestedOrder contestedNames with
  | error stuck =>
    rw [named] at names
    cases names
  | ok done =>
    rw [named] at names
    exact ⟨done, rfl, finalNames_usable named, Option.some.inj names⟩

end Font
end FontPrep
