import FontPrep.Proofs.GlyphName.Assignment
import FontPrep.Proofs.Name.Supply
import Mathlib.Data.Finset.Card

namespace FontPrep

namespace GlyphName

variable {decompose : String → String} {taken : NameSet} {given : List String} {cp : Option Nat}
variable {name spelled : String}

theorem numberedName_injective : Function.Injective numberedName := by
  intro one two same
  have chars := congrArg String.toList same
  rw [toList_numberedName, toList_numberedName] at chars
  exact Name.digits_injective (List.append_cancel_left chars)

theorem exists_number (covers : ∀ name ∈ taken, name ∈ given) (few : given.length < 99999) :
    ∃ derived, number taken name = .ok derived := by
  obtain ⟨number, found⟩ := Name.exists_find?_counters (List.Subset.refl Name.counters)
    (Name.nodup_counters.map numberedName_injective) (fun _ _ => covers _)
    (Nat.lt_of_lt_of_eq few Name.length_counters.symm)
  exact ⟨.numbered number, by rw [GlyphName.number, found]⟩

theorem exists_freeSpelling (covers : ∀ name ∈ taken, name ∈ given) (few : given.length < 99999) :
    ∃ candidate, freeSpelling taken spelled = .ok candidate := by
  unfold freeSpelling
  split
  · exact ⟨spelled, rfl⟩
  · exact Name.exists_unique_period covers few

/-- While fewer than 99,999 names are taken, every name has a derived one. -/
theorem exists_derive (covers : ∀ name ∈ taken, name ∈ given) (few : given.length < 99999) :
    ∃ derived, derive decompose taken cp name = .ok derived := by
  obtain ⟨candidate, free⟩ : ∃ candidate,
      freeSpelling taken (spelling decompose cp name) = .ok candidate :=
    exists_freeSpelling covers few
  simp only [derive, free, bind, Except.bind]
  split
  · exact ⟨.spelled candidate, rfl⟩
  · exact exists_number covers few

namespace Assignment

variable {codepoint : String → Option Nat} {done next : Assignment} {design : String}
variable {choice : Choice} {designs : List String}

/-- Whether every name that is taken was given to a design name. -/
def Spent (done : Assignment) : Prop := ∀ name ∈ done.taken, name ∈ done.toList.map Prod.snd

theorem spent_empty : Spent {} := by
  intro name member
  simp at member

theorem Spent.add (spent : Spent done) : Spent (done.add design choice) := by
  intro name member
  rw [toList_add, List.map_append, List.mem_append]
  rcases mem_taken_add.mp member with rfl | old
  · exact .inr (by simp)
  · exact .inl (spent name old)

theorem Spent.grows (spent : Spent done) (grown : Grows done design next) : Spent next := by
  cases grown with
  | kept => exact spent
  | added => exact spent.add

theorem spent_provided {rows : List (String × String)}
    (run : rows.foldlM (addProvided decompose codepoint) {} = .ok done) : Spent done := by
  refine foldlM_keeps (fun _ => Spent) (fun spent assigned => ?_) spent_empty run
  obtain ⟨choice, rfl, _⟩ := eq_add_of_addProvided assigned
  exact spent.add

theorem Spent.addOwn (spent : Spent done) : Spent (done.addOwn design) := by
  unfold Assignment.addOwn
  split
  · exact spent.add
  · exact spent

theorem Spent.own (spent : Spent done) (designs : List String) :
    Spent (designs.foldl Assignment.addOwn done) := by
  induction designs generalizing done with
  | nil => exact spent
  | cons design rest ih => exact ih spent.addOwn

theorem Spent.renamed (spent : Spent done)
    (run : designs.foldlM (addRenamed decompose codepoint) done = .ok next) : Spent next :=
  foldlM_keeps (fun _ => Spent) (fun spent assigned => spent.grows (addRenamed_cases assigned).1)
    spent run

/-- While one of at most 99,999 design names has no final name, fewer than that are given. -/
theorem Valid.length_lt (valid : Valid done) (known : ∀ other ∈ done.finals, other ∈ designs)
    (few : designs.toFinset.card ≤ 99999) (member : design ∈ designs)
    (new : design ∉ done.finals) : (done.toList.map Prod.snd).length < 99999 := by
  have named {other : String} (listed : other ∈ done.toList.map Prod.fst) :
      other ∈ done.finals := by
    obtain ⟨⟨other, final⟩, present, rfl⟩ := List.mem_map.mp listed
    exact Rows.mem_of_found (valid.look.mpr present)
  have distinct : (design :: done.toList.map Prod.fst).Nodup :=
    List.nodup_cons.mpr ⟨fun listed => new (named listed), valid.once⟩
  have within : (design :: done.toList.map Prod.fst).toFinset ⊆ designs.toFinset := by
    intro other listed
    rw [List.mem_toFinset] at listed ⊢
    rcases List.mem_cons.mp listed with rfl | old
    · exact member
    · exact known other (named old)
  have bound := Finset.card_le_card within
  rw [List.toFinset_card_of_nodup distinct, List.length_cons, List.length_map] at bound
  rw [List.length_map]
  omega

theorem exists_addProvided {entry : String × String} (spent : Spent done)
    (few : (done.toList.map Prod.snd).length < 99999) :
    ∃ next, addProvided decompose codepoint done entry = .ok next := by
  unfold addProvided
  split
  · exact ⟨_, rfl⟩
  · obtain ⟨derived, found⟩ : ∃ derived,
        derive decompose done.taken (codepoint entry.1) entry.2 = .ok derived :=
      exists_derive spent few
    exact ⟨done.add entry.1 (.replaced entry.2 derived), by rw [found]⟩

theorem exists_addRenamed (spent : Spent done)
    (few : design ∉ done.finals → (done.toList.map Prod.snd).length < 99999) :
    ∃ next, addRenamed decompose codepoint done design = .ok next := by
  unfold addRenamed
  split
  · exact ⟨done, rfl⟩
  · rename_i new
    obtain ⟨derived, found⟩ : ∃ derived,
        derive decompose done.taken (codepoint design) design = .ok derived :=
      exists_derive spent (few new)
    exact ⟨done.add design (.renamed derived), by rw [found]⟩

theorem exists_provided {rows : List (String × String)} (distinct : (rows.map Prod.fst).Nodup)
    (known : ∀ row ∈ rows, row.1 ∈ designs) (few : designs.toFinset.card ≤ 99999) :
    ∃ done, rows.foldlM (addProvided decompose codepoint) {} = .ok done := by
  refine exists_foldlM fun {before row rest state} split run => ?_
  subst split
  rw [List.map_append, List.map_cons, List.nodup_append] at distinct
  obtain ⟨once, _, apart⟩ := distinct
  have covers := covers_provided once run
  have listed {other : String} (present : other ∈ state.finals) : other ∈ before.map Prod.fst := by
    simpa using covers.mem.mp present
  refine exists_addProvided (spent_provided run)
    (covers.valid.length_lt (fun other present => ?_) few (known row (by simp)) fun present => ?_)
  · obtain ⟨earlier, member, rfl⟩ := List.mem_map.mp (listed present)
    exact known earlier (List.mem_append_left _ member)
  · exact apart row.1 (listed present) row.1 (by simp) rfl

theorem exists_renamed {order : List String} (valid : Valid done) (spent : Spent done)
    (named : ∀ other ∈ done.finals, other ∈ designs) (known : ∀ design ∈ order, design ∈ designs)
    (few : designs.toFinset.card ≤ 99999) :
    ∃ next, order.foldlM (addRenamed decompose codepoint) done = .ok next := by
  refine exists_foldlM fun {before design rest state} split run => ?_
  subst split
  have covers := covers_renamed valid run
  refine exists_addRenamed (spent.renamed run)
    (covers.valid.length_lt (fun other present => ?_) few (known design (by simp)))
  rcases covers.mem.mp present with old | listed
  · exact named other old
  · exact known other (List.mem_append_left _ listed)

/-- All three passes succeed on at most 99,999 design names. -/
theorem exists_ofOrder {order : List String} {provided : Std.ExtTreeMap String String}
    (few : (provided.keys ++ order).toFinset.card ≤ 99999) :
    ∃ done, ofOrder decompose codepoint order provided = .ok done := by
  have keys : provided.toList.map Prod.fst = provided.keys := by simp
  have once : (provided.toList.map Prod.fst).Nodup := keys ▸ provided.nodup_keys
  have known : ∀ row ∈ provided.toList, row.1 ∈ provided.keys ++ order := fun row member =>
    List.mem_append_left _ (keys ▸ List.mem_map_of_mem member)
  obtain ⟨given, began⟩ : ∃ given,
      provided.toList.foldlM (addProvided decompose codepoint) {} = .ok given :=
    exists_provided once known few
  obtain ⟨validOwn, added, _⟩ := addOwn_run (covers_given began).valid
    (not_mem_of_unnamed)
  have asked : ∀ design ∈ order.filter (· ∉ given.finals), design ∈ provided.keys ++ order :=
    fun design member => List.mem_append_right _ (List.mem_filter.mp member).1
  have named : ∀ other ∈ ((order.filter (· ∉ given.finals)).foldl addOwn given).finals,
      other ∈ provided.keys ++ order := by
    intro other present
    rcases added other present with old | listed
    · exact List.mem_append_left _ (by simpa using (mem_given began).mp old)
    · exact asked other listed
  obtain ⟨done, last⟩ : ∃ done, (order.filter (· ∉ given.finals)).foldlM
      (addRenamed decompose codepoint) ((order.filter (· ∉ given.finals)).foldl addOwn given) =
        .ok done :=
    exists_renamed validOwn ((spent_provided began).own _) named asked few
  exact ⟨done, ofOrder_eq_ok_iff.mpr ⟨given, began, last⟩⟩

end Assignment
end GlyphName

namespace Font

variable {font : Font} {decompose : String → String} {order : List String}
variable {provided : Std.ExtTreeMap String String}

/-- Up to 99,999 different design names all get final names, whatever they are, whatever is provided
and however names are decomposed. -/
theorem exists_finalNames (few : (provided.keys ++ order).toFinset.card ≤ 99999) :
    ∃ done, font.finalNames decompose order provided = .ok done :=
  GlyphName.Assignment.exists_ofOrder few

private def crowded : Font where
  glyphs := [{ name := "x" }, { name := "y", codepoints := [0x21] }]

private def crowdedOrder : List String := ["x", "", "glyph1", "y", ".x", "x"]

private def crowdedNames : Std.ExtTreeMap String String :=
  .ofList [("z", "abcdefghijklmnopqrstuvwxyz01234"), ("x", "abcdefghijklmnopqrstuvwxyz012.1"),
    ("!", "0")]

/-- All names are decomposed to one, which is too long for a counter and taken from the start. -/
theorem exists_finalNames_crowded :
    (crowdedNames.keys ++ crowdedOrder).toFinset.card ≤ 99999 ∧ ∃ done,
      crowded.finalNames (fun _ => "abcdefghijklmnopqrstuvwxyz01234") crowdedOrder crowdedNames =
        .ok done := by
  have few : (crowdedNames.keys ++ crowdedOrder).toFinset.card ≤ 99999 := by decide +kernel
  exact ⟨few, exists_finalNames few⟩

end Font
end FontPrep
