import FontPrep.Kerning.Separation
import FontPrep.Proofs.Kerning.Groups
import Mathlib.Data.List.Sort
import Mathlib.Data.String.Basic

/-! A run of spelling out mixed entries. What is covered grows by all members of each group with
its glyph; each exception lists the members that nothing before it covers. Where the entries of a
glyph come in order of their groups, "before" is the same as "with a smaller group". -/
namespace FontPrep

/-- The names that the condition holds of, ascending, each once. -/
def Enumerates (names : List String) (holds : String → Prop) : Prop :=
  names.Pairwise (· < ·) ∧ ∀ name, name ∈ names ↔ holds name

theorem Enumerates.unique {names others : List String} {holds : String → Prop}
    (first : Enumerates names holds) (second : Enumerates others holds) : names = others :=
  first.1.eq_of_mem_iff second.1 fun name => (first.2 name).trans (second.2 name).symm

theorem Enumerates.congr {names : List String} {holds expects : String → Prop}
    (same : ∀ name, holds name ↔ expects name) :
    Enumerates names holds ↔ Enumerates names expects :=
  and_congr_right fun _ => forall_congr' fun name => iff_congr Iff.rfl (same name)

namespace Expansion

variable {side : Side} {groups : Groups} {state : Expansion} {entries : List Mixed}

theorem enumerates_uncovered (covered : Covered) (side : Side) (glyph : String)
    (members : List String) :
    Enumerates (uncovered covered side glyph members) fun member =>
      member ∈ members ∧ Pair.on side member glyph ∉ covered := by
  constructor
  · have ordered := Std.ExtTreeSet.ordered_toList (t := .ofList (members.filter fun member =>
      Pair.on side member glyph ∉ covered))
    exact ordered.imp fun smaller => compare_lt_iff_lt.mp smaller
  · intro member
    simp [uncovered, Std.ExtTreeSet.mem_toList, Std.ExtTreeSet.mem_ofList]

/-- Spelling out an entry covers all members of its group with its glyph. -/
theorem mem_covered_spellOut {entry : Mixed} {member glyph : String} :
    Pair.on side member glyph ∈ (spellOut side groups state entry).covered ↔
      Pair.on side member glyph ∈ state.covered ∨
        entry.glyph = glyph ∧ groups.Lists entry.group member := by
  have listed := (enumerates_uncovered state.covered side entry.glyph
    (groups.getD entry.group [])).2
  simp only [spellOut, Std.ExtTreeSet.mem_insertMany_list, List.contains_iff_mem, List.mem_map,
    Pair.on_inj, listed]
  constructor
  · rintro (old | ⟨_, ⟨present, _⟩, rfl, rfl⟩)
    · exact .inl old
    · exact .inr ⟨rfl, present⟩
  · rintro (old | ⟨rfl, present⟩)
    · exact .inl old
    · by_cases old : Pair.on side member entry.glyph ∈ state.covered
      · exact .inl old
      · exact .inr ⟨member, ⟨present, old⟩, rfl, rfl⟩

theorem mem_covered_run {member glyph : String} :
    Pair.on side member glyph ∈ (entries.foldl (spellOut side groups) state).covered ↔
      Pair.on side member glyph ∈ state.covered ∨
        ∃ entry ∈ entries, entry.glyph = glyph ∧ groups.Lists entry.group member := by
  induction entries generalizing state with
  | nil => simp
  | cons entry rest ih =>
    rw [List.foldl_cons, ih, mem_covered_spellOut]
    simp only [List.mem_cons, exists_eq_or_imp, or_assoc]

/-- Every exception lists what is left when its entry has its turn. -/
theorem mem_exceptions_run {entry : Mixed} {members : List String} :
    ⟨entry, members⟩ ∈ (entries.foldl (spellOut side groups) state).exceptions ↔
      ⟨entry, members⟩ ∈ state.exceptions ∨
        ∃ before after, entries = before ++ entry :: after ∧
          members = uncovered (before.foldl (spellOut side groups) state).covered side
            entry.glyph (groups.getD entry.group []) := by
  induction entries generalizing state with
  | nil => simp
  | cons head rest ih =>
    rw [List.foldl_cons, ih]
    constructor
    · rintro (made | ⟨before, after, split, listed⟩)
      · rcases Array.mem_push.mp made with old | new
        · exact .inl old
        · cases new
          exact .inr ⟨[], rest, rfl, rfl⟩
      · exact .inr ⟨head :: before, after, by rw [split]; rfl, listed⟩
    · rintro (old | ⟨before, after, split, listed⟩)
      · exact .inl (Array.mem_push_of_mem _ old)
      · cases before with
        | nil =>
          obtain ⟨rfl, rfl⟩ := List.cons.inj split
          subst members
          exact .inl (Array.mem_push.mpr (.inr rfl))
        | cons first before =>
          obtain ⟨rfl, rfl⟩ := List.cons.inj split
          exact .inr ⟨before, after, rfl, listed⟩

theorem exists_exception {entry : Mixed} (present : entry ∈ entries) :
    ∃ members, ⟨entry, members⟩ ∈ (entries.foldl (spellOut side groups) state).exceptions := by
  obtain ⟨before, after, split⟩ := List.append_of_mem present
  exact ⟨_, mem_exceptions_run.mpr (.inr ⟨before, after, split, rfl⟩)⟩

/-- The entries of each glyph come in order of their groups. -/
def Ordered (entries : List Mixed) : Prop :=
  entries.Pairwise fun earlier later => earlier.glyph = later.glyph → earlier.group < later.group

theorem Ordered.mem_before {before after : List Mixed} {entry other : Mixed}
    (ordered : Ordered (before ++ entry :: after)) (same : other.glyph = entry.glyph) :
    other ∈ before ↔ other ∈ before ++ entry :: after ∧ other.group < entry.group := by
  obtain ⟨_, behind, across⟩ := List.pairwise_append.mp ordered
  constructor
  · intro member
    exact ⟨List.mem_append_left _ member, across other member entry (List.mem_cons_self ..) same⟩
  · intro before
    obtain ⟨member, smaller⟩ := before
    rcases List.mem_append.mp member with earlier | later
    · exact earlier
    · rcases List.mem_cons.mp later with rfl | later
      · exact absurd smaller (lt_irrefl _)
      · have larger := (List.pairwise_cons.mp behind).1 other later same.symm
        exact absurd smaller larger.not_gt

/-- The exceptions of a run that starts with no exceptions: one for each entry, with the members of
its group that are neither covered at the start nor in a smaller group with the same glyph. -/
theorem mem_exceptions_ordered {covered : Covered} (ordered : Ordered entries) {entry : Mixed}
    {members : List String} :
    ⟨entry, members⟩ ∈ (entries.foldl (spellOut side groups) { covered }).exceptions ↔
      entry ∈ entries ∧ Enumerates members fun member =>
        groups.Lists entry.group member ∧ Pair.on side member entry.glyph ∉ covered ∧
          ¬ ∃ earlier ∈ entries, earlier.glyph = entry.glyph ∧ earlier.group < entry.group ∧
            groups.Lists earlier.group member := by
  have left (before after : List Mixed) (split : entries = before ++ entry :: after) :
      Enumerates (uncovered (before.foldl (spellOut side groups) { covered }).covered side
        entry.glyph (groups.getD entry.group [])) fun member =>
        groups.Lists entry.group member ∧ Pair.on side member entry.glyph ∉ covered ∧
          ¬ ∃ earlier ∈ entries, earlier.glyph = entry.glyph ∧ earlier.group < entry.group ∧
            groups.Lists earlier.group member := by
    subst split
    refine (Enumerates.congr fun member => and_congr_right fun _ => ?_).mp
      (enumerates_uncovered _ _ _ _)
    rw [mem_covered_run, not_or]
    refine and_congr_right fun _ => not_congr (exists_congr fun earlier => ?_)
    constructor
    · intro listed
      obtain ⟨present, same, listed⟩ := listed
      obtain ⟨member, smaller⟩ := (ordered.mem_before same).mp present
      exact ⟨member, same, smaller, listed⟩
    · intro listed
      obtain ⟨present, same, smaller, listed⟩ := listed
      exact ⟨(ordered.mem_before same).mpr ⟨present, smaller⟩, same, listed⟩
  rw [mem_exceptions_run]
  constructor
  · rintro (none | ⟨before, after, split, rfl⟩)
    · simp at none
    · exact ⟨by rw [split]; simp, left before after split⟩
  · intro made
    obtain ⟨present, listed⟩ := made
    obtain ⟨before, after, split⟩ := List.append_of_mem present
    exact .inr ⟨before, after, split, listed.unique (left before after split)⟩

end Expansion
end FontPrep
