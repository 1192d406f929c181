import FontPrep.Proofs.Kerning.Groups
import FontPrep.Proofs.Rows
import Mathlib.Data.String.Basic

namespace FontPrep

namespace Owners

variable {owners : Owners} {groups : Groups} {group glyph : String} {members : List String}

theorem getElem?_enter : (owners.enter group members)[glyph]? =
    (owners[glyph]?).or (if glyph ∈ members then some group else none) := by
  unfold enter
  induction members generalizing owners with
  | nil => simp
  | cons member rest ih =>
    rw [List.foldl_cons, ih, Std.ExtTreeMap.getElem?_insertIfNew]
    simp only [Std.LawfulEqOrd.compare_eq_iff_eq, List.mem_cons]
    by_cases same : member = glyph
    · subst same
      cases held : owners[member]? with
      | none => simp_all
      | some owner => simp [Rows.mem_of_found held]
    · simp [same, Ne.symm same]

private theorem getElem?_foldl_enter {rows : List (String × List String)} :
    (rows.foldl (fun owners row => owners.enter row.1 row.2) owners)[glyph]? =
      (owners[glyph]?).or ((rows.find? (glyph ∈ ·.2)).map Prod.fst) := by
  induction rows generalizing owners with
  | nil => simp
  | cons row rest ih =>
    rw [List.foldl_cons, ih, getElem?_enter, Option.or_assoc]
    by_cases listed : glyph ∈ row.2 <;> simp [listed]

theorem getElem?_ofGroups :
    (ofGroups groups)[glyph]? = (groups.toList.find? (glyph ∈ ·.2)).map Prod.fst := by
  rw [ofGroups, Std.ExtTreeMap.foldl_eq_foldl_toList, getElem?_foldl_enter]
  simp

theorem mem_ofGroups : glyph ∈ ofGroups groups ↔ ∃ group, groups.Lists group glyph := by
  rw [Std.ExtTreeMap.mem_iff_isSome_getElem?, getElem?_ofGroups, Option.isSome_map,
    List.find?_isSome, Groups.exists_lists_iff]
  simp only [decide_eq_true_iff]

/-- The owner of a glyph is the least group that lists it. -/
theorem getElem?_ofGroups_eq_some_iff : (ofGroups groups)[glyph]? = some group ↔
    groups.Lists group glyph ∧ ∀ other, groups.Lists other glyph → group ≤ other := by
  have least {owner : String} (found : (ofGroups groups)[glyph]? = some owner) :
      groups.Lists owner glyph ∧ ∀ other, groups.Lists other glyph → owner ≤ other := by
    rw [getElem?_ofGroups, Option.map_eq_some_iff] at found
    obtain ⟨⟨owner, members⟩, hit, rfl⟩ := found
    obtain ⟨listed, before, after, split, missed⟩ := List.find?_eq_some_iff_append.mp hit
    have entry : (owner, members) ∈ groups.toList := by rw [split]; simp
    rw [Std.ExtTreeMap.mem_toList_iff_getElem?_eq_some] at entry
    refine ⟨Groups.lists_iff.mpr ⟨members, entry, by simpa using listed⟩, fun other lists => ?_⟩
    obtain ⟨others, found, member⟩ := Groups.lists_iff.mp lists
    rw [← Std.ExtTreeMap.mem_toList_iff_getElem?_eq_some, split] at found
    -- Rows before the one that is found do not list the glyph; those after it have greater names.
    rcases List.mem_append.mp found with earlier | later
    · exact absurd (missed _ earlier) (by simp [member])
    · rcases List.mem_cons.mp later with same | later
      · cases same
        exact le_refl _
      · have ordered := Std.ExtTreeMap.ordered_keys_toList (t := groups)
        rw [split, List.pairwise_append, List.pairwise_cons] at ordered
        exact le_of_lt (compare_lt_iff_lt.mp (ordered.2.1.1 _ later))
  constructor
  · exact least
  · intro smallest
    have owned : glyph ∈ ofGroups groups := mem_ofGroups.mpr ⟨group, smallest.1⟩
    have found := Std.ExtTreeMap.getElem?_eq_some_getElem owned
    obtain ⟨lists, first⟩ := least found
    rw [found, le_antisymm (first group smallest.1) (smallest.2 _ lists)]

end Owners

namespace Text

def codepoints (text : String) : List Nat := text.toList.map Char.toNat

theorem codepoints_strictMono : StrictMono codepoints := fun _ _ less =>
  List.map_lt (fun _ _ smaller => smaller) (String.lt_iff_toList_lt.mp less)

/-- Texts are in order as their codepoints are. -/
theorem codepoints_le_iff {one two : String} : codepoints one ≤ codepoints two ↔ one ≤ two :=
  codepoints_strictMono.le_iff_le

end Text

namespace Pair

/-- A glyph has no owner on a side exactly if no group of the side lists it, and otherwise its owner
is the group that lists it whose name comes first by codepoints. Neither the groups of the other
side have an influence on it nor how often and in which order members are listed. -/
theorem owners_least (groups : Pair Groups Groups) (side : Side) (glyph : String) :
    ((groups.owners.get side)[glyph]? = none ↔
        ∀ group, ¬ (groups.get side).Lists group glyph) ∧
      (∀ group, (groups.owners.get side)[glyph]? = some group ↔
        (groups.get side).Lists group glyph ∧ ∀ other, (groups.get side).Lists other glyph →
          Text.codepoints group ≤ Text.codepoints other) ∧
      ∀ others : Pair Groups Groups,
        (∀ group, (groups.get side).Lists group glyph ↔ (others.get side).Lists group glyph) →
          (groups.owners.get side)[glyph]? = (others.owners.get side)[glyph]? := by
  have owner (groups : Pair Groups Groups) :
      groups.owners.get side = Owners.ofGroups (groups.get side) := get_map ..
  simp only [owner, Text.codepoints_le_iff]
  refine ⟨?_, fun group => Owners.getElem?_ofGroups_eq_some_iff, fun others same => ?_⟩
  · rw [← not_exists, ← Owners.mem_ofGroups, Std.ExtTreeMap.mem_iff_isSome_getElem?,
      Option.not_isSome_iff_eq_none]
  · refine Option.ext fun group => ?_
    simp only [Owners.getElem?_ofGroups_eq_some_iff, same]

private def overlapping : Pair Groups Groups where
  first := .ofList [("@kern1.😀", ["x", "y", "x"]), ("@kern1.ﬀ", ["z", "x"]),
    ("@kern1.", [])]
  second := .ofList [("@kern2.a", ["y", "z"])]

private def rearranged : Pair Groups Groups where
  first := .ofList [("@kern1.ﬀ", ["x", "x"]), ("@kern1.😀", ["y", "x"]),
    ("@kern1.a", ["z"])]
  second := .ofList [("@kern2.ﬀ", ["x"])]

/-- The name that comes first by codepoints; by 16-bit units it would be the other. -/
theorem owners_least_overlapping :
    overlapping.owners.second["x"]? = none ∧ (¬ overlapping.second.Lists "@kern2.a" "x") ∧
      overlapping.owners.first["x"]? = some "@kern1.ﬀ" ∧
      overlapping.first.Lists "@kern1.😀" "x" ∧
      Text.codepoints "@kern1.ﬀ" ≤ Text.codepoints "@kern1.😀" ∧
      (∀ group, overlapping.first.Lists group "x" ↔ rearranged.first.Lists group "x") ∧
      rearranged.owners.first["x"]? = some "@kern1.ﬀ" := by
  have rows : overlapping.first.toList = [("@kern1.", []), ("@kern1.ﬀ", ["z", "x"]),
      ("@kern1.😀", ["x", "y", "x"])] := by decide +kernel
  have rowsToo : rearranged.first.toList = [("@kern1.a", ["z"]), ("@kern1.ﬀ", ["x", "x"]),
      ("@kern1.😀", ["y", "x"])] := by decide +kernel
  have same (group : String) :
      overlapping.first.Lists group "x" ↔ rearranged.first.Lists group "x" := by
    simp [Groups.lists_iff_mem_toList, rows, rowsToo, or_and_right, exists_or, and_assoc]
  have absent : overlapping.owners.second["x"]? = none := by decide +kernel
  have found : overlapping.owners.first["x"]? = some "@kern1.ﬀ" := by decide +kernel
  have lists : overlapping.first.Lists "@kern1.😀" "x" := by decide +kernel
  obtain ⟨-, least, alone⟩ := owners_least overlapping .first "x"
  have unlisted := (owners_least overlapping .second "x").1.mp absent
  exact ⟨absent, unlisted _, found, lists, ((least _).mp found).2 _ lists, same,
    (alone rearranged same).symm.trans found⟩

end Pair
end FontPrep
