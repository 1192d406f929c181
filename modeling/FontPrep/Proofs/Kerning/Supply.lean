import FontPrep.Proofs.Kerning.ClassNames
import FontPrep.Proofs.Name.Supply

namespace FontPrep

namespace ClassNames

variable {state next : ClassNames} {item : Side × String} {done : List (Side × String)}
variable {groups : Pair Groups Groups} {side : Side}

/-- Whether no more names with the lead of a side are taken than groups of that side are named. -/
def Spent (done : List (Side × String)) (state : ClassNames) : Prop :=
  ∀ side : Side, ∃ given : List String, given.length ≤ done.countP (·.1 = side) ∧
    ∀ name ∈ state.taken, side.classLead.toList <+: name.toList → name ∈ given

theorem spent_empty : Spent [] {} := fun _ => ⟨[], by simp, by simp⟩

theorem Spent.assign (spent : Spent done state) (assigned : state.assign item = .ok next) :
    Spent (done ++ [item]) next := by
  obtain ⟨name, found, rfl⟩ := choose_of_assign assigned
  intro side
  obtain ⟨given, few, covers⟩ := spent side
  rw [List.countP_append, List.countP_singleton]
  simp only [Std.ExtTreeSet.mem_insert, Std.LawfulEqOrd.compare_eq_iff_eq]
  by_cases own : item.1 = side
  · refine ⟨name :: given, by simpa [own] using few, ?_⟩
    rintro other (rfl | old) starts
    · exact List.mem_cons_self ..
    · exact List.mem_cons_of_mem _ (covers other old starts)
  · refine ⟨given, by omega, ?_⟩
    rintro other (rfl | old) starts
    · have given := (isClassName_of_choose found).starts
      exact absurd (Side.eq_of_leads (by decide) (by decide) given starts) own
    · exact covers other old starts

theorem spent_run (run : done.foldlM ClassNames.assign {} = .ok state) : Spent done state :=
  foldlM_keeps Spent Spent.assign spent_empty run

theorem exists_assign (spent : Spent done state) (few : done.countP (·.1 = item.1) < 90000) :
    ∃ next, state.assign item = .ok next := by
  obtain ⟨given, short, covers⟩ := spent item.1
  have fits : item.1.classLead.length + 5 ≤ Name.maxLength := by cases item.1 <;> decide
  obtain ⟨name, found⟩ : ∃ name, choose state.taken item.1 item.2 = .ok name :=
    Name.exists_legalize fits covers (by omega)
  exact ⟨_, by rw [assign, found]⟩

theorem countP_queue : (queue groups).countP (·.1 = side) = (groups.get side).size := by
  cases side <;> simp [queue, List.countP_append, List.countP_map, Function.comp_def, Pair.get]

/-- With at most 90,000 groups on each side all of them get class names. -/
theorem exists_ofGroups (few : ∀ side, (groups.get side).size ≤ 90000) :
    ∃ state, ofGroups groups = .ok state := by
  refine exists_foldlM fun {before item rest state} split run => exists_assign (spent_run run) ?_
  have whole := few item.1
  rw [← countP_queue, split, List.countP_append, List.countP_cons_of_pos (by simp)] at whole
  omega

end ClassNames

namespace Font

variable {font : Font} {side : Side}

/-- Groups are retained from among those that look like groups of the side. -/
theorem size_kerningGroups_le :
    (font.kerningGroups side).size ≤ font.groups.keys.countP side.owns := by
  have once : (font.kerningGroups side).keys.Nodup := Std.ExtTreeMap.nodup_keys
  have kept : (font.kerningGroups side).keys ⊆ font.groups.keys.filter side.owns := by
    intro group member
    obtain ⟨owns, members, found, _⟩ := mem_kerningGroups.mp (Std.ExtTreeMap.mem_keys.mp member)
    exact List.mem_filter.mpr ⟨Table.mem_of_found found, owns⟩
  rw [← Std.ExtTreeMap.length_keys, List.countP_eq_length_filter]
  exact once.length_le_of_subset kept

/-- A font with at most 90,000 groups named for each side has a kern feature, whatever the names. -/
theorem exists_kernText (few : ∀ side : Side, font.groups.keys.countP side.owns ≤ 90000) :
    (∃ names, ClassNames.ofGroups font.sideGroups = .ok names) ∧
      ∀ header, ∃ text, font.kernText header = .ok text := by
  have sizes (side : Side) : (font.sideGroups.get side).size ≤ 90000 := by
    cases side
    · exact Nat.le_trans size_kerningGroups_le (few .first)
    · exact Nat.le_trans size_kerningGroups_le (few .second)
  obtain ⟨names, named⟩ := ClassNames.exists_ofGroups sizes
  refine ⟨⟨names, named⟩, fun header => ?_⟩
  simp only [kernText, KernFeature.ofFont, named, bind, Except.bind, pure, Except.pure, Except.map]
  exact ⟨_, rfl⟩

private def cramped : Font where
  glyphs := [{ name := "A" }]
  groups := .ofList [("public.kern1.abcdefghijklmnopqrs12345", ["A"]),
    ("public.kern1.abcdefghijklmnopqrs12345-", ["A"]),
    ("public.kern1.abcdefghijklmnopqrs123456", ["A"]),
    ("public.kern2.abcdefghijklmnopqrs12345", ["A"]), ("public.kern2.", ["A"]),
    ("public.kern2.-", ["A"])]
  kerning := .ofList ([(⟨"public.kern1.abcdefghijklmnopqrs12345", "public.kern2."⟩, 1)] :
    List (Pair String String × Int))

/-- Names cut to one text that ends in digits, and names of which nothing is kept. -/
theorem exists_kernText_cramped :
    (∀ side : Side, cramped.groups.keys.countP side.owns ≤ 90000) ∧
      (∃ names, ClassNames.ofGroups cramped.sideGroups = .ok names) ∧
        ∀ header, ∃ text, cramped.kernText header = .ok text := by
  have few : ∀ side : Side, cramped.groups.keys.countP side.owns ≤ 90000 := by decide +kernel
  exact ⟨few, exists_kernText few⟩

end Font
end FontPrep
