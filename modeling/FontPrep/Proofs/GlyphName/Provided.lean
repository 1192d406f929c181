import FontPrep.Proofs.GlyphName.Own
import Mathlib.Data.String.Basic

/-! Provided names. They are settled in the order of their designs, so a production name is kept if
it is legal and no design before was given it: one that was provided once can still be lost to a
name that had to be replaced. Final names are legal and all different, so provided again they are
kept. -/
namespace FontPrep

namespace GlyphName.Assignment

variable {decompose : String → String} {codepoint : String → Option Nat} {order : List String}
variable {rows : List (String × String)} {done given next : Assignment}
variable {design other production final : String}

theorem provided_ordered (provided : Std.ExtTreeMap String String) :
    provided.toList.Pairwise fun one two => one.1 < two.1 :=
  Std.ExtTreeMap.ordered_keys_toList.imp fun smaller => compare_lt_iff_lt.mp smaller

theorem nodup_designs (ordered : rows.Pairwise fun one two => one.1 < two.1) :
    (rows.map Prod.fst).Nodup :=
  List.pairwise_map.mpr (ordered.imp fun smaller => ne_of_lt smaller)

theorem getElem?_finals_addProvided {entry : String × String} (differs : entry.1 ≠ other)
    (assigned : addProvided decompose codepoint done entry = .ok next) :
    next.finals[other]? = done.finals[other]? := by
  obtain ⟨choice, rfl, -⟩ := eq_add_of_addProvided assigned
  rw [getElem?_finals_add, if_neg differs]

theorem kept_iff_of_addProvided {entry : String × String}
    (assigned : addProvided decompose codepoint done entry = .ok next) :
    next.finals[entry.1]? = some entry.2 ↔ isLegal entry.2 = true ∧ entry.2 ∉ done.taken := by
  constructor
  · intro kept
    obtain ⟨choice, rfl, legal, free⟩ := eq_add_of_addProvided assigned
    rw [getElem?_finals_add, if_pos rfl] at kept
    exact Option.some.inj kept ▸ ⟨legal, free⟩
  · intro usable
    rw [addProvided, if_pos (by simpa using usable)] at assigned
    cases assigned
    rw [getElem?_finals_add, if_pos rfl]
    rfl

/-- A design keeps its production name exactly if that is legal and no earlier design was given it.
-/
theorem kept_iff_of_provided (ordered : rows.Pairwise fun one two => one.1 < two.1)
    (run : rows.foldlM (addProvided decompose codepoint) {} = .ok given)
    (entry : (design, production) ∈ rows) :
    given.finals[design]? = some production ↔
      isLegal production = true ∧ ∀ other < design, given.finals[other]? ≠ some production := by
  induction rows using List.reverseRecOn generalizing given with
  | nil => cases entry
  | append_singleton rows row ih =>
    obtain ⟨orderedBefore, -, behind⟩ := List.pairwise_append.mp ordered
    obtain ⟨state, runBefore, assigned⟩ := foldlM_append_singleton_eq_ok_iff.mp run
    have covers := covers_provided (nodup_designs orderedBefore) runBefore
    -- The new entry sorts last, so nothing changes for the designs below it.
    have below {other : String} (smaller : other < row.1) :
        given.finals[other]? = state.finals[other]? :=
      getElem?_finals_addProvided (ne_of_gt smaller) assigned
    rcases List.mem_append.mp entry with old | last
    · have smaller : design < row.1 := behind _ old row (List.mem_singleton_self _)
      rw [below smaller, ih orderedBefore runBefore old]
      refine and_congr_right fun _ => forall₂_congr fun other before => ?_
      rw [below (before.trans smaller)]
    · obtain rfl := List.mem_singleton.mp last
      rw [kept_iff_of_addProvided assigned, covers.valid.mem_taken_iff (spent_provided runBefore)]
      refine and_congr_right fun _ => ?_
      rw [not_exists]
      constructor
      · intro free other before
        rw [below before]
        exact free other
      · intro free other found
        obtain ⟨earlier, member, rfl⟩ : ∃ earlier ∈ rows, earlier.1 = other := by
          simpa using covers.mem.mp (Rows.mem_of_found found)
        have smaller : earlier.1 < design := behind earlier member _ (List.mem_singleton_self _)
        exact free earlier.1 smaller ((below smaller).trans found)

variable (decompose codepoint) in
theorem exists_provided_kept (legal : ∀ row ∈ rows, isLegal row.2 = true)
    (distinct : (rows.map Prod.snd).Nodup) :
    ∃ given, rows.foldlM (addProvided decompose codepoint) {} = .ok given ∧
      given.toList = rows := by
  induction rows using List.reverseRecOn with
  | nil => exact ⟨{}, rfl, rfl⟩
  | append_singleton rows row ih =>
    rw [List.map_append, List.nodup_append] at distinct
    obtain ⟨given, run, listed⟩ := ih (fun row member => legal row (List.mem_append_left _ member))
      distinct.1
    have free : row.2 ∉ given.taken := by
      intro present
      have taken := listed ▸ spent_provided run row.2 present
      exact distinct.2.2 row.2 taken row.2 (by simp) rfl
    have assigned : addProvided decompose codepoint given row =
        .ok (given.add row.1 (.provided row.2)) := by
      simp [addProvided, legal row (by simp), free]
    refine ⟨given.add row.1 (.provided row.2), ?_, ?_⟩
    · exact foldlM_append_singleton_eq_ok_iff.mpr ⟨given, run, assigned⟩
    · rw [toList_add, listed]
      rfl

/-- A design keeps its production name if those up to it are legal and all different. -/
theorem kept_of_provided (ordered : rows.Pairwise fun one two => one.1 < two.1)
    (run : rows.foldlM (addProvided decompose codepoint) {} = .ok given)
    (entry : (design, production) ∈ rows)
    (legal : ∀ row ∈ rows, row.1 ≤ design → isLegal row.2 = true)
    (apart : ∀ row ∈ rows, ∀ other ∈ rows, row.1 ≤ design → other.1 ≤ design → row.2 = other.2 →
      row = other) : given.finals[design]? = some production := by
  induction rows using List.reverseRecOn generalizing given with
  | nil => cases entry
  | append_singleton rows row ih =>
    obtain ⟨orderedBefore, -, behind⟩ := List.pairwise_append.mp ordered
    rcases List.mem_append.mp entry with old | last
    · obtain ⟨state, runBefore, assigned⟩ := foldlM_append_singleton_eq_ok_iff.mp run
      have smaller : design < row.1 := behind _ old row (List.mem_singleton_self _)
      rw [getElem?_finals_addProvided (ne_of_gt smaller) assigned]
      exact ih orderedBefore runBefore old
        (fun row member => legal row (List.mem_append_left _ member))
        (fun row member other memberToo => apart row (List.mem_append_left _ member) other
          (List.mem_append_left _ memberToo))
    · obtain rfl := List.mem_singleton.mp last
      have upTo {row : String × String} (member : row ∈ rows ++ [(design, production)]) :
          row.1 ≤ design := by
        rcases List.mem_append.mp member with old | last
        · exact le_of_lt (behind row old _ (List.mem_singleton_self _))
        · exact le_of_eq (congrArg Prod.fst (List.mem_singleton.mp last))
      have designs := nodup_designs ordered
      have distinct : ((rows ++ [(design, production)]).map Prod.snd).Nodup :=
        designs.of_map.map_on fun row member other memberToo =>
          apart row member other memberToo (upTo member) (upTo memberToo)
      obtain ⟨kept, runToo, listed⟩ := exists_provided_kept decompose codepoint
        (fun row member => legal row member (upTo member)) distinct
      cases run.symm.trans runToo
      exact (covers_provided designs run).valid.look.mpr (listed ▸ entry)

section Order

variable {provided : Std.ExtTreeMap String String}

theorem kept_iff_of_ofOrder (named : ofOrder decompose codepoint order provided = .ok done)
    (entry : provided[design]? = some production) :
    done.finals[design]? = some production ↔ isLegal production = true ∧
      ∀ other < design, other ∈ provided → done.finals[other]? ≠ some production := by
  obtain ⟨given, began, last⟩ := ofOrder_eq_ok_iff.mp named
  have listed := Std.ExtTreeMap.mem_toList_iff_getElem?_eq_some.mpr entry
  rw [getElem?_finals_provided began last (Rows.mem_of_found entry),
    kept_iff_of_provided (provided_ordered provided) began listed]
  refine and_congr_right fun _ => forall₂_congr fun other before => ?_
  constructor
  · intro free present
    rwa [getElem?_finals_provided began last present]
  · intro free found
    have present := (mem_given began).mp (Rows.mem_of_found found)
    exact free present (getElem?_finals_given last found)

/-- Whether a provided design got `final` because the production name provided for it is illegal or
was given to a design before it. -/
def Replaced (done : Assignment) (provided : Std.ExtTreeMap String String)
    (design final : String) : Prop :=
  done.finals[design]? = some final ∧ ∃ production ≠ final, provided[design]? = some production ∧
    (isLegal production = false ∨
      ∃ earlier < design, earlier ∈ provided ∧ done.finals[earlier]? = some production)

theorem replaced_of_ne (named : ofOrder decompose codepoint order provided = .ok done)
    (entry : provided[design]? = some production) (found : done.finals[design]? = some final)
    (differs : production ≠ final) : done.Replaced provided design final := by
  refine ⟨found, production, differs, entry, ?_⟩
  by_contra usable
  rw [not_or, Bool.not_eq_false, not_exists] at usable
  have kept := (kept_iff_of_ofOrder named entry).mpr ⟨usable.1, fun earlier before present taken =>
    usable.2 earlier ⟨before, present, taken⟩⟩
  exact differs (Option.some.inj (kept.symm.trans found))

def TidyUpTo (provided : Std.ExtTreeMap String String) (design : String) : Prop :=
  ∀ one ≤ design, ∀ name, provided[one]? = some name →
    isLegal name = true ∧ ∀ two ≤ design, provided[two]? = some name → two = one

theorem TidyUpTo.kept (tidy : TidyUpTo provided design)
    (named : ofOrder decompose codepoint order provided = .ok done)
    (entry : provided[design]? = some production) : done.finals[design]? = some production := by
  obtain ⟨given, began, last⟩ := ofOrder_eq_ok_iff.mp named
  have listed := Std.ExtTreeMap.mem_toList_iff_getElem?_eq_some.mpr entry
  have look {row : String × String} (member : row ∈ provided.toList) :
      provided[row.1]? = some row.2 := Std.ExtTreeMap.mem_toList_iff_getElem?_eq_some.mp member
  refine getElem?_finals_given last
    (kept_of_provided (provided_ordered provided) began listed ?_ ?_)
  · intro row member bound
    exact (tidy row.1 bound row.2 (look member)).1
  · intro row member other memberToo bound boundToo same
    have single := (tidy other.1 boundToo other.2 (look memberToo)).2
    exact Prod.ext (single row.1 bound (same ▸ look member)) same

end Order

theorem nodup_finals (valid : Valid done) : (done.finals.toList.map Prod.snd).Nodup := by
  refine (nodup_designs (provided_ordered _)).of_map.map_on fun one member two memberToo same => ?_
  rw [Std.ExtTreeMap.mem_toList_iff_getElem?_eq_some] at member memberToo
  exact Prod.ext (valid.injective member (same ▸ memberToo)) same

variable (decompose codepoint) in
/-- Final names that are provided again are kept by every order that asks for no others. -/
theorem exists_ofOrder_again (valid : Valid done)
    (known : ∀ design ∈ order, design ∈ done.finals) :
    ∃ again, ofOrder decompose codepoint order done.finals = .ok again ∧ Valid again ∧
      again.finals = done.finals := by
  have legal : ∀ row ∈ done.finals.toList, isLegal row.2 = true := fun row member =>
    valid.legal (Std.ExtTreeMap.mem_toList_iff_getElem?_eq_some.mp member)
  obtain ⟨again, run, listed⟩ := exists_provided_kept decompose codepoint legal (nodup_finals valid)
  have validAgain := (covers_given run).valid
  have same : again.finals = done.finals := by
    refine Std.ExtTreeMap.ext_getElem? fun design => Option.ext fun final => ?_
    rw [validAgain.look, listed, Std.ExtTreeMap.mem_toList_iff_getElem?_eq_some]
  have none : order.filter (· ∉ again.finals) = [] := by
    simpa [same] using known
  exact ⟨again, ofOrder_eq_ok_iff.mpr ⟨again, run, by rw [none]; rfl⟩, validAgain, same⟩

end GlyphName.Assignment

namespace Font

open GlyphName GlyphName.Assignment

variable {font : Font} {decompose : String → String} {order : List String}
variable {provided : Std.ExtTreeMap String String} {done : Assignment}
variable {design production : String}

/-- A legal production name that is provided once is lost exactly if a design that sorts before its
own was renamed to it; and if all is in order up to there, it is kept. -/
theorem keepsProduction_iff (named : font.finalNames decompose order provided = .ok done)
    (entry : provided[design]? = some production) (legal : isLegal production = true)
    (sole : ∀ other : String, provided[other]? = some production → other = design) :
    (done.finals[design]? = some production ↔
      ∀ other < design, ¬ done.Replaced provided other production) ∧
      (TidyUpTo provided design → done.finals[design]? = some production) := by
  constructor
  · constructor
    · intro kept other smaller replaced
      exact ne_of_lt smaller ((valid_ofOrder named).1.injective replaced.1 kept)
    · intro none
      refine (kept_iff_of_ofOrder named entry).mpr ⟨legal, fun other smaller present found => ?_⟩
      obtain ⟨name, entryToo⟩ := Rows.exists_of_mem present
      refine none other smaller (replaced_of_ne named entryToo found ?_)
      rintro rfl
      exact ne_of_lt smaller (sole other entryToo)
  · exact fun tidy => tidy.kept named entry

private def rival : Font where
  glyphs := [{ name := "a" }, { name := "b" }, { name := "c" }, { name := "d" }, { name := "A" }]

private def rivalNames : Std.ExtTreeMap String String :=
  .ofList [("a", "A!"), ("b", "A"), ("c", "C"), ("d", "C!")]

private theorem named_rival : ∃ done,
    rival.finalNames Unicode.decompose rival.glyphNames rivalNames = .ok done ∧
      done.toList = [("a", "A"), ("b", "A.1"), ("c", "C"), ("d", "C.1"), ("A", "A.2")] :=
  exists_of_map_toOption (by decide +kernel)

private theorem sole_rival (design production : String)
    (single : ∀ row ∈ [("a", "A!"), ("b", "A"), ("c", "C"), ("d", "C!")],
      row.2 = production → row.1 = design) :
    ∀ other : String, rivalNames[other]? = some production → other = design :=
  fun _ entry => single _ (Rows.mem_of_getElem?_ofList entry) rfl

/-- Two legal production names, each provided once: the first is lost to an illegal one before it,
the second is not lost to the one after it. -/
theorem keepsProduction_rival : ∃ done,
    rival.finalNames Unicode.decompose rival.glyphNames rivalNames = .ok done ∧
      (rivalNames["b"]? = some "A" ∧ isLegal "A" = true ∧
        ∀ other : String, rivalNames[other]? = some "A" → other = "b") ∧
      (∃ other < "b", done.Replaced rivalNames other "A") ∧
      (rivalNames["c"]? = some "C" ∧ isLegal "C" = true ∧
        ∀ other : String, rivalNames[other]? = some "C" → other = "c") ∧
      ∀ other < "c", ¬ done.Replaced rivalNames other "C" := by
  obtain ⟨done, named, names⟩ := named_rival
  have valid := (valid_ofOrder named).1
  have lost : done.finals["b"]? = some "A.1" := valid.look.mpr (by simp [names])
  have kept : done.finals["c"]? = some "C" := valid.look.mpr (by simp [names])
  have first : rivalNames["b"]? = some "A" := by decide +kernel
  have second : rivalNames["c"]? = some "C" := by decide +kernel
  have sole := sole_rival "b" "A" (by decide)
  have soleToo := sole_rival "c" "C" (by decide)
  refine ⟨done, named, ⟨first, by decide, sole⟩, ?_, ⟨second, by decide, soleToo⟩,
    (keepsProduction_iff named second (by decide) soleToo).1.mp kept⟩
  by_contra none
  have found := (keepsProduction_iff named first (by decide) sole).1.mpr
    fun other smaller replaced => none ⟨other, smaller, replaced⟩
  exact absurd (Option.some.inj (lost.symm.trans found)) (by decide)

theorem loses_production : ∃ done,
    rival.finalNames Unicode.decompose rival.glyphNames rivalNames = .ok done ∧
      rivalNames["b"]? = some "A" ∧ isLegal "A" = true ∧
      (∀ other : String, rivalNames[other]? = some "A" → other = "b") ∧
      done.finals["b"]? = some "A.1" := by
  obtain ⟨done, named, names⟩ := named_rival
  exact ⟨done, named, by decide +kernel, by decide, sole_rival "b" "A" (by decide),
    (valid_ofOrder named).1.look.mpr (by simp [names])⟩

/-- What is named once stays named so: the final names, provided again, are given again, whatever
part of them the order asks for. -/
theorem finalNames_again (named : font.finalNames decompose order provided = .ok done)
    {later : List String} (known : ∀ design ∈ later, design ∈ done.finals) :
    ∃ again, font.finalNames decompose later done.finals = .ok again ∧
      again.finals = done.finals ∧ again.toList.Perm done.toList := by
  obtain ⟨valid, -⟩ := valid_ofOrder named
  obtain ⟨again, namedAgain, validAgain, same⟩ := exists_ofOrder_again decompose
    (fun name => font.glyphsByName[name]?.bind Glyph.codepoint?) valid known
  refine ⟨again, namedAgain, same, ?_⟩
  rw [List.perm_ext_iff_of_nodup validAgain.once.of_map valid.once.of_map]
  rintro ⟨design, final⟩
  rw [← validAgain.look, same, valid.look]

/-- Asked for again in part and twice; the names are given again in another order. -/
theorem finalNames_again_rival : ∃ done,
    rival.finalNames Unicode.decompose rival.glyphNames rivalNames = .ok done ∧
      (∀ design ∈ ["d", "A", "d"], design ∈ done.finals) ∧
      ∃ again, rival.finalNames Unicode.decompose ["d", "A", "d"] done.finals = .ok again ∧
        again.finals = done.finals ∧ again.toList.Perm done.toList := by
  obtain ⟨done, named, -⟩ := named_rival
  have known : ∀ design ∈ ["d", "A", "d"], design ∈ done.finals := by
    have asked : ∀ design ∈ ["d", "A", "d"], design ∈ rival.glyphNames := by decide
    exact fun design member => ((valid_ofOrder named).2 design).mpr (.inr (asked design member))
  exact ⟨done, named, known, finalNames_again named known⟩

end Font
end FontPrep
