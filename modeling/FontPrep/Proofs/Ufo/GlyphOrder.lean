import FontPrep.Proofs.Kerning.Collection
import FontPrep.Ufo.Load
import Mathlib.Data.List.Sort
import Mathlib.Data.String.Basic

namespace FontPrep

theorem Plist.getElem?_ofList {entries : List (String × Plist)} {key : String} :
    (Std.ExtTreeMap.ofList entries)[key]? = (dictionary entries).lookup? key := by
  rw [Rows.getElem?_ofList, lookup?, dictionary?, Option.bind_some]
  induction entries.reverse with
  | nil => rfl
  | cons entry rest ih =>
    rw [List.find?_cons, List.lookup_cons, ← ih]
    by_cases same : entry.1 = key
    · simp [same]
    · rw [decide_eq_false same, beq_false_of_ne (Ne.symm same)]

namespace Ufo

/-! ### Places -/

section Places

variable {names done listed : List String} {state : Placement} {name : String}

/-- Whether a state is that after the names done: those of the layer among them are placed, each as
it first comes, and the others remain. -/
structure Placement.After (names done : List String) (state : Placement) : Prop where
  placed : state.placed = (done.filter (· ∈ names)).eraseDups
  remaining : state.remaining = names.filter (· ∉ done)

theorem Placement.After.mem_remaining (after : After names done state) :
    name ∈ state.remaining ↔ name ∈ names ∧ name ∉ done := by
  rw [after.remaining, List.mem_filter, decide_eq_true_iff]

/-- A step gives a place to a name of the layer that comes for the first time. -/
theorem Placement.After.place (after : After names done state) (name : String) :
    After names (done ++ [name]) (state.place name) := by
  unfold Placement.place
  split
  · next new =>
    obtain ⟨known, fresh⟩ := after.mem_remaining.mp new
    constructor
    · rw [after.placed, List.filter_append, List.eraseDups_append]
      simp [List.removeAll, List.eraseDups_cons, known, fresh]
    · rw [after.remaining, List.filter_filter]
      refine List.filter_congr fun other _ => ?_
      simp [and_comm]
  -- A name that is not the layer's, or is placed already, adds to what is done and nothing else.
  · next old =>
    rw [after.mem_remaining, not_and_not_right] at old
    constructor
    · rw [after.placed, List.filter_append, List.eraseDups_append]
      by_cases known : name ∈ names
      · simp [List.removeAll, known, old known]
      · simp [known]
    · rw [after.remaining]
      refine List.filter_congr fun other present => ?_
      have passed : other = name → other ∈ done := by
        rintro rfl
        exact old present
      simpa using fun missing same => missing (passed same)

theorem Placement.After.foldl (after : After names done state) (listed : List String) :
    After names (done ++ listed) (listed.foldl Placement.place state) := by
  -- What is done grows along the list, so it stays open in the induction, like the state.
  induction listed generalizing done state with
  | nil => simpa using after
  | cons name rest ih => simpa using ih (after.place name)

theorem glyphOrder_eq (names listed : List String) : glyphOrder names listed =
    ((GlyphName.notdef :: listed).filter (· ∈ names)).eraseDups ++
      names.mergeSort.filter (· ∉ GlyphName.notdef :: listed) := by
  have start : Placement.After names.mergeSort [] { remaining := names.mergeSort } :=
    ⟨rfl, by simp⟩
  have last := (start.place GlyphName.notdef).foldl listed
  simp only [List.nil_append, List.singleton_append] at last
  rw [glyphOrder, last.placed, last.remaining]
  simp only [List.mem_mergeSort]

end Places

/-! ### Names -/

section Names

variable {names listed : List String} {one other name : String}

/-- Whether one name comes before another: by the place where it first stands in the list that
begins with `.notdef` and goes on as the library has it. Names that do not stand there come last,
ascending. -/
def Precedes (listed : List String) (one other : String) : Prop :=
  let leading := GlyphName.notdef :: listed
  leading.idxOf one < leading.idxOf other ∨ one ∉ leading ∧ other ∉ leading ∧ one < other

instance instDecidablePrecedes (listed : List String) (one other : String) :
    Decidable (Precedes listed one other) :=
  inferInstanceAs (Decidable (_ ∨ _))

theorem Precedes.asymm (before : Precedes listed one other) : ¬ Precedes listed other one := by
  intro after
  have level (out : one ∉ GlyphName.notdef :: listed)
      (outToo : other ∉ GlyphName.notdef :: listed) :
      (GlyphName.notdef :: listed).idxOf one = (GlyphName.notdef :: listed).idxOf other := by
    rw [List.idxOf_eq_length_iff.mpr out, List.idxOf_eq_length_iff.mpr outToo]
  rcases before with place | ⟨out, outToo, smaller⟩ <;>
    rcases after with placeToo | ⟨outToo, out, greater⟩
  · exact Nat.lt_asymm place placeToo
  · exact absurd (level out outToo) (Nat.ne_of_lt place)
  · exact absurd (level out outToo) (Nat.ne_of_gt placeToo)
  · exact lt_asymm smaller greater

theorem nodup_of_precedes {order : List String} (ascending : order.Pairwise (Precedes listed)) :
    order.Nodup := by
  refine ascending.imp fun {one other} before same => ?_
  subst other
  exact before.asymm before

theorem mem_glyphOrder : name ∈ glyphOrder names listed ↔ name ∈ names := by
  rw [glyphOrder_eq]
  simp only [List.mem_append, List.mem_eraseDups, List.mem_filter, List.mem_mergeSort,
    decide_eq_true_iff]
  tauto

/-- What leads stands as it first comes in the list, and what does not stand there follows
ascending. -/
theorem glyphOrder_ascending (distinct : names.Nodup) (listed : List String) :
    (glyphOrder names listed).Pairwise (Precedes listed) := by
  rw [glyphOrder_eq, List.pairwise_append]
  refine ⟨(Groups.eraseDups_filter_ordered _ _).imp .inl, ?_, ?_⟩
  · have once : names.mergeSort.Nodup := (List.mergeSort_perm names _).nodup_iff.mpr distinct
    have ascending : names.mergeSort.Pairwise (· < ·) :=
      ((List.pairwise_mergeSort' (· ≤ ·) names).and once).imp fun smaller =>
        lt_of_le_of_ne smaller.1 smaller.2
    refine (ascending.filter _).imp_of_mem fun {one other} member memberToo smaller => .inr ?_
    simp only [List.mem_filter, decide_eq_true_iff] at member memberToo
    exact ⟨member.2, memberToo.2, smaller⟩
  · intro one memberOne other memberOther
    simp only [List.mem_eraseDups, List.mem_filter, decide_eq_true_iff] at memberOne memberOther
    exact .inl ((List.idxOf_eq_length_iff.mpr memberOther.2) ▸
      List.idxOf_lt_length_iff.mpr memberOne.1)

theorem glyphOrder_perm (listed : List String) (distinct : names.Nodup) :
    (glyphOrder names listed).Perm names :=
  (List.perm_ext_iff_of_nodup (nodup_of_precedes (glyphOrder_ascending distinct listed))
    distinct).mpr fun _ => mem_glyphOrder

end Names

/-! ### Glyphs -/

/-- The names that a library lists: the strings of an array, and nothing else. -/
def listed (lib : Plist) : List String :=
  match lib.lookup? "public.glyphOrder" with
  | some (.array items) => items.filterMap Plist.string?
  | _ => []

def production? (lib : Plist) (name : String) : Option String :=
  match (lib.lookup? "public.postscriptNames").bind (·.lookup? name) with
  | some (.string text) => some text
  | _ => none

/-- A glyph of the layer as the font has it, with each of its codepoints once, in their order. -/
def LayerGlyph.toGlyph (lib : Plist) (glyph : LayerGlyph) : Glyph :=
  { name := glyph.name
    productionName := production? lib glyph.name
    codepoints := glyph.codepoints.eraseDups }

/-- Whether these are the glyphs of the layer, each once and in order. -/
structure Arranges (layer : List LayerGlyph) (lib : Plist) (glyphs : List Glyph) : Prop where
  complete : glyphs.Perm (layer.map (·.toGlyph lib))
  ascending : glyphs.Pairwise fun one other => Precedes (listed lib) one.name other.name

variable {layer again : List LayerGlyph} {lib : Plist} {one other : List Glyph}

theorem Arranges.unique (arranges : Arranges layer lib one) (arrangesToo : Arranges again lib other)
    (same : again.Perm layer) : one = other := by
  -- Both have the same glyphs, and a strict order leaves one way to arrange them.
  refine List.Perm.eq_of_pairwise (fun _ _ _ _ before after => absurd after before.asymm)
    arranges.ascending arrangesToo.ascending ?_
  exact arranges.complete.trans ((same.map _).symm.trans arrangesToo.complete.symm)

theorem listed_eq : ((lib.lookup? "public.glyphOrder").map Plist.strings).getD [] = listed lib := by
  unfold listed
  cases found : lib.lookup? "public.glyphOrder" with
  | none => rfl
  | some value => cases value <;> rfl

theorem production?_eq {name : String} :
    (Std.ExtTreeMap.ofList (((lib.lookup? "public.postscriptNames").bind
      Plist.dictionary?).getD []))[name]?.bind Plist.string? = production? lib name := by
  unfold production?
  cases found : lib.lookup? "public.postscriptNames" with
  | none => simp
  | some value =>
    cases value with
    | dictionary entries =>
      simp only [Option.bind_some, Plist.dictionary?, Option.getD_some, Plist.getElem?_ofList]
      cases (Plist.dictionary entries).lookup? name with
      | none => rfl
      | some value => cases value <;> rfl
    | _ => simp [Plist.dictionary?, Plist.lookup?]

/-- Where the glyphs of a layer have different names, each name leads to the codepoints of its
own. -/
theorem getElem?_codepoints (distinct : (layer.map LayerGlyph.name).Nodup) {glyph : LayerGlyph}
    (member : glyph ∈ layer) :
    (Std.ExtTreeMap.ofList (layer.map fun glyph => (glyph.name, glyph.codepoints)))[glyph.name]? =
      some glyph.codepoints := by
  have apart : (layer.map fun glyph => (glyph.name, glyph.codepoints)).Pairwise
      fun one other => ¬ compare one.1 other.1 = .eq := by
    rw [List.pairwise_map]
    exact (List.pairwise_map.mp distinct).imp fun differs same =>
      differs (Std.LawfulEqOrd.eq_of_compare same)
  exact Std.ExtTreeMap.getElem?_ofList_of_mem Std.ReflOrd.compare_self apart
    (List.mem_map.mpr ⟨glyph, member, rfl⟩)

theorem name_of_glyph? {codepoints : Std.ExtTreeMap String (List Nat)}
    {production : Std.ExtTreeMap String Plist} {name : String} {glyph : Glyph}
    (found : glyph? codepoints production name = some glyph) : glyph.name = name := by
  obtain ⟨_, _, rfl⟩ := Option.map_eq_some_iff.mp found
  rfl

theorem arranges_glyphs (lib : Plist) (distinct : (layer.map LayerGlyph.name).Nodup) :
    Arranges layer lib (glyphs layer lib) := by
  rw [glyphs, listed_eq]
  constructor
  · refine ((glyphOrder_perm (listed lib) distinct).filterMap _).trans (.of_eq ?_)
    rw [List.filterMap_map]
    refine (List.filterMap_congr fun glyph member => ?_).trans
      (congrFun List.filterMap_eq_map layer)
    simp only [Function.comp_apply, glyph?, getElem?_codepoints distinct member, Option.map_some,
      production?_eq, LayerGlyph.toGlyph]
  · refine List.pairwise_filterMap.mpr ((glyphOrder_ascending distinct (listed lib)).imp ?_)
    intro one other before glyph found again foundAgain
    rwa [name_of_glyph? found, name_of_glyph? foundAgain]

/-- The glyphs of a layer whose names differ are put in order without losing any, whatever the
library has in the place of the list and of the production names. There is one way only to do so,
and it does not depend on how the layer lists its glyphs. -/
theorem glyphs_canonical (lib : Plist) (distinct : (layer.map LayerGlyph.name).Nodup) :
    Arranges layer lib (glyphs layer lib) ∧
      (∀ order, Arranges layer lib order → order = glyphs layer lib) ∧
        ∀ again : List LayerGlyph, again.Perm layer → glyphs again lib = glyphs layer lib := by
  have arranges := arranges_glyphs lib distinct
  refine ⟨arranges, fun order arrangesToo => arrangesToo.unique arranges (.refl _), ?_⟩
  intro again same
  have distinctAgain : (again.map LayerGlyph.name).Nodup := (same.map _).nodup_iff.mpr distinct
  exact (arranges_glyphs lib distinctAgain).unique arranges same.symm

private def scattered : List LayerGlyph :=
  [{ name := "b" }, { name := "A", codepoints := [0x391, 0x41, 0x391] }, { name := ".notdef" },
    { name := "a", codepoints := [0x61] }, { name := "c" }]

private def careless : Plist :=
  .dictionary [
    ("public.glyphOrder", .array [.string "c", .string ".notdef", .integer 3, .string "A",
      .string "c", .string "zz", .array [.string "b"], .string "A"]),
    ("public.postscriptNames", .dictionary [("A", .string "uni0391"), ("b", .boolean true),
      ("zz", .string "uni007A")])]

/-- The list has `.notdef` after another name, names twice, one that the layer does not have and
items that are no names; a production name is no string. The layer is also given backward. -/
theorem glyphs_canonical_careless :
    (scattered.map LayerGlyph.name).Nodup ∧
      glyphs scattered careless = [{ name := ".notdef" }, { name := "c" },
        { name := "A", productionName := some "uni0391", codepoints := [0x391, 0x41] },
        { name := "a", codepoints := [0x61] }, { name := "b" }] ∧
      glyphs scattered.reverse careless = glyphs scattered careless := by
  have distinct : (scattered.map LayerGlyph.name).Nodup := by decide
  obtain ⟨-, unique, again⟩ := glyphs_canonical careless distinct
  refine ⟨distinct, (unique _ ⟨?_, ?_⟩).symm, again _ (List.reverse_perm _)⟩
  · decide +kernel
  · decide +kernel

end Ufo
end FontPrep
