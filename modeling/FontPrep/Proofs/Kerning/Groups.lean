import FontPrep.Kerning.Pairs
import FontPrep.Proofs.Rows

namespace FontPrep

variable {names : Std.ExtTreeMap String String}

namespace Groups

/-- Whether the group has the glyph among its members; a group that is not there has none. -/
def Lists (groups : Groups) (group glyph : String) : Prop := glyph ∈ groups.getD group []

instance instDecidableLists (groups : Groups) (group glyph : String) :
    Decidable (groups.Lists group glyph) :=
  inferInstanceAs (Decidable (glyph ∈ groups.getD group []))

/-- No glyph is in two groups. -/
def Disjoint (groups : Groups) : Prop :=
  ∀ ⦃glyph group other⦄, groups.Lists group glyph → groups.Lists other glyph → group = other

theorem lists_iff {groups : Groups} {group glyph : String} :
    groups.Lists group glyph ↔ ∃ members, groups[group]? = some members ∧ glyph ∈ members := by
  unfold Lists
  rw [Std.ExtTreeMap.getD_eq_getD_getElem?]
  cases groups[group]? <;> simp

theorem lists_iff_mem_toList {groups : Groups} {group glyph : String} :
    groups.Lists group glyph ↔ ∃ members, (group, members) ∈ groups.toList ∧ glyph ∈ members := by
  simp only [lists_iff, Std.ExtTreeMap.mem_toList_iff_getElem?_eq_some]

theorem disjoint_iff {groups : Groups} :
    groups.Disjoint ↔ ∀ row ∈ groups.toList, ∀ other ∈ groups.toList, ∀ glyph ∈ row.2,
      glyph ∈ other.2 → row.1 = other.1 := by
  simp only [Disjoint, lists_iff, Prod.forall, Std.ExtTreeMap.mem_toList_iff_getElem?_eq_some]
  constructor
  · intro apart group members found other others foundOther glyph member memberOther
    exact apart ⟨members, found, member⟩ ⟨others, foundOther, memberOther⟩
  · rintro apart glyph group other ⟨members, found, member⟩ ⟨others, foundOther, memberOther⟩
    exact apart group members found other others foundOther glyph member memberOther

instance instDecidableDisjoint (groups : Groups) : Decidable groups.Disjoint :=
  decidable_of_iff _ disjoint_iff.symm

theorem exists_lists_iff {groups : Groups} {glyph : String} :
    (∃ group, groups.Lists group glyph) ↔ ∃ row ∈ groups.toList, glyph ∈ row.2 := by
  simp only [lists_iff_mem_toList, Prod.exists]

variable {groups : Groups}

/-- No two of the groups get one name. -/
def Apart (names : Std.ExtTreeMap String String) (groups : Groups) : Prop :=
  ∀ ⦃group other⦄, group ∈ groups → other ∈ groups →
    names.getD group group = names.getD other other → group = other

theorem getElem?_rename (apart : groups.Apart names) {name : String} {members : List String} :
    (rename names groups)[name]? = some members ↔
      ∃ group, groups[group]? = some members ∧ names.getD group group = name :=
  Rows.getElem?_rekeyed apart

/-- A group lists under its new name what it listed. -/
theorem lists_rename (apart : groups.Apart names) {name glyph : String} :
    (rename names groups).Lists name glyph ↔
      ∃ group, groups.Lists group glyph ∧ names.getD group group = name := by
  simp only [lists_iff, getElem?_rename apart]
  constructor
  · intro listed
    obtain ⟨members, ⟨group, found, same⟩, member⟩ := listed
    exact ⟨group, ⟨members, found, member⟩, same⟩
  · intro listed
    obtain ⟨group, ⟨members, found, member⟩, same⟩ := listed
    exact ⟨members, ⟨group, found, same⟩, member⟩

theorem disjoint_rename (apart : groups.Apart names) (disjoint : groups.Disjoint) :
    (rename names groups).Disjoint := by
  intro glyph name other lists listsOther
  obtain ⟨group, listed, rfl⟩ := (lists_rename apart).mp lists
  obtain ⟨again, listedAgain, rfl⟩ := (lists_rename apart).mp listsOther
  rw [disjoint listed listedAgain]

end Groups

namespace Pairs

variable {pairs : Pairs}

def Apart (names : Std.ExtTreeMap String String) (pairs : Pairs) : Prop :=
  ∀ ⦃pair other : Pair Key Key⦄, pair ∈ pairs → other ∈ pairs →
    pair.map (Key.rename names) = other.map (Key.rename names) → pair = other

theorem getElem?_rename (apart : pairs.Apart names) {pair : Pair Key Key} {value : Int} :
    (rename names pairs)[pair]? = some value ↔
      ∃ source : Pair Key Key, pairs[source]? = some value ∧
        source.map (Key.rename names) = pair :=
  Rows.getElem?_rekeyed apart

end Pairs
end FontPrep
