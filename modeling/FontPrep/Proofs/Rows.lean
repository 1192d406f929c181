import FontPrep.Table

namespace FontPrep.Rows

variable {κ β : Type} [Ord κ] [Std.TransOrd κ] [Std.LawfulEqOrd κ]

omit [Std.LawfulEqOrd κ] in
theorem mem_of_found {table : Std.ExtTreeMap κ β} {key : κ} {value : β}
    (found : table[key]? = some value) : key ∈ table := by
  obtain ⟨present, _⟩ := Std.ExtTreeMap.getElem?_eq_some_iff.mp found
  exact present

omit [Std.LawfulEqOrd κ] in
theorem exists_of_mem {table : Std.ExtTreeMap κ β} {key : κ} (present : key ∈ table) :
    ∃ value, table[key]? = some value :=
  ⟨_, Std.ExtTreeMap.getElem?_eq_some_getElem present⟩

private theorem mem_of_getElem?_insertMany {rows : List (κ × β)} {table : Std.ExtTreeMap κ β}
    {key : κ} {value : β} (found : (table.insertMany rows)[key]? = some value) :
    (key, value) ∈ rows ∨ table[key]? = some value := by
  induction rows generalizing table with
  | nil => exact .inr (by simpa using found)
  | cons row rest ih =>
    obtain ⟨name, entry⟩ := row
    rw [Std.ExtTreeMap.insertMany_cons] at found
    rcases ih found with later | inserted
    · exact .inl (List.mem_cons_of_mem _ later)
    · rw [Std.ExtTreeMap.getElem?_insert] at inserted
      split at inserted
      · rename_i same
        have identical := Std.LawfulEqOrd.eq_of_compare same
        cases inserted
        subst name
        exact .inl (List.mem_cons_self ..)
      · exact .inr inserted

theorem mem_of_getElem?_ofList {rows : List (κ × β)} {key : κ} {value : β}
    (found : (Std.ExtTreeMap.ofList rows)[key]? = some value) : (key, value) ∈ rows := by
  rw [Std.ExtTreeMap.ofList_eq_insertMany_empty] at found
  rcases mem_of_getElem?_insertMany found with present | absent
  · exact present
  · simp at absent

/-- Of rows with one key the last counts. -/
theorem getElem?_ofList [DecidableEq κ] {rows : List (κ × β)} {key : κ} :
    (Std.ExtTreeMap.ofList rows)[key]? = (rows.reverse.find? (·.1 = key)).map Prod.snd := by
  have added (table : Std.ExtTreeMap κ β) : (table.insertMany rows)[key]? =
      ((rows.reverse.find? (·.1 = key)).map Prod.snd).or table[key]? := by
    induction rows generalizing table with
    | nil => simp
    | cons row rest ih =>
      obtain ⟨name, entry⟩ := row
      rw [Std.ExtTreeMap.insertMany_cons, ih, List.reverse_cons, List.find?_append, Option.map_or,
        Option.or_assoc, Std.ExtTreeMap.getElem?_insert]
      by_cases same : name = key <;> simp [same]
  rw [Std.ExtTreeMap.ofList_eq_insertMany_empty, added]
  simp

omit [Ord κ] [Std.TransOrd κ] [Std.LawfulEqOrd κ] in
/-- Rows written from entries, where `read` undoes `write`. -/
theorem mem_map_iff {γ : Type} {entries : List γ} {write : γ → κ × β} (read : κ × β → γ)
    (back : ∀ entry, read (write entry) = entry) (forth : ∀ row, write (read row) = row)
    {row : κ × β} : row ∈ entries.map write ↔ read row ∈ entries := by
  constructor
  · intro member
    obtain ⟨entry, present, rfl⟩ := List.mem_map.mp member
    rwa [back]
  · intro present
    exact List.mem_map.mpr ⟨_, present, forth row⟩

theorem getElem?_ofList_iff [DecidableEq κ] {rows : List (κ × β)} (holds : κ → β → Prop)
    (spelled : ∀ key value, (key, value) ∈ rows ↔ holds key value)
    (single : ∀ key value other, holds key value → holds key other → value = other) {key : κ}
    {value : β} : (Std.ExtTreeMap.ofList rows)[key]? = some value ↔ holds key value := by
  constructor
  · intro found
    exact (spelled key value).mp (mem_of_getElem?_ofList found)
  · intro held
    have present : key ∈ Std.ExtTreeMap.ofList rows := by
      simp only [Std.ExtTreeMap.mem_ofList, List.contains_iff_mem]
      exact List.mem_map.mpr ⟨_, (spelled key value).mpr held, rfl⟩
    have found := Std.ExtTreeMap.getElem?_eq_some_getElem present
    have other := (spelled key _).mp (mem_of_getElem?_ofList found)
    rw [found, single key _ _ other held]

/-- Rows under new keys, as long as no two keys of the table become one. -/
theorem getElem?_rekeyed {ι : Type} [Ord ι] [Std.TransOrd ι] [Std.LawfulEqOrd ι] [DecidableEq ι]
    {table : Std.ExtTreeMap κ β} {rekey : κ → ι}
    (apart : ∀ ⦃key other⦄, key ∈ table → other ∈ table → rekey key = rekey other → key = other)
    {name : ι} {value : β} :
    (Std.ExtTreeMap.ofList (table.toList.map fun row => (rekey row.1, row.2)))[name]? =
      some value ↔ ∃ key, table[key]? = some value ∧ rekey key = name := by
  refine getElem?_ofList_iff (fun name value => ∃ key, table[key]? = some value ∧ rekey key = name)
    (fun name value => ?_) ?_
  · simp only [List.mem_map, Prod.exists, Std.ExtTreeMap.mem_toList_iff_getElem?_eq_some,
      Prod.mk.injEq]
    constructor
    · intro member
      obtain ⟨key, _, found, same, rfl⟩ := member
      exact ⟨key, found, same⟩
    · intro holds
      obtain ⟨key, found, same⟩ := holds
      exact ⟨key, value, found, same, rfl⟩
  · rintro name value number ⟨key, found, same⟩ ⟨other, foundOther, sameOther⟩
    have identical := apart (mem_of_found found) (mem_of_found foundOther)
      (same.trans sameOther.symm)
    subst other
    exact Option.some.inj (found.symm.trans foundOther)

end FontPrep.Rows

namespace FontPrep.Table

variable {κ β : Type} [DecidableEq κ]

theorem single {table : Table κ β} {key : κ} {value other : β}
    (found : (key, value) ∈ table.toList) (again : (key, other) ∈ table.toList) :
    value = other :=
  Option.some.inj ((getElem?_eq_some_iff.mpr found).symm.trans (getElem?_eq_some_iff.mpr again))

/-- Looking a key up does not depend on the order of the rows. -/
theorem getElem?_of_perm {table other : Table κ β} (same : table.toList.Perm other.toList)
    (key : κ) : table[key]? = other[key]? := by
  refine Option.ext fun value => ?_
  rw [getElem?_eq_some_iff, getElem?_eq_some_iff, same.mem_iff]

@[simp] theorem getElem?_sorted [Ord κ] [Std.TransOrd κ] [Std.LawfulEqOrd κ] (table : Table κ β)
    (key : κ) : table.sorted[key]? = table[key]? := by
  refine Option.ext fun value => ?_
  rw [getElem?_eq_some_iff]
  exact Rows.getElem?_ofList_iff (fun key value => (key, value) ∈ table.toList)
    (fun _ _ => Iff.rfl) fun _ _ _ => single

end FontPrep.Table
