import Std.Data.ExtTreeMap
import Std.Data.ExtTreeSet

/-! Rows under keys, in whatever order they were entered. Unlike a sorted map, two tables with the
same rows can differ in their order. -/
namespace FontPrep

structure Table (κ β : Type) where
  toList : List (κ × β)
  distinct : (toList.map Prod.fst).Nodup

namespace Table
variable {κ β : Type}

def keys (table : Table κ β) : List κ := table.toList.map Prod.fst

def size (table : Table κ β) : Nat := table.toList.length

instance : EmptyCollection (Table κ β) := ⟨[], .nil⟩

instance : Membership κ (Table κ β) := ⟨fun table key => key ∈ table.keys⟩

theorem mem_keys {table : Table κ β} {key : κ} : key ∈ table.keys ↔ key ∈ table := Iff.rfl

section Lookup
variable [DecidableEq κ]

def find? (table : Table κ β) (key : κ) : Option β := table.toList.lookup key

theorem find?_isSome {table : Table κ β} {key : κ} (present : key ∈ table) :
    (table.find? key).isSome := by
  obtain ⟨row, member, rfl⟩ := List.mem_map.mp (mem_keys.mpr present)
  exact List.lookup_isSome_iff.mpr ⟨row, member, BEq.rfl⟩

instance : GetElem? (Table κ β) κ β fun table key => key ∈ table where
  getElem table _ present := (table.find? _).get (find?_isSome present)
  getElem? table key := table.find? key

theorem getElem?_eq_some_iff {table : Table κ β} {key : κ} {value : β} :
    table[key]? = some value ↔ (key, value) ∈ table.toList := by
  obtain ⟨rows, distinct⟩ := table
  change rows.lookup key = some value ↔ (key, value) ∈ rows
  induction rows with
  | nil => simp
  | cons row rest ih =>
    obtain ⟨name, entry⟩ := row
    obtain ⟨new, distinct⟩ := List.nodup_cons.mp distinct
    rw [List.lookup_cons, List.mem_cons, Prod.mk.injEq]
    by_cases same : key = name
    · subst name
      have absent : (key, value) ∉ rest := fun member => new (List.mem_map.mpr ⟨_, member, rfl⟩)
      simp [absent, eq_comm]
    · simpa [beq_false_of_ne same, same] using ih distinct

theorem mem_of_found {table : Table κ β} {key : κ} {value : β}
    (found : table[key]? = some value) : key ∈ table :=
  List.mem_map.mpr ⟨_, getElem?_eq_some_iff.mp found, rfl⟩

def erase (table : Table κ β) (key : κ) : Table κ β where
  toList := table.toList.filter (·.1 ≠ key)
  distinct := table.distinct.sublist (List.filter_sublist.map _)

end Lookup

section Ordered
variable [Ord κ] [Std.TransOrd κ] [Std.LawfulEqOrd κ]

/-- The keys that are not seen yet after those done, each where it first comes. -/
def newKeys (seen : Std.ExtTreeSet κ) (done : List κ) : List κ → List κ
  | [] => done.reverse
  | key :: rest =>
    if key ∈ seen then newKeys seen done rest else newKeys (seen.insert key) (key :: done) rest

theorem nodup_newKeys {seen : Std.ExtTreeSet κ} {done : List κ} (once : done.Nodup)
    (known : ∀ key ∈ done, key ∈ seen) (keys : List κ) : (newKeys seen done keys).Nodup := by
  induction keys generalizing seen done with
  | nil => exact (List.reverse_perm done).nodup_iff.mpr once
  | cons key rest ih =>
    rw [newKeys]
    split
    · exact ih once known
    · next new =>
      refine ih (List.nodup_cons.mpr ⟨fun old => new (known _ old), once⟩) fun other member => ?_
      rw [Std.ExtTreeSet.mem_insert]
      rcases List.mem_cons.mp member with rfl | old
      · exact .inl Std.ReflOrd.compare_self
      · exact .inr (known other old)

/-- The rows with one for each key. The first row with a key gives the place, the last the value. -/
def ofList (rows : List (κ × β)) : Table κ β :=
  let values := Std.ExtTreeMap.ofList rows
  { toList := (newKeys ∅ [] (rows.map Prod.fst)).filterMap fun key =>
      values[key]?.map fun value => (key, value)
    distinct := by
      rw [List.map_filterMap]
      refine List.pairwise_filterMap.mpr ((nodup_newKeys .nil (by simp) _).imp ?_)
      intro one other differ name found again foundAgain
      simp only [Option.map_map, Option.map_eq_some_iff, Function.comp_apply] at found foundAgain
      obtain ⟨_, _, rfl⟩ := found
      obtain ⟨_, _, rfl⟩ := foundAgain
      exact differ }

def insert (table : Table κ β) (key : κ) (value : β) : Table κ β :=
  ofList (table.toList ++ [(key, value)])

/-- The rows in the order of their keys. -/
def sorted (table : Table κ β) : Std.ExtTreeMap κ β := .ofList table.toList

instance : Coe (Table κ β) (Std.ExtTreeMap κ β) := ⟨sorted⟩

end Ordered
end Table
end FontPrep
