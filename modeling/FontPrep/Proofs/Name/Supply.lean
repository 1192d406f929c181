import FontPrep.Proofs.Name.Identifier
import Mathlib.Data.List.Nodup
import Mathlib.Data.List.Perm.Subperm
import Mathlib.Order.Bounds.Defs

/-! How many names there are to choose from. Counters set off by a period make as many names as
there are counters. Without a period a counter can make the name that another made of a shorter cut,
but counters of five digits cut a name alike. A search takes the least counter that makes a free
name, and fails only if all its names are taken. -/
namespace FontPrep.Name

variable {taken : NameSet} {allowed : Char → Bool} {limit : Nat}
variable {name raw separator lead : String} {one two : Nat}

theorem digits_injective : Function.Injective digits := by
  intro one two same
  rw [← Nat.ofDigitChars_ten_toDigits (n := one), ← Nat.ofDigitChars_ten_toDigits (n := two)]
  exact congrArg (Nat.ofDigitChars 10 · 0) same

/-- After a period that ends what is kept of the name, the digits at the end are the counter's. -/
theorem counted_period_injective (limit : Nat) (name : String) :
    Function.Injective (counted limit "." name) := by
  have ending (counter : Nat) :
      (counted limit "." name counter).toList.reverse.takeWhile Char.isDigit =
        (digits counter).reverse := by
    have digit : ∀ c ∈ (digits counter).reverse, c.isDigit = true := fun c member =>
      isDigit_of_mem_digits (List.mem_reverse.mp member)
    have period : ".".toList = ['.'] := rfl
    rw [toList_counted, List.reverse_append, List.reverse_append, List.append_assoc,
      List.takeWhile_append_of_pos digit, period]
    simp
  intro one two same
  have reversed : (digits one).reverse = (digits two).reverse := by
    rw [← ending, same, ending]
  exact digits_injective (List.reverse_injective reversed)

/-- Counters with equally many digits cut the name at one place. -/
theorem eq_of_counted (long : (digits one).length = (digits two).length)
    (same : counted limit separator name one = counted limit separator name two) : one = two := by
  have chars := congrArg String.toList same
  rw [toList_counted, toList_counted, long] at chars
  exact digits_injective (List.append_cancel_left (List.append_cancel_left chars))

theorem nodup_counters : counters.Nodup := List.nodup_range'

theorem length_counters : counters.length = 99999 := List.length_range'

/-- The counters of five digits. -/
def longCounters : List Nat := List.range' 10000 90000

theorem mem_longCounters {counter : Nat} :
    counter ∈ longCounters ↔ 10000 ≤ counter ∧ counter ≤ 99999 := by
  simp only [longCounters, List.mem_range'_1]
  omega

theorem longCounters_subset : longCounters ⊆ counters := by
  intro counter member
  have bounds := mem_longCounters.mp member
  exact mem_counters.mpr (by omega)

theorem length_digits_of_mem_longCounters {counter : Nat} (member : counter ∈ longCounters) :
    (digits counter).length = 5 := by
  have bounds := mem_longCounters.mp member
  have short : (digits counter).length ≤ 5 :=
    (Nat.length_toDigits_le_iff (by decide) (by decide)).mpr (by omega)
  have long : ¬ (digits counter).length ≤ 4 := fun few => by
    have small := (Nat.length_toDigits_le_iff (by decide) (by decide)).mp few
    omega
  omega

theorem nodup_counted_longCounters (limit : Nat) (separator name : String) :
    (longCounters.map (counted limit separator name)).Nodup := by
  refine List.Nodup.map_on (fun one member two memberToo same => ?_) List.nodup_range'
  refine eq_of_counted ?_ same
  rw [length_digits_of_mem_longCounters member, length_digits_of_mem_longCounters memberToo]

/-- Where counters make more names than are in the way, one of them makes a free name. -/
theorem exists_find?_counters {spell : Nat → String} {tries : List Nat} {given : List String}
    (tried : tries ⊆ counters) (apart : (tries.map spell).Nodup)
    (inWay : ∀ counter ∈ tries, spell counter ∈ taken → spell counter ∈ given)
    (few : given.length < tries.length) :
    ∃ counter, counters.find? (fun counter => spell counter ∉ taken) = some counter := by
  rw [← Option.isSome_iff_exists, List.find?_isSome]
  by_contra exhausted
  have all : tries.map spell ⊆ given := by
    intro name member
    obtain ⟨counter, present, rfl⟩ := List.mem_map.mp member
    refine inWay counter present ?_
    by_contra free
    exact exhausted ⟨counter, tried present, decide_eq_true free⟩
  have enough := apart.length_le_of_subset all
  rw [List.length_map] at enough
  omega

theorem exists_unique {tries : List Nat} {given : List String} (tried : tries ⊆ counters)
    (apart : (tries.map (counted limit separator name)).Nodup)
    (inWay : ∀ counter ∈ tries, counted limit separator name counter ∈ taken →
      counted limit separator name counter ∈ given)
    (few : given.length < tries.length) :
    ∃ chosen, unique taken limit separator name = .ok chosen := by
  by_cases present : name ∈ taken
  · obtain ⟨counter, found⟩ := exists_find?_counters tried apart inWay few
    exact ⟨counted limit separator name counter, by rw [unique, if_pos present, found]⟩
  · exact ⟨name, unique_of_not_mem present⟩

/-- A name can be made unique by a counter after a period unless all counters are used up. -/
theorem exists_unique_period {given : List String} (covers : ∀ name ∈ taken, name ∈ given)
    (few : given.length < 99999) : ∃ chosen, unique taken limit "." name = .ok chosen :=
  exists_unique (List.Subset.refl counters)
    (nodup_counters.map (counted_period_injective limit name)) (fun _ _ => covers _)
    (Nat.lt_of_lt_of_eq few length_counters.symm)

/-- An identifier can be found while fewer than 90,000 names with its lead are taken. -/
theorem exists_legalize {given : List String} (fits : lead.length + 5 ≤ limit)
    (covers : ∀ name ∈ taken, lead.toList <+: name.toList → name ∈ given)
    (few : given.length < 90000) : ∃ name, legalize taken allowed limit lead raw = .ok name := by
  refine exists_unique longCounters_subset (nodup_counted_longCounters _ _ _)
    (fun counter member present => covers _ present ?_) (by simpa [longCounters])
  rw [counted_lead fits (longCounters_subset member), String.toList_append]
  exact List.prefix_append _ _

/-- Whatever sets the counters off, 90,000 of them make different names. -/
theorem exists_unique_of_size (few : taken.size < 90000) :
    ∃ chosen, unique taken limit separator name = .ok chosen :=
  exists_unique longCounters_subset (nodup_counted_longCounters limit separator name)
    (fun _ _ present => Std.ExtTreeSet.mem_toList.mpr present)
    (by simpa [longCounters, Std.ExtTreeSet.length_toList] using few)

/-- The counters that make a free name of the given one. -/
def freeCounters (taken : NameSet) (limit : Nat) (separator name : String) : Set Nat :=
  {counter | 1 ≤ counter ∧ counter ≤ 99999 ∧ counted limit separator name counter ∉ taken}

theorem find?_counters_eq_some_iff {counter : Nat} :
    counters.find? (fun counter => counted limit separator name counter ∉ taken) = some counter ↔
      IsLeast (freeCounters taken limit separator name) counter := by
  rw [counters, List.find?_range'_eq_some, ← counters, mem_counters]
  simp only [decide_eq_true_iff, Bool.not_eq_true', decide_eq_false_iff_not, not_not]
  constructor
  · rintro ⟨free, ⟨positive, bounded⟩, smaller⟩
    refine ⟨⟨positive, bounded, free⟩, fun other hit => ?_⟩
    by_contra less
    exact hit.2.2 (smaller other hit.1 (not_le.mp less))
  · rintro ⟨⟨positive, bounded, free⟩, least⟩
    refine ⟨free, ⟨positive, bounded⟩, fun other positiveToo less => ?_⟩
    by_contra freeToo
    exact absurd (least ⟨positiveToo, by omega, freeToo⟩) (not_le.mpr less)

theorem unique_of_isLeast {counter : Nat} (present : name ∈ taken)
    (least : IsLeast (freeCounters taken limit separator name) counter) :
    unique taken limit separator name = .ok (counted limit separator name counter) := by
  rw [unique, if_pos present, find?_counters_eq_some_iff.mpr least]

theorem unique_eq_error_iff {cause : Exhausted} :
    unique taken limit separator name = .error cause ↔ cause = .counters name ∧ name ∈ taken ∧
      ∀ counter, 1 ≤ counter → counter ≤ 99999 → counted limit separator name counter ∈ taken := by
  constructor
  · intro failed
    have present : name ∈ taken := by
      by_contra free
      cases (unique_of_not_mem free).symm.trans failed
    rw [unique, if_pos present] at failed
    split at failed
    · cases failed
    · rename_i missed
      cases failed
      refine ⟨rfl, present, fun counter positive bounded => ?_⟩
      simpa using List.find?_eq_none.mp missed counter (mem_counters.mpr ⟨positive, bounded⟩)
  · rintro ⟨rfl, present, all⟩
    have missed : counters.find? (fun counter => counted limit separator name counter ∉ taken) =
        none := by
      refine List.find?_eq_none.mpr fun counter member => ?_
      obtain ⟨positive, bounded⟩ := mem_counters.mp member
      simpa using all counter positive bounded
    rw [unique, if_pos present, missed]

/-- A free name is itself the one that is chosen; for a taken one it is the name with the least
counter that makes it free, and the search fails only if the name and all its counted variants are
taken. So it never fails while fewer than 90,000 names are taken, and with a period before the
counter it never fails while fewer than 99,999 are. -/
theorem unique_first_free (taken : NameSet) (limit : Nat) (separator name : String) :
    (name ∉ taken → unique taken limit separator name = .ok name) ∧
      (name ∈ taken → ∀ counter, IsLeast (freeCounters taken limit separator name) counter →
        unique taken limit separator name = .ok (counted limit separator name counter)) ∧
      (∀ cause, unique taken limit separator name = .error cause ↔
        cause = .counters name ∧ name ∈ taken ∧ ∀ counter, 1 ≤ counter → counter ≤ 99999 →
          counted limit separator name counter ∈ taken) ∧
      (taken.size < 90000 → ∃ chosen, unique taken limit separator name = .ok chosen) ∧
      (taken.size < 99999 → ∃ chosen, unique taken limit "." name = .ok chosen) := by
  refine ⟨unique_of_not_mem, fun present counter => unique_of_isLeast present,
    fun cause => unique_eq_error_iff, exists_unique_of_size, fun few => ?_⟩
  refine exists_unique_period (fun name => Std.ExtTreeSet.mem_toList.mpr) ?_
  rwa [Std.ExtTreeSet.length_toList]

private def crowded : NameSet :=
  .ofList ["ab.1", "ab.2", "ab.3", "ab.4", "ab.5", "ab.6", "ab.7", "ab.8", "ab.9", "a.10"]

/-- After nine counters the tenth is taken too, though it cuts the name elsewhere. -/
theorem unique_first_free_crowded :
    ("ab" ∉ crowded ∧ unique crowded 4 "." "ab" = .ok "ab") ∧
      ("ab.1" ∈ crowded ∧ IsLeast (freeCounters crowded 4 "." "ab.1") 11 ∧
        unique crowded 4 "." "ab.1" = .ok "a.11") ∧
      crowded.size < 90000 ∧ (∃ chosen, unique crowded 0 "" "ab.1" = .ok chosen) ∧
      crowded.size < 99999 ∧ ∃ chosen, unique crowded 0 "." "ab.1" = .ok chosen := by
  have free : "ab" ∉ crowded := by decide +kernel
  have present : "ab.1" ∈ crowded := by decide +kernel
  have few : crowded.size = 10 := by decide +kernel
  have before : ∀ counter ∈ List.range' 1 10, counted 4 "." "ab.1" counter ∈ crowded := by
    decide +kernel
  have least : IsLeast (freeCounters crowded 4 "." "ab.1") 11 := by
    refine ⟨⟨by decide, by decide, by decide +kernel⟩, fun counter hit => ?_⟩
    by_contra less
    have small : counter ∈ List.range' 1 10 := List.mem_range'_1.mpr ⟨hit.1, by omega⟩
    exact hit.2.2 (before counter small)
  obtain ⟨kept, _⟩ := unique_first_free crowded 4 "." "ab"
  obtain ⟨_, chosen, _⟩ := unique_first_free crowded 4 "." "ab.1"
  obtain ⟨_, _, _, supply, supplyToo⟩ := unique_first_free crowded 0 "" "ab.1"
  have variant : counted 4 "." "ab.1" 11 = "a.11" := by decide +kernel
  exact ⟨⟨free, kept free⟩, ⟨present, least, variant ▸ chosen present 11 least⟩, by omega,
    supply (by omega), by omega, supplyToo (by omega)⟩

end FontPrep.Name
