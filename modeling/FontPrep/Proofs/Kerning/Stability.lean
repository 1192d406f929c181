import FontPrep.Proofs.Kerning.Dependence

namespace FontPrep

namespace ClassNames

variable {state next alone final : ClassNames} {side : Side} {group : String}
variable {item : Side × String} {items done : List (Side × String)}

/-- Whether two states have the same to say of one side. -/
structure SameOn (side : Side) (state alone : ClassNames) : Prop where
  taken : ∀ name : String, side.classLead.toList <+: name.toList →
    (name ∈ state.taken ↔ name ∈ alone.taken)
  names : ∀ group : String, side.owns group = true → state.names[group]? = alone.names[group]?

theorem SameOn.choose_eq (same : SameOn side state alone) (group : String) :
    choose state.taken side group = choose alone.taken side group := by
  have fits : side.classLead.length + 5 ≤ Name.maxLength := by cases side <;> decide
  exact Name.legalize_congr fits same.taken

theorem SameOn.assign_own (same : SameOn side state alone)
    (assigned : state.assign (side, group) = .ok next) :
    ∃ nextAlone, alone.assign (side, group) = .ok nextAlone ∧ SameOn side next nextAlone := by
  obtain ⟨name, found, rfl⟩ := choose_of_assign assigned
  rw [same.choose_eq] at found
  refine ⟨_, by rw [assign, found], fun other starts => ?_, fun other owns => ?_⟩
  · rw [Std.ExtTreeSet.mem_insert, Std.ExtTreeSet.mem_insert, same.taken other starts]
  · rw [Std.ExtTreeMap.getElem?_insert, Std.ExtTreeMap.getElem?_insert, same.names other owns]

theorem SameOn.assign_other (same : SameOn side state alone)
    (assigned : state.assign item = .ok next) (owned : item.1.owns item.2 = true)
    (differs : item.1 ≠ side) : SameOn side next alone := by
  obtain ⟨name, found, rfl⟩ := choose_of_assign assigned
  constructor
  · intro other starts
    have apart : name ≠ other := by
      rintro rfl
      exact differs (Side.eq_of_leads (by decide) (by decide)
        (isClassName_of_choose found).starts starts)
    simpa [Std.ExtTreeSet.mem_insert, apart] using same.taken other starts
  · intro other owns
    have apart : item.2 ≠ other := by
      rintro rfl
      exact differs (Side.owns_unique owned owns)
    simpa [Std.ExtTreeMap.getElem?_insert, apart] using same.names other owns

/-- Whether a state has of one side what naming the groups of that side alone would give. -/
def Alone (side : Side) (done : List (Side × String)) (state : ClassNames) : Prop :=
  (∀ item ∈ done, item.1.owns item.2 = true) → ∃ alone,
    (done.filter (·.1 = side)).foldlM assign {} = .ok alone ∧ SameOn side state alone

theorem alone_empty (side : Side) : Alone side [] {} :=
  fun _ => ⟨{}, rfl, fun _ _ => Iff.rfl, fun _ _ => rfl⟩

theorem Alone.assign (before : Alone side done state) (assigned : state.assign item = .ok next) :
    Alone side (done ++ [item]) next := by
  intro owned
  obtain ⟨alone, run, same⟩ := before fun item member => owned item (List.mem_append_left _ member)
  rw [List.filter_append]
  by_cases own : item.1 = side
  · subst own
    obtain ⟨nextAlone, assignedAlone, sameNext⟩ := same.assign_own assigned
    refine ⟨nextAlone, ?_, sameNext⟩
    rw [List.filter_cons_of_pos (by simp), List.filter_nil, foldlM_append_singleton_eq_ok_iff]
    exact ⟨alone, run, assignedAlone⟩
  · refine ⟨alone, ?_, same.assign_other assigned (owned item (by simp)) own⟩
    rwa [List.filter_cons_of_neg (by simp [own]), List.filter_nil, List.append_nil]

theorem exists_run_alone (side : Side) (owned : ∀ item ∈ items, item.1.owns item.2 = true)
    (run : items.foldlM assign {} = .ok final) :
    ∃ alone, (items.filter (·.1 = side)).foldlM assign {} = .ok alone ∧
      SameOn side final alone :=
  foldlM_keeps (Alone side) Alone.assign (alone_empty side) run owned

/-- Whether a state has the name that the group had at first, unless the group is among those
done. -/
def Spares (group : String) (first : ClassNames) (done : List (Side × String))
    (state : ClassNames) : Prop :=
  (∀ item ∈ done, item.2 ≠ group) → state.names[group]? = first.names[group]?

theorem Spares.assign {first : ClassNames} (before : Spares group first done state)
    (assigned : state.assign item = .ok next) : Spares group first (done ++ [item]) next := by
  intro others
  obtain ⟨name, _, rfl⟩ := choose_of_assign assigned
  have other : item.2 ≠ group := others item (by simp)
  have earlier := before fun item member => others item (List.mem_append_left _ member)
  simpa [Std.ExtTreeMap.getElem?_insert, other] using earlier

/-- What is named later leaves the names of other groups as they are. -/
theorem names_of_run (others : ∀ item ∈ items, item.2 ≠ group)
    (run : items.foldlM assign state = .ok final) :
    final.names[group]? = state.names[group]? :=
  foldlM_keeps (Spares group state) Spares.assign (fun _ => rfl) run others

end ClassNames

def Groups.upTo (groups : Groups) (group : String) : List String :=
  groups.keys.filter (· ≤ group)

namespace Groups

variable {groups others : Groups} {group name : String}

theorem mem_upTo : name ∈ groups.upTo group ↔ name ∈ groups ∧ name ≤ group := by
  rw [upTo, List.mem_filter, Std.ExtTreeMap.mem_keys, decide_eq_true_iff]

theorem upTo_congr (same : ∀ name ≤ group, name ∈ groups ↔ name ∈ others) :
    groups.upTo group = others.upTo group := by
  refine (groups.keys_ascending.filter _).eq_of_mem_iff (others.keys_ascending.filter _) fun name =>
    ?_
  change name ∈ groups.upTo group ↔ name ∈ others.upTo group
  rw [mem_upTo, mem_upTo]
  exact and_congr_left fun small => same name small

theorem keys_eq_upTo_append (groups : Groups) (group : String) :
    groups.keys = groups.upTo group ++ groups.keys.filter (group < ·) := by
  have ascending := groups.keys_ascending
  have split : (groups.upTo group ++ groups.keys.filter (group < ·)).Pairwise (· < ·) := by
    refine List.pairwise_append.mpr ⟨ascending.filter _, ascending.filter _, ?_⟩
    intro earlier member later memberToo
    have small : earlier ≤ group := (mem_upTo.mp member).2
    have large : group < later := of_decide_eq_true (List.mem_filter.mp memberToo).2
    exact lt_of_le_of_lt small large
  refine ascending.eq_of_mem_iff split fun name => ?_
  rw [List.mem_append, mem_upTo, List.mem_filter, Std.ExtTreeMap.mem_keys, decide_eq_true_iff,
    ← and_or_left]
  exact (and_iff_left (le_or_gt name group)).symm

end Groups

namespace Font

variable {font other : Font} {state stateToo : ClassNames} {side : Side} {group : String}

theorem owned_queue_sideGroups (font : Font) :
    ∀ item ∈ ClassNames.queue font.sideGroups, item.1.owns item.2 = true := by
  rintro ⟨side, group⟩ queued
  exact (mem_kerningGroups.mp (mem_queue_sideGroups.mp queued)).1

theorem filter_queue_sideGroups (font : Font) (side : Side) :
    (ClassNames.queue font.sideGroups).filter (·.1 = side) =
      (font.kerningGroups side).keys.map (side, ·) := by
  cases side <;> simp [ClassNames.queue, sideGroups_eq, List.filter_append, List.filter_map,
    Function.comp_def]

/-- The class name of a group is the one it gets when only the groups of its side that sort up to
it are named. -/
theorem exists_run_upTo (named : ClassNames.ofGroups font.sideGroups = .ok state)
    (retained : group ∈ font.kerningGroups side) : ∃ alone,
      (((font.kerningGroups side).upTo group).map (side, ·)).foldlM ClassNames.assign {} =
        .ok alone ∧ state.names[group]? = alone.names[group]? := by
  obtain ⟨whole, run, same⟩ := ClassNames.exists_run_alone side font.owned_queue_sideGroups named
  rw [filter_queue_sideGroups, Groups.keys_eq_upTo_append _ group, List.map_append,
    List.foldlM_append] at run
  cases begun : (((font.kerningGroups side).upTo group).map (side, ·)).foldlM ClassNames.assign {}
    with
  | error stuck => simp [begun, bind, Except.bind] at run
  | ok alone =>
    simp only [begun, bind, Except.bind] at run
    have later : ∀ item ∈ ((font.kerningGroups side).keys.filter (group < ·)).map (side, ·),
        item.2 ≠ group := by
      intro item member
      obtain ⟨name, kept, rfl⟩ := List.mem_map.mp member
      have large : group < name := of_decide_eq_true (List.mem_filter.mp kept).2
      exact large.ne'
    -- The groups that sort later spare the name, and the other side was never in the way.
    refine ⟨alone, rfl, ?_⟩
    rw [same.names group (mem_kerningGroups.mp retained).1, ClassNames.names_of_run later run]

/-- Groups of the other side, groups that sort later and the members of groups have no influence on
the class name of a group. -/
theorem className_stable (named : ClassNames.ofGroups font.sideGroups = .ok state)
    (namedToo : ClassNames.ofGroups other.sideGroups = .ok stateToo)
    (retained : group ∈ font.kerningGroups side) (retainedToo : group ∈ other.kerningGroups side)
    (same : ∀ earlier ≤ group,
      earlier ∈ font.kerningGroups side ↔ earlier ∈ other.kerningGroups side) :
    ∃ name, state.names[group]? = some name ∧ stateToo.names[group]? = some name := by
  obtain ⟨alone, run, names⟩ := exists_run_upTo named retained
  obtain ⟨aloneToo, runToo, namesToo⟩ := exists_run_upTo namedToo retainedToo
  rw [← Groups.upTo_congr same, run] at runToo
  cases runToo
  have valid := ClassNames.valid_ofGroups named font.nodup_queue_sideGroups
  obtain ⟨name, found, _⟩ := valid.given _ (mem_queue_sideGroups.mpr retained)
  exact ⟨name, found, namesToo.trans (names.symm.trans found)⟩

private def plainFont : Font where
  glyphs := [{ name := "A" }, { name := "B" }]
  groups := .ofList [("public.kern1.A", ["A"]), ("public.kern1.A!", ["B"])]

private def busyFont : Font where
  glyphs := [{ name := "C" }, { name := "D" }, { name := "E" }]
  groups := .ofList [("public.kern1.A", ["E", "D"]), ("public.kern1.A!", ["C"]),
    ("public.kern1.A1", ["D"]), ("public.kern2.A", ["C"]), ("public.kern2.A!", ["D"])]

/-- A name with a counter stays, though a later group is spelled like it and the other side has
groups of the same names. -/
theorem className_stable_busy : ∃ state stateToo,
    ClassNames.ofGroups plainFont.sideGroups = .ok state ∧
      ClassNames.ofGroups busyFont.sideGroups = .ok stateToo ∧
        (∀ earlier ≤ "public.kern1.A!",
          earlier ∈ plainFont.kerningGroups .first ↔ earlier ∈ busyFont.kerningGroups .first) ∧
        state.names["public.kern1.A!"]? = some "@kern1.A1" ∧
          stateToo.names["public.kern1.A!"]? = some "@kern1.A1" := by
  have read : (ClassNames.ofGroups plainFont.sideGroups).toOption.map
      (·.names["public.kern1.A!"]?) = some (some "@kern1.A1") := by decide +kernel
  have readToo : (ClassNames.ofGroups busyFont.sideGroups).toOption.map (·.names.size) =
      some 5 := by decide +kernel
  have keys : (plainFont.kerningGroups .first).keys = ["public.kern1.A", "public.kern1.A!"] := by
    decide +kernel
  have keysToo : (busyFont.kerningGroups .first).keys =
      ["public.kern1.A", "public.kern1.A!", "public.kern1.A1"] := by decide +kernel
  have same : ∀ earlier ≤ "public.kern1.A!",
      earlier ∈ plainFont.kerningGroups .first ↔ earlier ∈ busyFont.kerningGroups .first := by
    intro earlier small
    have before : earlier ≠ "public.kern1.A1" := fun same => absurd (same ▸ small) (by decide)
    simp [← Std.ExtTreeMap.mem_keys, keys, keysToo, before]
  obtain ⟨state, named, found⟩ := exists_of_map_toOption read
  obtain ⟨stateToo, namedToo, _⟩ := exists_of_map_toOption readToo
  obtain ⟨name, given, givenToo⟩ := className_stable named namedToo
    (by rw [← Std.ExtTreeMap.mem_keys, keys]; simp)
    (by rw [← Std.ExtTreeMap.mem_keys, keysToo]; simp) same
  obtain rfl := Option.some.inj (given.symm.trans found)
  exact ⟨state, stateToo, named, namedToo, same, found, givenToo⟩

end Font
end FontPrep
