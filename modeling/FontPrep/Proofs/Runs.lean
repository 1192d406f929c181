import Mathlib.Data.List.Induction

namespace FontPrep

variable {ε σ α β : Type} {step : σ → α → Except ε σ} {items : List α} {start final : σ}

/-- What a step keeps, a run that succeeds keeps; the condition may speak of what is done. -/
theorem foldlM_keeps (holds : List α → σ → Prop)
    (keeps : ∀ {done item state next}, holds done state → step state item = .ok next →
      holds (done ++ [item]) next)
    (begins : holds [] start) (run : items.foldlM step start = .ok final) : holds items final := by
  -- The condition speaks of all that is done, so the induction is about the rest of a run.
  suffices later : ∀ done start, holds done start → items.foldlM step start = .ok final →
      holds (done ++ items) final by
    simpa using later [] start begins run
  clear begins run
  induction items with
  | nil =>
    rintro done start kept ⟨⟩
    simpa using kept
  | cons item rest ih =>
    intro done start kept run
    rw [List.foldlM_cons] at run
    cases stepped : step start item with
    | error cause => simp [stepped, bind, Except.bind] at run
    | ok middle =>
      simp only [stepped, bind, Except.bind] at run
      simpa using ih _ middle (keeps kept stepped) run

theorem foldlM_append_singleton_eq_ok_iff {item : α} :
    (items ++ [item]).foldlM step start = .ok final ↔
      ∃ state, items.foldlM step start = .ok state ∧ step state item = .ok final := by
  simp only [List.foldlM_append, List.foldlM_cons, List.foldlM_nil, bind_pure]
  cases items.foldlM step start with
  | error cause => simp [bind, Except.bind]
  | ok state => simp [bind, Except.bind]

theorem exists_foldlM (goes : ∀ {done item rest state}, items = done ++ item :: rest →
      done.foldlM step start = .ok state → ∃ next, step state item = .ok next) :
    ∃ final, items.foldlM step start = .ok final := by
  suffices upTo : ∀ done rest, items = done ++ rest →
      ∃ final, done.foldlM step start = .ok final from upTo items [] (by simp)
  intro done
  -- A step is known to succeed after a successful run only, so the last item is taken off.
  induction done using List.reverseRecOn with
  | nil => exact fun _ _ => ⟨start, rfl⟩
  | append_singleton done item ih =>
    intro rest whole
    have split : items = done ++ item :: rest := by simpa using whole
    obtain ⟨state, run⟩ := ih _ split
    obtain ⟨next, stepped⟩ := goes split run
    exact ⟨next, by simp [List.foldlM_append, run, stepped, bind, Except.bind, pure, Except.pure]⟩

/-- What is read of the result of a run tells that the run succeeded. -/
theorem exists_of_map_toOption {result : Except ε σ} {read : σ → β} {seen : β}
    (shown : result.toOption.map read = some seen) :
    ∃ value, result = .ok value ∧ read value = seen := by
  cases result with
  | error cause => cases shown
  | ok value => exact ⟨value, rfl, Option.some.inj shown⟩

end FontPrep
