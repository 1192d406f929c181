namespace FontPrep

inductive Side where
  | first
  | second
  deriving DecidableEq, Repr

def Side.other : Side → Side
  | .first => .second
  | .second => .first

structure Pair (α β : Type) where
  first : α
  second : β
  deriving DecidableEq, Repr

namespace Pair
variable {α β γ : Type}

instance instOrdPair [Ord α] [Ord β] : Ord (Pair α β) :=
  ⟨compareLex (compareOn Pair.first) (compareOn Pair.second)⟩

instance instTransOrdPair [Ord α] [Ord β] [Std.TransOrd α] [Std.TransOrd β] :
    Std.TransOrd (Pair α β) :=
  inferInstanceAs (Std.TransCmp (compareLex (compareOn Pair.first) (compareOn Pair.second)))

instance instLawfulEqOrdPair [Ord α] [Ord β] [Std.LawfulEqOrd α] [Std.LawfulEqOrd β] :
    Std.LawfulEqOrd (Pair α β) where
  eq_of_compare {a b} h := by
    obtain ⟨hf, hs⟩ := compareLex_eq_eq.mp h
    cases a; cases b
    simp only [compareOn, Std.LawfulEqOrd.compare_eq_iff_eq] at hf hs
    simp [hf, hs]
  compare_self {a} := by simp [compare, compareLex, compareOn]

def get (pair : Pair α α) : Side → α
  | .first => pair.first
  | .second => pair.second

def map (f : α → γ) (pair : Pair α α) : Pair γ γ := ⟨f pair.first, f pair.second⟩

def modify (side : Side) (f : α → α) (pair : Pair α α) : Pair α α :=
  match side with
  | .first => { pair with first := f pair.first }
  | .second => { pair with second := f pair.second }

/-- The pair with `here` on the given side and `there` on the other. -/
def on (side : Side) (here there : α) : Pair α α :=
  match side with
  | .first => ⟨here, there⟩
  | .second => ⟨there, here⟩

@[simp] theorem get_on_self (side : Side) (here there : α) : (on side here there).get side = here := by
  cases side <;> rfl

@[simp] theorem get_on_other (side : Side) (here there : α) :
    (on side here there).get side.other = there := by
  cases side <;> rfl

@[simp] theorem get_map (f : α → γ) (pair : Pair α α) (side : Side) :
    (pair.map f).get side = f (pair.get side) := by
  cases side <;> rfl

theorem get_modify (side other : Side) (f : α → α) (pair : Pair α α) :
    (pair.modify side f).get other = if side = other then f (pair.get other) else pair.get other := by
  cases side <;> cases other <;> rfl

theorem on_inj {side : Side} {here there here' there' : α} :
    on side here there = on side here' there' ↔ here = here' ∧ there = there' := by
  cases side <;> simp [on, and_comm]

end Pair
end FontPrep
