/-!
# Computations that agree

Two computations that may fail agree when they fail alike, or both return results that are
related. Comparing two runs of one program from related states goes through its calls with
this relation.
-/

namespace SoundBoard.Lib

variable {ε α β γ δ : Type}

/-- Both computations fail in the same way, or return related results. -/
inductive Agree (related : α → β → Prop) : Except ε α → Except ε β → Prop where
  | ok {a : α} {b : β} (both : related a b) : Agree related (.ok a) (.ok b)
  | error (fault : ε) : Agree related (.error fault) (.error fault)

variable {related weaker : α → β → Prop} {left : Except ε α} {right : Except ε β}

/-- A function of a result is returned when the result is. -/
theorem map_eq_ok {x : Except ε α} {f : α → β} {b : β} (run : x.map f = .ok b) :
    ∃ a, x = .ok a ∧ f a = b := by
  cases x with
  | error fault => contradiction
  | ok a => exact ⟨a, rfl, Except.ok.inj run⟩

/-- The next computation returns when both do. -/
theorem bind_eq_ok {x : Except ε α} {f : α → Except ε β} {b : β} (run : x.bind f = .ok b) :
    ∃ a, x = .ok a ∧ f a = .ok b := by
  cases x with
  | error fault => contradiction
  | ok a => exact ⟨a, rfl, run⟩

/-- A weaker relation. -/
theorem Agree.mono (agree : Agree related left right)
    (implies : ∀ a b, related a b → weaker a b) : Agree weaker left right := by
  cases agree with
  | ok both => exact .ok (implies _ _ both)
  | error fault => exact .error fault

/-- Functions of the results agree when they take related results to related ones. -/
theorem Agree.map {onward : γ → δ → Prop} {f : α → γ} {g : β → δ}
    (agree : Agree related left right) (step : ∀ a b, related a b → onward (f a) (g b)) :
    Agree onward (left.map f) (right.map g) := by
  cases agree with
  | ok both => exact .ok (step _ _ both)
  | error fault => exact .error fault

/-- Agreement read from the other side. -/
theorem Agree.symm (agree : Agree related left right) : Agree (fun b a => related a b) right left := by
  cases agree with
  | ok both => exact .ok both
  | error fault => exact .error fault

/-- A computation that returns agrees only with one that returns. -/
theorem Agree.of_ok {a : α} (agree : Agree related (.ok a) right) :
    ∃ b, right = .ok b ∧ related a b := by
  cases agree with
  | ok both => exact ⟨_, rfl, both⟩

end SoundBoard.Lib
