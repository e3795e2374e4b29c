import UrlFilter.Text.Basic

/-!
# Readers

A reader takes a text apart from the front.  It is a function from the text to a value and the
rest of the text, or to a fault.  A reader that loops is given by its step: from a state and the
text that is left the step ends the loop with a result, or goes on with a new state and a shorter
text.  `loop` runs the steps.

The loop is total because it goes on only where the text became shorter.  A step that breaks this
rule ends the loop with the fault `stuck`; no step of this library does.
-/

namespace UrlFilter.Text

/-- What the step of a looping reader says: go on, or end. -/
inductive Progress (σ ρ : Type) where
  /-- Go on with a state and the rest of the text. -/
  | more (state : σ) (rest : Text)
  /-- End with a result and the rest of the text. -/
  | done (result : ρ) (rest : Text)

/-- Runs the steps of a looping reader. -/
def loop {ε σ ρ : Type} (stuck : ε) (step : σ → Text → Except ε (Progress σ ρ)) (state : σ)
    (t : Text) : Except ε (ρ × Text) :=
  match step state t with
  | .error fault => .error fault
  | .ok (.done result rest) => .ok (result, rest)
  | .ok (.more next rest) =>
    if rest.length < t.length then loop stuck step next rest else .error stuck
termination_by t.length

/-- A step that goes on with a shorter text is taken. -/
theorem loop_of_more {ε σ ρ : Type} {stuck : ε} {step : σ → Text → Except ε (Progress σ ρ)}
    {state next : σ} {t rest : Text} (h : step state t = .ok (.more next rest))
    (hl : rest.length < t.length) :
    loop stuck step state t = loop stuck step next rest := by
  rw [loop, h]
  simp [hl]

/-- A step that ends the loop gives its result. -/
theorem loop_of_done {ε σ ρ : Type} {stuck : ε} {step : σ → Text → Except ε (Progress σ ρ)}
    {state : σ} {result : ρ} {t rest : Text} (h : step state t = .ok (.done result rest)) :
    loop stuck step state t = .ok (result, rest) := by
  rw [loop, h]

/-- A step that fails is the fault of the loop. -/
theorem loop_of_error {ε σ ρ : Type} {stuck : ε} {step : σ → Text → Except ε (Progress σ ρ)}
    {state : σ} {fault : ε} {t : Text} (h : step state t = .error fault) :
    loop stuck step state t = .error fault := by
  rw [loop, h]

end UrlFilter.Text
