import Mathlib.Tactic.Common

/-!
# Runs of a labelled transition relation

A step may take an input; a run is a sequence of steps together with the inputs it
takes, in their order.
-/
namespace IndoorRobot.LabelledRuns

variable {ι σ : Type*}

/-- The runs from `s`, with the inputs they take and the state they reach. -/
inductive Run (step : Option ι → σ → σ → Prop) (s : σ) : List ι → σ → Prop
  | refl : Run step s [] s
  | tail {inputs : List ι} {input : Option ι} {t u : σ} (h : Run step s inputs t)
      (hstep : step input t u) : Run step s (inputs ++ input.toList) u

namespace Run

variable {step step' : Option ι → σ → σ → Prop} {s t u : σ} {inputs more : List ι}

theorem single (h : step none s t) : Run step s [] t := .tail .refl h

theorem take {input : ι} (h : step (some input) s t) : Run step s [input] t := .tail .refl h

theorem trans (h : Run step s inputs t) (h' : Run step t more u) : Run step s (inputs ++ more) u := by
  induction h' with
  | refl => simpa using h
  | tail _ hstep ih =>
    rw [← List.append_assoc]
    exact .tail ih hstep

/-- What every step keeps, every run keeps. -/
theorem preserves {P : σ → Prop} (hstep : ∀ input s t, step input s t → P s → P t)
    (h : Run step s inputs t) (hs : P s) : P t := by
  induction h with
  | refl => exact hs
  | tail _ hlast ih => exact hstep _ _ _ hlast ih

/-- A relation whose steps are runs of another one has its runs there, too. -/
theorem lift (hstep : ∀ input s t, step input s t → Run step' s input.toList t)
    (h : Run step s inputs t) : Run step' s inputs t := by
  induction h with
  | refl => exact .refl
  | tail _ hlast ih => exact ih.trans (hstep _ _ _ hlast)

end Run

end IndoorRobot.LabelledRuns
