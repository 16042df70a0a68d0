import Mathlib.Data.List.Chain

/-!
# Patterns at the end of a history

A history ends in a pattern if its last elements are one of a first kind, one of a second
kind and any number of a further kind, each related to the one before it. Whether the
pattern is still there after one more element depends on the pattern and the last element
only, so an automaton with three states can follow it.
-/
namespace IndoorRobot.SuffixPatterns

variable {α : Type*} (first second further : α → Prop) (next : α → α → Prop)

/-- The last elements of `history` form the pattern. -/
def EndsIn (history : List α) : Prop :=
  ∃ earlier a b rest, history = earlier ++ a :: b :: rest ∧ first a ∧ second b ∧
    (∀ x ∈ rest, further x) ∧ (a :: b :: rest).IsChain next

variable {first second further next} {history : List α} {x : α}

theorem not_endsIn_singleton : ¬ EndsIn first second further next [x] := by
  rintro ⟨earlier, a, b, rest, h, -⟩
  have hlength := congrArg List.length h
  simp at hlength
  omega

/-- The pattern goes on. -/
theorem EndsIn.concat {last : α} (h : EndsIn first second further next (history ++ [last]))
    (hnext : next last x) (hfurther : further x) :
    EndsIn first second further next (history ++ [last] ++ [x]) := by
  obtain ⟨earlier, a, b, rest, hsplit, hfirst, hsecond, hrest, hchain⟩ := h
  refine ⟨earlier, a, b, rest ++ [x], by rw [hsplit]; simp, hfirst, hsecond, ?_, ?_⟩
  · intro y hy
    rcases List.mem_append.mp hy with hy | hy
    · exact hrest y hy
    · rwa [List.mem_singleton.mp hy]
  · have hlast : (a :: b :: rest).getLast? = some last := by
      have hends := congrArg List.getLast? hsplit
      simpa using hends.symm
    rw [show a :: b :: (rest ++ [x]) = (a :: b :: rest) ++ [x] from rfl, List.isChain_append]
    refine ⟨hchain, by simp, ?_⟩
    intro y hy z hz
    rw [hlast] at hy
    obtain rfl : last = y := by simpa using hy
    obtain rfl : x = z := by simpa using hz
    exact hnext

/-- The pattern after one more element. -/
theorem endsIn_concat_iff {last : α} :
    EndsIn first second further next (history ++ [last] ++ [x]) ↔ next last x ∧
      (EndsIn first second further next (history ++ [last]) ∧ further x ∨
        first last ∧ second x) := by
  constructor
  · rintro ⟨earlier, a, b, rest, hsplit, hfirst, hsecond, hrest, hchain⟩
    rcases List.eq_nil_or_concat rest with rfl | ⟨rest, y, rfl⟩
    · have hends : history ++ [last] ++ [x] = earlier ++ [a] ++ [b] := by simpa using hsplit
      obtain ⟨hinit, hx⟩ := List.append_inj' hends rfl
      obtain ⟨-, hlast⟩ := List.append_inj' hinit rfl
      cases hx
      cases hlast
      exact ⟨by simpa using hchain, .inr ⟨hfirst, hsecond⟩⟩
    · have hends : history ++ [last] ++ [x] = earlier ++ a :: b :: rest ++ [y] := by
        simpa using hsplit
      obtain ⟨hinit, hx⟩ := List.append_inj' hends rfl
      cases hx
      have hparts : (a :: b :: rest ++ [x]).IsChain next := by simpa using hchain
      rw [List.isChain_append] at hparts
      have hlast : (a :: b :: rest).getLast? = some last := by
        have h := congrArg List.getLast? hinit
        simpa using h.symm
      refine ⟨hparts.2.2 last hlast x (by simp), .inl ⟨⟨earlier, a, b, rest, hinit, hfirst, hsecond,
        fun z hz => hrest z (by simp [hz]), hparts.1⟩, hrest x (by simp)⟩⟩
  · rintro ⟨hnext, ⟨hends, hfurther⟩ | ⟨hfirst, hsecond⟩⟩
    · exact hends.concat hnext hfurther
    · exact ⟨history, last, x, [], by simp, hfirst, hsecond, by simp, by simpa using hnext⟩

end IndoorRobot.SuffixPatterns
