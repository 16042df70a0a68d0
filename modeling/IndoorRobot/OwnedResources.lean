import IndoorRobot.EventLogs
import Mathlib.Data.Set.Insert
import Mathlib.Logic.Function.Basic

/-!
# Resources and their owners

Resources are acquired, used and released. A list of such accesses is disciplined when
it uses and releases what is held only. Owners that hold one resource each at most keep
it so, as long as nobody acquires what is held already.
-/
namespace IndoorRobot.OwnedResources

open EventLogs

variable {ρ ι : Type*}

inductive Access (ρ : Type*) where
  | acquire (r : ρ)
  | use (r : ρ)
  | release (r : ρ)

namespace Access

/-- What is held after an access. -/
def after (held : Set ρ) : Access ρ → Set ρ
  | acquire r => insert r held
  | use _ => held
  | release r => held \ {r}

/-- Only what is held is used and released, and only what is not is acquired. -/
def Legal (held : Set ρ) : Access ρ → Prop
  | acquire r => r ∉ held
  | use r => r ∈ held
  | release r => r ∈ held

end Access

/-- What is held after all the accesses. -/
def held (accesses : List (Access ρ)) : Set ρ := accesses.foldl Access.after ∅

/-- Each access is legal at its time. -/
def Disciplined (accesses : List (Access ρ)) : Prop :=
  Always (fun earlier a => a.Legal (held earlier)) accesses

theorem held_concat (accesses : List (Access ρ)) (a : Access ρ) :
    held (accesses ++ [a]) = a.after (held accesses) := by
  rw [held, List.foldl_append]
  rfl

/-- What is held belongs to the owners, each resource to one of them. -/
structure Owned (owner : ι → Option ρ) (accesses : List (Access ρ)) : Prop where
  disciplined : Disciplined accesses
  held : ∀ r, r ∈ held accesses ↔ ∃ i, owner i = some r
  apart : ∀ i j r, owner i = some r → owner j = some r → i = j

namespace Owned

variable {owner : ι → Option ρ} {accesses : List (Access ρ)} {i : ι} {r : ρ}

theorem initial : Owned (fun _ : ι => (none : Option ρ)) [] :=
  ⟨always_nil, by simp [OwnedResources.held], by simp⟩

theorem use (h : Owned owner accesses) (hi : owner i = some r) :
    Owned owner (accesses ++ [.use r]) where
  disciplined := h.disciplined.concat ((h.held r).mpr ⟨i, hi⟩)
  held q := by
    rw [held_concat]
    exact h.held q
  apart := h.apart

variable [DecidableEq ι]

theorem acquire (h : Owned owner accesses) (hi : owner i = none)
    (hr : r ∉ OwnedResources.held accesses) :
    Owned (Function.update owner i (some r)) (accesses ++ [.acquire r]) where
  disciplined := h.disciplined.concat hr
  held q := by
    rw [held_concat, Access.after, Set.mem_insert_iff, h.held]
    constructor
    · rintro (rfl | ⟨j, hj⟩)
      · exact ⟨i, Function.update_self ..⟩
      · have hne : j ≠ i := fun heq => by simp [heq, hi] at hj
        exact ⟨j, (Function.update_of_ne hne ..).trans hj⟩
    · rintro ⟨j, hj⟩
      by_cases heq : j = i
      · rw [heq, Function.update_self, Option.some.injEq] at hj
        exact .inl hj.symm
      · rw [Function.update_of_ne heq] at hj
        exact .inr ⟨j, hj⟩
  apart j k q hj hk := by
    have hfree (l : ι) (hl : owner l = some r) : False := hr ((h.held r).mpr ⟨l, hl⟩)
    by_cases hji : j = i <;> by_cases hki : k = i
    · rw [hji, hki]
    · rw [hji, Function.update_self, Option.some.injEq] at hj
      rw [Function.update_of_ne hki, ← hj] at hk
      exact (hfree k hk).elim
    · rw [hki, Function.update_self, Option.some.injEq] at hk
      rw [Function.update_of_ne hji, ← hk] at hj
      exact (hfree j hj).elim
    · rw [Function.update_of_ne hji] at hj
      rw [Function.update_of_ne hki] at hk
      exact h.apart j k q hj hk

theorem release (h : Owned owner accesses) (hi : owner i = some r) :
    Owned (Function.update owner i none) (accesses ++ [.release r]) where
  disciplined := h.disciplined.concat ((h.held r).mpr ⟨i, hi⟩)
  held q := by
    rw [held_concat, Access.after, Set.mem_sdiff, Set.mem_singleton_iff, h.held]
    constructor
    · rintro ⟨⟨j, hj⟩, hne⟩
      have hji : j ≠ i := by
        rintro rfl
        rw [hi, Option.some.injEq] at hj
        exact hne hj.symm
      exact ⟨j, (Function.update_of_ne hji ..).trans hj⟩
    · rintro ⟨j, hj⟩
      by_cases hji : j = i
      · rw [hji, Function.update_self] at hj
        cases hj
      · rw [Function.update_of_ne hji] at hj
        refine ⟨⟨j, hj⟩, ?_⟩
        rintro rfl
        exact hji (h.apart j i q hj hi)
  apart j k q hj hk := by
    have hkept (l : ι) (hl : Function.update owner i none l = some q) : owner l = some q := by
      by_cases hli : l = i
      · rw [hli, Function.update_self] at hl
        cases hl
      · rwa [Function.update_of_ne hli] at hl
    exact h.apart j k q (hkept j hj) (hkept k hk)

end Owned

end IndoorRobot.OwnedResources
