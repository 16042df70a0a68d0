import Mathlib.Data.Set.Basic
import Mathlib.Logic.Function.Basic
import Mathlib.Tactic.Common

/-!
# Registers with a preload

What is written to such registers comes into force at an update event, for all of them
at once; while updates are held off, nothing does. Updates come at any time between two
accesses. If what has been written belongs to a given set of settings whenever updates
are not held off, then only settings of this set are ever in force.
-/
namespace IndoorRobot.PreloadRegisters

variable {ι α : Type*}

/-- The values last written, those in force, and whether updates are held off. -/
structure Registers (ι α : Type*) where
  written : ι → α
  inForce : ι → α
  held : Bool := false

inductive Access (ι α : Type*) where
  | write (i : ι) (value : α)
  | hold
  | release

namespace Registers

/-- The update event. -/
def update (r : Registers ι α) : Registers ι α :=
  if r.held then r else { r with inForce := r.written }

/-- The setting in force belongs to `A`, and so does the one that an update would bring. -/
structure Within (A : Set (ι → α)) (r : Registers ι α) : Prop where
  inForce : r.inForce ∈ A
  written : r.held = false → r.written ∈ A

variable {A : Set (ι → α)} {r r' : Registers ι α}

theorem Within.mono {B : Set (ι → α)} (h : r.Within A) (hAB : A ⊆ B) : r.Within B :=
  ⟨hAB h.inForce, fun hfree => hAB (h.written hfree)⟩

theorem update_written (r : Registers ι α) : r.update.written = r.written ∧ r.update.held = r.held := by
  rw [update]
  split_ifs <;> exact ⟨rfl, rfl⟩

theorem Within.update (h : r.Within A) : r.update.Within A := by
  obtain ⟨hwritten, hheld⟩ := r.update_written
  refine ⟨?_, ?_⟩
  · rw [Registers.update]
    split_ifs with hhold
    · exact h.inForce
    · exact h.written (by simpa using hhold)
  · rw [hwritten, hheld]
    exact h.written

variable [DecidableEq ι]

def access (r : Registers ι α) : Access ι α → Registers ι α
  | .write i value => { r with written := Function.update r.written i value }
  | .hold => { r with held := true }
  | .release => { r with held := false }

def accesses (r : Registers ι α) (as : List (Access ι α)) : Registers ι α := as.foldl access r

/-- However far the accesses have come, an update would bring a setting of `A`. -/
def Obeys (A : Set (ι → α)) (r : Registers ι α) : List (Access ι α) → Prop
  | [] => True
  | a :: rest => ((r.access a).held = false → (r.access a).written ∈ A) ∧ Obeys A (r.access a) rest

theorem access_congr (hwritten : r.written = r'.written) (hheld : r.held = r'.held)
    (a : Access ι α) : (r.access a).written = (r'.access a).written ∧
      (r.access a).held = (r'.access a).held := by
  cases a <;> simp [access, hwritten, hheld]

theorem accesses_congr (hwritten : r.written = r'.written) (hheld : r.held = r'.held)
    (as : List (Access ι α)) : (r.accesses as).written = (r'.accesses as).written ∧
      (r.accesses as).held = (r'.accesses as).held := by
  induction as generalizing r r' with
  | nil => exact ⟨hwritten, hheld⟩
  | cons a rest ih =>
    obtain ⟨hwritten', hheld'⟩ := access_congr hwritten hheld a
    exact ih hwritten' hheld'

theorem Obeys.congr {as : List (Access ι α)} (h : r.Obeys A as) (hwritten : r.written = r'.written)
    (hheld : r.held = r'.held) : r'.Obeys A as := by
  induction as generalizing r r' with
  | nil => trivial
  | cons a rest ih =>
    obtain ⟨hwritten', hheld'⟩ := access_congr hwritten hheld a
    refine ⟨?_, ih h.2 hwritten' hheld'⟩
    rw [← hwritten', ← hheld']
    exact h.1

theorem Within.access (h : r.Within A) {a : Access ι α} {rest : List (Access ι α)}
    (hobeys : r.Obeys A (a :: rest)) : (r.access a).Within A := by
  refine ⟨?_, hobeys.1⟩
  cases a <;> exact h.inForce

/-- Writes that keep every setting of `A` in `A` need not be held off. -/
theorem Within.obeys_writes (h : r.Within A) (ws : List (ι × α))
    (hws : ∀ w ∈ ws, ∀ values ∈ A, Function.update values w.1 w.2 ∈ A) :
    r.Obeys A (ws.map fun w => .write w.1 w.2) := by
  induction ws generalizing r with
  | nil => trivial
  | cons w ws ih =>
    have hwritten : r.held = false → Function.update r.written w.1 w.2 ∈ A :=
      fun hfree => hws w List.mem_cons_self _ (h.written hfree)
    exact ⟨hwritten, ih ⟨h.inForce, hwritten⟩ fun v hv => hws v (List.mem_cons_of_mem _ hv)⟩

/-- Accesses between a hold and a release need only end in a setting of `A`. -/
theorem obeys_held (hheld : r.held = true) (ws : List (ι × α))
    (hlast : (r.accesses (ws.map fun w => .write w.1 w.2)).written ∈ A) :
    r.Obeys A (ws.map (fun w => .write w.1 w.2) ++ [.release]) := by
  induction ws generalizing r with
  | nil => exact ⟨fun _ => hlast, trivial⟩
  | cons w ws ih =>
    have hstill : (r.access (.write w.1 w.2)).held = true := hheld
    refine ⟨fun hfree => ?_, ih hstill hlast⟩
    rw [hstill] at hfree
    cases hfree

theorem obeys_block (ws : List (ι × α))
    (hlast : (r.accesses (ws.map fun w => .write w.1 w.2)).written ∈ A) :
    r.Obeys A (.hold :: (ws.map (fun w => .write w.1 w.2) ++ [.release])) := by
  refine ⟨fun hfree => ?_, obeys_held rfl ws ?_⟩
  · cases hfree
  · have hsame : ∀ (ws : List (ι × α)) (r r' : Registers ι α), r.written = r'.written →
        (r.accesses (ws.map fun w => Access.write w.1 w.2)).written =
          (r'.accesses (ws.map fun w => Access.write w.1 w.2)).written := by
      intro ws
      induction ws with
      | nil => exact fun r r' h => h
      | cons w ws ih => exact fun r r' h => ih _ _ (by simp [Registers.access, h])
    rw [hsame ws (r.access .hold) r rfl]
    exact hlast

end Registers

end IndoorRobot.PreloadRegisters
