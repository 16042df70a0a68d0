import Mathlib.Data.List.Forall2
import Mathlib.Data.List.Induction
import Mathlib.Order.Defs.PartialOrder
import Mathlib.Tactic.Common

/-!
# Past-time properties of event logs

A log grows at its end. `Since P Q` says that an event with `P` happened and that
every event after it satisfies `Q`, `Always P` that every event satisfies `P`; `P`
may look at the log before its event, so that such statements can be chained. `Alive`
follows a value that one event starts, later ones change and some event ends; `Last`
splits a log at the last event of a kind. A `Pace` makes such a value a limit for the
times of some events.
-/
namespace IndoorRobot.EventLogs

variable {ε : Type*}

/-- Some event satisfies `P`, given what came before it, and `Q` has held since. -/
def Since (P : List ε → ε → Prop) (Q : ε → Prop) (log : List ε) : Prop :=
  ∃ earlier event later, log = earlier ++ event :: later ∧ P earlier event ∧ ∀ e ∈ later, Q e

variable {P : List ε → ε → Prop} {Q : ε → Prop} {log : List ε}

theorem since_now {event : ε} (h : P log event) : Since P Q (log ++ [event]) :=
  ⟨log, event, [], rfl, h, by simp⟩

theorem Since.append (h : Since P Q log) {events : List ε} (hevents : ∀ e ∈ events, Q e) :
    Since P Q (log ++ events) := by
  obtain ⟨earlier, event, later, rfl, hP, hQ⟩ := h
  refine ⟨earlier, event, later ++ events, by simp, hP, ?_⟩
  intro e he
  rcases List.mem_append.mp he with h | h
  · exact hQ e h
  · exact hevents e h

/-- Every event satisfies `P`, given what came before it. -/
def Always (P : List ε → ε → Prop) (log : List ε) : Prop :=
  ∀ earlier event later, log = earlier ++ event :: later → P earlier event

theorem always_nil : Always P [] := by
  intro earlier event later h
  simp at h

theorem Always.concat (h : Always P log) {event : ε} (hevent : P log event) :
    Always P (log ++ [event]) := by
  intro earlier e later hlog
  rcases List.eq_nil_or_concat later with rfl | ⟨between, last, rfl⟩
  · obtain ⟨rfl, hlast⟩ := List.append_inj' hlog rfl
    cases hlast
    exact hevent
  · have hsplit : log ++ [event] = (earlier ++ e :: between) ++ [last] := by simpa using hlog
    exact h _ _ _ (List.append_inj' hsplit rfl).1

theorem always_concat_iff {event : ε} : Always P (log ++ [event]) ↔ Always P log ∧ P log event := by
  constructor
  · intro h
    refine ⟨fun earlier e later hlog => h earlier e (later ++ [event]) ?_, h log event [] rfl⟩
    rw [hlog]
    simp
  · rintro ⟨hlog, hevent⟩
    exact hlog.concat hevent

section Values
variable {τ : Type*} (starts : ε → τ → Prop) (ends : τ → ε → Prop) (next : τ → ε → τ)

/-- Some event started a value, none has ended it since, and the later ones made it `t`. -/
def Alive (log : List ε) (t : τ) : Prop :=
  ∃ earlier event later start, log = earlier ++ event :: later ∧ starts event start ∧
    Always (fun before e => ¬ ends (before.foldl next start) e) later ∧ later.foldl next start = t

variable {starts ends next}

theorem not_alive_nil {t : τ} : ¬ Alive starts ends next [] t := by
  rintro ⟨earlier, event, later, start, h, -⟩
  simp at h

/-- The value after one more event. -/
theorem alive_concat_iff {event : ε} {t : τ} :
    Alive starts ends next (log ++ [event]) t ↔ starts event t ∨
      ∃ before, Alive starts ends next log before ∧ ¬ ends before event ∧ next before event = t := by
  constructor
  · rintro ⟨earlier, first, later, start, hlog, hstart, hkept, hvalue⟩
    rcases List.eq_nil_or_concat later with rfl | ⟨between, last, rfl⟩
    · obtain ⟨-, hlast⟩ := List.append_inj' hlog rfl
      cases hlast
      cases hvalue
      exact .inl hstart
    · have hsplit : log ++ [event] = (earlier ++ first :: between) ++ [last] := by simpa using hlog
      obtain ⟨hbefore, hlast⟩ := List.append_inj' hsplit rfl
      cases hlast
      rw [List.concat_eq_append, always_concat_iff] at hkept
      refine .inr ⟨between.foldl next start, ⟨earlier, first, between, start, hbefore, hstart,
        hkept.1, rfl⟩, hkept.2, ?_⟩
      simpa using hvalue
  · rintro (hstart | ⟨before, ⟨earlier, first, later, start, rfl, hstart, hkept, rfl⟩, hends, rfl⟩)
    · exact ⟨log, event, [], t, rfl, hstart, always_nil, rfl⟩
    · refine ⟨earlier, first, later ++ [event], start, by simp, hstart, hkept.concat hends, ?_⟩
      rw [List.foldl_append]
      rfl

end Values

/-- The last event with `P`, and everything after it. -/
def Last (P : ε → Prop) (log : List ε) (event : ε) (later : List ε) : Prop :=
  P event ∧ (∀ e ∈ later, ¬ P e) ∧ ∃ earlier, log = earlier ++ event :: later

theorem last_concat_iff {P : ε → Prop} {event x : ε} {later : List ε} :
    Last P (log ++ [x]) event later ↔ P x ∧ event = x ∧ later = [] ∨
      ¬ P x ∧ ∃ before, Last P log event before ∧ later = before ++ [x] := by
  constructor
  · rintro ⟨hevent, hlater, earlier, hlog⟩
    rcases List.eq_nil_or_concat later with rfl | ⟨between, last, rfl⟩
    · obtain ⟨-, hlast⟩ := List.append_inj' hlog rfl
      cases hlast
      exact .inl ⟨hevent, rfl, rfl⟩
    · have hsplit : log ++ [x] = (earlier ++ event :: between) ++ [last] := by simpa using hlog
      obtain ⟨hbefore, hlast⟩ := List.append_inj' hsplit rfl
      cases hlast
      refine .inr ⟨hlater x (by simp), between, ⟨hevent, ?_, earlier, hbefore⟩, by simp⟩
      intro e he
      exact hlater e (by simp [he])
  · rintro (⟨hx, rfl, rfl⟩ | ⟨hx, before, ⟨hevent, hbefore, earlier, rfl⟩, rfl⟩)
    · exact ⟨hx, by simp, log, rfl⟩
    · refine ⟨hevent, ?_, earlier, by simp⟩
      intro e he
      rcases List.mem_append.mp he with h | h
      · exact hbefore e h
      · rwa [List.mem_singleton.mp h]

/-- Events of a kind that may come only once the limits are past which the log before them sets:
some events start a limit, later ones move it or end it. -/
structure Pace (ε τ : Type*) where
  starts : ε → τ → Prop
  ends : τ → ε → Prop
  next : τ → ε → τ
  kind : ε → τ → Prop

namespace Pace

variable {τ : Type*} [Preorder τ] (p : Pace ε τ)

/-- Every limit that the log sets is past at time `t`. -/
def Open (log : List ε) (t : τ) : Prop := ∀ limit, Alive p.starts p.ends p.next log limit → limit ≤ t

/-- Every event of the kind came when it was open. -/
def Keeps : List ε → Prop := Always fun earlier event => ∀ t, p.kind event t → p.Open earlier t

variable {p} {t t' : τ}

theorem open_nil : p.Open [] t := fun _ h => absurd h not_alive_nil

theorem Open.mono (h : p.Open log t) (ht : t ≤ t') : p.Open log t' :=
  fun limit hlimit => le_trans (h limit hlimit) ht

theorem Open.concat (h : p.Open log t) {event : ε} (hstarts : ∀ limit, p.starts event limit → limit ≤ t')
    (hnext : ∀ limit ≤ t, ¬ p.ends limit event → p.next limit event ≤ t') :
    p.Open (log ++ [event]) t' := by
  intro limit hlimit
  obtain hnew | ⟨before, hbefore, hends, rfl⟩ := alive_concat_iff.mp hlimit
  · exact hstarts limit hnew
  · exact hnext before (h before hbefore) hends

/-- An event that the limits have nothing to do with. -/
theorem Open.skip (h : p.Open log t) {event : ε} (hstarts : ∀ limit, ¬ p.starts event limit)
    (hnext : ∀ limit, p.next limit event = limit) : p.Open (log ++ [event]) t := by
  refine h.concat (fun limit hlimit => absurd hlimit (hstarts limit)) ?_
  intro limit hlimit _
  rw [hnext]
  exact hlimit

end Pace

section Recording
variable {ι σ : Type*} (step : ι → σ → ε × σ) (s : σ)

/-- A run in which every input leaves one event on the log. -/
def recordRun (inputs : List ι) : σ × List ε :=
  inputs.foldl (fun r i => ((step i r.1).2, r.2 ++ [(step i r.1).1])) (s, [])

theorem recordRun_concat (inputs : List ι) (i : ι) :
    recordRun step s (inputs ++ [i]) = ((step i (recordRun step s inputs).1).2,
      (recordRun step s inputs).2 ++ [(step i (recordRun step s inputs).1).1]) := by
  rw [recordRun, List.foldl_append]
  rfl

variable {step s}

/-- Every part of the log from its beginning is the log of a run. -/
theorem recordRun_of_append {inputs : List ι} {earlier later : List ε}
    (h : (recordRun step s inputs).2 = earlier ++ later) :
    ∃ before, (recordRun step s before).2 = earlier := by
  induction inputs using List.reverseRecOn generalizing later with
  | nil =>
    have hnil : [] = earlier ++ later := h
    refine ⟨[], ?_⟩
    rw [(List.append_eq_nil_iff.mp hnil.symm).1]
    rfl
  | append_singleton inputs i ih =>
    rcases List.eq_nil_or_concat later with rfl | ⟨between, last, rfl⟩
    · exact ⟨inputs ++ [i], by simpa using h⟩
    · rw [recordRun_concat] at h
      have hsplit : (recordRun step s inputs).2 ++ [(step i (recordRun step s inputs).1).1] =
          (earlier ++ between) ++ [last] := by simpa using h
      exact ih (List.append_inj' hsplit rfl).1

/-- Every event on the log is the one of some input, after the log before it. -/
theorem recordRun_of_event {inputs : List ι} {earlier later : List ε} {event : ε}
    (h : (recordRun step s inputs).2 = earlier ++ event :: later) :
    ∃ before i, (recordRun step s before).2 = earlier ∧
      (step i (recordRun step s before).1).1 = event := by
  have hsplit : (recordRun step s inputs).2 = (earlier ++ [event]) ++ later := by simpa using h
  obtain ⟨through, hthrough⟩ := recordRun_of_append hsplit
  rcases List.eq_nil_or_concat through with rfl | ⟨before, i, rfl⟩
  · have hlength := congrArg List.length hthrough
    simp [recordRun] at hlength
  · rw [List.concat_eq_append, recordRun_concat] at hthrough
    obtain ⟨hbefore, hevent⟩ := List.append_inj' hthrough rfl
    exact ⟨before, i, hbefore, by simpa using hevent⟩

end Recording

section Places
variable {τ : Type*} {view : ε → Option τ}

theorem Always.at_place (h : Always P log) {place : ℕ} {event : ε} (hplace : log[place]? = some event) :
    P (log.take place) event := by
  obtain ⟨hlt, hevent⟩ := List.getElem?_eq_some_iff.mp hplace
  refine h _ event (log.drop (place + 1)) ?_
  rw [← hevent, List.getElem_cons_drop, List.take_append_drop]

/-- Where the values come from. -/
def Stem (view : ε → Option τ) (log : List ε) (value : τ) (place : ℕ) : Prop :=
  ∃ event, log[place]? = some event ∧ view event = some value

/-- Values seen in a log stem from different events, in their order. -/
theorem exists_places {values : List τ} (h : values.Sublist (log.filterMap view)) :
    ∃ places : List ℕ, places.Pairwise (· < ·) ∧ List.Forall₂ (Stem view log) values places := by
  induction log generalizing values with
  | nil =>
    have hnone : values = [] := by simpa using h
    exact ⟨[], .nil, hnone ▸ .nil⟩
  | cons event log ih =>
    have hshift {values : List τ} (h : values.Sublist (log.filterMap view)) :
        ∃ places : List ℕ, places.Pairwise (· < ·) ∧ (∀ place ∈ places, 0 < place) ∧
          List.Forall₂ (Stem view (event :: log)) values places := by
      obtain ⟨places, hincreasing, hplaces⟩ := ih h
      refine ⟨places.map (· + 1), ?_, by simp, ?_⟩
      · rw [List.pairwise_map]
        exact hincreasing.imp fun hlt => Nat.succ_lt_succ hlt
      · exact List.forall₂_map_right_iff.mpr hplaces
    rw [List.filterMap_cons] at h
    split at h
    · obtain ⟨places, hincreasing, -, hplaces⟩ := hshift h
      exact ⟨places, hincreasing, hplaces⟩
    · rename_i value hvalue
      rcases List.sublist_cons_iff.mp h with hskipped | ⟨rest, rfl, hrest⟩
      · obtain ⟨places, hincreasing, -, hplaces⟩ := hshift hskipped
        exact ⟨places, hincreasing, hplaces⟩
      · obtain ⟨places, hincreasing, hpositive, hplaces⟩ := hshift hrest
        exact ⟨0 :: places, hincreasing.cons hpositive, .cons ⟨event, rfl, hvalue⟩ hplaces⟩

end Places

end IndoorRobot.EventLogs
