import Mathlib.Tactic.Common

/-!
# Stop-and-wait exchanges

A sender has at most one open transaction and repeats it until it is answered; a
receiver works on one transaction at a time, remembers the last one it has settled
and repeats that answer. Both channels keep the order of what they deliver and may
lose anything. `Orderly` describes everything that can be under way: at most the
settled and the open transaction, in this order, in both directions. A receiver that
has gone down stays down for the rest of the exchange.
-/
namespace IndoorRobot.StopAndWait

/-- A queue with an older part in `p` and a newer part in `q`. -/
def Segmented {α : Type*} (p q : α → Prop) (l : List α) : Prop :=
  ∃ older newer, l = older ++ newer ∧ (∀ x ∈ older, p x) ∧ ∀ x ∈ newer, q x

namespace Segmented

variable {α : Type*} {p q : α → Prop} {l : List α}

theorem ofOlder (h : ∀ x ∈ l, p x) : Segmented p q l := ⟨l, [], by simp, h, by simp⟩

theorem push (h : Segmented p q l) {x : α} (hx : q x) : Segmented p q (l ++ [x]) := by
  obtain ⟨older, newer, rfl, holder, hnewer⟩ := h
  refine ⟨older, newer ++ [x], by simp, holder, ?_⟩
  intro y hy
  rcases List.mem_append.mp hy with hy | hy
  · exact hnewer y hy
  · exact List.mem_singleton.mp hy ▸ hx

theorem pop {x : α} (h : Segmented p q (x :: l)) :
    p x ∧ Segmented p q l ∨ q x ∧ ∀ y ∈ l, q y := by
  obtain ⟨older, newer, hl, holder, hnewer⟩ := h
  cases older with
  | nil =>
    subst hl
    exact .inr ⟨hnewer x (by simp), fun y hy => hnewer y (by simp [hy])⟩
  | cons y older =>
    obtain ⟨rfl, rfl⟩ := List.cons.inj hl
    exact .inl ⟨holder x (by simp), older, newer, rfl, fun y hy => holder y (by simp [hy]), hnewer⟩

theorem sublist (h : Segmented p q l) {l' : List α} (hsub : l'.Sublist l) : Segmented p q l' := by
  obtain ⟨older, newer, rfl, holder, hnewer⟩ := h
  obtain ⟨older', newer', rfl, holder', hnewer'⟩ := List.sublist_append_iff.mp hsub
  exact ⟨older', newer', rfl, fun x hx => holder x (holder'.subset hx),
    fun x hx => hnewer x (hnewer'.subset hx)⟩

theorem forall_or (h : Segmented p q l) : ∀ x ∈ l, p x ∨ q x := by
  obtain ⟨older, newer, rfl, holder, hnewer⟩ := h
  intro x hx
  rcases List.mem_append.mp hx with hx | hx
  · exact .inl (holder x hx)
  · exact .inr (hnewer x hx)

end Segmented

/-- The receiver: down, at rest after the last settled transaction, or working. -/
inductive Receiver (τ : Type*) where
  | down | resting (last : Option τ) | working (t : τ)

structure Exchange (τ ρ : Type*) where
  settled : Option τ := none
  pending : Option τ := none
  receiver : Receiver τ := .resting none
  requests : List τ := []
  answers : List (τ × ρ) := []

section Orderly
variable {τ ρ : Type*} (Fits : Option τ → τ → Prop) (success : ρ) (Permitted : ρ → Prop)

/-- How far the receiver has got with the open transaction `t`. -/
inductive Progress (settled : Option τ) (t : τ) : Receiver τ → List τ → List (τ × ρ) → Prop
  | down (requests : List τ) (answers : List (τ × ρ)) : Progress settled t .down requests answers
  | waiting (requests : List τ) (answers : List (τ × ρ)) (hfits : Fits settled t)
      (hrequests : Segmented (fun x => settled = some x) (fun x => x = t) requests)
      (hanswers : ∀ a ∈ answers, settled = some a.1) :
      Progress settled t (.resting settled) requests answers
  | working (requests : List τ) (answers : List (τ × ρ)) (hrequests : ∀ x ∈ requests, x = t)
      (hanswers : ∀ a ∈ answers, settled = some a.1) :
      Progress settled t (.working t) requests answers
  | done (requests : List τ) (answers : List (τ × ρ)) (hrequests : ∀ x ∈ requests, x = t)
      (hanswers : ∀ a ∈ answers, a.1 = t → a.2 = success) :
      Progress settled t (.resting (some t)) requests answers

/-- Everything that can be under way. -/
inductive Orderly : Exchange τ ρ → Prop
  | quiet (settled : Option τ) (receiver : Receiver τ) (requests : List τ) (answers : List (τ × ρ))
      (hanswers : ∀ a ∈ answers, settled = some a.1 ∧ Permitted a.2)
      (hreceiver : receiver = .down ∨
        receiver = .resting settled ∧ ∀ x ∈ requests, settled = some x) :
      Orderly { settled, pending := none, receiver, requests, answers }
  | busy (settled : Option τ) (t : τ) (receiver : Receiver τ) (requests : List τ)
      (answers : List (τ × ρ)) (hnew : settled ≠ some t)
      (hanswers : Segmented (fun a => settled = some a.1 ∧ Permitted a.2)
        (fun a => a.1 = t ∧ Permitted a.2) answers)
      (hprogress : Progress Fits success settled t receiver requests answers) :
      Orderly { settled, pending := some t, receiver, requests, answers }

end Orderly

namespace Orderly

variable {τ ρ : Type*} {Fits : Option τ → τ → Prop} {success : ρ} {Permitted : ρ → Prop}
  {e : Exchange τ ρ}

/-- A fresh exchange, with a receiver that may not even be there. -/
theorem fresh {receiver : Receiver τ} (h : receiver = .down ∨ receiver = .resting none) :
    Orderly Fits success Permitted { receiver := receiver } := by
  refine .quiet none receiver [] [] (by simp) ?_
  rcases h with h | h
  · exact .inl h
  · exact .inr ⟨h, by simp⟩

/-- The sender opens a transaction. -/
theorem begin (h : Orderly Fits success Permitted e) (hpending : e.pending = none) {t : τ}
    (hnew : e.settled ≠ some t) (hfits : e.receiver ≠ .down → Fits e.settled t) :
    Orderly Fits success Permitted
      { e with pending := some t, requests := e.requests ++ [t] } := by
  cases h with
  | busy => cases hpending
  | quiet settled receiver requests answers hanswers hreceiver =>
    refine .busy settled t receiver _ answers hnew (.ofOlder hanswers) ?_
    rcases hreceiver with rfl | ⟨rfl, hrequests⟩
    · exact .down _ _
    · exact .waiting _ _ (hfits (by simp)) ((Segmented.ofOlder hrequests).push rfl)
        fun a ha => (hanswers a ha).1

/-- The sender repeats the open transaction. -/
theorem retry (h : Orderly Fits success Permitted e) {t : τ} (hpending : e.pending = some t) :
    Orderly Fits success Permitted { e with requests := e.requests ++ [t] } := by
  cases h with
  | quiet => cases hpending
  | busy settled t' receiver requests answers hnew hanswers hprogress =>
    cases hpending
    refine .busy settled t receiver _ answers hnew hanswers ?_
    have hpushed (hrequests : ∀ x ∈ requests, x = t) : ∀ x ∈ requests ++ [t], x = t := by
      simpa [or_imp, forall_and] using hrequests
    cases hprogress with
    | down => exact .down _ _
    | waiting _ _ hfits hrequests hold => exact .waiting _ _ hfits (hrequests.push rfl) hold
    | working _ _ hrequests hold => exact .working _ _ (hpushed hrequests) hold
    | done _ _ hrequests hsuccess => exact .done _ _ (hpushed hrequests) hsuccess

/-- The receiver goes down. -/
theorem fail (h : Orderly Fits success Permitted e) :
    Orderly Fits success Permitted { e with receiver := .down } := by
  cases h with
  | quiet settled receiver requests answers hanswers _ =>
    exact .quiet settled .down requests answers hanswers (.inl rfl)
  | busy settled t receiver requests answers hnew hanswers _ =>
    exact .busy settled t .down requests answers hnew hanswers (.down _ _)

/-- The channels lose something, or something is taken from them without effect. -/
theorem lose (h : Orderly Fits success Permitted e) {requests : List τ} {answers : List (τ × ρ)}
    (hrequests : requests.Sublist e.requests) (hanswers : answers.Sublist e.answers) :
    Orderly Fits success Permitted { e with requests := requests, answers := answers } := by
  cases h with
  | quiet settled receiver _ _ hkept hreceiver =>
    refine .quiet settled receiver requests answers (fun a ha => hkept a (hanswers.subset ha)) ?_
    exact hreceiver.imp_right fun ⟨hresting, hsettled⟩ =>
      ⟨hresting, fun x hx => hsettled x (hrequests.subset hx)⟩
  | busy settled t receiver _ _ hnew hkept hprogress =>
    refine .busy settled t receiver requests answers hnew (hkept.sublist hanswers) ?_
    cases hprogress with
    | down => exact .down _ _
    | waiting _ _ hfits hsegments hold =>
      exact .waiting _ _ hfits (hsegments.sublist hrequests) fun a ha => hold a (hanswers.subset ha)
    | working _ _ hall hold =>
      exact .working _ _ (fun x hx => hall x (hrequests.subset hx))
        fun a ha => hold a (hanswers.subset ha)
    | done _ _ hall hsuccess =>
      exact .done _ _ (fun x hx => hall x (hrequests.subset hx))
        fun a ha => hsuccess a (hanswers.subset ha)

/-- What a receiver that is up can be asked. -/
theorem request_cases (h : Orderly Fits success Permitted e) {t : τ} (ht : t ∈ e.requests) :
    e.receiver = .down ∨ e.receiver = .resting (some t) ∨ e.receiver = .working t ∨
      e.receiver = .resting e.settled ∧ e.settled ≠ some t ∧ e.pending = some t ∧
        Fits e.settled t := by
  cases h with
  | quiet settled receiver requests answers hanswers hreceiver =>
    rcases hreceiver with hdown | ⟨rfl, hsettled⟩
    · exact .inl hdown
    · right
      left
      exact congrArg Receiver.resting (hsettled t ht)
  | busy settled t' receiver requests answers hnew hanswers hprogress =>
    cases hprogress with
    | down => exact .inl rfl
    | waiting _ _ hfits hrequests hold =>
      rcases hrequests.forall_or t ht with hsettled | rfl
      · exact .inr (.inl (congrArg Receiver.resting hsettled))
      · exact .inr (.inr (.inr ⟨rfl, hnew, rfl, hfits⟩))
    | working _ _ hrequests hold => exact .inr (.inr (.inl (by rw [hrequests t ht])))
    | done _ _ hrequests hsuccess => exact .inr (.inl (by rw [hrequests t ht]))

theorem permitted (h : Orderly Fits success Permitted e) : ∀ a ∈ e.answers, Permitted a.2 := by
  cases h with
  | quiet settled receiver requests answers hanswers _ => exact fun a ha => (hanswers a ha).2
  | busy settled t receiver requests answers hnew hanswers _ =>
    exact fun a ha => (hanswers.forall_or a ha).elim And.right And.right

/-- The receiver repeats the answer to its last transaction. -/
theorem replay (h : Orderly Fits success Permitted e) (hsuccess : Permitted success) {t : τ}
    (hreceiver : e.receiver = .resting (some t)) :
    Orderly Fits success Permitted { e with answers := e.answers ++ [(t, success)] } := by
  have hpermitted := h.permitted
  cases h with
  | quiet settled receiver requests answers hanswers hrest =>
    rcases hrest with rfl | ⟨rfl, hrequests⟩
    · cases hreceiver
    · cases hreceiver
      refine .quiet (some t) _ requests _ ?_ (.inr ⟨rfl, hrequests⟩)
      simpa [or_imp, forall_and, hsuccess] using hanswers
  | busy settled t' receiver requests answers hnew hanswers hprogress =>
    cases hprogress with
    | down => cases hreceiver
    | working => cases hreceiver
    | waiting _ _ hfits hrequests hold =>
      cases hreceiver
      have hold' : ∀ a ∈ answers ++ [(t, success)], some t = some a.1 := by
        simpa [or_imp, forall_and] using hold
      refine .busy (some t) t' _ requests _ hnew (.ofOlder ?_) (.waiting _ _ hfits hrequests hold')
      intro a ha
      refine ⟨hold' a ha, ?_⟩
      rcases List.mem_append.mp ha with ha | ha
      · exact hpermitted a ha
      · exact List.mem_singleton.mp ha ▸ hsuccess
    | done _ _ hrequests hdone =>
      cases hreceiver
      refine .busy settled t _ requests _ hnew (hanswers.push ⟨rfl, hsuccess⟩)
        (.done _ _ hrequests ?_)
      simpa [or_imp, forall_and] using hdone

/-- The receiver takes up the open transaction. -/
theorem accept (h : Orderly Fits success Permitted e) {t : τ} {rest : List τ}
    (hrequests : e.requests = t :: rest) (hreceiver : e.receiver = .resting e.settled)
    (hnew : e.settled ≠ some t) :
    Orderly Fits success Permitted { e with requests := rest, receiver := .working t } := by
  cases h with
  | quiet settled receiver requests answers hanswers hrest =>
    rcases hrest with rfl | ⟨rfl, hsettled⟩
    · cases hreceiver
    · cases hrequests
      exact absurd (hsettled t (by simp)) hnew
  | busy settled t' receiver requests answers hopen hanswers hprogress =>
    cases hrequests
    cases hprogress with
    | down => cases hreceiver
    | working => cases hreceiver
    | waiting _ _ hfits hsegments hold =>
      rcases hsegments.pop with ⟨hsettled, _⟩ | ⟨rfl, hrest⟩
      · exact absurd hsettled hnew
      · exact .busy settled t _ rest answers hopen hanswers (.working _ _ hrest hold)
    | done _ _ hall hdone =>
      cases hreceiver
      exact absurd rfl hopen

/-- The receiver settles its transaction, or goes down while it answers. -/
theorem complete (h : Orderly Fits success Permitted e) {t : τ} {result : ρ}
    (hreceiver : e.receiver = .working t) (hresult : Permitted result) :
    Orderly Fits success Permitted
        { e with receiver := .down, answers := e.answers ++ [(t, result)] } ∧
      (result = success → Orderly Fits success Permitted
        { e with receiver := .resting (some t), answers := e.answers ++ [(t, result)] }) := by
  cases h with
  | quiet settled receiver requests answers hanswers hrest =>
    rcases hrest with rfl | ⟨rfl, _⟩ <;> cases hreceiver
  | busy settled t' receiver requests answers hnew hanswers hprogress =>
    cases hprogress with
    | down => cases hreceiver
    | waiting => cases hreceiver
    | done => cases hreceiver
    | working _ _ hrequests hold =>
      cases hreceiver
      have hanswers' := hanswers.push (x := (t, result)) ⟨rfl, hresult⟩
      refine ⟨.busy settled t _ requests _ hnew hanswers' (.down _ _), ?_⟩
      rintro rfl
      refine .busy settled t _ requests _ hnew hanswers' (.done _ _ hrequests ?_)
      intro a ha hat
      rcases List.mem_append.mp ha with ha | ha
      · exact absurd (hat ▸ hold a ha) hnew
      · exact List.mem_singleton.mp ha ▸ rfl

/-- The sender accepts an answer to the open transaction. -/
theorem answered (h : Orderly Fits success Permitted e) {t : τ} {result : ρ}
    {rest : List (τ × ρ)} (hpending : e.pending = some t) (hanswers : e.answers = (t, result) :: rest) :
    Orderly Fits success Permitted
        { e with settled := some t, pending := none, answers := rest } ∧
      (e.receiver ≠ .down → result = success) := by
  cases h with
  | quiet => cases hpending
  | busy settled t' receiver requests answers hnew hsegments hprogress =>
    cases hpending
    cases hanswers
    have hrest : ∀ a ∈ rest, some t = some a.1 ∧ Permitted a.2 := by
      rcases hsegments.pop with ⟨⟨hsettled, _⟩, _⟩ | ⟨_, hrest⟩
      · exact absurd hsettled hnew
      · exact fun a ha => ⟨congrArg some (hrest a ha).1.symm, (hrest a ha).2⟩
    cases hprogress with
    | down => exact ⟨.quiet (some t) _ requests rest hrest (.inl rfl), fun h => absurd rfl h⟩
    | waiting _ _ hfits hrequests hold => exact absurd (hold (t, result) (by simp)) hnew
    | working _ _ hrequests hold => exact absurd (hold (t, result) (by simp)) hnew
    | done _ _ hrequests hdone =>
      refine ⟨.quiet (some t) _ requests rest hrest (.inr ⟨rfl, ?_⟩), fun _ => ?_⟩
      · exact fun x hx => congrArg some (hrequests x hx).symm
      · exact hdone (t, result) (by simp) rfl

/-- Between two transactions a receiver that is up rests where the sender does. -/
theorem resting (h : Orderly Fits success Permitted e) (hpending : e.pending = none) :
    e.receiver = .down ∨ e.receiver = .resting e.settled := by
  cases h with
  | busy => cases hpending
  | quiet settled receiver requests answers hanswers hreceiver =>
    exact hreceiver.imp_right And.left

/-- Nothing is answered before the first transaction. -/
theorem untouched (h : Orderly Fits success Permitted e) (hpending : e.pending = none)
    (hsettled : e.settled = none) :
    e.answers = [] ∧ (e.receiver = .down ∨ e.receiver = .resting none) := by
  refine ⟨?_, by simpa [hsettled] using h.resting hpending⟩
  cases h with
  | busy => cases hpending
  | quiet settled receiver requests answers hanswers hreceiver =>
    cases hsettled
    exact List.eq_nil_iff_forall_not_mem.mpr fun a ha => Option.some_ne_none _ (hanswers a ha).1.symm

end Orderly

end IndoorRobot.StopAndWait
