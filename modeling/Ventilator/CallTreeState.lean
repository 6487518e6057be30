import Ventilator.CallTree

/-! Programs that leave a part of their state as it is, handled traces cut in two, and a stateful
program's run against an environment. -/
namespace CallTree
universe u v

variable {C : Type u} {A : C → Type u} {α β σ : Type u} {τ : Type v}

/-- Whatever the answers, the part of the state that `view` shows is kept. -/
def Keeps (view : σ → τ) (m : StateT σ (CallTree C A) α) : Prop :=
  ∀ s trace a s', Gives m s trace a s' → view s' = view s

section Keeps

variable {view : σ → τ} {m m' : StateT σ (CallTree C A) α}

lemma Keeps.pure (a : α) : Keeps view (Pure.pure a : StateT σ (CallTree C A) α) := by
  intro s trace b s' h
  obtain ⟨-, -, rfl⟩ := gives_pure.mp h
  rfl

lemma Keeps.get : Keeps view (MonadState.get : StateT σ (CallTree C A) σ) := by
  intro s trace a s' h
  obtain ⟨-, -, rfl⟩ := gives_get.mp h
  rfl

lemma Keeps.ask (c : C) : Keeps view (ask c : StateT σ (CallTree C A) (A c)) := by
  intro s trace a s' h
  obtain ⟨-, rfl⟩ := gives_ask.mp h
  rfl

lemma Keeps.modify {f : σ → σ} (hf : ∀ s, view (f s) = view s) :
    Keeps view (modify f : StateT σ (CallTree C A) PUnit) := by
  intro s trace a s' h
  obtain ⟨-, rfl⟩ := gives_modify.mp h
  exact hf s

lemma Keeps.bind {f : α → StateT σ (CallTree C A) β} (hm : Keeps view m)
    (hf : ∀ a, Keeps view (f a)) : Keeps view (m >>= f) := by
  intro s trace b s' h
  obtain ⟨xs, ys, a, s₁, -, hfirst, hnext⟩ := gives_bind.mp h
  exact (hf a _ _ _ _ hnext).trans (hm _ _ _ _ hfirst)

lemma Keeps.ite {p : Prop} [Decidable p] (hm : Keeps view m) (hm' : Keeps view m') :
    Keeps view (if p then m else m') := by
  split
  · exact hm
  · exact hm'

lemma Keeps.optionPure (a : α) :
    Keeps view (Pure.pure a : OptionT (StateT σ (CallTree C A)) α).run := .pure (some a)

lemma Keeps.optionFail : Keeps view (failure : OptionT (StateT σ (CallTree C A)) α).run :=
  .pure none

lemma Keeps.getM (o : Option α) :
    Keeps view (o.getM : OptionT (StateT σ (CallTree C A)) α).run := by
  cases o with
  | none => exact .pure none
  | some a => exact .pure (some a)

lemma Keeps.optionBind {m : OptionT (StateT σ (CallTree C A)) α}
    {f : α → OptionT (StateT σ (CallTree C A)) β} (hm : Keeps view m.run)
    (hf : ∀ a, Keeps view (f a).run) : Keeps view (m >>= f).run := by
  rw [optionT_run_bind]
  refine hm.bind fun a => ?_
  cases a with
  | none => exact .pure none
  | some a => exact hf a

end Keeps

section Handled

variable {C' : Type u} {A' : C' → Type u} {handler : ∀ c, StateT σ (CallTree C' A') (A c)}

/-- A handled trace is handled up to each of its points and from there on. -/
lemma Handled.split {s s' : σ} {before after : List (Event A)} {inner : List (Event A')}
    (h : Handled handler s (before ++ after) inner s') :
    ∃ xs ys s₁, inner = xs ++ ys ∧ Handled handler s before xs s₁ ∧
      Handled handler s₁ after ys s' := by
  induction before generalizing s inner with
  | nil => exact ⟨[], inner, s, rfl, .nil s, h⟩
  | cons e before ih =>
    cases h with
    | cons hcall hrest =>
      obtain ⟨xs, ys, s₁, rfl, hbefore, hafter⟩ := ih hrest
      exact ⟨_, ys, s₁, (List.append_assoc ..).symm, .cons hcall hbefore, hafter⟩

end Handled

lemma gives_play {ε : Type u} (answer : ε → (c : C) → A c × ε)
    (m : StateT σ (CallTree C A) α) (s : σ) (env : ε) :
    Gives m s (play answer (m.run s) env).1 (play answer (m.run s) env).2.1.1
      (play answer (m.run s) env).2.1.2 :=
  ends_play answer (m.run s) env

end CallTree
