import Ventilator.CallTree

/-! Points of a run where a program comes to one of its parts, and runs whose unwanted calls are
all due to parts entered in a wrong way. -/
namespace CallTree
universe u

variable {C : Type u} {A : C → Type u} {α β σ : Type u}

lemma Runs.bind {t rest : CallTree C A α} {trace : List (Event A)} (h : Runs t trace rest)
    (f : α → CallTree C A β) : Runs (t >>= f) trace (rest >>= f) := by
  induction h with
  | refl t => exact .refl _
  | step answer h ih => exact .step answer ih

/-- A whole run goes on where its beginning left off. -/
lemma Ends.residual {t rest : CallTree C A α} {before after : List (Event A)} {a : α}
    (h : Runs t before rest) (hends : Ends t (before ++ after) a) : Ends rest after a := by
  induction h with
  | refl t => exact hends
  | step answer h ih =>
    obtain ⟨answer', rest', heq, hrest⟩ := ends_call.mp hends
    simp only [List.cons_append, List.cons.injEq, Sigma.mk.injEq, heq_eq_eq, true_and] at heq
    obtain ⟨rfl, rfl⟩ := heq
    exact ih hrest

/-- After `before`, what is left of the run is the part and something after it. -/
def Reaches (m : StateT σ (CallTree C A) β) (s : σ) (before : List (Event A))
    (part : StateT σ (CallTree C A) α) : Prop :=
  ∃ (next : α → StateT σ (CallTree C A) β) (s₁ : σ), Runs (m.run s) before ((part >>= next).run s₁)

section Reaches

variable {m : StateT σ (CallTree C A) β} {part : StateT σ (CallTree C A) α} {s : σ}
  {before after : List (Event A)}

lemma Reaches.start : Reaches part s [] part := ⟨pure, s, by rw [bind_pure]; exact .refl _⟩

lemma Reaches.bind_left {γ : Type u} (h : Reaches m s before part)
    (f : β → StateT σ (CallTree C A) γ) : Reaches (m >>= f) s before part := by
  obtain ⟨next, s₁, hruns⟩ := h
  refine ⟨fun a => next a >>= f, s₁, ?_⟩
  rw [← bind_assoc, StateT.run_bind, StateT.run_bind]
  exact hruns.bind _

lemma Reaches.bind_right {γ : Type u} {f : β → StateT σ (CallTree C A) γ} {xs : List (Event A)}
    {b : β} {s₁ : σ} (hm : Gives m s xs b s₁) (h : Reaches (f b) s₁ before part) :
    Reaches (m >>= f) s (xs ++ before) part := by
  obtain ⟨next, s₂, hruns⟩ := h
  refine ⟨next, s₂, ?_⟩
  rw [StateT.run_bind]
  exact (Runs.bind hm _).trans hruns

/-- A whole run that reaches a part runs the part there. -/
lemma Reaches.gives {b : β} {s' : σ} (h : Reaches m s before part)
    (hgives : Gives m s (before ++ after) b s') :
    ∃ xs ys a s₁ s₂, after = xs ++ ys ∧ Gives part s₁ xs a s₂ := by
  obtain ⟨next, s₁, hruns⟩ := h
  obtain ⟨xs, ys, a, s₂, rfl, hpart, -⟩ := gives_bind.mp (Ends.residual hruns hgives)
  exact ⟨xs, ys, a, s₁, s₂, rfl, hpart⟩

end Reaches

/-! The parts and what makes their entry wrong are those of the program verified. -/
section Enters

variable {ι : Type u} {T : ι → Type u} (part : ∀ i, StateT σ (CallTree C A) (T i))
  (wrong : ι → List (Event A) → Prop)

/-- The run comes to a part at a point from which what follows is wrong for it. -/
def Enters (m : StateT σ (CallTree C A) α) (s : σ) (trace : List (Event A)) : Prop :=
  ∃ i before after, trace = before ++ after ∧ Reaches m s before (part i) ∧ wrong i after

/-- Each run makes only calls that satisfy `Q`, or enters a part wrongly. -/
def Accounts (Q : C → Prop) (m : StateT σ (CallTree C A) α) : Prop :=
  ∀ s trace a s', Gives m s trace a s' → (∀ e ∈ trace, Q e.1) ∨ Enters part wrong m s trace

variable {part wrong} {Q : C → Prop} {m m' : StateT σ (CallTree C A) α}

lemma Accounts.of_only (h : Only Q m) : Accounts part wrong Q m :=
  fun _ _ _ _ hgives => .inl (h.gives hgives)

lemma Accounts.pure (a : α) :
    Accounts part wrong Q (Pure.pure a : StateT σ (CallTree C A) α) := .of_only (.pure a)

variable (hmore : ∀ i after more, wrong i after → wrong i (after ++ more))
include hmore

lemma Enters.bind_left {f : α → StateT σ (CallTree C A) β} {s : σ} {xs : List (Event A)}
    (h : Enters part wrong m s xs) (ys : List (Event A)) :
    Enters part wrong (m >>= f) s (xs ++ ys) := by
  obtain ⟨i, before, after, rfl, hreaches, hwrong⟩ := h
  exact ⟨i, before, after ++ ys, by simp, hreaches.bind_left f, hmore i after ys hwrong⟩

omit hmore in
lemma Enters.bind_right {f : α → StateT σ (CallTree C A) β} {s s₁ : σ} {xs ys : List (Event A)}
    {a : α} (hm : Gives m s xs a s₁) (h : Enters part wrong (f a) s₁ ys) :
    Enters part wrong (m >>= f) s (xs ++ ys) := by
  obtain ⟨i, before, after, rfl, hreaches, hwrong⟩ := h
  exact ⟨i, xs ++ before, after, by simp, hreaches.bind_right hm, hwrong⟩

lemma Accounts.bind {f : α → StateT σ (CallTree C A) β} (hm : Accounts part wrong Q m)
    (hf : ∀ a, Accounts part wrong Q (f a)) : Accounts part wrong Q (m >>= f) := by
  intro s trace b s' h
  obtain ⟨xs, ys, a, s₁, rfl, hfirst, hnext⟩ := gives_bind.mp h
  rcases hm _ _ _ _ hfirst with hxs | hxs
  · rcases hf a _ _ _ _ hnext with hys | hys
    · exact .inl (List.forall_mem_append.mpr ⟨hxs, hys⟩)
    · exact .inr (hys.bind_right hfirst)
  · exact .inr (hxs.bind_left hmore ys)

omit hmore in
lemma Accounts.ite {p : Prop} [Decidable p] (hm : p → Accounts part wrong Q m)
    (hm' : ¬ p → Accounts part wrong Q m') : Accounts part wrong Q (if p then m else m') := by
  split
  · rename_i h
    exact hm h
  · rename_i h
    exact hm' h

lemma Accounts.loop {ρ κ : Type u} {body : ℕ → κ → StateT σ (CallTree C A) (ρ ⊕ κ)}
    (hbody : ∀ index vars, Accounts part wrong Q (body index vars)) (remaining index : ℕ)
    (vars : κ) : Accounts part wrong Q (CallTree.loop body remaining index vars) := by
  induction remaining generalizing index vars with
  | zero => exact .pure _
  | succ remaining ih =>
    refine (hbody index vars).bind hmore fun out => ?_
    cases out with
    | inl result => exact .pure _
    | inr vars' => exact ih (index + 1) vars'

lemma Accounts.forLoop {ρ κ : Type u} {body : ℕ → κ → StateT σ (CallTree C A) (ρ ⊕ κ)}
    {after : κ → StateT σ (CallTree C A) ρ}
    (hbody : ∀ index vars, Accounts part wrong Q (body index vars))
    (hafter : ∀ vars, Accounts part wrong Q (after vars)) (rounds : ℕ) (vars : κ) :
    Accounts part wrong Q (CallTree.forLoop body rounds vars after) := by
  refine (Accounts.loop hmore hbody rounds 0 vars).bind hmore fun out => ?_
  cases out with
  | inl result => exact .pure _
  | inr vars' => exact hafter vars'

end Enters
end CallTree
