import Mathlib

/-! Conditions on the events of a trace: one that may look at all events before each, and a
relation that each event has to follow from the world it finds to the one it leaves. -/
namespace TraceGuard

variable {ε : Type*} {guard guard' : List ε → ε → Prop} {context xs ys : List ε} {e : ε}

/-- After the trace `context`, each event of `trace` comes where the guard allows it. -/
def Guarded (guard : List ε → ε → Prop) (context trace : List ε) : Prop :=
  ∀ before e after, trace = before ++ e :: after → guard (context ++ before) e

lemma guarded_nil : Guarded guard context [] := by
  intro before e after heq
  exact absurd heq.symm (by simp)

lemma guarded_cons :
    Guarded guard context (e :: xs) ↔ guard context e ∧ Guarded guard (context ++ [e]) xs := by
  constructor
  · intro h
    refine ⟨by simpa using h [] e xs rfl, fun before e' after heq => ?_⟩
    simpa using h (e :: before) e' after (by rw [heq]; simp)
  · rintro ⟨he, hxs⟩ before e' after heq
    cases before with
    | nil =>
      obtain ⟨rfl, -⟩ := List.cons.inj heq
      simpa using he
    | cons x before =>
      obtain ⟨rfl, hrest⟩ := List.cons.inj heq
      simpa using hxs before e' after hrest

/-- Two parts are guarded when each is in its own context. -/
lemma guarded_append :
    Guarded guard context (xs ++ ys) ↔ Guarded guard context xs ∧ Guarded guard (context ++ xs) ys := by
  induction xs generalizing context with
  | nil => simp [guarded_nil]
  | cons x xs ih => rw [List.cons_append, guarded_cons, guarded_cons, ih, and_assoc,
      List.append_assoc, List.singleton_append]

lemma guarded_singleton : Guarded guard context [e] ↔ guard context e := by
  rw [guarded_cons]
  exact and_iff_left guarded_nil

/-- A guard that holds of some events wherever they come. -/
lemma Guarded.of_forall (h : ∀ e ∈ xs, ∀ before, guard before e) : Guarded guard context xs := by
  rintro before e after rfl
  exact h e (by simp) _

lemma Guarded.mono (himp : ∀ before e, guard before e → guard' before e)
    (h : Guarded guard context xs) : Guarded guard' context xs :=
  fun before e after heq => himp _ _ (h before e after heq)

/-! Worlds along a trace. -/
section Along

variable {ω : Type*} {R : ω → ε → ω → Prop} {w w' : ω}

/-- Each event of the trace leads from one world to the next, from `w` to `w'`. -/
inductive Along (R : ω → ε → ω → Prop) : ω → List ε → ω → Prop
  | nil (w : ω) : Along R w [] w
  | cons {w w₁ w' : ω} {e : ε} {trace : List ε} (hstep : R w e w₁) (hrest : Along R w₁ trace w') :
      Along R w (e :: trace) w'

lemma along_nil : Along R w [] w' ↔ w' = w := by
  constructor
  · rintro ⟨⟩
    rfl
  · rintro rfl
    exact .nil _

lemma along_cons : Along R w (e :: xs) w' ↔ ∃ w₁, R w e w₁ ∧ Along R w₁ xs w' := by
  constructor
  · intro h
    cases h with
    | cons hstep hrest => exact ⟨_, hstep, hrest⟩
  · rintro ⟨w₁, hstep, hrest⟩
    exact .cons hstep hrest

lemma along_append : Along R w (xs ++ ys) w' ↔ ∃ w₁, Along R w xs w₁ ∧ Along R w₁ ys w' := by
  induction xs generalizing w with
  | nil => simp [along_nil]
  | cons x xs ih =>
    simp only [List.cons_append, along_cons, ih]
    constructor
    · rintro ⟨w₁, hstep, w₂, hxs, hys⟩
      exact ⟨w₂, ⟨w₁, hstep, hxs⟩, hys⟩
    · rintro ⟨w₂, ⟨w₁, hstep, hxs⟩, hys⟩
      exact ⟨w₁, hstep, w₂, hxs, hys⟩

/-- What holds of every world a trace can lead to. -/
def Leads (R : ω → ε → ω → Prop) (w : ω) (trace : List ε) (p : ω → Prop) : Prop :=
  ∀ w', Along R w trace w' → p w'

lemma Leads.event {p q : ω → Prop} (h : Leads R w xs p)
    (hstep : ∀ w₁ w₂, p w₁ → R w₁ e w₂ → q w₂) : Leads R w (xs ++ [e]) q := by
  intro w' hw'
  obtain ⟨w₁, hxs, hlast⟩ := along_append.mp hw'
  obtain ⟨w₂, he, hnil⟩ := along_cons.mp hlast
  obtain rfl := along_nil.mp hnil
  exact hstep w₁ w' (h w₁ hxs) he

end Along

end TraceGuard
