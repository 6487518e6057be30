import Mathlib

/-! Runs of a step relation by the events they take, and tasks that share one mutex. -/
namespace MutexRuns

section Runs

variable {σ ε : Type} {step : σ → ε → σ → Prop} {initial : σ}

/-- The runs from a state, each with its events in order. -/
inductive Run (step : σ → ε → σ → Prop) (initial : σ) : List ε → σ → Prop
  | start : Run step initial [] initial
  | next {events : List ε} {s s' : σ} {event : ε} (before : Run step initial events s)
    (stepped : step s event s') : Run step initial (events ++ [event]) s'

/-- What holds at the start and is kept by every step holds after every run. -/
lemma Run.invariant {I : List ε → σ → Prop} {events : List ε} {s : σ}
    (h : Run step initial events s) (hstart : I [] initial)
    (hstep : ∀ events s event s', I events s → step s event s' → I (events ++ [event]) s') :
    I events s := by
  induction h with
  | start => exact hstart
  | next _ stepped ih => exact hstep _ _ _ _ ih stepped

/-- A run in which every step meets a condition. -/
inductive RunWhere (condition : σ → ε → Prop) (step : σ → ε → σ → Prop) (initial : σ) :
    List ε → σ → Prop
  | start : RunWhere condition step initial [] initial
  | next {events : List ε} {s s' : σ} {event : ε}
    (before : RunWhere condition step initial events s) (stepped : step s event s')
    (met : condition s event) : RunWhere condition step initial (events ++ [event]) s'

lemma RunWhere.invariant {condition : σ → ε → Prop} {I : List ε → σ → Prop} {events : List ε}
    {s : σ} (h : RunWhere condition step initial events s) (hstart : I [] initial)
    (hstep : ∀ events s event s', I events s → condition s event → step s event s' →
      I (events ++ [event]) s') : I events s := by
  induction h with
  | start => exact hstart
  | next _ stepped met ih => exact hstep _ _ _ _ ih met stepped

lemma RunWhere.run {condition : σ → ε → Prop} {events : List ε} {s : σ}
    (h : RunWhere condition step initial events s) : Run step initial events s := by
  induction h with
  | start => exact .start
  | next _ stepped _ ih => exact .next ih stepped

end Runs

/-! Tasks. -/

/-- Where each task is, and which of them holds the mutex. -/
structure Tasks (ι P : Type) where
  phase : ι → P
  holder : Option ι

namespace Tasks

variable {ι P : Type} [DecidableEq ι] {inside : P → Bool} {tasks : Tasks ι P} {i j : ι} {p : P}

/-- A task goes on to a phase. -/
def move (tasks : Tasks ι P) (i : ι) (p : P) : Tasks ι P :=
  { tasks with phase := Function.update tasks.phase i p }

/-- A task takes the mutex. -/
def acquire (tasks : Tasks ι P) (i : ι) (p : P) : Tasks ι P :=
  ⟨Function.update tasks.phase i p, some i⟩

/-- A task gives the mutex back. -/
def release (tasks : Tasks ι P) (i : ι) (p : P) : Tasks ι P :=
  ⟨Function.update tasks.phase i p, none⟩

@[simp] lemma move_holder : (tasks.move i p).holder = tasks.holder := rfl
@[simp] lemma acquire_holder : (tasks.acquire i p).holder = some i := rfl
@[simp] lemma release_holder : (tasks.release i p).holder = none := rfl
@[simp] lemma move_phase : (tasks.move i p).phase = Function.update tasks.phase i p := rfl
@[simp] lemma acquire_phase : (tasks.acquire i p).phase = Function.update tasks.phase i p := rfl
@[simp] lemma release_phase : (tasks.release i p).phase = Function.update tasks.phase i p := rfl

/-- A task found in a phase that another did not go on to was there before. -/
lemma of_update {f : ι → P} {q : P} (h : Function.update f i p j = q) (hp : p ≠ q) : f j = q := by
  by_cases hj : j = i
  · subst hj
    exact absurd (by simpa using h) hp
  · rwa [Function.update_of_ne hj] at h

/-- Exactly the holder of the mutex is in its critical section. -/
def Exclusive (inside : P → Bool) (tasks : Tasks ι P) : Prop :=
  ∀ i, inside (tasks.phase i) = true ↔ tasks.holder = some i

lemma exclusive_start {p : P} (h : inside p = false) :
    Exclusive inside (⟨fun _ => p, none⟩ : Tasks ι P) := by
  intro i
  simp [h]

namespace Exclusive

lemma unique (h : Exclusive inside tasks) (hi : inside (tasks.phase i) = true)
    (hj : inside (tasks.phase j) = true) : i = j :=
  Option.some.inj (((h i).mp hi).symm.trans ((h j).mp hj))

/-- Without a holder nobody is inside. -/
lemma outside (h : Exclusive inside tasks) (hfree : tasks.holder = none) :
    inside (tasks.phase i) = false := by
  rw [← Bool.not_eq_true, h i, hfree]
  exact nofun

lemma move (h : Exclusive inside tasks) (hsame : inside p = inside (tasks.phase i)) :
    Exclusive inside (tasks.move i p) := by
  intro j
  rw [move_phase, move_holder]
  by_cases hj : j = i
  · subst hj
    rw [Function.update_self, hsame]
    exact h j
  · rw [Function.update_of_ne hj]
    exact h j

lemma acquire (h : Exclusive inside tasks) (hfree : tasks.holder = none)
    (hp : inside p = true) : Exclusive inside (tasks.acquire i p) := by
  intro j
  rw [acquire_phase, acquire_holder]
  by_cases hj : j = i
  · subst hj
    simp [hp]
  · rw [Function.update_of_ne hj, h.outside hfree]
    simpa using Ne.symm hj

lemma release (h : Exclusive inside tasks) (hi : inside (tasks.phase i) = true)
    (hp : inside p = false) : Exclusive inside (tasks.release i p) := by
  intro j
  rw [release_phase, release_holder]
  by_cases hj : j = i
  · subst hj
    simp [hp]
  · rw [Function.update_of_ne hj]
    refine ⟨fun hin => absurd (h.unique hin hi) hj, nofun⟩

end Exclusive
end Tasks
end MutexRuns
