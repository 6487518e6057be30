import Mathlib

/-! Programs as trees of calls to an environment that may answer anything. A run of a
program is the list of calls it made, each with the answer it got. -/
universe u

inductive CallTree (C : Type u) (A : C → Type u) (α : Type u) : Type u
  | done (result : α)
  | call (request : C) (next : A request → CallTree C A α)

namespace CallTree

variable {C : Type u} {A : C → Type u} {α β : Type u}

protected def bind (t : CallTree C A α) (f : α → CallTree C A β) : CallTree C A β :=
  match t with
  | done result => f result
  | call request next => call request fun answer => (next answer).bind f

instance : Monad (CallTree C A) where
  pure := done
  bind := CallTree.bind

@[simp] lemma done_bind (a : α) (f : α → CallTree C A β) : (done a >>= f) = f a := rfl

@[simp] lemma call_bind (request : C) (next : A request → CallTree C A α)
    (f : α → CallTree C A β) :
    (call request next >>= f) = call request fun answer => next answer >>= f := rfl

lemma pure_eq_done (a : α) : (pure a : CallTree C A α) = done a := rfl

instance : LawfulMonad (CallTree C A) := by
  refine LawfulMonad.mk' _ ?_ ?_ ?_
  · intro α x
    induction x with
    | done a => rfl
    | call c next ih => exact congrArg (call c) (funext ih)
  · intro α β a f
    rfl
  · intro α β γ x f g
    induction x with
    | done a => rfl
    | call c next ih => exact congrArg (call c) (funext ih)

/-- The program that makes one call and returns its answer. -/
def perform (request : C) : CallTree C A (A request) := call request done

/-- A call with the answer it got. -/
abbrev Event (A : C → Type u) : Type u := (request : C) × A request

/-- The program can make the calls of the trace, with these answers, and has `rest` left. -/
inductive Runs : CallTree C A α → List (Event A) → CallTree C A α → Prop
  | refl (t : CallTree C A α) : Runs t [] t
  | step {request : C} {next : A request → CallTree C A α} (answer : A request)
      {trace : List (Event A)} {rest : CallTree C A α} (h : Runs (next answer) trace rest) :
      Runs (call request next) (⟨request, answer⟩ :: trace) rest

/-- A whole run: the program makes the calls of the trace and then returns. -/
def Ends (t : CallTree C A α) (trace : List (Event A)) (result : α) : Prop :=
  Runs t trace (done result)

lemma runs_done {a : α} {trace : List (Event A)} {rest : CallTree C A α} :
    Runs (done a) trace rest ↔ trace = [] ∧ rest = done a := by
  constructor
  · rintro ⟨⟩
    exact ⟨rfl, rfl⟩
  · rintro ⟨rfl, rfl⟩
    exact .refl _

lemma ends_done {a b : α} {trace : List (Event A)} :
    Ends (done a) trace b ↔ trace = [] ∧ b = a := by
  rw [Ends, runs_done, done.injEq]

lemma ends_call {request : C} {next : A request → CallTree C A α} {trace : List (Event A)}
    {b : α} : Ends (call request next) trace b ↔
      ∃ answer rest, trace = ⟨request, answer⟩ :: rest ∧ Ends (next answer) rest b := by
  constructor
  · intro h
    cases h with
    | step answer h => exact ⟨answer, _, rfl, h⟩
  · rintro ⟨answer, rest, rfl, h⟩
    exact .step answer h

lemma Runs.trans {s t u : CallTree C A α} {xs ys : List (Event A)} (h : Runs s xs t)
    (h' : Runs t ys u) : Runs s (xs ++ ys) u := by
  induction h with
  | refl t => exact h'
  | step answer h ih => exact .step answer (ih h')

lemma ends_bind {t : CallTree C A α} {f : α → CallTree C A β} {trace : List (Event A)} {b : β} :
    Ends (t >>= f) trace b ↔
      ∃ xs ys a, trace = xs ++ ys ∧ Ends t xs a ∧ Ends (f a) ys b := by
  induction t generalizing trace with
  | done a =>
    constructor
    · exact fun h => ⟨[], trace, a, rfl, .refl _, h⟩
    · rintro ⟨xs, ys, a', rfl, hxs, hys⟩
      obtain ⟨rfl, rfl⟩ := ends_done.mp hxs
      exact hys
  | call c next ih =>
    rw [call_bind, ends_call]
    constructor
    · rintro ⟨answer, rest, rfl, h⟩
      obtain ⟨xs, ys, a, rfl, hxs, hys⟩ := (ih answer).mp h
      exact ⟨_, ys, a, rfl, .step answer hxs, hys⟩
    · rintro ⟨xs, ys, a, rfl, hxs, hys⟩
      obtain ⟨answer, rest, rfl, hrest⟩ := ends_call.mp hxs
      exact ⟨answer, rest ++ ys, rfl, (ih answer).mpr ⟨rest, ys, a, rfl, hrest, hys⟩⟩

lemma ends_perform_bind {c : C} {f : A c → CallTree C A β} {trace : List (Event A)} {b : β} :
    Ends (perform c >>= f) trace b ↔
      ∃ answer rest, trace = ⟨c, answer⟩ :: rest ∧ Ends (f answer) rest b :=
  ends_call

/-- A run whose result is not that of an early return goes on past it. -/
lemma Ends.past_return {p : Prop} [Decidable p] {a b : α} {t : CallTree C A α}
    {trace : List (Event A)} (h : Ends (if p then pure a else t) trace b) (hne : b ≠ a) :
    ¬ p ∧ Ends t trace b := by
  split at h
  · exact absurd (ends_done.mp h).2 hne
  · rename_i hp
    exact ⟨hp, h⟩

/-- Where every call has some answer, every program can return. -/
lemma exists_ends [∀ c, Nonempty (A c)] (t : CallTree C A α) : ∃ trace a, Ends t trace a := by
  induction t with
  | done a => exact ⟨[], a, .refl _⟩
  | call c next ih =>
    obtain ⟨answer⟩ := (inferInstance : Nonempty (A c))
    obtain ⟨trace, a, h⟩ := ih answer
    exact ⟨_, a, .step answer h⟩

/-- Where every call has some answer, every run is the beginning of a whole one. -/
lemma Runs.exists_ends [∀ c, Nonempty (A c)] {t rest : CallTree C A α} {trace : List (Event A)}
    (h : Runs t trace rest) : ∃ more a, Ends t (trace ++ more) a := by
  obtain ⟨more, a, hmore⟩ := rest.exists_ends
  exact ⟨more, a, h.trans hmore⟩

/-- The same calls and answers lead to the same result, and no run goes on past it. -/
lemma Ends.unique {t : CallTree C A α} {xs ys xs' ys' : List (Event A)} {a b : α}
    (h : Ends t xs a) (h' : Ends t ys b) (heq : xs ++ xs' = ys ++ ys') : xs = ys ∧ a = b := by
  induction t generalizing xs ys with
  | done c =>
    obtain ⟨rfl, rfl⟩ := ends_done.mp h
    obtain ⟨rfl, rfl⟩ := ends_done.mp h'
    exact ⟨rfl, rfl⟩
  | call c next ih =>
    obtain ⟨answer, rest, rfl, hrest⟩ := ends_call.mp h
    obtain ⟨answer', rest', rfl, hrest'⟩ := ends_call.mp h'
    simp only [List.cons_append, List.cons.injEq, Sigma.mk.injEq, heq_eq_eq, true_and] at heq
    obtain ⟨rfl, heq⟩ := heq
    obtain ⟨rfl, rfl⟩ := ih answer hrest hrest' heq
    exact ⟨rfl, rfl⟩

/-- The whole run against an environment that answers from a state of its own. -/
def play {ε : Type u} (answer : ε → (c : C) → A c × ε) :
    CallTree C A α → ε → List (Event A) × α × ε
  | done a, env => ([], a, env)
  | call c next, env =>
    let given := answer env c
    let rest := play answer (next given.1) given.2
    (⟨c, given.1⟩ :: rest.1, rest.2)

lemma ends_play {ε : Type u} (answer : ε → (c : C) → A c × ε) (t : CallTree C A α) (env : ε) :
    Ends t (play answer t env).1 (play answer t env).2.1 := by
  induction t generalizing env with
  | done a => exact .refl _
  | call c next ih => exact .step _ (ih _ _)

lemma play_bind {ε : Type u} (answer : ε → (c : C) → A c × ε) (t : CallTree C A α)
    (f : α → CallTree C A β) (env : ε) :
    play answer (t >>= f) env =
      ((play answer t env).1 ++ (play answer (f (play answer t env).2.1) (play answer t env).2.2).1,
        (play answer (f (play answer t env).2.1) (play answer t env).2.2).2) := by
  induction t generalizing env with
  | done a => rfl
  | call c next ih =>
    simp only [call_bind, play, ih]
    rfl

/-- Every call `t` can make satisfies `Q`. -/
def Calls (Q : C → Prop) : CallTree C A α → Prop
  | done _ => True
  | call request next => Q request ∧ ∀ answer, (next answer).Calls Q

section Calls

variable {Q : C → Prop}

lemma Calls.bind {t : CallTree C A α} {f : α → CallTree C A β} (ht : t.Calls Q)
    (hf : ∀ a, (f a).Calls Q) : (t >>= f).Calls Q := by
  induction t with
  | done a => exact hf a
  | call c next ih => exact ⟨ht.1, fun answer => ih answer (ht.2 answer)⟩

/-- What follows a program need only be considered for the results it can return. -/
lemma Calls.bind_ends {t : CallTree C A α} {f : α → CallTree C A β} (ht : t.Calls Q)
    (hf : ∀ trace a, Ends t trace a → (f a).Calls Q) : (t >>= f).Calls Q := by
  induction t with
  | done a => exact hf [] a (.refl _)
  | call c next ih =>
    exact ⟨ht.1, fun answer => ih answer (ht.2 answer) fun trace a h => hf _ a (.step answer h)⟩

lemma Calls.runs {t rest : CallTree C A α} {trace : List (Event A)} (ht : t.Calls Q)
    (h : Runs t trace rest) : ∀ e ∈ trace, Q e.1 := by
  induction h with
  | refl t => simp
  | step answer h ih =>
    intro e he
    rcases List.mem_cons.mp he with rfl | he
    · exact ht.1
    · exact ih (ht.2 answer) e he

lemma Calls.perform {c : C} (hc : Q c) : (perform c : CallTree C A (A c)).Calls Q :=
  ⟨hc, fun _ => trivial⟩

lemma Calls.ite {p : Prop} [Decidable p] {t t' : CallTree C A α} (ht : p → t.Calls Q)
    (ht' : ¬ p → t'.Calls Q) : (if p then t else t').Calls Q := by
  split
  · rename_i h
    exact ht h
  · rename_i h
    exact ht' h

lemma Calls.discard {t : CallTree C A α} (ht : t.Calls Q) :
    (Functor.discard t : CallTree C A PUnit).Calls Q := ht.bind fun _ => trivial

lemma Calls.mono {Q' : C → Prop} (himp : ∀ c, Q c → Q' c) {t : CallTree C A α}
    (ht : t.Calls Q) : t.Calls Q' := by
  induction t with
  | done a => trivial
  | call c next ih => exact ⟨himp c ht.1, fun answer => ih answer (ht.2 answer)⟩

end Calls

/-! Counted loops with an early return: `.inl` returns, `.inr` goes on with new variables. -/
section Loop

variable {ρ κ : Type u} {m : Type u → Type u} [Monad m]

/-- `remaining` rounds of `body`, the first one numbered `index`. -/
def loop (body : ℕ → κ → m (ρ ⊕ κ)) : (remaining index : ℕ) → κ → m (ρ ⊕ κ)
  | 0, _, vars => pure (.inr vars)
  | remaining + 1, index, vars => do
    match ← body index vars with
    | .inl result => pure (.inl result)
    | .inr vars => loop body remaining (index + 1) vars

/-- The last of a loop's rounds may be taken after all others. -/
lemma loop_succ [LawfulMonad m] (body : ℕ → κ → m (ρ ⊕ κ)) (remaining index : ℕ) (vars : κ) :
    loop body (remaining + 1) index vars =
      loop body remaining index vars >>= fun out => match out with
        | .inl result => pure (.inl result)
        | .inr vars' => body (index + remaining) vars' := by
  induction remaining generalizing index vars with
  | zero =>
    simp only [loop, pure_bind, Nat.add_zero]
    refine (bind_congr fun out => ?_).trans (bind_pure _)
    cases out <;> rfl
  | succ remaining ih =>
    rw [loop, loop, bind_assoc]
    refine bind_congr fun out => ?_
    cases out with
    | inl result => rw [pure_bind]
    | inr vars' =>
      have hindex : index + (remaining + 1) = index + 1 + remaining := by omega
      rw [hindex]
      exact ih (index + 1) vars'

lemma Calls.loop {Q : C → Prop} {body : ℕ → κ → CallTree C A (ρ ⊕ κ)}
    (hbody : ∀ index vars, (body index vars).Calls Q) (remaining index : ℕ) (vars : κ) :
    (CallTree.loop body remaining index vars).Calls Q := by
  induction remaining generalizing index vars with
  | zero => trivial
  | succ remaining ih =>
    refine (hbody index vars).bind fun next => ?_
    cases next with
    | inl result => trivial
    | inr vars' => exact ih (index + 1) vars'

/-- What a round keeps of the trace so far, the loop keeps: at a return the last round began
with it, and a loop that runs out ends with it. -/
lemma Ends.loop {body : ℕ → κ → CallTree C A (ρ ⊕ κ)} {I : ℕ → κ → List (Event A) → Prop}
    (hstep : ∀ index vars before trace vars', I index vars before →
      Ends (body index vars) trace (.inr vars') → I (index + 1) vars' (before ++ trace))
    {remaining index : ℕ} {vars : κ} {before trace : List (Event A)} {out : ρ ⊕ κ}
    (hinit : I index vars before) (h : Ends (loop body remaining index vars) trace out) :
    (∃ result index' vars' middle last, out = .inl result ∧ index ≤ index' ∧
      index' < index + remaining ∧ trace = middle ++ last ∧
      I index' vars' (before ++ middle) ∧ Ends (body index' vars') last (.inl result)) ∨
    ∃ vars', out = .inr vars' ∧ I (index + remaining) vars' (before ++ trace) := by
  induction remaining generalizing index vars before trace with
  | zero =>
    obtain ⟨rfl, rfl⟩ := ends_done.mp h
    exact .inr ⟨vars, rfl, by simpa using hinit⟩
  | succ remaining ih =>
    obtain ⟨xs, ys, next, rfl, hbody, h⟩ := ends_bind.mp h
    cases next with
    | inl result =>
      obtain ⟨rfl, rfl⟩ := ends_done.mp h
      exact .inl ⟨result, index, vars, [], xs, rfl, le_rfl, by omega, by simp, by simpa using hinit,
        hbody⟩
    | inr vars' =>
      rcases ih (hstep _ _ _ _ _ hinit hbody) h with
        ⟨result, index', vars', middle, last, rfl, hle, hlt, rfl, hI, hlast⟩ | ⟨vars', rfl, hI⟩
      · exact .inl ⟨result, index', vars', xs ++ middle, last, rfl, by omega, by omega, by simp,
          by simpa using hI, hlast⟩
      · refine .inr ⟨vars', rfl, ?_⟩
        rw [List.append_assoc] at hI
        rwa [show index + (remaining + 1) = index + 1 + remaining by omega]

/-- A counted loop from index 0 and the code after it. -/
def forLoop (body : ℕ → κ → m (ρ ⊕ κ)) (rounds : ℕ) (vars : κ) (after : κ → m ρ) : m ρ := do
  match ← loop body rounds 0 vars with
  | .inl result => pure result
  | .inr vars => after vars

/-- The loop rule for a whole counted loop: it returns from a round that began with the
invariant, or runs all its rounds and goes on with it. -/
lemma Ends.forLoop {body : ℕ → κ → CallTree C A (ρ ⊕ κ)} {I : ℕ → κ → List (Event A) → Prop}
    (hstep : ∀ index vars before trace vars', I index vars before →
      Ends (body index vars) trace (.inr vars') → I (index + 1) vars' (before ++ trace))
    {rounds : ℕ} {vars : κ} {after : κ → CallTree C A ρ} {trace : List (Event A)} {out : ρ}
    (hinit : I 0 vars []) (h : Ends (forLoop body rounds vars after) trace out) :
    ∃ index vars' middle last, trace = middle ++ last ∧ I index vars' middle ∧
      (index < rounds ∧ Ends (body index vars') last (.inl out) ∨
        index = rounds ∧ Ends (after vars') last out) := by
  obtain ⟨xs, ys, next, rfl, hloop, hnext⟩ := ends_bind.mp h
  rcases hloop.loop hstep hinit with
    ⟨result, index, vars', middle, last, rfl, -, hlt, rfl, hI, hlast⟩ | ⟨vars', rfl, hI⟩
  · obtain ⟨rfl, rfl⟩ := ends_done.mp hnext
    exact ⟨index, vars', middle, last, by simp, hI, .inl ⟨by omega, hlast⟩⟩
  · exact ⟨rounds, vars', xs, ys, rfl, by simpa using hI, .inr ⟨rfl, hnext⟩⟩

end Loop

/-! Programs with a state of their own. -/
section State

variable {σ : Type u}

/-- The program makes one call and leaves its state. -/
def ask (request : C) : StateT σ (CallTree C A) (A request) := StateT.lift (perform request)

/-- A whole run from state `s`, its trace, its result and the state it leaves. -/
def Gives (m : StateT σ (CallTree C A) α) (s : σ) (trace : List (Event A)) (a : α) (s' : σ) :
    Prop :=
  Ends (m.run s) trace (a, s')

@[simp] lemma gives_pure {a b : α} {s s' : σ} {trace : List (Event A)} :
    Gives (pure a) s trace b s' ↔ trace = [] ∧ b = a ∧ s' = s := by
  rw [Gives, StateT.run_pure, pure_eq_done, ends_done, Prod.mk.injEq]

lemma gives_bind {m : StateT σ (CallTree C A) α} {f : α → StateT σ (CallTree C A) β} {s s' : σ}
    {trace : List (Event A)} {b : β} :
    Gives (m >>= f) s trace b s' ↔
      ∃ xs ys a s₁, trace = xs ++ ys ∧ Gives m s xs a s₁ ∧ Gives (f a) s₁ ys b s' := by
  rw [Gives, StateT.run_bind, ends_bind]
  constructor
  · rintro ⟨xs, ys, ⟨a, s₁⟩, rfl, hxs, hys⟩
    exact ⟨xs, ys, a, s₁, rfl, hxs, hys⟩
  · rintro ⟨xs, ys, a, s₁, rfl, hxs, hys⟩
    exact ⟨xs, ys, (a, s₁), rfl, hxs, hys⟩

/-- A run whose result is not that of an early return goes on past it. -/
lemma Gives.past_return {p : Prop} [Decidable p] {a b : α} {m : StateT σ (CallTree C A) α}
    {s s' : σ} {trace : List (Event A)} (h : Gives (if p then pure a else m) s trace b s')
    (hne : b ≠ a) : ¬ p ∧ Gives m s trace b s' := by
  split at h
  · exact absurd (gives_pure.mp h).2.1 hne
  · rename_i hp
    exact ⟨hp, h⟩

lemma gives_discard {m : StateT σ (CallTree C A) α} {s s' : σ} {trace : List (Event A)}
    {a : PUnit} : Gives (discard m) s trace a s' ↔ ∃ b, Gives m s trace b s' := by
  have hdiscard : (discard m : StateT σ (CallTree C A) PUnit) = m >>= fun _ => pure ⟨⟩ := rfl
  rw [hdiscard, gives_bind]
  constructor
  · rintro ⟨xs, ys, b, s₁, rfl, h, hpure⟩
    obtain ⟨rfl, -, rfl⟩ := gives_pure.mp hpure
    exact ⟨b, by simpa using h⟩
  · rintro ⟨b, h⟩
    exact ⟨trace, [], b, s', by simp, h, by simp⟩

@[simp] lemma gives_ask {c : C} {s s' : σ} {trace : List (Event A)} {a : A c} :
    Gives (ask c) s trace a s' ↔ trace = [⟨c, a⟩] ∧ s' = s := by
  have hrun : (ask c : StateT σ (CallTree C A) (A c)).run s =
      call c fun answer => done (answer, s) := rfl
  rw [Gives, hrun, ends_call]
  constructor
  · rintro ⟨answer, rest, rfl, h⟩
    obtain ⟨rfl, heq⟩ := ends_done.mp h
    obtain ⟨rfl, rfl⟩ := Prod.mk.inj heq
    exact ⟨rfl, rfl⟩
  · rintro ⟨rfl, rfl⟩
    exact ⟨a, [], rfl, .refl _⟩

lemma gives_ask_bind {c : C} {f : A c → StateT σ (CallTree C A) β} {s s' : σ}
    {trace : List (Event A)} {b : β} :
    Gives (ask c >>= f) s trace b s' ↔
      ∃ answer rest, trace = ⟨c, answer⟩ :: rest ∧ Gives (f answer) s rest b s' := by
  rw [gives_bind]
  constructor
  · rintro ⟨xs, ys, a, s₁, rfl, hask, h⟩
    obtain ⟨rfl, rfl⟩ := gives_ask.mp hask
    exact ⟨a, ys, rfl, h⟩
  · rintro ⟨answer, rest, rfl, h⟩
    exact ⟨_, rest, answer, s, rfl, gives_ask.mpr ⟨rfl, rfl⟩, h⟩

lemma Gives.unique {m : StateT σ (CallTree C A) α} {s s₁ s₂ : σ} {trace : List (Event A)}
    {a b : α} (h : Gives m s trace a s₁) (h' : Gives m s trace b s₂) : a = b := by
  have heq := (Ends.unique h h' (rfl : trace ++ [] = trace ++ [])).2
  exact (Prod.mk.inj heq).1

/-- The loop rule for programs with a state. -/
lemma Gives.loop {ρ κ : Type u} {body : ℕ → κ → StateT σ (CallTree C A) (ρ ⊕ κ)}
    {I : ℕ → κ → σ → List (Event A) → Prop}
    (hstep : ∀ index vars s before trace vars' s', I index vars s before →
      Gives (body index vars) s trace (.inr vars') s' → I (index + 1) vars' s' (before ++ trace))
    {remaining index : ℕ} {vars : κ} {s s' : σ} {before trace : List (Event A)} {out : ρ ⊕ κ}
    (hinit : I index vars s before) (h : Gives (loop body remaining index vars) s trace out s') :
    (∃ result index' vars' s₁ middle last, out = .inl result ∧ index ≤ index' ∧
      index' < index + remaining ∧ trace = middle ++ last ∧
      I index' vars' s₁ (before ++ middle) ∧ Gives (body index' vars') s₁ last (.inl result) s') ∨
    ∃ vars', out = .inr vars' ∧ I (index + remaining) vars' s' (before ++ trace) := by
  induction remaining generalizing index vars s before trace with
  | zero =>
    obtain ⟨rfl, rfl, rfl⟩ := gives_pure.mp h
    exact .inr ⟨vars, rfl, by simpa using hinit⟩
  | succ remaining ih =>
    obtain ⟨xs, ys, next, s₁, rfl, hbody, h⟩ := gives_bind.mp h
    cases next with
    | inl result =>
      obtain ⟨rfl, rfl, rfl⟩ := gives_pure.mp h
      exact .inl ⟨result, index, vars, s, [], xs, rfl, le_rfl, by omega, by simp,
        by simpa using hinit, hbody⟩
    | inr vars' =>
      rcases ih (hstep _ _ _ _ _ _ _ hinit hbody) h with
        ⟨result, index', vars', s₂, middle, last, rfl, hle, hlt, rfl, hI, hlast⟩ | ⟨vars', rfl, hI⟩
      · exact .inl ⟨result, index', vars', s₂, xs ++ middle, last, rfl, by omega, by omega, by simp,
          by simpa using hI, hlast⟩
      · refine .inr ⟨vars', rfl, ?_⟩
        rw [List.append_assoc] at hI
        rwa [show index + (remaining + 1) = index + 1 + remaining by omega]

lemma Gives.forLoop {ρ κ : Type u} {body : ℕ → κ → StateT σ (CallTree C A) (ρ ⊕ κ)}
    {I : ℕ → κ → σ → List (Event A) → Prop}
    (hstep : ∀ index vars s before trace vars' s', I index vars s before →
      Gives (body index vars) s trace (.inr vars') s' → I (index + 1) vars' s' (before ++ trace))
    {rounds : ℕ} {vars : κ} {after : κ → StateT σ (CallTree C A) ρ} {s s' : σ}
    {trace : List (Event A)} {out : ρ} (hinit : I 0 vars s [])
    (h : Gives (forLoop body rounds vars after) s trace out s') :
    ∃ index vars' s₁ middle last, trace = middle ++ last ∧ I index vars' s₁ middle ∧
      (index < rounds ∧ Gives (body index vars') s₁ last (.inl out) s' ∨
        index = rounds ∧ Gives (after vars') s₁ last out s') := by
  obtain ⟨xs, ys, next, s₁, rfl, hloop, hnext⟩ := gives_bind.mp h
  rcases hloop.loop hstep hinit with
    ⟨result, index, vars', s₂, middle, last, rfl, -, hlt, rfl, hI, hlast⟩ | ⟨vars', rfl, hI⟩
  · obtain ⟨rfl, rfl, rfl⟩ := gives_pure.mp hnext
    exact ⟨index, vars', s₂, middle, last, by simp, hI, .inl ⟨by omega, hlast⟩⟩
  · exact ⟨rounds, vars', s₁, xs, ys, rfl, by simpa using hI, .inr ⟨rfl, hnext⟩⟩

@[simp] lemma gives_modify {f : σ → σ} {s s' : σ} {trace : List (Event A)} {a : PUnit} :
    Gives (modify f) s trace a s' ↔ trace = [] ∧ s' = f s := by
  have hrun : (modify f : StateT σ (CallTree C A) PUnit).run s = done (⟨⟩, f s) := rfl
  rw [Gives, hrun, ends_done]
  exact ⟨fun h => ⟨h.1, (Prod.mk.inj h.2).2⟩, fun h => ⟨h.1, by rw [h.2]⟩⟩

@[simp] lemma gives_get {s s' a : σ} {trace : List (Event A)} :
    Gives get s trace a s' ↔ trace = [] ∧ a = s ∧ s' = s := by
  have hrun : (get : StateT σ (CallTree C A) σ).run s = done (s, s) := rfl
  rw [Gives, hrun, ends_done, Prod.mk.injEq]

lemma gives_modifyGet {f : σ → α × σ} {s s' : σ} {trace : List (Event A)} {a : α} :
    Gives (modifyGet f) s trace a s' ↔ trace = [] ∧ a = (f s).1 ∧ s' = (f s).2 := by
  have hrun : (modifyGet f : StateT σ (CallTree C A) α).run s = done (f s) := rfl
  rw [Gives, hrun, ends_done, Prod.ext_iff]

lemma gives_lift {t : CallTree C A α} {s s' : σ} {trace : List (Event A)} {a : α} :
    Gives (StateT.lift t) s trace a s' ↔ Ends t trace a ∧ s' = s := by
  have hrun : (StateT.lift t : StateT σ (CallTree C A) α).run s =
      t >>= fun a => pure (a, s) := rfl
  rw [Gives, hrun, ends_bind]
  constructor
  · rintro ⟨xs, ys, b, rfl, hends, hpure⟩
    obtain ⟨rfl, heq⟩ := ends_done.mp hpure
    obtain ⟨rfl, rfl⟩ := Prod.mk.inj heq
    rw [List.append_nil]
    exact ⟨hends, rfl⟩
  · rintro ⟨hends, rfl⟩
    exact ⟨trace, [], a, by simp, hends, .refl _⟩

end State

/-! What the calls of a program with a state can be. -/
section Only

variable {σ : Type u} {Q : C → Prop}

/-- Every call the program can make, from any state, satisfies `Q`. -/
def Only (Q : C → Prop) (m : StateT σ (CallTree C A) α) : Prop := ∀ s, (m.run s).Calls Q

lemma Only.pure (a : α) : Only Q (pure a : StateT σ (CallTree C A) α) := fun _ => trivial

lemma Only.bind {m : StateT σ (CallTree C A) α} {f : α → StateT σ (CallTree C A) β}
    (hm : Only Q m) (hf : ∀ a, Only Q (f a)) : Only Q (m >>= f) :=
  fun s => (hm s).bind fun (a, s') => hf a s'

lemma Only.bind_gives {m : StateT σ (CallTree C A) α} {f : α → StateT σ (CallTree C A) β}
    (hm : Only Q m) (hf : ∀ a, (∃ s trace s', Gives m s trace a s') → Only Q (f a)) :
    Only Q (m >>= f) :=
  fun s => (hm s).bind_ends fun trace (a, s') h => hf a ⟨s, trace, s', h⟩ s'

lemma Only.ask {c : C} (hc : Q c) : Only Q (ask c : StateT σ (CallTree C A) (A c)) :=
  fun _ => ⟨hc, fun _ => trivial⟩

lemma Only.lift {t : CallTree C A α} (ht : t.Calls Q) :
    Only Q (StateT.lift t : StateT σ (CallTree C A) α) := fun _ => ht.bind fun _ => trivial

lemma Only.modify (f : σ → σ) : Only Q (modify f : StateT σ (CallTree C A) PUnit) :=
  fun _ => trivial

lemma Only.get : Only Q (get : StateT σ (CallTree C A) σ) := fun _ => trivial

lemma Only.discard {m : StateT σ (CallTree C A) α} (hm : Only Q m) : Only Q (discard m) :=
  fun s => (hm s).bind fun _ => trivial

lemma Only.ite {p : Prop} [Decidable p] {m m' : StateT σ (CallTree C A) α} (hm : p → Only Q m)
    (hm' : ¬ p → Only Q m') : Only Q (if p then m else m') := by
  split
  · rename_i h
    exact hm h
  · rename_i h
    exact hm' h

lemma Only.loop {ρ κ : Type u} {body : ℕ → κ → StateT σ (CallTree C A) (ρ ⊕ κ)}
    (hbody : ∀ index vars, Only Q (body index vars)) (remaining index : ℕ) (vars : κ) :
    Only Q (loop body remaining index vars) := by
  induction remaining generalizing index vars with
  | zero => exact .pure _
  | succ remaining ih =>
    refine (hbody index vars).bind fun next => ?_
    cases next with
    | inl result => exact .pure _
    | inr vars' => exact ih (index + 1) vars'

lemma Only.forLoop {ρ κ : Type u} {body : ℕ → κ → StateT σ (CallTree C A) (ρ ⊕ κ)}
    {after : κ → StateT σ (CallTree C A) ρ} (hbody : ∀ index vars, Only Q (body index vars))
    (hafter : ∀ vars, Only Q (after vars)) (rounds : ℕ) (vars : κ) :
    Only Q (forLoop body rounds vars after) := by
  refine (Only.loop hbody rounds 0 vars).bind fun next => ?_
  cases next with
  | inl result => exact .pure _
  | inr vars' => exact hafter vars'

lemma Only.gives {m : StateT σ (CallTree C A) α} (hm : Only Q m) {s s' : σ}
    {trace : List (Event A)} {a : α} (h : Gives m s trace a s') : ∀ e ∈ trace, Q e.1 :=
  (hm s).runs h

lemma Only.mono {Q' : C → Prop} (himp : ∀ c, Q c → Q' c) {m : StateT σ (CallTree C A) α}
    (hm : Only Q m) : Only Q' m := fun s => (hm s).mono himp

end Only

/-! Programs run on another interface, by a handler for each of their calls. -/
section Handle

variable {C' : Type u} {A' : C' → Type u} {σ : Type u}

def handle (handler : ∀ c, StateT σ (CallTree C' A') (A c)) :
    CallTree C A α → StateT σ (CallTree C' A') α
  | done a => pure a
  | call c next => handler c >>= fun answer => handle handler (next answer)

/-- The outer trace whose calls the handler answered by the calls of the inner trace. -/
inductive Handled (handler : ∀ c, StateT σ (CallTree C' A') (A c)) :
    σ → List (Event A) → List (Event A') → σ → Prop
  | nil (s : σ) : Handled handler s [] [] s
  | cons {s s₁ s' : σ} {c : C} {answer : A c} {outer : List (Event A)}
      {xs ys : List (Event A')} (hcall : Gives (handler c) s xs answer s₁)
      (hrest : Handled handler s₁ outer ys s') :
      Handled handler s (⟨c, answer⟩ :: outer) (xs ++ ys) s'

lemma gives_handle {handler : ∀ c, StateT σ (CallTree C' A') (A c)} {t : CallTree C A α}
    {s s' : σ} {inner : List (Event A')} {a : α} (h : Gives (handle handler t) s inner a s') :
    ∃ outer, Ends t outer a ∧ Handled handler s outer inner s' := by
  induction t generalizing s inner with
  | done b =>
    rw [handle, gives_pure] at h
    obtain ⟨rfl, rfl, rfl⟩ := h
    exact ⟨[], .refl _, .nil _⟩
  | call c next ih =>
    rw [handle, gives_bind] at h
    obtain ⟨xs, ys, answer, s₁, rfl, hcall, hrest⟩ := h
    obtain ⟨outer, houter, hhandled⟩ := ih answer hrest
    exact ⟨_, .step answer houter, .cons hcall hhandled⟩

/-- A handler that serves the calls a program makes by calls that satisfy `Q`. -/
lemma Only.handle_calls {P : C → Prop} {Q : C' → Prop}
    {handler : ∀ c, StateT σ (CallTree C' A') (A c)} (h : ∀ c, P c → Only Q (handler c))
    {t : CallTree C A α} (ht : t.Calls P) : Only Q (CallTree.handle handler t) := by
  induction t with
  | done a => exact .pure a
  | call c next ih => exact (h c ht.1).bind fun answer => ih answer (ht.2 answer)

lemma Only.handle {Q : C' → Prop} {handler : ∀ c, StateT σ (CallTree C' A') (A c)}
    (h : ∀ c, Only Q (handler c)) (t : CallTree C A α) : Only Q (handle handler t) := by
  induction t with
  | done a => exact .pure a
  | call c next ih => exact (h c).bind ih

end Handle

/-! Programs with a state that may fail. -/
section Fail

variable {σ : Type u}

lemma optionT_run_bind {m : OptionT (StateT σ (CallTree C A)) α}
    {f : α → OptionT (StateT σ (CallTree C A)) β} :
    (m >>= f).run = m.run >>= fun a => match a with
      | some a => (f a).run
      | none => pure none := rfl

/-- A sequence succeeds when both parts do. -/
lemma gives_optionBind {m : OptionT (StateT σ (CallTree C A)) α}
    {f : α → OptionT (StateT σ (CallTree C A)) β} {s s' : σ} {trace : List (Event A)} {b : β}
    (h : Gives (m >>= f).run s trace (some b) s') :
    ∃ xs ys a s₁, trace = xs ++ ys ∧ Gives m.run s xs (some a) s₁ ∧
      Gives (f a).run s₁ ys (some b) s' := by
  rw [optionT_run_bind] at h
  obtain ⟨xs, ys, a, s₁, rfl, hm, hf⟩ := gives_bind.mp h
  cases a with
  | none => exact absurd (gives_pure.mp hf).2.1 nofun
  | some a => exact ⟨xs, ys, a, s₁, rfl, hm, hf⟩

lemma Gives.optionBind {m : OptionT (StateT σ (CallTree C A)) α}
    {f : α → OptionT (StateT σ (CallTree C A)) β} {s s₁ s' : σ} {xs ys : List (Event A)} {a : α}
    {b : Option β} (hm : Gives m.run s xs (some a) s₁) (hf : Gives (f a).run s₁ ys b s') :
    Gives (m >>= f).run s (xs ++ ys) b s' := by
  rw [optionT_run_bind]
  exact gives_bind.mpr ⟨xs, ys, some a, s₁, rfl, hm, hf⟩

lemma gives_optionPure {a b : α} {s s' : σ} {trace : List (Event A)}
    (h : Gives (pure a : OptionT (StateT σ (CallTree C A)) α).run s trace (some b) s') : b = a :=
  Option.some.inj (gives_pure.mp h).2.1

lemma Only.optionBind {Q : C → Prop} {m : OptionT (StateT σ (CallTree C A)) α}
    {f : α → OptionT (StateT σ (CallTree C A)) β} (hm : Only Q m.run)
    (hf : ∀ a, Only Q (f a).run) : Only Q (m >>= f).run := by
  rw [optionT_run_bind]
  refine hm.bind fun a => ?_
  cases a with
  | none => exact .pure none
  | some a => exact hf a

lemma Only.optionPure {Q : C → Prop} (a : α) :
    Only Q (Pure.pure a : OptionT (StateT σ (CallTree C A)) α).run := .pure (some a)

lemma Only.optionFail {Q : C → Prop} :
    Only Q (failure : OptionT (StateT σ (CallTree C A)) α).run := .pure none

lemma Only.getM {Q : C → Prop} (o : Option α) :
    Only Q (o.getM : OptionT (StateT σ (CallTree C A)) α).run := by
  cases o with
  | none => exact .pure none
  | some a => exact .pure (some a)

end Fail
end CallTree
