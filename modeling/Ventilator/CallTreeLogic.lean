import Ventilator.CallTree
import Ventilator.TraceGuard

/-! Rules for what a program does after any history of events: every call it makes comes where a
guard allows it, and a result is returned with a history of its own. -/
namespace CallTree
open TraceGuard
universe u

variable {C : Type u} {A : C → Type u} {α β σ : Type u}

/-- After the history `before`, whatever is answered, every call of the program is allowed where
it comes, and every result comes with a history that `post` relates to it. -/
def Meets (guard : List (Event A) → Event A → Prop) (before : List (Event A))
    (t : CallTree C A α) (post : α → List (Event A) → Prop) : Prop :=
  match t with
  | done a => post a before
  | call c next => ∀ answer,
    guard before ⟨c, answer⟩ ∧ Meets guard (before ++ [⟨c, answer⟩]) (next answer) post

variable {guard guard' : List (Event A) → Event A → Prop} {before : List (Event A)}

lemma calls_of_forall {P : C → Prop} (h : ∀ c, P c) (t : CallTree C A α) : t.Calls P := by
  induction t with
  | done a => trivial
  | call c next ih => exact ⟨h c, ih⟩

section Meets

variable {t : CallTree C A α} {post Q : α → List (Event A) → Prop}

lemma Meets.mono {post' : α → List (Event A) → Prop} (h : Meets guard before t post)
    (himp : ∀ a after, post a after → post' a after) : Meets guard before t post' := by
  induction t generalizing before with
  | done a => exact himp a before h
  | call c next ih => exact fun answer => ⟨(h answer).1, ih answer (h answer).2⟩

lemma Meets.bind {f : α → CallTree C A β} {post : β → List (Event A) → Prop}
    (ht : Meets guard before t Q) (hf : ∀ a after, Q a after → Meets guard after (f a) post) :
    Meets guard before (t >>= f) post := by
  induction t generalizing before with
  | done a => exact hf a before ht
  | call c next ih => exact fun answer => ⟨(ht answer).1, ih answer (ht answer).2⟩

/-- A run that has not returned yet is guarded as well. -/
lemma Meets.runs {rest : CallTree C A α} {trace : List (Event A)} (h : Meets guard before t post)
    (hrun : Runs t trace rest) :
    Guarded guard before trace ∧ Meets guard (before ++ trace) rest post := by
  induction hrun generalizing before with
  | refl t => exact ⟨guarded_nil, by simpa using h⟩
  | step answer hrun ih =>
    obtain ⟨hguard, hrest⟩ := ih (h answer).2
    exact ⟨guarded_cons.mpr ⟨(h answer).1, hguard⟩, by simpa using hrest⟩

lemma Meets.ends {trace : List (Event A)} {a : α} (h : Meets guard before t post)
    (hends : Ends t trace a) : Guarded guard before trace ∧ post a (before ++ trace) :=
  h.runs hends

lemma Meets.ite {p : Prop} [Decidable p] {t' : CallTree C A α}
    (ht : p → Meets guard before t post) (ht' : ¬ p → Meets guard before t' post) :
    Meets guard before (if p then t else t') post := by
  split
  · rename_i h
    exact ht h
  · rename_i h
    exact ht' h

/-- The loop rule: what a round keeps, or returns with. -/
lemma Meets.loop {ρ κ : Type u} {body : ℕ → κ → CallTree C A (ρ ⊕ κ)}
    {I : κ → List (Event A) → Prop} {post : ρ ⊕ κ → List (Event A) → Prop}
    (hbody : ∀ index vars before, I vars before →
      Meets guard before (body index vars) fun out after => match out with
        | .inl result => post (.inl result) after
        | .inr vars' => I vars' after)
    (hend : ∀ vars before, I vars before → post (.inr vars) before)
    (remaining index : ℕ) {vars : κ} (hinit : I vars before) :
    Meets guard before (CallTree.loop body remaining index vars) post := by
  induction remaining generalizing index vars before with
  | zero => exact hend _ _ hinit
  | succ remaining ih =>
    refine (hbody index vars before hinit).bind fun out after hout => ?_
    cases out with
    | inl result => exact hout
    | inr vars' => exact ih (index + 1) hout

lemma meets_of_ends
    (h : ∀ trace a, Ends t trace a → Guarded guard before trace ∧ post a (before ++ trace))
    [∀ c, Nonempty (A c)] : Meets guard before t post := by
  induction t generalizing before with
  | done a =>
    have hpost := (h [] a (.refl _)).2
    rwa [List.append_nil] at hpost
  | call c next ih =>
    intro answer
    refine ⟨?_, ih answer fun trace a hends => ?_⟩
    · obtain ⟨trace, a, hends⟩ := (next answer).exists_ends
      exact (guarded_cons.mp (h _ a (.step answer hends)).1).1
    · obtain ⟨hguard, hpost⟩ := h _ a (.step answer hends)
      exact ⟨(guarded_cons.mp hguard).2, by simpa using hpost⟩

/-- A guard that allows every call says nothing. -/
lemma meets_of_allowed (h : ∀ before e, guard before e) (t : CallTree C A α) :
    Meets guard before t fun _ _ => True := by
  induction t generalizing before with
  | done a => trivial
  | call c next ih => exact fun answer => ⟨h before _, ih answer⟩

end Meets

/-- Against an environment whose every answer follows a relation, so does the whole run. -/
lemma along_play {ε : Type u} {R : ε → Event A → ε → Prop} {answer : ε → (c : C) → A c × ε}
    (h : ∀ env c, R env ⟨c, (answer env c).1⟩ (answer env c).2) (t : CallTree C A α) (env : ε) :
    Along R env (play answer t env).1 (play answer t env).2.2 := by
  induction t generalizing env with
  | done a => exact .nil _
  | call c next ih => exact .cons (h env c) (ih _ _)

/-! Programs with a state that may stop without a result. -/
section Holds

abbrev Stopping (A : C → Type u) (σ α : Type u) := OptionT (StateT σ (CallTree C A)) α

/-- From the state `s` and after the history `before`, every call is allowed where it comes, and
every result comes with a state and a history that `post` relates to it. -/
def Holds (guard : List (Event A) → Event A → Prop) (before : List (Event A)) (s : σ)
    (m : Stopping A σ α) (post : α → σ → List (Event A) → Prop) : Prop :=
  Meets guard before (m.run.run s) fun r after => ∀ a, r.1 = some a → post a r.2 after

variable {s : σ} {m m' : Stopping A σ α} {post Q : α → σ → List (Event A) → Prop}

lemma Holds.mono {post' : α → σ → List (Event A) → Prop} (h : Holds guard before s m post)
    (himp : ∀ a s' after, post a s' after → post' a s' after) : Holds guard before s m post' :=
  Meets.mono h fun _ _ hr a ha => himp _ _ _ (hr a ha)

lemma Holds.pure {a : α} (h : post a s before) :
    Holds guard before s (Pure.pure a : Stopping A σ α) post := by
  intro b hb
  obtain rfl := Option.some.inj hb
  exact h

lemma Holds.failure : Holds guard before s (failure : Stopping A σ α) post := nofun

lemma Holds.bind {f : α → Stopping A σ β} {post : β → σ → List (Event A) → Prop}
    (hm : Holds guard before s m Q)
    (hf : ∀ a s' after, Q a s' after → Holds guard after s' (f a) post) :
    Holds guard before s (m >>= f) post := by
  have hrun : ((m >>= f).run.run s) = m.run.run s >>= fun r =>
      (r.1.elim (Pure.pure none) fun a => (f a).run : StateT σ (CallTree C A) (Option β)).run
        r.2 := by
    refine congrArg (m.run.run s >>= ·) (funext fun r => ?_)
    obtain ⟨o, s'⟩ := r
    cases o <;> rfl
  rw [Holds, hrun]
  refine Meets.bind hm fun r after hr => ?_
  obtain ⟨o, s'⟩ := r
  cases o with
  | none =>
    intro a ha
    cases ha
  | some a => exact hf a s' after (hr a rfl)

lemma Holds.lift {n : StateT σ (CallTree C A) α}
    (h : Meets guard before (n.run s) fun r after => post r.1 r.2 after) :
    Holds guard before s (OptionT.lift n) post := by
  have hrun : (OptionT.lift n : Stopping A σ α).run.run s =
      n.run s >>= fun r => Pure.pure (some r.1, r.2) := rfl
  rw [Holds, hrun]
  refine Meets.bind h fun r after hr a ha => ?_
  obtain rfl := Option.some.inj ha
  exact hr

lemma Holds.ask {c : C} {post : A c → σ → List (Event A) → Prop}
    (h : ∀ answer, guard before ⟨c, answer⟩ ∧ post answer s (before ++ [⟨c, answer⟩])) :
    Holds guard before s (OptionT.lift (CallTree.ask c)) post :=
  .lift fun answer => h answer

lemma Holds.ask_bind {c : C} {f : A c → Stopping A σ β} {post : β → σ → List (Event A) → Prop}
    (h : ∀ answer, guard before ⟨c, answer⟩ ∧
      Holds guard (before ++ [⟨c, answer⟩]) s (f answer) post) :
    Holds guard before s (OptionT.lift (CallTree.ask c) >>= f) post :=
  fun answer => h answer

lemma Holds.get_bind {f : σ → Stopping A σ β} {post : β → σ → List (Event A) → Prop}
    (h : Holds guard before s (f s) post) :
    Holds guard before s (OptionT.lift get >>= f) post := h

lemma Holds.modify_bind {g : σ → σ} {f : PUnit → Stopping A σ β}
    {post : β → σ → List (Event A) → Prop} (h : Holds guard before (g s) (f ⟨⟩) post) :
    Holds guard before s (OptionT.lift (modify g) >>= f) post := h

lemma Holds.modify {g : σ → σ} {post : PUnit → σ → List (Event A) → Prop}
    (h : post ⟨⟩ (g s) before) :
    Holds guard before s (OptionT.lift (modify g)) post := .lift h

lemma Holds.ite {p : Prop} [Decidable p] (hm : p → Holds guard before s m post)
    (hm' : ¬ p → Holds guard before s m' post) :
    Holds guard before s (if p then m else m') post := by
  split
  · rename_i h
    exact hm h
  · rename_i h
    exact hm' h

/-- The loop rule: what a round keeps, or returns with. -/
lemma Holds.loop {ρ κ : Type u} {body : ℕ → κ → Stopping A σ (ρ ⊕ κ)}
    {I : κ → σ → List (Event A) → Prop} {post : ρ ⊕ κ → σ → List (Event A) → Prop}
    (hbody : ∀ index vars s before, I vars s before →
      Holds guard before s (body index vars) fun out s' after => match out with
        | .inl result => post (.inl result) s' after
        | .inr vars' => I vars' s' after)
    (hend : ∀ vars s before, I vars s before → post (.inr vars) s before)
    (remaining index : ℕ) {vars : κ} (hinit : I vars s before) :
    Holds guard before s (CallTree.loop body remaining index vars) post := by
  induction remaining generalizing index vars s before with
  | zero => exact .pure (hend _ _ _ hinit)
  | succ remaining ih =>
    refine (hbody index vars s before hinit).bind fun out s' after hout => ?_
    cases out with
    | inl result => exact .pure hout
    | inr vars' => exact ih (index + 1) hout

lemma holds_of_allowed (h : ∀ before e, guard before e) :
    Holds guard before s m fun _ _ _ => True :=
  (meets_of_allowed h (m.run.run s)).mono fun _ _ _ _ _ => trivial

/-- What follows of a run, returned or not. -/
lemma Holds.guarded {trace : List (Event A)} {o : Option α} {s' : σ}
    (h : Holds guard before s m post) (hgives : Gives m.run s trace o s') :
    Guarded guard before trace := (Meets.ends h hgives).1

lemma Holds.gives {trace : List (Event A)} {a : α} {s' : σ} (h : Holds guard before s m post)
    (hgives : Gives m.run s trace (some a) s') : post a s' (before ++ trace) :=
  (Meets.ends h hgives).2 a rfl

/-- A program may be described by its runs. -/
lemma holds_of_gives [∀ c, Nonempty (A c)]
    (hguard : ∀ trace o s', Gives m.run s trace o s' → Guarded guard before trace)
    (hpost : ∀ trace a s', Gives m.run s trace (some a) s' → post a s' (before ++ trace)) :
    Holds guard before s m post := by
  refine meets_of_ends fun trace r hends => ⟨hguard trace r.1 r.2 hends, fun a ha => ?_⟩
  obtain ⟨o, s'⟩ := r
  obtain rfl : o = some a := ha
  exact hpost trace a s' hends

/-- The history after a program is the one before it and a run of the program. -/
lemma Holds.with_gives (h : Holds guard before s m post) [∀ c, Nonempty (A c)] :
    Holds guard before s m fun a s' after => post a s' after ∧
      ∃ trace, after = before ++ trace ∧ Gives m.run s trace (some a) s' :=
  holds_of_gives (fun _ _ _ hgives => h.guarded hgives)
    fun trace _ _ hgives => ⟨h.gives hgives, trace, rfl, hgives⟩

/-- The history only grows. -/
lemma Holds.extends [∀ c, Nonempty (A c)] (h : Holds guard before s m post) :
    Holds guard before s m fun a s' after => post a s' after ∧ ∃ more, after = before ++ more :=
  h.with_gives.mono fun _ _ _ ⟨hpost, trace, hafter, _⟩ => ⟨hpost, trace, hafter⟩

end Holds

/-! Programs that leave their state and whose calls are all of one kind. -/
section Silent

variable {P : C → Prop} {s : σ}

/-- Wherever the calls that satisfy `P` are allowed, the program runs, makes only such calls and
leaves its state. -/
def Silent (P : C → Prop) (m : Stopping A σ α) : Prop :=
  ∀ guard before s, (∀ before e, P e.1 → guard before e) →
    Holds guard before s m fun _ s' after =>
      s' = s ∧ ∃ more, after = before ++ more ∧ ∀ e ∈ more, P e.1

variable {m m' : Stopping A σ α}

lemma Silent.pure (a : α) : Silent P (Pure.pure a : Stopping A σ α) :=
  fun _ _ _ _ => .pure ⟨rfl, [], by simp⟩

lemma Silent.failure : Silent P (failure : Stopping A σ α) := fun _ _ _ _ => .failure

lemma Silent.bind {f : α → Stopping A σ β} (hm : Silent P m) (hf : ∀ a, Silent P (f a)) :
    Silent P (m >>= f) := by
  intro guard before s hguard
  refine (hm guard before s hguard).bind fun a s' after ⟨hs, xs, hxs, hP⟩ => ?_
  refine (hf a guard after s' hguard).mono fun b s'' last ⟨hs', ys, hys, hP'⟩ => ?_
  refine ⟨hs'.trans hs, xs ++ ys, by rw [hys, hxs, List.append_assoc], ?_⟩
  exact List.forall_mem_append.mpr ⟨hP, hP'⟩

lemma Silent.ask {c : C} (h : P c) : Silent P (OptionT.lift (CallTree.ask c) : Stopping A σ (A c)) :=
  fun _ _ _ hguard => .ask fun answer =>
    ⟨hguard _ ⟨c, answer⟩ h, rfl, [⟨c, answer⟩], rfl, by simpa using h⟩

lemma Silent.ite {p : Prop} [Decidable p] (hm : p → Silent P m) (hm' : ¬ p → Silent P m') :
    Silent P (if p then m else m') := by
  split
  · rename_i h
    exact hm h
  · rename_i h
    exact hm' h

lemma Silent.loop {ρ κ : Type u} {body : ℕ → κ → Stopping A σ (ρ ⊕ κ)}
    (hbody : ∀ index vars, Silent P (body index vars)) (remaining index : ℕ) (vars : κ) :
    Silent P (CallTree.loop body remaining index vars) := by
  induction remaining generalizing index vars with
  | zero => exact .pure _
  | succ remaining ih =>
    refine (hbody index vars).bind fun out => ?_
    cases out with
    | inl result => exact .pure _
    | inr vars' => exact ih (index + 1) vars'

lemma Silent.mono {P' : C → Prop} (himp : ∀ c, P c → P' c) (h : Silent P m) : Silent P' m :=
  fun guard before s hguard =>
    (h guard before s fun before e he => hguard before e (himp _ he)).mono
      fun _ _ _ ⟨hs, more, hmore, hP⟩ => ⟨hs, more, hmore, fun e he => himp _ (hP e he)⟩

end Silent
end CallTree
