import Ventilator.CallTreeLogic

/-! Guards of programs taken together, and weakened. -/
namespace CallTree
universe u

variable {C : Type u} {A : C → Type u} {α σ : Type u}
  {guard guard' : List (Event A) → Event A → Prop} {before : List (Event A)}

lemma Meets.weaken {t : CallTree C A α} {post : α → List (Event A) → Prop}
    (h : Meets guard before t post) (himp : ∀ before e, guard before e → guard' before e) :
    Meets guard' before t post := by
  induction t generalizing before with
  | done a => exact h
  | call c next ih => exact fun answer => ⟨himp _ _ (h answer).1, ih answer (h answer).2⟩

lemma Meets.both {t : CallTree C A α} {post post' : α → List (Event A) → Prop}
    (h : Meets guard before t post) (h' : Meets guard' before t post') :
    Meets (fun before e => guard before e ∧ guard' before e) before t
      fun a after => post a after ∧ post' a after := by
  induction t generalizing before with
  | done a => exact ⟨h, h'⟩
  | call c next ih =>
    intro answer
    exact ⟨⟨(h answer).1, (h' answer).1⟩, ih answer (h answer).2 (h' answer).2⟩

variable {s : σ} {m : Stopping A σ α} {post post' : α → σ → List (Event A) → Prop}

lemma Holds.weaken (h : Holds guard before s m post)
    (himp : ∀ before e, guard before e → guard' before e) : Holds guard' before s m post :=
  Meets.weaken h himp

lemma Holds.both (h : Holds guard before s m post) (h' : Holds guard' before s m post') :
    Holds (fun before e => guard before e ∧ guard' before e) before s m
      fun a s' after => post a s' after ∧ post' a s' after :=
  (Meets.both h h').mono fun _ _ hpost a ha => ⟨hpost.1 a ha, hpost.2 a ha⟩

end CallTree
