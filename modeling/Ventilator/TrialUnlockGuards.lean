import Ventilator.TraceGuard
import Ventilator.TrialFallback

/-! What the last readings showed at each Ftst release and at each zero target that
`trial_restore_unlock` writes itself. -/
namespace Ventilator
open Double CallTree TraceGuard

/-- At an `Ftst = 0` write the last successful read showed no fan in manual mode. -/
def ReleaseGuard (before : List TrialEvent) (e : TrialEvent) : Prop :=
  e.1 = .writeFtst 0 → ∃ o, lastReading before = some o ∧ ∀ fan, o.mode fan ≠ 1

/-- A call a program made itself, or a whole run of a function it called. -/
inductive Made
  | own (e : TrialEvent)
  | called (trace : List TrialEvent)

def Made.trace : Made → List TrialEvent
  | own e => [e]
  | called trace => trace

/-- The observation allows the zero target of the pass before the release. -/
def Lowerable (o : TrialObservation) (fan : Fin 2) : Prop :=
  o.ftst = 1 ∧ o.mode 0 = 0 ∧ o.mode 1 = 0 ∧
    (∀ other, (o.targetRpm other).isfinite = true ∧ lt (o.targetRpm other) (finite 0) = false) ∧
    lt (finite 1) (o.targetRpm fan) = true

/-- A target a program writes itself is zero, comes right after a read that allows it and is the
first one for its fan. -/
def LowerGuard (before : List Made) (made : Made) : Prop :=
  ∀ fan rpm answer, made = .own ⟨.writeTarget fan rpm, answer⟩ →
    rpm = finite 0 ∧
    (∃ earlier full o, before = earlier ++ [.own ⟨.readObservation full, some o⟩] ∧
      Lowerable o fan) ∧
    ∀ rpm' answer', .own ⟨.writeTarget fan rpm', answer'⟩ ∉ before

namespace TrialBackend

variable {backend : TrialBackend}

/-- The trace in its parts: own calls, and whole runs of `trial_restore_system`. -/
structure Parted (backend : TrialBackend) (trace : List TrialEvent) (parts : List Made) : Prop where
  flat : trace = parts.flatMap Made.trace
  restored : ∀ run, .called run ∈ parts → ∃ s a s', Gives backend.trialRestoreSystem s run a s'

/-- A part with no target write of the program's own. -/
def NoOwnTarget (parts : List Made) : Prop :=
  ∀ fan rpm answer, .own ⟨.writeTarget fan rpm, answer⟩ ∉ parts

lemma modes_released {o : TrialObservation} (h : modesReleased o = true) (fan : Fin 2) :
    (o.mode fan = 0 ∨ o.mode fan = 3) ∧ (o.targetRpm fan).isfinite = true ∧
      lt (o.targetRpm fan) (finite 0) = false := by
  have hfan := List.all_eq_true.mp h fan (List.mem_finRange fan)
  simp only [Bool.and_eq_true, Bool.or_eq_true, beq_iff_eq, Bool.not_eq_true'] at hfan
  exact ⟨hfan.1.1, hfan.1.2, hfan.2⟩

/-- A released fan is not in manual mode. -/
lemma not_manual_of_released {o : TrialObservation} (h : modesReleased o = true) (fan : Fin 2) :
    o.mode fan ≠ 1 := by
  rcases (modes_released h fan).1 with hmode | hmode <;> rw [hmode] <;> decide

lemma not_manual_of_baseline {o : TrialObservation} (h : trialObservationIsBaseline o = true)
    (fan : Fin 2) : o.mode fan ≠ 1 := by
  rw [trialObservationIsBaseline, Bool.and_eq_true] at h
  have hfan := List.all_eq_true.mp h.2 fan (List.mem_finRange fan)
  simp only [Bool.and_eq_true, beq_iff_eq] at hfan
  rw [hfan.1.1]
  decide

/-! The release. -/

lemma guarded_of_restores {α : Type} {m : TrialM α} (hm : Restores m) {s s' : Bool} {a : α}
    {context trace : List TrialEvent} (h : Gives m s trace a s') :
    Guarded ReleaseGuard context trace := by
  refine .of_forall fun e he before hwrite => ?_
  have hrestores := hm.gives h e he
  rw [hwrite] at hrestores
  cases hrestores

/-- The trace ends with the readings of a pair that is not in manual mode. -/
def EndsFree (trace : List TrialEvent) : Prop :=
  ∃ o, lastReading trace = some o ∧ ∀ fan, o.mode fan ≠ 1

lemma EndsFree.append_left {trace : List TrialEvent} (h : EndsFree trace)
    (context : List TrialEvent) : EndsFree (context ++ trace) := by
  obtain ⟨o, hlast, hfree⟩ := h
  exact ⟨o, by rw [lastReading_append, hlast, Option.some_or], hfree⟩

lemma EndsFree.append_right {trace quiet : List TrialEvent} (h : EndsFree trace)
    (hquiet : ∀ o, lastReading quiet = some o → ∀ fan, o.mode fan ≠ 1) :
    EndsFree (trace ++ quiet) := by
  obtain ⟨o, hlast, hfree⟩ := h
  cases hreading : lastReading quiet with
  | none => exact ⟨o, by rw [lastReading_append, hreading, Option.none_or, hlast], hfree⟩
  | some o' => exact ⟨o', by rw [lastReading_append, hreading, Option.some_or], hquiet o' hreading⟩

lemma lastReading_eq_none {trace : List TrialEvent} (h : answers trace = []) :
    lastReading trace = none := by
  rw [lastReading, h]
  rfl

lemma EndsFree.append_silent {trace quiet : List TrialEvent} (h : EndsFree trace)
    (hquiet : answers quiet = []) : EndsFree (trace ++ quiet) :=
  h.append_right fun o hlast => by
    rw [lastReading_eq_none hquiet] at hlast
    cases hlast

lemma endsFree_read (full : Bool) {o : TrialObservation} (h : modesReleased o = true) :
    EndsFree [⟨.readObservation full, some o⟩] := ⟨o, rfl, not_manual_of_released h⟩

/-- A round after the release that waits for another one read released modes. -/
lemma awaitClearedSecond_endsFree {second : ℕ} {s s' : Bool} {trace : List TrialEvent}
    (h : Gives (backend.awaitClearedSecond second) s trace (.inr ()) s') : EndsFree trace := by
  obtain ⟨answer, trace₁, rfl, h₁⟩ := gives_ask_bind.mp h
  cases answer with
  | none => exact absurd (gives_pure.mp h₁).2.1 nofun
  | some o =>
    obtain ⟨hreleased, h₂⟩ := h₁.past_return nofun
    obtain ⟨noted, trace₂, _, s₁, rfl, hnote, h₃⟩ := gives_bind.mp h₂
    obtain ⟨recs, trace₃, _, s₂, rfl, hrecord, h₄⟩ := gives_bind.mp h₃
    obtain ⟨rfl, -⟩ := gives_noteFanState hnote
    have hfree := endsFree_read false (not_not.mp hreleased)
    have hrecs : EndsFree ([⟨.readObservation false, some o⟩] ++ recs) :=
      hfree.append_silent (record_clearing hrecord).1
    obtain ⟨-, h₅⟩ := h₄.past_return nofun
    obtain ⟨-, h₆⟩ := h₅.past_return nofun
    obtain ⟨waited, trace₄, rfl, h₇⟩ := gives_ask_bind.mp h₆
    obtain ⟨-, h₈⟩ := h₇.past_return nofun
    obtain ⟨rfl, -⟩ := gives_pure.mp h₈
    exact hrecs.append_silent rfl

/-- After ten reads that leave the release pending, no fan is in manual mode. -/
lemma awaitCleared_endsFree {s s' : Bool} {trace : List TrialEvent}
    (h : Gives backend.awaitCleared s trace .pending s') : EndsFree trace := by
  obtain ⟨second, vars, s₁, middle, last, rfl, hI, ⟨-, hlast⟩ | ⟨hsecond, hlast⟩⟩ :=
    h.forLoop (I := fun second _ _ trace => 0 < second → EndsFree trace)
      (fun _ _ _ before _ _ _ _ hbody _ => (awaitClearedSecond_endsFree hbody).append_left before)
      (by omega)
  · rcases awaitClearedSecond_clearing hlast with ⟨result, hout, hne, -⟩ | ⟨hout, -⟩
    · exact absurd (Sum.inl.inj hout).symm hne
    · exact absurd hout nofun
  · obtain ⟨rfl, -⟩ := gives_pure.mp hlast
    rw [List.append_nil]
    exact hI (by omega)

lemma clearRound_guarded {context trace : List TrialEvent} {s s' : Bool} {out : Bool ⊕ Unit}
    (hcontext : EndsFree context) (h : Gives backend.clearRound s trace out s') :
    Guarded ReleaseGuard context trace ∧ (out = .inr () → EndsFree (context ++ trace)) := by
  obtain ⟨xs, ys, _, s₁, rfl, hdiscard, h₁⟩ := gives_bind.mp h
  obtain ⟨answer, hask⟩ := gives_discard.mp hdiscard
  obtain ⟨rfl, rfl⟩ := gives_ask.mp hask
  obtain ⟨zs, ws, result, s₂, rfl, hawait, h₂⟩ := gives_bind.mp h₁
  have hwrite : Guarded ReleaseGuard context [⟨.writeFtst 0, answer⟩] :=
    guarded_singleton.mpr fun _ => hcontext
  have hreads : Guarded ReleaseGuard (context ++ [⟨.writeFtst 0, answer⟩]) zs :=
    guarded_of_restores watches_awaitCleared.restores hawait
  have hws : ws = [] := by
    cases result <;> exact (gives_pure.mp h₂).1
  rw [hws, List.append_nil]
  refine ⟨guarded_append.mpr ⟨hwrite, hreads⟩, fun hout => ?_⟩
  have hpending : result = .pending := by
    cases result with
    | pending => rfl
    | _ => exact absurd ((gives_pure.mp h₂).2.1.symm.trans hout) nofun
  rw [hpending] at hawait
  rw [← List.append_assoc]
  exact (awaitCleared_endsFree hawait).append_left _

/-- The release loop is entered, and repeated, with no fan in manual mode. -/
lemma clearFtst_guarded {context trace : List TrialEvent} {s s' a : Bool}
    (hcontext : EndsFree context) (h : Gives backend.clearFtst s trace a s') :
    Guarded ReleaseGuard context trace := by
  obtain ⟨attempt, vars, s₁, middle, last, rfl, ⟨hmiddle, hfree⟩, ⟨-, hlast⟩ | ⟨-, hlast⟩⟩ :=
    h.forLoop
      (I := fun _ _ _ trace => Guarded ReleaseGuard context trace ∧ EndsFree (context ++ trace))
      (fun _ _ _ before _ _ _ hbefore hbody => by
        obtain ⟨hguarded, hfree⟩ := clearRound_guarded hbefore.2 hbody
        rw [← List.append_assoc]
        exact ⟨guarded_append.mpr ⟨hbefore.1, hguarded⟩, hfree rfl⟩)
      ⟨guarded_nil, by simpa using hcontext⟩
  · exact guarded_append.mpr ⟨hmiddle, (clearRound_guarded hfree hlast).1⟩
  · obtain ⟨rfl, -⟩ := gives_pure.mp hlast
    simpa using hmiddle

/-- The target pass leaves the last reading free, or refuses the release. -/
lemma lowerTargets_endsFree {current : TrialObservation} {context trace : List TrialEvent}
    {s s' : Bool} (hcontext : EndsFree context)
    (h : Gives (backend.lowerTargets current) s trace true s') : EndsFree (context ++ trace) := by
  unfold lowerTargets at h
  split at h
  swap
  · obtain ⟨rfl, -⟩ := gives_pure.mp h
    simpa using hcontext
  obtain ⟨xs, ys, _, s₁, rfl, hpass, h₁⟩ := gives_bind.mp h
  obtain ⟨answer, trace₁, rfl, h₂⟩ := gives_ask_bind.mp h₁
  cases answer with
  | none => exact absurd (gives_pure.mp h₂).2.1 nofun
  | some o =>
    obtain ⟨hreleased, h₃⟩ := h₂.past_return nofun
    obtain ⟨noted, trace₂, _, s₂, rfl, hnote, h₄⟩ := gives_bind.mp h₃
    obtain ⟨recs, trace₃, _, s₃, rfl, hrecord, h₅⟩ := gives_bind.mp h₄
    obtain ⟨rfl, -⟩ := gives_noteFanState hnote
    obtain ⟨rfl, -⟩ := gives_pure.mp h₅
    have hread : EndsFree ([⟨.readObservation false, some o⟩] ++ recs) :=
      (endsFree_read false (not_not.mp hreleased)).append_silent (record_clearing hrecord).1
    have htrace : context ++ (xs ++ ⟨.readObservation false, some o⟩ :: ([] ++ (recs ++ []))) =
        context ++ xs ++ ([⟨.readObservation false, some o⟩] ++ recs) := by simp
    rw [htrace]
    exact hread.append_left _

/-- The release is reached with no fan in manual mode. -/
lemma prepareFrom_endsFree {current : TrialObservation} {delayedChange changed s s' : Bool}
    {trace : List TrialEvent}
    (h : Gives (backend.prepareFrom current delayedChange) s trace (.ready changed) s') :
    EndsFree trace := by
  unfold prepareFrom at h
  split at h
  · obtain ⟨xs, ys, restored, s₁, rfl, -, h₁⟩ := gives_bind.mp h
    exact absurd (gives_pure.mp h₁).2.1 nofun
  obtain ⟨-, h₁⟩ := h.past_return nofun
  obtain ⟨as, trace₁, ok, s₁, rfl, -, h₂⟩ := gives_bind.mp h₁
  obtain ⟨-, h₃⟩ := h₂.past_return nofun
  obtain ⟨bs, trace₂, ok', s₂, rfl, -, h₄⟩ := gives_bind.mp h₃
  obtain ⟨-, h₅⟩ := h₄.past_return nofun
  obtain ⟨answer, trace₃, rfl, h₆⟩ := gives_ask_bind.mp h₅
  cases answer with
  | none => exact absurd (gives_pure.mp h₆).2.1 nofun
  | some o =>
    obtain ⟨hreleased, h₇⟩ := h₆.past_return nofun
    obtain ⟨noted, trace₄, _, s₃, rfl, hnote, h₈⟩ := gives_bind.mp h₇
    obtain ⟨recs, trace₅, _, s₄, rfl, hrecord, h₉⟩ := gives_bind.mp h₈
    obtain ⟨rfl, -⟩ := gives_noteFanState hnote
    obtain ⟨zs, ws, lowered, s₅, rfl, hlower, h₁₀⟩ := gives_bind.mp h₉
    rw [not_or, not_not, not_not] at hreleased
    have hread : EndsFree (as ++ bs ++ ([⟨.readObservation false, some o⟩] ++ recs)) :=
      ((endsFree_read false hreleased.2).append_silent (record_clearing hrecord).1).append_left _
    cases lowered with
    | false => exact absurd (gives_pure.mp h₁₀).2.1 nofun
    | true =>
      obtain ⟨rfl, -⟩ := gives_pure.mp h₁₀
      have htrace : as ++ (bs ++ ⟨.readObservation false, some o⟩ :: ([] ++ (recs ++ (zs ++ [])))) =
          as ++ bs ++ ([⟨.readObservation false, some o⟩] ++ recs) ++ zs := by simp
      rw [htrace]
      exact lowerTargets_endsFree hread hlower

lemma prepareRelease_endsFree {changed s s' : Bool} {trace : List TrialEvent}
    (h : Gives backend.prepareRelease s trace (.ready changed) s') : EndsFree trace := by
  obtain ⟨as, trace₁, found, s₁, rfl, -, h₁⟩ := gives_bind.mp h
  cases found with
  | none => exact absurd (gives_pure.mp h₁).2.1 nofun
  | some current =>
    obtain ⟨recs, trace₂, _, s₂, rfl, -, h₂⟩ := gives_bind.mp h₁
    split at h₂
    · obtain ⟨bs, trace₃, window, s₃, rfl, -, h₃⟩ := gives_bind.mp h₂
      obtain ⟨-, h₄⟩ := h₃.past_return nofun
      obtain ⟨-, h₅⟩ := h₄.past_return nofun
      obtain ⟨answer, trace₄, rfl, h₆⟩ := gives_ask_bind.mp h₅
      cases answer with
      | none => exact absurd (gives_pure.mp h₆).2.1 nofun
      | some later =>
        obtain ⟨noted, trace₅, _, s₄, rfl, -, h₇⟩ := gives_bind.mp h₆
        have hfrom := prepareFrom_endsFree h₇
        have htrace : as ++ (recs ++ (bs ++ ⟨.readObservation false, some later⟩ ::
            (noted ++ trace₅))) =
            as ++ recs ++ bs ++ [⟨.readObservation false, some later⟩] ++ noted ++ trace₅ := by simp
        rw [htrace]
        exact hfrom.append_left _
    · rw [← List.append_assoc]
      exact (prepareFrom_endsFree h₂).append_left _

/-- A recovery releases Ftst only after a reading with no fan in manual mode. -/
lemma restoreUnlock_guarded (context : List TrialEvent) {s s' a : Bool} {trace : List TrialEvent}
    (h : Gives backend.trialRestoreUnlock s trace a s') : Guarded ReleaseGuard context trace := by
  unfold trialRestoreUnlock at h
  split at h
  · obtain ⟨rfl, -⟩ := gives_pure.mp h
    exact guarded_nil
  obtain ⟨xs, ys, prepared, s₁, rfl, hprepare, h₁⟩ := gives_bind.mp h
  refine guarded_append.mpr ⟨guarded_of_restores restores_prepareRelease hprepare, ?_⟩
  cases prepared with
  | returned result =>
    obtain ⟨rfl, -⟩ := gives_pure.mp h₁
    exact guarded_nil
  | ready delayedChange =>
    obtain ⟨zs, ws, cleared, s₂, rfl, hclear, h₂⟩ := gives_bind.mp h₁
    have hfree := (prepareRelease_endsFree hprepare).append_left context
    refine guarded_append.mpr ⟨clearFtst_guarded hfree hclear, ?_⟩
    cases cleared with
    | true => exact guarded_of_restores (restores_awaitBaseline _) h₂
    | false =>
      obtain ⟨rfl, -⟩ := gives_pure.mp h₂
      exact guarded_nil

/-- The programs that are guarded wherever they run. -/
def Releases {α : Type} (m : TrialM α) : Prop :=
  ∀ s trace a s', Gives m s trace a s' → ∀ context, Guarded ReleaseGuard context trace

lemma Releases.guarded {α : Type} {m : TrialM α} (hm : Releases m) {s s' : Bool} {a : α}
    {context trace : List TrialEvent} (h : Gives m s trace a s') :
    Guarded ReleaseGuard context trace := hm _ _ _ _ h context

lemma Restores.releases {α : Type} {m : TrialM α} (hm : Restores m) : Releases m :=
  fun _ _ _ _ h _ => guarded_of_restores hm h

lemma Releases.bind {α β : Type} {m : TrialM α} {f : α → TrialM β} (hm : Releases m)
    (hf : ∀ a, Releases (f a)) : Releases (m >>= f) := by
  intro s trace b s' h context
  obtain ⟨xs, ys, a, s₁, rfl, hxs, hys⟩ := gives_bind.mp h
  exact guarded_append.mpr ⟨hm _ _ _ _ hxs context, hf a _ _ _ _ hys _⟩

lemma Releases.pure {α : Type} (a : α) : Releases (Pure.pure a : TrialM α) :=
  Restores.releases (.pure a)

lemma Releases.ite {α : Type} {p : Prop} [Decidable p] {m m' : TrialM α} (hm : Releases m)
    (hm' : Releases m') : Releases (if p then m else m') := by
  split
  · exact hm
  · exact hm'

lemma releases_restoreUnlock : Releases backend.trialRestoreUnlock :=
  fun _ _ _ _ h context => restoreUnlock_guarded context h

lemma releases_observe : Releases backend.trialObserveAfterFtst :=
  Restores.releases watches_observe.restores

lemma releases_bothAgain : Releases (backend.restoredAndStable backend.trialRestoreUnlock) :=
  releases_restoreUnlock.bind fun _ => .ite (.pure _) (releases_observe.bind fun _ => .pure _)

lemma releases_recoverUnlock {settle : TrialM TrialRunStatus} {again : TrialRunStatus}
    (hsettle : Releases settle) : Releases (backend.recoverUnlock settle again) :=
  releases_restoreUnlock.bind fun _ =>
    .ite (releases_observe.bind fun _ => .pure _)
      (releases_observe.bind fun _ => .ite
        (releases_bothAgain.bind fun _ => .ite (.pure _) (.pure _)) hsettle)

/-- A trial begins with a baseline reading. -/
lemma admitFtst_endsFree {started : Double} {s s' : Bool} {trace : List TrialEvent}
    (h : Gives admitFtst s trace (some started) s') : EndsFree trace := by
  obtain ⟨answer, trace₁, rfl, h₁⟩ := gives_ask_bind.mp h
  cases answer with
  | none => exact absurd (gives_pure.mp h₁).2.1 nofun
  | some baseline =>
    obtain ⟨hchecks, h₂⟩ := h₁.past_return nofun
    obtain ⟨stop, trace₂, rfl, h₃⟩ := gives_ask_bind.mp h₂
    obtain ⟨-, h₄⟩ := h₃.past_return nofun
    obtain ⟨time, trace₃, rfl, h₅⟩ := gives_ask_bind.mp h₄
    obtain ⟨rfl, -⟩ := gives_pure.mp h₅
    simp only [Bool.or_eq_true, Bool.not_eq_true', not_or, Bool.not_eq_false] at hchecks
    exact ⟨baseline, rfl, not_manual_of_baseline hchecks.1⟩

/-- A round of the reads after `Ftst = 1`. -/
def effectRound (backend : TrialBackend) (halfSecond : ℕ) :
    TrialM (Option TrialObservation ⊕ Unit) := do
  match ← TrialM.readObservation true with
  | none => pure (.inl none)
  | some afterWrite =>
    backend.record halfSecond afterWrite
    noteFanState afterWrite
    if !trialObservationIsBaseline afterWrite then pure (.inl (some afterWrite))
    else if !temperaturesSafe afterWrite then pure (.inl none)
    else if ← TrialM.shouldStop then pure (.inl none)
    else if halfSecond = 20 then pure (.inl none)
    else if !(← TrialM.waitMilliseconds 500) then pure (.inl none)
    else pure (.inr ())

/-- A round that shows no effect reads nothing or a baseline. -/
lemma effectRound_endsFree {context trace : List TrialEvent} {halfSecond : ℕ} {s s' : Bool}
    {out : Option TrialObservation ⊕ Unit} (hout : ∀ o, out ≠ .inl (some o))
    (hcontext : EndsFree context) (h : Gives (backend.effectRound halfSecond) s trace out s') :
    EndsFree (context ++ trace) := by
  obtain ⟨answer, trace₁, rfl, h₁⟩ := gives_ask_bind.mp h
  cases answer with
  | none =>
    obtain ⟨rfl, -⟩ := gives_pure.mp h₁
    exact hcontext.append_right fun o hlast => absurd (show none = some o from hlast) nofun
  | some o =>
    obtain ⟨recs, trace₂, _, s₁, rfl, hrecord, h₂⟩ := gives_bind.mp h₁
    obtain ⟨noted, trace₃, _, s₂, rfl, hnote, h₃⟩ := gives_bind.mp h₂
    obtain ⟨hbaseline, h₄⟩ := h₃.past_return (hout o)
    obtain ⟨rfl, -⟩ := gives_noteFanState hnote
    have hsilent : answers trace₃ = [] := by
      refine answers_of_no_sampling (Only.gives (Q := fun c => c.isSampling = false) ?_ h₄)
      exact .ite (fun _ => .pure _) fun _ => (Only.ask (by rfl)).bind fun _ =>
        .ite (fun _ => .pure _) fun _ => .ite (fun _ => .pure _) fun _ =>
          (Only.ask (by rfl)).bind fun _ => .ite (fun _ => .pure _) fun _ => .pure _
    rw [Bool.not_eq_true, Bool.not_eq_false'] at hbaseline
    have hread : EndsFree ([⟨.readObservation true, some o⟩] ++ recs ++ trace₃) :=
      (EndsFree.append_silent ⟨o, rfl, not_manual_of_baseline hbaseline⟩
        (record_clearing hrecord).1).append_silent hsilent
    have htrace : ⟨.readObservation true, some o⟩ :: (recs ++ ([] ++ trace₃)) =
        [⟨.readObservation true, some o⟩] ++ recs ++ trace₃ := by simp
    rw [htrace]
    exact hread.append_left _

/-- While no effect is seen every reading is a baseline. -/
lemma awaitEffect_endsFree {context trace : List TrialEvent} {s s' : Bool}
    (hcontext : EndsFree context) (h : Gives backend.awaitEffect s trace none s') :
    EndsFree (context ++ trace) := by
  obtain ⟨halfSecond, vars, s₁, middle, last, rfl, hI, ⟨-, hlast⟩ | ⟨-, hlast⟩⟩ :=
    h.forLoop (I := fun _ _ _ trace => EndsFree (context ++ trace))
      (fun _ _ _ _ _ _ _ hbefore hbody => by
        rw [← List.append_assoc]
        exact effectRound_endsFree (by simp) hbefore hbody)
      (by simpa using hcontext)
  · rw [← List.append_assoc]
    exact effectRound_endsFree (by simp) hI hlast
  · obtain ⟨rfl, -⟩ := gives_pure.mp hlast
    simpa using hI

lemma releaseUnseen_guarded {context trace : List TrialEvent} {s s' : Bool}
    {status : TrialRunStatus} (hcontext : EndsFree context)
    (h : Gives backend.releaseUnseen s trace status s') : Guarded ReleaseGuard context trace := by
  obtain ⟨releaseOk, rest, rfl, h₁⟩ := gives_ask_bind.mp h
  refine guarded_cons.mpr ⟨fun _ => hcontext, Releases.guarded ?_ h₁⟩
  exact releases_observe.bind fun _ => .ite (releases_bothAgain.bind fun _ =>
    .ite (.pure _) (.pure _)) (.pure _)

lemma writeOne_guard {before : List TrialEvent} {ok : Bool} :
    ReleaseGuard before ⟨.writeFtst 1, ok⟩ := fun hwrite => absurd hwrite (by simp)

lemma checkFtst_guarded {trace : List TrialEvent} {s s' : Bool} {status : TrialRunStatus}
    (h : Gives backend.checkFtst s trace status s') : Guarded ReleaseGuard [] trace := by
  obtain ⟨xs, trace₁, admitted, s₁, rfl, hadmit, h₁⟩ := gives_bind.mp h
  refine guarded_append.mpr ⟨guarded_of_restores watches_admitFtst.restores hadmit, ?_⟩
  cases admitted with
  | none =>
    obtain ⟨rfl, -⟩ := gives_pure.mp h₁
    exact guarded_nil
  | some started =>
    have hfree : EndsFree ([] ++ xs) := admitFtst_endsFree hadmit
    obtain ⟨writeOk, trace₂, rfl, h₂⟩ := gives_ask_bind.mp h₁
    obtain ⟨ys, trace₃, effect, s₂, rfl, heffect, h₃⟩ := gives_bind.mp h₂
    refine guarded_cons.mpr ⟨writeOne_guard, guarded_append.mpr
      ⟨guarded_of_restores watches_awaitEffect.restores heffect, ?_⟩⟩
    cases effect with
    | none =>
      have hwritten : EndsFree ([] ++ xs ++ [⟨.writeFtst 1, writeOk⟩]) := hfree.append_silent rfl
      exact releaseUnseen_guarded (awaitEffect_endsFree hwritten heffect) h₃
    | some afterWrite =>
      refine Releases.guarded ?_ h₃
      exact (Restores.releases (watches_unlockChecked _ _ _).restores).bind fun _ =>
        releases_recoverUnlock (Restores.releases (Only.get.bind fun _ => .pure _))

lemma rehearse_guarded {minimumRpm : Fin 2 → Double} {trace : List TrialEvent} {s s' : Bool}
    {status : TrialRunStatus}
    (h : Gives (backend.trialRehearseFtstMinimumRecovery minimumRpm) s trace status s') :
    Guarded ReleaseGuard [] trace := by
  unfold trialRehearseFtstMinimumRecovery at h
  split at h
  · obtain ⟨rfl, -⟩ := gives_pure.mp h
    exact guarded_nil
  split at h
  · obtain ⟨rfl, -⟩ := gives_pure.mp h
    exact guarded_nil
  obtain ⟨xs, trace₁, admitted, s₁, rfl, hadmit, h₁⟩ := gives_bind.mp h
  refine guarded_append.mpr ⟨guarded_of_restores watches_admitFtst.restores hadmit, ?_⟩
  cases admitted with
  | none =>
    obtain ⟨rfl, -⟩ := gives_pure.mp h₁
    exact guarded_nil
  | some started =>
    obtain ⟨writeOk, trace₂, rfl, h₂⟩ := gives_ask_bind.mp h₁
    refine guarded_cons.mpr ⟨writeOne_guard, Releases.guarded ?_ h₂⟩
    exact (Restores.releases (watches_awaitMinimum _ _).restores).bind fun _ =>
      releases_recoverUnlock (.pure _)

/-! The targets. -/

lemma Parted.append {xs ys : List TrialEvent} {parts parts' : List Made}
    (h : Parted backend xs parts) (h' : Parted backend ys parts') :
    Parted backend (xs ++ ys) (parts ++ parts') := by
  refine ⟨by rw [h.flat, h'.flat, List.flatMap_append], fun run hrun => ?_⟩
  rcases List.mem_append.mp hrun with hrun | hrun
  · exact h.restored run hrun
  · exact h'.restored run hrun

lemma parted_own (trace : List TrialEvent) : Parted backend trace (trace.map .own) := by
  refine ⟨by simp [List.flatMap_map, Made.trace], fun run hrun => ?_⟩
  obtain ⟨e, -, he⟩ := List.mem_map.mp hrun
  cases he

/-- A trace that can be parted with no target write of the program's own. -/
def Quiet (backend : TrialBackend) (trace : List TrialEvent) : Prop :=
  ∃ parts, Parted backend trace parts ∧ NoOwnTarget parts

/-- A trace that can be parted with every target write of the program's own guarded. -/
def Lowers (backend : TrialBackend) (trace : List TrialEvent) : Prop :=
  ∃ parts, Parted backend trace parts ∧ Guarded LowerGuard [] parts

lemma NoOwnTarget.guarded {parts : List Made} (h : NoOwnTarget parts) (context : List Made) :
    Guarded LowerGuard context parts := by
  rintro before made after rfl fan rpm answer rfl
  exact absurd (by simp) (h fan rpm answer)

/-- Parts without a target write of the program's own may precede the guarded ones. -/
lemma LowerGuard.prepend {quiet before : List Made} {made : Made} (hquiet : NoOwnTarget quiet)
    (h : LowerGuard before made) : LowerGuard (quiet ++ before) made := by
  intro fan rpm answer hmade
  obtain ⟨hzero, ⟨earlier, full, o, rfl, hlowerable⟩, hfirst⟩ := h fan rpm answer hmade
  refine ⟨hzero, ⟨quiet ++ earlier, full, o, by simp, hlowerable⟩, fun rpm' answer' hmem => ?_⟩
  rcases List.mem_append.mp hmem with hmem | hmem
  · exact hquiet fan rpm' answer' hmem
  · exact hfirst rpm' answer' hmem

lemma Quiet.lowers {trace : List TrialEvent} (h : Quiet backend trace) : Lowers backend trace := by
  obtain ⟨parts, hparted, hquiet⟩ := h
  exact ⟨parts, hparted, hquiet.guarded []⟩

lemma Quiet.append {xs ys : List TrialEvent} (h : Quiet backend xs) (h' : Quiet backend ys) :
    Quiet backend (xs ++ ys) := by
  obtain ⟨parts, hparted, hquiet⟩ := h
  obtain ⟨parts', hparted', hquiet'⟩ := h'
  refine ⟨parts ++ parts', hparted.append hparted', fun fan rpm answer hmem => ?_⟩
  rcases List.mem_append.mp hmem with hmem | hmem
  · exact hquiet fan rpm answer hmem
  · exact hquiet' fan rpm answer hmem

lemma Quiet.append_lowers {xs ys : List TrialEvent} (h : Quiet backend xs)
    (h' : Lowers backend ys) : Lowers backend (xs ++ ys) := by
  obtain ⟨parts, hparted, hquiet⟩ := h
  obtain ⟨parts', hparted', hguarded⟩ := h'
  refine ⟨parts ++ parts', hparted.append hparted', guarded_append.mpr ⟨hquiet.guarded [], ?_⟩⟩
  intro before made after heq
  have hmade : LowerGuard before made := hguarded before made after heq
  exact LowerGuard.prepend hquiet hmade

lemma Lowers.append_quiet {xs ys : List TrialEvent} (h : Lowers backend xs)
    (h' : Quiet backend ys) : Lowers backend (xs ++ ys) := by
  obtain ⟨parts, hparted, hguarded⟩ := h
  obtain ⟨parts', hparted', hquiet⟩ := h'
  exact ⟨parts ++ parts', hparted.append hparted',
    guarded_append.mpr ⟨hguarded, hquiet.guarded _⟩⟩

/-- The programs that write no target. -/
abbrev KeepsTargets {α : Type} (m : TrialM α) : Prop :=
  Only (fun c => ∀ fan rpm, c ≠ .writeTarget fan rpm) m

lemma Watches.keepsTargets {α : Type} {m : TrialM α} (h : Watches m) : KeepsTargets m :=
  h.mono fun c hc fan rpm heq => by
    rw [heq] at hc
    cases hc

lemma quiet_of_no_target {trace : List TrialEvent}
    (h : ∀ e ∈ trace, ∀ fan rpm, e.1 ≠ .writeTarget fan rpm) : Quiet backend trace := by
  refine ⟨trace.map .own, parted_own trace, fun fan rpm answer hmem => ?_⟩
  obtain ⟨e, he, heq⟩ := List.mem_map.mp hmem
  obtain rfl := Made.own.inj heq
  exact h _ he fan rpm rfl

lemma quiet_nil : Quiet backend [] := quiet_of_no_target (by simp)

lemma KeepsTargets.quiet {α : Type} {m : TrialM α} (hm : KeepsTargets m) {s s' : Bool} {a : α}
    {trace : List TrialEvent} (h : Gives m s trace a s') : Quiet backend trace :=
  quiet_of_no_target (hm.gives h)

lemma NoFanWrite.quiet {trace : List TrialEvent} (h : NoFanWrite trace) : Quiet backend trace := by
  refine quiet_of_no_target fun e he fan rpm hwrite => ?_
  have hfan := h e he
  rw [hwrite] at hfan
  cases hfan

lemma quiet_restoreSystem {s s' a : Bool} {trace : List TrialEvent}
    (h : Gives backend.trialRestoreSystem s trace a s') : Quiet backend trace := by
  refine ⟨[.called trace], ⟨by simp [Made.trace], fun run hrun => ?_⟩, by simp [NoOwnTarget]⟩
  obtain rfl := Made.called.inj (List.mem_singleton.mp hrun)
  exact ⟨s, a, s', h⟩

/-- One fan of the pass: a read, and the zero target only if the read allows it. -/
lemma lowerTarget_trace {fan : Fin 2} {s s' a : Bool} {trace : List TrialEvent}
    (h : Gives (lowerTarget fan) s trace a s') :
    (∃ answer, trace = [⟨.readObservation false, answer⟩]) ∨
      ∃ o ok, Lowerable o fan ∧
        trace = [⟨.readObservation false, some o⟩, ⟨.writeTarget fan (finite 0), ok⟩] := by
  obtain ⟨answer, trace₁, rfl, h₁⟩ := gives_ask_bind.mp h
  cases answer with
  | none =>
    obtain ⟨rfl, -⟩ := gives_pure.mp h₁
    exact .inl ⟨_, rfl⟩
  | some o =>
    dsimp only at h₁
    split at h₁
    · obtain ⟨rfl, -⟩ := gives_pure.mp h₁
      exact .inl ⟨_, rfl⟩
    rename_i hreleased
    obtain ⟨noted, trace₂, _, s₁, rfl, hnote, h₂⟩ := gives_bind.mp h₁
    obtain ⟨rfl, -⟩ := gives_noteFanState hnote
    split at h₂
    swap
    · obtain ⟨rfl, -⟩ := gives_pure.mp h₂
      exact .inl ⟨_, rfl⟩
    rename_i hnonzero
    obtain ⟨xs, trace₃, _, s₂, rfl, hwrite, h₃⟩ := gives_bind.mp h₂
    obtain ⟨ok, hask⟩ := gives_discard.mp hwrite
    obtain ⟨rfl, -⟩ := gives_ask.mp hask
    obtain ⟨rfl, -⟩ := gives_pure.mp h₃
    simp only [ne_eq, not_or, not_not] at hreleased
    obtain ⟨hftst, hfirst, hsecond, hmodes⟩ := hreleased
    exact .inr ⟨o, ok, ⟨hftst, hfirst, hsecond, fun other => (modes_released hmodes other).2,
      hnonzero⟩, rfl⟩

/-- Once a guarded zero target at most for its fan, after parts that leave that fan's target. -/
lemma lowerTarget_guarded {fan : Fin 2} {s s' a : Bool} {trace : List TrialEvent}
    {context : List Made} (hcontext : ∀ rpm answer, .own ⟨.writeTarget fan rpm, answer⟩ ∉ context)
    (h : Gives (lowerTarget fan) s trace a s') : Guarded LowerGuard context (trace.map .own) := by
  have hread : ∀ answer, LowerGuard context (.own ⟨.readObservation false, answer⟩) := by
    intro answer fan' rpm answer' heq
    cases Made.own.inj heq
  rcases lowerTarget_trace h with ⟨answer, rfl⟩ | ⟨o, ok, hlowerable, rfl⟩
  · exact guarded_singleton.mpr (hread answer)
  · refine guarded_cons.mpr ⟨hread (some o), guarded_singleton.mpr ?_⟩
    intro fan' rpm answer heq
    cases Made.own.inj heq
    refine ⟨rfl, ⟨context, false, o, rfl, hlowerable⟩, fun rpm' answer' hmem => ?_⟩
    rcases List.mem_append.mp hmem with hmem | hmem
    · exact hcontext rpm' answer' hmem
    · cases Made.own.inj (List.mem_singleton.mp hmem)

lemma lowers_lowerPass {s s' : Bool} {trace : List TrialEvent} {a : Unit}
    (h : Gives lowerPass s trace a s') : Lowers backend trace := by
  obtain ⟨xs, ys, more, s₁, rfl, hfirst, h₁⟩ := gives_bind.mp h
  have hguarded : Guarded LowerGuard [] (xs.map .own) := lowerTarget_guarded (by simp) hfirst
  refine ⟨(xs ++ ys).map .own, parted_own _, ?_⟩
  rw [List.map_append]
  refine guarded_append.mpr ⟨hguarded, ?_⟩
  cases more with
  | false =>
    obtain ⟨rfl, -⟩ := gives_pure.mp h₁
    exact guarded_nil
  | true =>
    obtain ⟨b, hsecond⟩ := gives_discard.mp h₁
    refine lowerTarget_guarded (fun rpm answer hmem => ?_) hsecond
    obtain ⟨e, he, heq⟩ := List.mem_map.mp hmem
    obtain rfl := Made.own.inj heq
    rcases lowerTarget_trace hfirst with ⟨answer', rfl⟩ | ⟨o, ok, -, rfl⟩
    · simp at he
    · simp at he

lemma keepsTargets_releaseManualMode (current : TrialObservation) (fan : Fin 2) :
    KeepsTargets (releaseManualMode current fan) :=
  .ite (fun _ => .forLoop (fun _ _ => (Only.ask (by simp)).bind fun _ =>
    .ite (fun _ => .pure _) fun _ => (watches_pauseIf _ _).keepsTargets.bind fun _ => .pure _)
      (fun _ => .pure _) _ _) fun _ => .pure _

lemma lowers_lowerTargets {current : TrialObservation} {s s' a : Bool} {trace : List TrialEvent}
    (h : Gives (backend.lowerTargets current) s trace a s') : Lowers backend trace := by
  unfold lowerTargets at h
  split at h
  swap
  · obtain ⟨rfl, -⟩ := gives_pure.mp h
    exact quiet_nil.lowers
  obtain ⟨xs, ys, _, s₁, rfl, hpass, h₁⟩ := gives_bind.mp h
  refine (lowers_lowerPass hpass).append_quiet (KeepsTargets.quiet ?_ h₁)
  refine (Only.ask (by simp)).bind fun read => ?_
  cases read with
  | none => exact .pure _
  | some current =>
    exact .ite (fun _ => .pure _) fun _ => (watches_noteFanState _).keepsTargets.bind fun _ =>
      (watches_record _ _).keepsTargets.bind fun _ => .pure _

/-- A fixed recovery and the minute after it. -/
lemma quiet_restoredAndStable {s s' a : Bool} {trace : List TrialEvent}
    (h : Gives (backend.restoredAndStable backend.trialRestoreSystem) s trace a s') :
    Quiet backend trace := by
  obtain ⟨xs, ys, restored, s₁, rfl, hrestore, h₁⟩ := gives_bind.mp h
  refine (quiet_restoreSystem hrestore).append (KeepsTargets.quiet ?_ h₁)
  exact .ite (fun _ => .pure _) fun _ => watches_observe.keepsTargets.bind fun _ => .pure _

lemma lowers_prepareFrom {current : TrialObservation} {delayedChange s s' : Bool}
    {trace : List TrialEvent} {prepared : Preparation}
    (h : Gives (backend.prepareFrom current delayedChange) s trace prepared s') :
    Lowers backend trace := by
  unfold prepareFrom at h
  split at h
  · obtain ⟨xs, ys, restored, s₁, rfl, hrestored, h₁⟩ := gives_bind.mp h
    obtain ⟨rfl, -⟩ := gives_pure.mp h₁
    exact ((quiet_restoredAndStable hrestored).append quiet_nil).lowers
  split at h
  · obtain ⟨rfl, -⟩ := gives_pure.mp h
    exact quiet_nil.lowers
  obtain ⟨as, trace₁, ok, s₁, rfl, hfirst, h₁⟩ := gives_bind.mp h
  refine ((keepsTargets_releaseManualMode current 0).quiet hfirst).append_lowers ?_
  split at h₁
  · obtain ⟨rfl, -⟩ := gives_pure.mp h₁
    exact quiet_nil.lowers
  obtain ⟨bs, trace₂, ok', s₂, rfl, hsecond, h₂⟩ := gives_bind.mp h₁
  refine ((keepsTargets_releaseManualMode current 1).quiet hsecond).append_lowers ?_
  split at h₂
  · obtain ⟨rfl, -⟩ := gives_pure.mp h₂
    exact quiet_nil.lowers
  obtain ⟨answer, trace₃, rfl, h₃⟩ := gives_ask_bind.mp h₂
  have hread : Quiet backend [⟨.readObservation false, answer⟩] := quiet_of_no_target (by simp)
  refine hread.append_lowers ?_
  cases answer with
  | none =>
    obtain ⟨rfl, -⟩ := gives_pure.mp h₃
    exact quiet_nil.lowers
  | some o =>
    dsimp only at h₃
    split at h₃
    · obtain ⟨rfl, -⟩ := gives_pure.mp h₃
      exact quiet_nil.lowers
    obtain ⟨noted, trace₄, _, s₃, rfl, hnote, h₄⟩ := gives_bind.mp h₃
    obtain ⟨recs, trace₅, _, s₄, rfl, hrecord, h₅⟩ := gives_bind.mp h₄
    obtain ⟨zs, ws, lowered, s₅, rfl, hlower, h₆⟩ := gives_bind.mp h₅
    obtain rfl : ws = [] := by
      split at h₆ <;> exact (gives_pure.mp h₆).1
    refine ((watches_noteFanState o).keepsTargets.quiet hnote).append_lowers
      (((watches_record 0 o).keepsTargets.quiet hrecord).append_lowers ?_)
    rw [List.append_nil]
    exact lowers_lowerTargets hlower

lemma lowers_prepareRelease {s s' : Bool} {trace : List TrialEvent} {prepared : Preparation}
    (h : Gives backend.prepareRelease s trace prepared s') : Lowers backend trace := by
  obtain ⟨as, trace₁, found, s₁, rfl, hfirst, h₁⟩ := gives_bind.mp h
  refine (watches_readForRelease.keepsTargets.quiet hfirst).append_lowers ?_
  cases found with
  | none =>
    obtain ⟨rfl, -⟩ := gives_pure.mp h₁
    exact quiet_nil.lowers
  | some current =>
    obtain ⟨recs, trace₂, _, s₂, rfl, hrecord, h₂⟩ := gives_bind.mp h₁
    refine ((watches_record 0 current).keepsTargets.quiet hrecord).append_lowers ?_
    split at h₂
    swap
    · exact lowers_prepareFrom h₂
    obtain ⟨bs, trace₃, window, s₃, rfl, hobserve, h₃⟩ := gives_bind.mp h₂
    refine (watches_observe.keepsTargets.quiet hobserve).append_lowers ?_
    split at h₃
    · obtain ⟨rfl, -⟩ := gives_pure.mp h₃
      exact quiet_nil.lowers
    split at h₃
    · obtain ⟨rfl, -⟩ := gives_pure.mp h₃
      exact quiet_nil.lowers
    obtain ⟨answer, trace₄, rfl, h₄⟩ := gives_ask_bind.mp h₃
    have hread : Quiet backend [⟨.readObservation false, answer⟩] := quiet_of_no_target (by simp)
    refine hread.append_lowers ?_
    cases answer with
    | none =>
      obtain ⟨rfl, -⟩ := gives_pure.mp h₄
      exact quiet_nil.lowers
    | some later =>
      obtain ⟨noted, trace₅, _, s₄, rfl, hnote, h₅⟩ := gives_bind.mp h₄
      exact ((watches_noteFanState later).keepsTargets.quiet hnote).append_lowers (lowers_prepareFrom h₅)

/-- The loop after the release writes no target but in the one-shot fallback. -/
lemma quiet_awaitBaselineSecond {delayedChange : Bool} {second : ℕ} {state : PostClear}
    {s s' : Bool} {trace : List TrialEvent} {out : Bool ⊕ PostClear}
    (h : Gives (backend.awaitBaselineSecond delayedChange second state) s trace out s') :
    Quiet backend trace := by
  rcases awaitBaselineSecond_trace h with
    ⟨-, hquiet, -⟩ | ⟨pre, fell, tail, o, counted, next, s₁, s₂, rfl, hpre, -, hfell, htail, -⟩
  · exact NoFanWrite.quiet hquiet
  · have hfallback : Quiet backend fell := by
      unfold fallback at hfell
      split at hfell
      · obtain ⟨xs, ys, _, s₃, rfl, hsystem, hpure⟩ := gives_bind.mp hfell
        obtain ⟨rfl, -⟩ := gives_pure.mp hpure
        obtain ⟨a, hrestore⟩ := gives_discard.mp hsystem
        exact (quiet_restoreSystem hrestore).append quiet_nil
      · obtain ⟨rfl, -⟩ := gives_pure.mp hfell
        exact quiet_nil
    exact ((NoFanWrite.quiet hpre).append hfallback).append (NoFanWrite.quiet htail)

lemma quiet_awaitBaseline {delayedChange s s' a : Bool} {trace : List TrialEvent}
    (h : Gives (backend.awaitBaseline delayedChange) s trace a s') : Quiet backend trace := by
  obtain ⟨second, state, s₁, middle, last, rfl, hI, ⟨-, hlast⟩ | ⟨-, hlast⟩⟩ :=
    h.forLoop (I := fun _ _ _ trace => Quiet backend trace)
      (fun _ _ _ _ _ _ _ hbefore hbody => hbefore.append (quiet_awaitBaselineSecond hbody))
      quiet_nil
  · exact hI.append (quiet_awaitBaselineSecond hlast)
  · obtain ⟨rfl, -⟩ := gives_pure.mp hlast
    exact hI.append quiet_nil

/-- A recovery writes targets itself only in its guarded pass. -/
lemma lowers_restoreUnlock {s s' a : Bool} {trace : List TrialEvent}
    (h : Gives backend.trialRestoreUnlock s trace a s') : Lowers backend trace := by
  unfold trialRestoreUnlock at h
  split at h
  · obtain ⟨rfl, -⟩ := gives_pure.mp h
    exact quiet_nil.lowers
  obtain ⟨xs, ys, prepared, s₁, rfl, hprepare, h₁⟩ := gives_bind.mp h
  refine (lowers_prepareRelease hprepare).append_quiet ?_
  cases prepared with
  | returned result =>
    obtain ⟨rfl, -⟩ := gives_pure.mp h₁
    exact quiet_nil
  | ready delayedChange =>
    obtain ⟨zs, ws, cleared, s₂, rfl, hclear, h₂⟩ := gives_bind.mp h₁
    refine (NoFanWrite.quiet (leavesFans_clearFtst.gives hclear)).append ?_
    cases cleared with
    | true => exact quiet_awaitBaseline h₂
    | false =>
      obtain ⟨rfl, -⟩ := gives_pure.mp h₂
      exact quiet_nil

/-- The event is not a target write right after a read. -/
def TargetGuard (before : List TrialEvent) (e : TrialEvent) : Prop :=
  ∀ fan rpm, e.1 = .writeTarget fan rpm →
    ∀ earlier full answer, before ≠ earlier ++ [⟨.readObservation full, answer⟩]

/-- Restoring a fan writes its mode before its target, and reads nothing. -/
lemma restoreFan_targets {fan : Fin 2} {s s' : Bool} {context trace : List TrialEvent} {a : Unit}
    (h : Gives (restoreFan fan) s trace a s') : Guarded TargetGuard context trace := by
  have honly := (onlyFan_restoreFan fan).gives h
  obtain ⟨answer, rest, rfl⟩ := restoreFan_head h
  intro before e after heq fan' rpm hwrite earlier full answer' hbefore
  rcases List.eq_nil_or_concat before with rfl | ⟨front, last, rfl⟩
  · obtain ⟨rfl, -⟩ := List.cons.inj heq
    cases hwrite
  · rw [List.concat_eq_append, ← List.append_assoc] at hbefore
    obtain ⟨-, hlast⟩ := List.append_inj' hbefore rfl
    obtain rfl := List.singleton_inj.mp hlast
    have hread := (honly ⟨.readObservation full, answer'⟩ (by rw [heq]; simp)).2
    cases hread

/-- A fixed recovery never writes a target right after a read. -/
lemma restoreSystem_targets {s s' a : Bool} {trace : List TrialEvent}
    (h : Gives backend.trialRestoreSystem s trace a s') : Guarded TargetGuard [] trace := by
  have hquiet : ∀ {context trace : List TrialEvent}, NoFanWrite trace →
      Guarded TargetGuard context trace := by
    refine fun hnone => .of_forall fun e he before fan rpm hwrite => ?_
    have hfan := hnone e he
    rw [hwrite] at hfan
    cases hfan
  unfold trialRestoreSystem at h
  split at h
  · obtain ⟨rfl, -⟩ := gives_pure.mp h
    exact guarded_nil
  obtain ⟨read, rest, rfl, h₁⟩ := gives_ask_bind.mp h
  refine guarded_cons.mpr ⟨fun fan rpm hwrite => absurd hwrite (by simp), ?_⟩
  split at h₁
  · obtain ⟨rfl, -⟩ := gives_pure.mp h₁
    exact guarded_nil
  · obtain ⟨xs, rest₁, _, s₁, rfl, hfirst, h₂⟩ := gives_bind.mp h₁
    obtain ⟨ys, verify, _, s₂, rfl, hsecond, h₃⟩ := gives_bind.mp h₂
    exact guarded_append.mpr ⟨restoreFan_targets hfirst, guarded_append.mpr
      ⟨restoreFan_targets hsecond, hquiet (watches_verifySystem.leavesFans.gives h₃)⟩⟩

/-- At each `Ftst = 0` write of a recovery or of a trial the last reading showed no fan in manual
mode, and a recovery's own target writes are guarded. They come right after a read, which the
target writes of `trial_restore_system` never do. -/
theorem release_and_targets_guarded (backend : TrialBackend) :
    (∀ s trace a s', Gives backend.trialRestoreUnlock s trace a s' →
      Guarded ReleaseGuard [] trace ∧
      ∃ parts, Parted backend trace parts ∧ Guarded LowerGuard [] parts ∧
        ∀ run, .called run ∈ parts → Guarded TargetGuard [] run) ∧
    (∀ trace status, Ends backend.trialCheckFtst trace status → Guarded ReleaseGuard [] trace) ∧
    ∀ minimumRpm s trace status s',
      Gives (backend.trialRehearseFtstMinimumRecovery minimumRpm) s trace status s' →
      Guarded ReleaseGuard [] trace := by
  refine ⟨fun s trace a s' h => ⟨restoreUnlock_guarded [] h, ?_⟩, fun trace status h => ?_,
    fun minimumRpm s trace status s' h => rehearse_guarded h⟩
  · obtain ⟨parts, hparted, hguarded⟩ := lowers_restoreUnlock h
    refine ⟨parts, hparted, hguarded, fun run hrun => ?_⟩
    obtain ⟨s₁, b, s₂, hrestore⟩ := hparted.restored run hrun
    exact restoreSystem_targets hrestore
  unfold trialCheckFtst at h
  split at h
  · obtain ⟨rfl, -⟩ := ends_done.mp h
    exact guarded_nil
  · obtain ⟨xs, ys, ⟨status', s'⟩, rfl, hcheck, hpure⟩ := ends_bind.mp h
    obtain ⟨rfl, -⟩ := ends_done.mp hpure
    rw [List.append_nil]
    exact checkFtst_guarded hcheck

end TrialBackend
end Ventilator
