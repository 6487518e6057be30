import Ventilator.TrialRelease

/-! Which runs of `trial_restore_unlock` write to a fan after its clearing path, although the
last reading showed that fan in system mode. Only the one-shot fallback can. -/
namespace Ventilator
open Double CallTree

namespace TrialCall

/-- The fan a mode or target write is for. -/
def fan? : TrialCall → Option (Fin 2)
  | writeMode fan _ => some fan
  | writeTarget fan _ => some fan
  | _ => none

end TrialCall

/-- The answers to the reads of a trace, in order. -/
def answers (trace : List TrialEvent) : List (Option TrialObservation) :=
  trace.filterMap fun
    | ⟨.readObservation _, answer⟩ => some answer
    | _ => none

/-- The observation of the last successful read. -/
def lastReading (trace : List TrialEvent) : Option TrialObservation :=
  ((answers trace).filterMap id).getLast?

/-- The event is a successful read of a cleared Ftst. -/
def readsCleared : TrialEvent → Bool
  | ⟨.readObservation _, some o⟩ => o.ftst == 0
  | _ => false

/-- The trace contains an `Ftst = 0` write and later a successful read of a cleared Ftst. -/
def Cleared (trace : List TrialEvent) : Prop :=
  ∃ xs e ys, trace = xs ++ e :: ys ∧ readsCleared e = true ∧ ∃ answer, ⟨.writeFtst 0, answer⟩ ∈ xs

lemma Cleared.requested {trace : List TrialEvent} (h : Cleared trace) :
    ∃ answer, ⟨.writeFtst 0, answer⟩ ∈ trace := by
  obtain ⟨xs, e, ys, rfl, -, answer, hmem⟩ := h
  exact ⟨answer, List.mem_append_left _ hmem⟩

/-- Once Ftst has been read back cleared, no mode or target is written to a fan whose mode was 3
in the last successful read. -/
def SparesSystemFans (trace : List TrialEvent) : Prop :=
  ∀ before e after fan o, trace = before ++ e :: after → Cleared before → e.1.fan? = some fan →
    lastReading before = some o → o.mode fan ≠ 3

/-- The answers to the reads after the one that first read back a cleared Ftst. -/
def answersAfterClear (trace : List TrialEvent) : List (Option TrialObservation) :=
  let released := trace.dropWhile fun e => e.1 != .writeFtst 0
  answers (released.dropWhile fun e => !readsCleared e).tail

/-- The system took a fan over in the fallback: the eleventh read after the clearing one shows
both modes 0, and the next one, not yet a baseline, a fan in mode 3. -/
def TakenOver (reads : List (Option TrialObservation)) : Prop :=
  ∃ guard found, reads[10]? = some (some guard) ∧ guard.mode 0 = 0 ∧ guard.mode 1 = 0 ∧
    reads[11]? = some (some found) ∧ trialObservationIsBaseline found = false ∧
    ∃ fan, found.mode fan = 3

def NoFanWrite (trace : List TrialEvent) : Prop := ∀ e ∈ trace, e.1.fan? = none

lemma answers_append (xs ys : List TrialEvent) : answers (xs ++ ys) = answers xs ++ answers ys :=
  List.filterMap_append ..

lemma lastReading_append (xs ys : List TrialEvent) :
    lastReading (xs ++ ys) = (lastReading ys).or (lastReading xs) := by
  rw [lastReading, answers_append, List.filterMap_append, List.getLast?_append]
  rfl

lemma NoFanWrite.append {xs ys : List TrialEvent} (hx : NoFanWrite xs) (hy : NoFanWrite ys) :
    NoFanWrite (xs ++ ys) := List.forall_mem_append.mpr ⟨hx, hy⟩

/-- After the trace `context`, no write of `trace` is to a fan last read in mode 3. -/
def Spares (context trace : List TrialEvent) : Prop :=
  ∀ before e after fan o, trace = before ++ e :: after → e.1.fan? = some fan →
    lastReading (context ++ before) = some o → o.mode fan ≠ 3

lemma Spares.of_noFanWrite {context trace : List TrialEvent} (h : NoFanWrite trace) :
    Spares context trace := by
  rintro before e after fan o rfl hfan -
  rw [h e (by simp)] at hfan
  cases hfan

/-- Two segments spare the system fans when each does in its own context. -/
lemma spares_append {context xs ys : List TrialEvent} :
    Spares context (xs ++ ys) ↔ Spares context xs ∧ Spares (context ++ xs) ys := by
  constructor
  · intro h
    refine ⟨fun before e after fan o heq hfan hlast => ?_, fun before e after fan o heq hfan hlast => ?_⟩
    · exact h before e (after ++ ys) fan o (by rw [heq]; simp) hfan hlast
    · exact h (xs ++ before) e after fan o (by rw [heq]; simp) hfan (by simpa using hlast)
  · rintro ⟨hx, hy⟩ before e after fan o heq hfan hlast
    rcases List.append_eq_append_iff.mp heq with ⟨gap, rfl, hgap⟩ | ⟨gap, rfl, hgap⟩
    · exact hy gap e after fan o hgap hfan (by simpa using hlast)
    · cases gap with
      | nil => exact hy [] e after fan o (by simpa using hgap.symm) hfan (by simpa using hlast)
      | cons x gap =>
        rw [List.cons_append, List.cons.injEq] at hgap
        exact hx before e gap fan o (by rw [hgap.1]) hfan hlast

/-- The writes of a segment without reads all answer to the last reading before it. -/
lemma spares_of_no_answers {context trace : List TrialEvent} {o : TrialObservation}
    (hreads : answers trace = []) (hlast : lastReading context = some o) :
    Spares context trace ↔ ∀ e ∈ trace, ∀ fan, e.1.fan? = some fan → o.mode fan ≠ 3 := by
  have hbefore : ∀ before after, trace = before ++ after →
      lastReading (context ++ before) = some o := by
    rintro before after rfl
    rw [answers_append, List.append_eq_nil_iff] at hreads
    rw [lastReading_append, hlast, lastReading, hreads.1]
    rfl
  constructor
  · intro h e he fan hfan
    obtain ⟨before, after, rfl⟩ := List.append_of_mem he
    exact h before e after fan o rfl hfan (hbefore _ _ rfl)
  · intro h before e after fan o' heq hfan hlast'
    rw [hbefore _ _ heq, Option.some.injEq] at hlast'
    rw [← hlast']
    exact h e (by rw [heq]; simp) fan hfan

/-- Between segments that write to no fan, only the writes in the middle count. -/
lemma spares_writes {context head writes tail : List TrialEvent} {o : TrialObservation}
    (hhead : NoFanWrite head) (htail : NoFanWrite tail) (hreads : answers writes = [])
    (hlast : lastReading (context ++ head) = some o) :
    Spares context (head ++ (writes ++ tail)) ↔
      ∀ e ∈ writes, ∀ fan, e.1.fan? = some fan → o.mode fan ≠ 3 := by
  rw [spares_append, spares_append, spares_of_no_answers hreads hlast]
  exact ⟨fun h => h.2.1, fun h => ⟨.of_noFanWrite hhead, h, .of_noFanWrite htail⟩⟩

namespace TrialBackend

variable {backend : TrialBackend}

/-- The programs that write to no fan. -/
abbrev LeavesFans {α : Type} (m : TrialM α) : Prop := Only (fun c => c.fan? = none) m

lemma Watches.leavesFans {α : Type} {m : TrialM α} (h : Watches m) : LeavesFans m :=
  h.mono fun c hc => by
    cases c <;> first | rfl | cases hc

/-- The programs that write to one fan at most and read nothing. -/
abbrev OnlyFan {α : Type} (fan : Fin 2) (m : TrialM α) : Prop :=
  Only (fun c => (c.fan? = none ∨ c.fan? = some fan) ∧ c.isSampling = false) m

lemma leavesFans_clearFtst : LeavesFans backend.clearFtst := by
  refine .forLoop (fun _ _ => (Only.discard (.ask (by rfl))).bind fun _ =>
    watches_awaitCleared.leavesFans.bind fun result => ?_) (fun _ => .pure _) _ _
  cases result <;> exact .pure _

lemma onlyFan_retry {fan : Fin 2} {write : TrialM Bool} (h : OnlyFan fan write) :
    OnlyFan fan (retry write) :=
  .forLoop (fun _ _ => h.bind fun _ => .ite (fun _ => .pure _) fun _ =>
    (Only.ite (fun _ => .discard (.ask (by simp [TrialCall.fan?, TrialCall.isSampling])))
      fun _ => .pure _).bind fun _ => .pure _) (fun _ => .pure _) _ _

lemma onlyFan_restoreFan (fan : Fin 2) : OnlyFan fan (restoreFan fan) :=
  (Only.discard (onlyFan_retry (.ask (by simp [TrialCall.fan?, TrialCall.isSampling])))).bind
    fun _ => .discard (onlyFan_retry (.ask (by simp [TrialCall.fan?, TrialCall.isSampling])))

lemma answers_of_no_sampling {trace : List TrialEvent}
    (h : ∀ e ∈ trace, e.1.isSampling = false) : answers trace = [] := by
  refine List.filterMap_eq_nil_iff.mpr ?_
  rintro ⟨c, answer⟩ he
  have hc := h _ he
  cases c with
  | readObservation full => exact absurd hc nofun
  | _ => rfl

/-- Restoring a fan begins with a mode write to it. -/
lemma restoreFan_head {fan : Fin 2} {s s' : Bool} {trace : List TrialEvent} {a : Unit}
    (h : Gives (restoreFan fan) s trace a s') :
    ∃ answer rest, trace = ⟨.writeMode fan 0, answer⟩ :: rest := by
  obtain ⟨xs, ys, _, s₁, rfl, hmode, -⟩ := gives_bind.mp h
  obtain ⟨ok, hretry⟩ := gives_discard.mp hmode
  obtain ⟨zs, ws, out, s₂, rfl, hloop, -⟩ := gives_bind.mp hretry
  obtain ⟨us, vs, next, s₃, rfl, hbody, -⟩ := gives_bind.mp hloop
  obtain ⟨answer, rest, rfl, -⟩ := gives_ask_bind.mp hbody
  exact ⟨answer, _, rfl⟩

/-- Restoring a fan writes to it, reads nothing and leaves the other fan. -/
lemma restoreFan_trace {fan : Fin 2} {s s' : Bool} {trace : List TrialEvent} {a : Unit}
    (h : Gives (restoreFan fan) s trace a s') :
    answers trace = [] ∧ (∀ e ∈ trace, e.1.fan? = none ∨ e.1.fan? = some fan) ∧
      ∃ e ∈ trace, e.1.fan? = some fan := by
  have honly := (onlyFan_restoreFan fan).gives h
  refine ⟨answers_of_no_sampling fun e he => (honly e he).2, fun e he => (honly e he).1, ?_⟩
  obtain ⟨answer, rest, rfl⟩ := restoreFan_head h
  exact ⟨⟨.writeMode fan 0, answer⟩, by simp, rfl⟩

/-- The fixed recovery reads first; unless it reads a baseline it writes to both fans, reading
nothing in between, and then only verifies. -/
lemma restoreSystem_trace {s s' a : Bool} {trace : List TrialEvent}
    (hcallbacks : backend.ftstCallbacks = true)
    (h : Gives backend.trialRestoreSystem s trace a s') :
    ∃ read rest, trace = ⟨.readObservation false, read⟩ :: rest ∧
      ((read.any trialObservationIsBaseline = true ∧ rest = []) ∨
        read.any trialObservationIsBaseline = false ∧ ∃ writes verify, rest = writes ++ verify ∧
          answers writes = [] ∧ NoFanWrite verify ∧
          ∀ fan, ∃ e ∈ writes, e.1.fan? = some fan) := by
  simp only [ftstCallbacks, Bool.and_eq_true] at hcallbacks
  rw [trialRestoreSystem, if_neg (by simp [hcallbacks])] at h
  obtain ⟨read, rest, rfl, h₁⟩ := gives_ask_bind.mp h
  refine ⟨read, rest, rfl, ?_⟩
  split at h₁
  · rename_i hbaseline
    exact .inl ⟨hbaseline, (gives_pure.mp h₁).1⟩
  · rename_i hbaseline
    obtain ⟨xs, rest₁, _, s₁, rfl, hfirst, h₂⟩ := gives_bind.mp h₁
    obtain ⟨ys, verify, _, s₂, rfl, hsecond, h₃⟩ := gives_bind.mp h₂
    obtain ⟨hx, -, e₀, he₀, hfan₀⟩ := restoreFan_trace hfirst
    obtain ⟨hy, -, e₁, he₁, hfan₁⟩ := restoreFan_trace hsecond
    refine .inr ⟨by simpa using hbaseline, xs ++ ys, verify, by simp, ?_,
      watches_verifySystem.leavesFans.gives h₃, ?_⟩
    · rw [answers_append, hx, hy]
      rfl
    · intro fan
      match fan with
      | 0 => exact ⟨e₀, by simp [he₀], hfan₀⟩
      | 1 => exact ⟨e₁, by simp [he₁], hfan₁⟩

lemma not_takenOver_of_length {reads : List (Option TrialObservation)} (h : reads.length ≤ 11) :
    ¬ TakenOver reads := by
  rintro ⟨guard, found, -, -, -, hfound, -⟩
  rw [List.getElem?_eq_none h] at hfound
  cases hfound

lemma takenOver_guard {reads rest : List (Option TrialObservation)} {o : TrialObservation}
    (hlength : reads.length = 10) (h : TakenOver (reads ++ some o :: rest)) :
    o.mode 0 = 0 ∧ o.mode 1 = 0 := by
  obtain ⟨guard, found, hguard, h₀, h₁, -⟩ := h
  rw [List.getElem?_append_right (by omega), hlength] at hguard
  obtain rfl : o = guard := by simpa using hguard
  exact ⟨h₀, h₁⟩

lemma takenOver_iff {reads rest : List (Option TrialObservation)} {o : TrialObservation}
    {read : Option TrialObservation} (hlength : reads.length = 10) (h₀ : o.mode 0 = 0)
    (h₁ : o.mode 1 = 0) : TakenOver (reads ++ some o :: read :: rest) ↔
      ∃ found, read = some found ∧ trialObservationIsBaseline found = false ∧
        ∃ fan, found.mode fan = 3 := by
  have hguard : (reads ++ some o :: read :: rest)[10]? = some (some o) := by
    rw [List.getElem?_append_right (by omega), hlength]
    rfl
  have hfound : (reads ++ some o :: read :: rest)[11]? = some read := by
    rw [List.getElem?_append_right (by omega), hlength]
    rfl
  constructor
  · rintro ⟨guard, found, -, -, -, hread, hbaseline, hfan⟩
    rw [hfound, Option.some.injEq] at hread
    exact ⟨found, hread, hbaseline, hfan⟩
  · rintro ⟨found, rfl, hbaseline, hfan⟩
    exact ⟨o, found, hguard, h₀, h₁, hfound, hbaseline, hfan⟩

/-- After `trace`, whatever follows without writing to a fan, the system fans are spared
exactly when no fan was taken over. -/
def Decided (context trace : List TrialEvent) : Prop :=
  ∀ more, NoFanWrite more →
    (Spares context (trace ++ more) ↔ ¬ TakenOver (answers (trace ++ more)))

lemma Decided.append {context trace more : List TrialEvent} (h : Decided context trace)
    (hmore : NoFanWrite more) : Decided context (trace ++ more) := by
  intro x hx
  rw [List.append_assoc]
  exact h _ (hmore.append hx)

lemma Decided.iff {context trace : List TrialEvent} (h : Decided context trace) :
    Spares context trace ↔ ¬ TakenOver (answers trace) := by
  have hnil := h [] (by simp [NoFanWrite])
  rwa [List.append_nil] at hnil

/-- The round of the guard decides whether a system fan is written to. -/
lemma decided_fallback {context early pre fell : List TrialEvent} {o : TrialObservation}
    {state next : PostClear} {s s' : Bool} (hcallbacks : backend.ftstCallbacks = true)
    (hearly : NoFanWrite early) (hlength : (answers early).length = 10) (hpre : NoFanWrite pre)
    (hread : answers pre = [some o])
    (hfell : Gives (backend.fallback 10 o state) s fell next s') :
    Decided context (early ++ (pre ++ fell)) := by
  intro more hmore
  unfold fallback at hfell
  split at hfell
  · rename_i hmodes
    obtain ⟨xs, ys, _, s₁, rfl, hsystem, hpure⟩ := gives_bind.mp hfell
    obtain ⟨rfl, -⟩ := gives_pure.mp hpure
    obtain ⟨a, hrestore⟩ := gives_discard.mp hsystem
    obtain ⟨read, rest, rfl, hrest⟩ := restoreSystem_trace hcallbacks hrestore
    have hhead : NoFanWrite (early ++ (pre ++ [⟨.readObservation false, read⟩])) :=
      hearly.append (hpre.append (by simp [NoFanWrite, TrialCall.fan?]))
    have hlast : lastReading (context ++ (early ++ (pre ++ [⟨.readObservation false, read⟩]))) =
        some (read.getD o) := by
      have hpreLast : lastReading pre = some o := by rw [lastReading, hread]; rfl
      simp only [lastReading_append, hpreLast]
      cases read <;> rfl
    have hsplit : early ++ (pre ++ (⟨.readObservation false, read⟩ :: rest ++ [])) ++ more =
        early ++ (pre ++ [⟨.readObservation false, read⟩]) ++ (rest ++ more) := by simp
    have hanswers : answers (early ++ (pre ++ [⟨.readObservation false, read⟩]) ++ (rest ++ more)) =
        answers early ++ some o :: read :: answers (rest ++ more) := by
      simp only [answers_append, hread, List.append_assoc]
      rfl
    rw [hsplit, hanswers, takenOver_iff hlength hmodes.2.1 hmodes.2.2]
    rcases hrest with ⟨hbaseline, rfl⟩ | ⟨hbaseline, writes, verify, rfl, hwrites, hverify, hfans⟩
    · refine iff_of_true (.of_noFanWrite (hhead.append hmore)) ?_
      rintro ⟨found, rfl, hfound, -⟩
      rw [Option.any_some, hfound] at hbaseline
      cases hbaseline
    · have hassoc : writes ++ verify ++ more = writes ++ (verify ++ more) := List.append_assoc ..
      rw [hassoc, spares_writes hhead (hverify.append hmore) hwrites hlast]
      cases read with
      | none =>
        refine iff_of_true (fun e he fan hfan => ?_) (by simp)
        match fan with
        | 0 => simp [hmodes.2.1]
        | 1 => simp [hmodes.2.2]
      | some found =>
        rw [Option.any_some] at hbaseline
        constructor
        · rintro hspares ⟨found', ⟨⟩, -, fan, hfan⟩
          obtain ⟨e, he, hwrite⟩ := hfans fan
          exact hspares e he fan hwrite hfan
        · intro hnot e he fan hwrite hfan
          exact hnot ⟨found, rfl, hbaseline, fan, hfan⟩
  · rename_i hmodes
    obtain ⟨rfl, -⟩ := gives_pure.mp hfell
    have hnone : NoFanWrite (early ++ (pre ++ []) ++ more) :=
      (hearly.append (hpre.append (by simp [NoFanWrite]))).append hmore
    refine iff_of_true (.of_noFanWrite hnone) fun htaken => hmodes ⟨rfl, ?_⟩
    rw [List.append_nil, List.append_assoc, answers_append, answers_append, hread] at htaken
    exact takenOver_guard hlength htaken

/-- A round of the loop after the release either returns without a write to a fan, or reads one
observation and leaves the rest to the fallback. -/
lemma awaitBaselineSecond_trace {delayedChange : Bool} {second : ℕ} {state : PostClear}
    {s s' : Bool} {trace : List TrialEvent} {out : Bool ⊕ PostClear}
    (h : Gives (backend.awaitBaselineSecond delayedChange second state) s trace out s') :
    ((∃ result, out = .inl result) ∧ NoFanWrite trace ∧ (answers trace).length ≤ 1) ∨
      ∃ (pre fell tail : List TrialEvent) (o : TrialObservation) (counted next : PostClear)
        (s₁ s₂ : Bool), trace = pre ++ fell ++ tail ∧ NoFanWrite pre ∧ answers pre = [some o] ∧
        Gives (backend.fallback second o counted) s₁ fell next s₂ ∧ NoFanWrite tail ∧
        answers tail = [] := by
  rw [awaitBaselineSecond] at h
  obtain ⟨started, trace₁, rfl, h₁⟩ := gives_ask_bind.mp h
  obtain ⟨answer, trace₂, rfl, h₂⟩ := gives_ask_bind.mp h₁
  have hclock : ∀ time, NoFanWrite [⟨.monotonicSeconds, time⟩] := by
    simp [NoFanWrite, TrialCall.fan?]
  have hread : NoFanWrite [⟨.monotonicSeconds, started⟩, ⟨.readObservation false, answer⟩] := by
    simp [NoFanWrite, TrialCall.fan?]
  cases answer with
  | none =>
    obtain ⟨rfl, rfl, -⟩ := gives_pure.mp h₂
    exact .inl ⟨⟨_, rfl⟩, hread, le_rfl⟩
  | some o =>
    dsimp only at h₂
    split at h₂
    · obtain ⟨rfl, rfl, -⟩ := gives_pure.mp h₂
      exact .inl ⟨⟨_, rfl⟩, hread, le_rfl⟩
    obtain ⟨finished, trace₃, rfl, h₃⟩ := gives_ask_bind.mp h₂
    split at h₃
    · obtain ⟨rfl, rfl, -⟩ := gives_pure.mp h₃
      exact .inl ⟨⟨_, rfl⟩, hread.append (hclock finished), le_rfl⟩
    obtain ⟨noted, trace₄, _, s₁, rfl, hnote, h₄⟩ := gives_bind.mp h₃
    obtain ⟨recs, trace₅, _, s₂, rfl, hrecord, h₅⟩ := gives_bind.mp h₄
    obtain ⟨rfl, -⟩ := gives_noteFanState hnote
    have hrecs : NoFanWrite recs := (watches_record _ _).leavesFans.gives hrecord
    have hsilent : answers recs = [] := by
      obtain ⟨-, rfl | rfl⟩ := gives_record hrecord <;> rfl
    have hpre : NoFanWrite ([⟨.monotonicSeconds, started⟩, ⟨.readObservation false, some o⟩] ++
        ([⟨.monotonicSeconds, finished⟩] ++ recs)) := hread.append ((hclock finished).append hrecs)
    have hanswers : answers ([⟨.monotonicSeconds, started⟩, ⟨.readObservation false, some o⟩] ++
        ([⟨.monotonicSeconds, finished⟩] ++ recs)) = [some o] := by
      rw [answers_append, answers_append, hsilent]
      rfl
    split at h₅
    · obtain ⟨rfl, rfl, -⟩ := gives_pure.mp h₅
      refine .inl ⟨⟨_, rfl⟩, by simpa using hpre, ?_⟩
      have hlength := congrArg List.length hanswers
      simpa using hlength.le
    obtain ⟨fell, trace₆, next, s₃, rfl, hfell, h₆⟩ := gives_bind.mp h₅
    refine .inr ⟨_, fell, trace₆, o, _, next, s₂, s₃, by simp, hpre, hanswers, hfell, ?_⟩
    split at h₆
    · obtain ⟨rfl, -⟩ := gives_pure.mp h₆
      exact ⟨by simp [NoFanWrite], rfl⟩
    · obtain ⟨waited, trace₇, rfl, h₇⟩ := gives_ask_bind.mp h₆
      split at h₇
      · obtain ⟨rfl, -⟩ := gives_pure.mp h₇
        exact ⟨by simp [NoFanWrite, TrialCall.fan?], rfl⟩
      · obtain ⟨rfl, -⟩ := gives_pure.mp h₇
        exact ⟨by simp [NoFanWrite, TrialCall.fan?], rfl⟩

/-- Every other round writes to no fan, and reads at most once. -/
lemma awaitBaselineSecond_quiet {delayedChange : Bool} {second : ℕ} {state : PostClear}
    {s s' : Bool} {trace : List TrialEvent} {out : Bool ⊕ PostClear} (hsecond : second ≠ 10)
    (h : Gives (backend.awaitBaselineSecond delayedChange second state) s trace out s') :
    NoFanWrite trace ∧ (answers trace).length ≤ 1 ∧
      (∀ next, out = .inr next → (answers trace).length = 1) := by
  rcases awaitBaselineSecond_trace h with
    ⟨⟨result, rfl⟩, hquiet, hlength⟩ | ⟨pre, fell, tail, o, counted, next, s₁, s₂, rfl, hpre,
      hread, hfell, htail, hsilent⟩
  · exact ⟨hquiet, hlength, nofun⟩
  · rw [fallback, if_neg fun hguard => hsecond hguard.1] at hfell
    obtain ⟨rfl, -⟩ := gives_pure.mp hfell
    have hlength : (answers (pre ++ [] ++ tail)).length = 1 := by
      rw [answers_append, answers_append, hread, hsilent]
      rfl
    refine ⟨?_, hlength.le, fun _ _ => hlength⟩
    rw [List.append_nil]
    exact hpre.append htail

/-- The loop's trace before a round: one read a round and no write to a fan up to the guard, and
decided after it. -/
def GuardInvariant (context : List TrialEvent) (second : ℕ) (_ : PostClear) (_ : Bool)
    (trace : List TrialEvent) : Prop :=
  (second ≤ 10 ∧ NoFanWrite trace ∧ (answers trace).length = second) ∨
    10 < second ∧ Decided context trace

lemma GuardInvariant.decided {context before trace : List TrialEvent} {delayedChange : Bool}
    {second : ℕ} {state : PostClear} {s s' : Bool} {out : Bool ⊕ PostClear}
    (hcallbacks : backend.ftstCallbacks = true) (h : GuardInvariant context second state s before)
    (hsecond : 10 ≤ second)
    (hbody : Gives (backend.awaitBaselineSecond delayedChange second state) s trace out s') :
    Decided context (before ++ trace) ∨
      NoFanWrite (before ++ trace) ∧ (answers (before ++ trace)).length ≤ 11 ∧
        ∃ result, out = .inl result := by
  rcases h with ⟨hle, hquiet, hlength⟩ | ⟨hlt, hdecided⟩
  · obtain rfl : second = 10 := by omega
    rcases awaitBaselineSecond_trace hbody with
      ⟨hout, htrace, hone⟩ | ⟨pre, fell, tail, o, counted, next, s₁, s₂, rfl, hpre, hread, hfell,
        htail, -⟩
    · refine .inr ⟨hquiet.append htrace, ?_, hout⟩
      rw [answers_append, List.length_append]
      omega
    · have hdecided : Decided context (before ++ (pre ++ fell)) :=
        decided_fallback hcallbacks hquiet hlength hpre hread hfell
      rw [← List.append_assoc]
      exact .inl (hdecided.append htail)
  · exact .inl (hdecided.append (awaitBaselineSecond_quiet (by omega) hbody).1)

lemma GuardInvariant.round {context : List TrialEvent} {delayedChange : Bool}
    (hcallbacks : backend.ftstCallbacks = true) (second : ℕ) (state : PostClear) (s : Bool)
    (before trace : List TrialEvent) (next : PostClear) (s' : Bool)
    (h : GuardInvariant context second state s before)
    (hbody : Gives (backend.awaitBaselineSecond delayedChange second state) s trace (.inr next) s') :
    GuardInvariant context (second + 1) next s' (before ++ trace) := by
  by_cases hsecond : 10 ≤ second
  · rcases h.decided hcallbacks hsecond hbody with hdecided | ⟨-, -, result, hout⟩
    · exact .inr ⟨by omega, hdecided⟩
    · exact absurd hout nofun
  · rcases h with ⟨hle, hquiet, hlength⟩ | ⟨hlt, -⟩
    · obtain ⟨htrace, -, hone⟩ := awaitBaselineSecond_quiet (by omega) hbody
      refine .inl ⟨by omega, hquiet.append htrace, ?_⟩
      rw [answers_append, List.length_append, hlength, hone next rfl]
    · omega

/-- The loop after the release spares the system fans exactly when none was taken over. -/
lemma awaitBaseline_spares_iff (context : List TrialEvent) {delayedChange s s' a : Bool}
    {trace : List TrialEvent} (hcallbacks : backend.ftstCallbacks = true)
    (h : Gives (backend.awaitBaseline delayedChange) s trace a s') :
    Spares context trace ↔ ¬ TakenOver (answers trace) := by
  have hinit : GuardInvariant context 0 .start s [] :=
    .inl ⟨by omega, by simp [NoFanWrite], rfl⟩
  have hquiet : ∀ {quiet : List TrialEvent}, NoFanWrite quiet → (answers quiet).length ≤ 11 →
      (Spares context quiet ↔ ¬ TakenOver (answers quiet)) := fun hnone hlength =>
    iff_of_true (.of_noFanWrite hnone) (not_takenOver_of_length hlength)
  obtain ⟨second, state, s₁, middle, last, rfl, hI, ⟨-, hlast⟩ | ⟨rfl, hlast⟩⟩ :=
    h.forLoop (GuardInvariant.round hcallbacks) hinit
  · by_cases hsecond : 10 ≤ second
    · rcases hI.decided hcallbacks hsecond hlast with hdecided | ⟨hnone, hlength, -⟩
      · exact hdecided.iff
      · exact hquiet hnone hlength
    · rcases hI with ⟨hle, hnone, hlength⟩ | ⟨hlt, -⟩
      · obtain ⟨htrace, hone, -⟩ := awaitBaselineSecond_quiet (by omega) hlast
        refine hquiet (hnone.append htrace) ?_
        rw [answers_append, List.length_append]
        omega
      · omega
  · obtain ⟨rfl, -⟩ := gives_pure.mp hlast
    rw [List.append_nil]
    rcases hI with ⟨hle, -⟩ | ⟨-, hdecided⟩
    · omega
    · exact hdecided.iff

/-- The reads of a trace that no cleared Ftst ends, or that end with the first one. -/
def Clearing (cleared : Bool) (trace : List TrialEvent) : Prop :=
  ∃ pending rest, trace = pending ++ rest ∧ (∀ e ∈ pending, readsCleared e = false) ∧
    (cleared = false ∧ rest = [] ∨
      ∃ e recs, rest = e :: recs ∧ readsCleared e = true ∧ answers recs = [])

lemma Clearing.pending {trace : List TrialEvent} (h : ∀ e ∈ trace, readsCleared e = false) :
    Clearing false trace := ⟨trace, [], by simp, h, .inl ⟨rfl, rfl⟩⟩

lemma Clearing.append_left {cleared : Bool} {xs ys : List TrialEvent}
    (hxs : ∀ e ∈ xs, readsCleared e = false) (h : Clearing cleared ys) :
    Clearing cleared (xs ++ ys) := by
  obtain ⟨pending, rest, rfl, hpending, hrest⟩ := h
  exact ⟨xs ++ pending, rest, by simp, List.forall_mem_append.mpr ⟨hxs, hpending⟩, hrest⟩

/-- A read that ends the reads after an `Ftst = 0` write. -/
lemma Clearing.read {cleared : Bool} {o : TrialObservation} {recs : List TrialEvent}
    (hcleared : cleared = true → o.ftst = 0) (hsilent : answers recs = [])
    (hrecs : ∀ e ∈ recs, readsCleared e = false) :
    Clearing cleared (⟨.readObservation false, some o⟩ :: recs) := by
  by_cases hftst : o.ftst = 0
  · exact ⟨[], _, rfl, by simp, .inr ⟨_, recs, rfl, by simp [readsCleared, hftst], hsilent⟩⟩
  · obtain rfl : cleared = false := Bool.eq_false_iff.mpr fun h => hftst (hcleared h)
    exact .pending (List.forall_mem_cons.mpr ⟨by simp [readsCleared, hftst], hrecs⟩)

lemma record_clearing {second : ℕ} {o : TrialObservation} {s s' : Bool}
    {trace : List TrialEvent} {a : Unit} (h : Gives (backend.record second o) s trace a s') :
    answers trace = [] ∧ ∀ e ∈ trace, readsCleared e = false := by
  obtain ⟨-, rfl | rfl⟩ := gives_record h
  · exact ⟨rfl, by simp⟩
  · exact ⟨rfl, by simp [readsCleared]⟩

/-- A round of the reads after an `Ftst = 0` write. -/
lemma awaitClearedSecond_clearing {second : ℕ} {s s' : Bool} {trace : List TrialEvent}
    {out : ReleaseResult ⊕ Unit}
    (h : Gives (backend.awaitClearedSecond second) s trace out s') :
    (∃ result, out = .inl result ∧ result ≠ .pending ∧
        Clearing (result == .cleared) trace) ∨
      out = .inr () ∧ ∀ e ∈ trace, readsCleared e = false := by
  obtain ⟨answer, trace₁, rfl, h₁⟩ := gives_ask_bind.mp h
  cases answer with
  | none =>
    obtain ⟨rfl, rfl, -⟩ := gives_pure.mp h₁
    exact .inl ⟨_, rfl, nofun, .pending (by simp [readsCleared])⟩
  | some o =>
    dsimp only at h₁
    split at h₁
    · obtain ⟨rfl, rfl, -⟩ := gives_pure.mp h₁
      exact .inl ⟨_, rfl, nofun, .read nofun rfl (by simp)⟩
    obtain ⟨noted, trace₂, _, s₁, rfl, hnote, h₂⟩ := gives_bind.mp h₁
    obtain ⟨recs, trace₃, _, s₂, rfl, hrecord, h₃⟩ := gives_bind.mp h₂
    obtain ⟨rfl, -⟩ := gives_noteFanState hnote
    obtain ⟨hsilent, hrecs⟩ := record_clearing hrecord
    split at h₃
    · rename_i hftst
      obtain ⟨rfl, rfl, -⟩ := gives_pure.mp h₃
      exact .inl ⟨_, rfl, nofun, .read (fun _ => hftst) (by simpa using hsilent) (by simpa using hrecs)⟩
    rename_i hftst
    have hread : ∀ e ∈ (⟨.readObservation false, some o⟩ :: recs : List TrialEvent),
        readsCleared e = false := List.forall_mem_cons.mpr ⟨by simp [readsCleared, hftst], hrecs⟩
    split at h₃
    · obtain ⟨rfl, rfl, -⟩ := gives_pure.mp h₃
      exact .inl ⟨_, rfl, nofun, .pending (by simpa using hread)⟩
    obtain ⟨waited, trace₄, rfl, h₄⟩ := gives_ask_bind.mp h₃
    have hwait : ∀ e ∈ (⟨.readObservation false, some o⟩ :: recs ++
        [⟨.waitMilliseconds 1000, waited⟩] : List TrialEvent), readsCleared e = false :=
      List.forall_mem_append.mpr ⟨hread, by simp [readsCleared]⟩
    split at h₄
    · obtain ⟨rfl, rfl, -⟩ := gives_pure.mp h₄
      exact .inl ⟨_, rfl, nofun, .pending (by simpa using hwait)⟩
    · obtain ⟨rfl, rfl, -⟩ := gives_pure.mp h₄
      exact .inr ⟨rfl, by simpa using hwait⟩

lemma awaitCleared_clearing {s s' : Bool} {trace : List TrialEvent} {result : ReleaseResult}
    (h : Gives backend.awaitCleared s trace result s') :
    (result ≠ .pending ∧ Clearing (result == .cleared) trace) ∨
      result = .pending ∧ ∀ e ∈ trace, readsCleared e = false := by
  obtain ⟨second, vars, s₁, middle, last, rfl, hI, ⟨-, hlast⟩ | ⟨-, hlast⟩⟩ :=
    h.forLoop (I := fun _ _ _ trace => ∀ e ∈ trace, readsCleared e = false)
      (fun _ _ _ _ _ _ _ hbefore hbody => by
        rcases awaitClearedSecond_clearing hbody with ⟨_, hout, -⟩ | ⟨-, htrace⟩
        · exact absurd hout nofun
        · exact List.forall_mem_append.mpr ⟨hbefore, htrace⟩) (by simp)
  · rcases awaitClearedSecond_clearing hlast with ⟨result', hout, hne, hclearing⟩ | ⟨hout, -⟩
    · obtain rfl := Sum.inl.inj hout
      exact .inl ⟨hne, hclearing.append_left hI⟩
    · exact absurd hout nofun
  · obtain ⟨rfl, rfl, -⟩ := gives_pure.mp hlast
    exact .inr ⟨rfl, by simpa using hI⟩

/-- A round of the release loop. -/
def clearRound (backend : TrialBackend) : TrialM (Bool ⊕ Unit) := do
  discard (TrialM.writeFtst 0)
  match ← backend.awaitCleared with
  | .cleared => pure (.inl true)
  | .failed => pure (.inl false)
  | .pending => pure (.inr ())

lemma clearFtst_clearing {s s' cleared : Bool} {trace : List TrialEvent}
    (h : Gives backend.clearFtst s trace cleared s') : Clearing cleared trace := by
  have hround : ∀ {s s' : Bool} {trace : List TrialEvent} {out : Bool ⊕ Unit},
      Gives backend.clearRound s trace out s' →
      (∃ result, out = .inl result ∧ Clearing result trace) ∨
        out = .inr () ∧ ∀ e ∈ trace, readsCleared e = false := by
    intro s s' trace out hbody
    obtain ⟨xs, ys, _, s₁, rfl, hdiscard, h₁⟩ := gives_bind.mp hbody
    obtain ⟨answer, hask⟩ := gives_discard.mp hdiscard
    obtain ⟨rfl, rfl⟩ := gives_ask.mp hask
    obtain ⟨zs, ws, result, s₂, rfl, hawait, h₂⟩ := gives_bind.mp h₁
    have hrequest : ∀ e ∈ ([⟨.writeFtst 0, answer⟩] : List TrialEvent), readsCleared e = false := by
      simp [readsCleared]
    rcases awaitCleared_clearing hawait with ⟨hne, hclearing⟩ | ⟨rfl, hpending⟩
    · cases result with
      | pending => exact absurd rfl hne
      | cleared =>
        obtain ⟨rfl, rfl, -⟩ := gives_pure.mp h₂
        rw [List.append_nil]
        exact .inl ⟨_, rfl, hclearing.append_left hrequest⟩
      | failed =>
        obtain ⟨rfl, rfl, -⟩ := gives_pure.mp h₂
        rw [List.append_nil]
        exact .inl ⟨_, rfl, hclearing.append_left hrequest⟩
    · obtain ⟨rfl, rfl, -⟩ := gives_pure.mp h₂
      rw [List.append_nil]
      exact .inr ⟨rfl, List.forall_mem_append.mpr ⟨hrequest, hpending⟩⟩
  obtain ⟨attempt, vars, s₁, middle, last, rfl, hI, ⟨-, hlast⟩ | ⟨-, hlast⟩⟩ :=
    h.forLoop (I := fun _ _ _ trace => ∀ e ∈ trace, readsCleared e = false)
      (fun _ _ _ _ _ _ _ hbefore hbody => by
        rcases hround hbody with ⟨_, hout, -⟩ | ⟨-, htrace⟩
        · exact absurd hout nofun
        · exact List.forall_mem_append.mpr ⟨hbefore, htrace⟩) (by simp)
  · rcases hround hlast with ⟨result, hout, hclearing⟩ | ⟨hout, -⟩
    · obtain rfl := Sum.inl.inj hout
      exact hclearing.append_left hI
    · exact absurd hout nofun
  · obtain ⟨rfl, rfl, -⟩ := gives_pure.mp hlast
    exact .pending (by simpa using hI)

/-- The reads a run of the recovery made after it read back a cleared Ftst. -/
lemma answersAfterClear_release {prep clear wait : List TrialEvent} {cleared answer : Bool}
    {rest : List TrialEvent} (hprep : ∀ e ∈ prep, e.1 ≠ .writeFtst 0)
    (hrequest : clear = ⟨.writeFtst 0, answer⟩ :: rest) (hclear : Clearing cleared clear)
    (hwait : cleared = false → wait = []) :
    answersAfterClear (prep ++ (clear ++ wait)) = answers wait := by
  have hreleased : (prep ++ (clear ++ wait)).dropWhile (fun e => e.1 != .writeFtst 0) =
      clear ++ wait := by
    rw [List.dropWhile_append_of_pos fun e he => by simpa using hprep e he, hrequest]
    rfl
  rw [answersAfterClear, hreleased]
  obtain ⟨pending, shown, rfl, hpending, ⟨hcleared, rfl⟩ | ⟨e, recs, rfl, he, hsilent⟩⟩ := hclear
  · rw [hwait hcleared, List.append_nil, List.append_nil,
      List.dropWhile_eq_nil_iff.mpr fun e he => by simp [hpending e he]]
    rfl
  · rw [List.append_assoc, List.dropWhile_append_of_pos fun e he => by simp [hpending e he],
      List.cons_append, List.dropWhile_cons_of_neg (by simp [he]), List.tail_cons, answers_append,
      hsilent, List.nil_append]

/-- Only the writes after the clearing read can break the rule. -/
lemma sparesSystemFans_release {prep clear wait : List TrialEvent} {cleared : Bool}
    (hprep : ∀ e ∈ prep, e.1 ≠ .writeFtst 0) (hrequest : ∃ answer rest, clear =
      ⟨.writeFtst 0, answer⟩ :: rest) (hclear : Clearing cleared clear)
    (hfans : NoFanWrite clear) (hwait : cleared = false → wait = []) :
    SparesSystemFans (prep ++ (clear ++ wait)) ↔ Spares (prep ++ clear) wait := by
  constructor
  · intro h before e after fan o heq hfan hlast
    have hcleared : Cleared (prep ++ (clear ++ before)) := by
      obtain ⟨answer, rest, hfirst⟩ := hrequest
      obtain ⟨pending, shown, rfl, hpending, ⟨hfalse, -⟩ | ⟨e', recs, rfl, he', -⟩⟩ := hclear
      · rw [hwait hfalse] at heq
        exact absurd heq (by simp)
      · refine ⟨prep ++ pending, e', recs ++ before, by simp, he', answer, ?_⟩
        cases pending with
        | nil =>
          rw [List.nil_append, List.cons.injEq] at hfirst
          rw [hfirst.1] at he'
          exact absurd he' nofun
        | cons x pending =>
          rw [List.cons_append, List.cons.injEq] at hfirst
          rw [hfirst.1]
          simp
    exact h _ e after fan o (by rw [heq]; simp) hcleared hfan (by simpa using hlast)
  · intro h before e after fan o heq hcleared hfan hlast
    rcases List.append_eq_append_iff.mp heq with ⟨gap, rfl, hgap⟩ | ⟨gap, rfl, -⟩
    · rcases List.append_eq_append_iff.mp hgap with ⟨gap', rfl, hgap'⟩ | ⟨gap', rfl, hgap'⟩
      · exact h gap' e after fan o hgap' hfan (by simpa using hlast)
      · cases gap' with
        | nil =>
          exact h [] e after fan o (by simpa using hgap'.symm) hfan (by simpa using hlast)
        | cons x gap' =>
          rw [List.cons_append, List.cons.injEq] at hgap'
          rw [hfans e (by rw [hgap'.1]; simp)] at hfan
          cases hfan
    · obtain ⟨answer, hmem⟩ := hcleared.requested
      exact absurd rfl (hprep _ (List.mem_append_left _ hmem))

lemma spares_unreleased {trace : List TrialEvent} (h : ∀ e ∈ trace, e.1 ≠ .writeFtst 0) :
    SparesSystemFans trace ∧ answersAfterClear trace = [] := by
  constructor
  · rintro before e after fan o rfl hcleared
    obtain ⟨answer, hmem⟩ := hcleared.requested
    exact absurd rfl (h _ (List.mem_append_left _ hmem))
  · have hnone : trace.dropWhile (fun e => e.1 != .writeFtst 0) = [] :=
      List.dropWhile_eq_nil_iff.mpr fun e he => by simpa using h e he
    rw [answersAfterClear, hnone]
    rfl

lemma not_request {α : Type} {m : TrialM α} (hm : Restores m) {s s' : Bool}
    {trace : List TrialEvent} {a : α} (h : Gives m s trace a s') :
    ∀ e ∈ trace, e.1 ≠ .writeFtst 0 := by
  intro e he heq
  have hleaves := hm.gives h e he
  rw [heq] at hleaves
  exact absurd hleaves nofun

/-- A recovery spares the system fans exactly when none was taken over in its fallback. -/
lemma restoreUnlock_spares_iff {s s' a : Bool} {trace : List TrialEvent}
    (h : Gives backend.trialRestoreUnlock s trace a s') :
    SparesSystemFans trace ↔ ¬ TakenOver (answersAfterClear trace) := by
  have hquiet : ∀ {quiet : List TrialEvent}, (∀ e ∈ quiet, e.1 ≠ .writeFtst 0) →
      (SparesSystemFans quiet ↔ ¬ TakenOver (answersAfterClear quiet)) := fun hnone => by
    obtain ⟨hspares, hanswers⟩ := spares_unreleased hnone
    rw [hanswers]
    exact iff_of_true hspares (not_takenOver_of_length (by simp))
  unfold trialRestoreUnlock at h
  split at h
  · obtain ⟨rfl, -⟩ := gives_pure.mp h
    exact hquiet (by simp)
  rename_i hcallbacks
  rw [Bool.not_eq_true, Bool.not_eq_false'] at hcallbacks
  obtain ⟨prep, trace₁, prepared, s₁, rfl, hprepare, h₁⟩ := gives_bind.mp h
  have hprep := not_request restores_prepareRelease hprepare
  cases prepared with
  | returned result =>
    obtain ⟨rfl, -⟩ := gives_pure.mp h₁
    rw [List.append_nil]
    exact hquiet hprep
  | ready delayedChange =>
    obtain ⟨clear, wait, cleared, s₂, rfl, hclear, h₂⟩ := gives_bind.mp h₁
    have hwait : cleared = false → wait = [] := by
      rintro rfl
      exact (gives_pure.mp h₂).1
    obtain ⟨answer, rest, hrequest⟩ := clearFtst_requests hclear
    rw [answersAfterClear_release hprep hrequest (clearFtst_clearing hclear) hwait,
      sparesSystemFans_release hprep ⟨answer, rest, hrequest⟩ (clearFtst_clearing hclear)
        (leavesFans_clearFtst.gives hclear) hwait]
    cases cleared with
    | false =>
      rw [hwait rfl]
      exact iff_of_true (.of_noFanWrite (by simp [NoFanWrite]))
        (not_takenOver_of_length (by simp [answers]))
    | true => exact awaitBaseline_spares_iff _ hcallbacks h₂

/-- After a cleared Ftst is read back, a recovery writes to no fan that the last successful read
showed in system mode, exactly in the runs where the system takes no fan over between the
fallback's guard and its own read. -/
theorem post_clear_spares_system_fans_iff (backend : TrialBackend) (s : Bool)
    (trace : List TrialEvent) (a s' : Bool) :
    Gives backend.trialRestoreUnlock s trace a s' →
      (SparesSystemFans trace ↔ ¬ TakenOver (answersAfterClear trace)) :=
  restoreUnlock_spares_iff

/-- An unlocked pair in mode 0 whose Ftst is cleared at the third read. From the read of the
fallback the first fan is in system mode and the other in mode `other`; later reads fail. The
clock ticks once a reading. -/
def takesFanOver (other : UInt8) (env : ℕ × ℕ) : (c : TrialCall) → c.Answer × (ℕ × ℕ)
  | .writeMode _ _ => (true, env)
  | .writeTarget _ _ => (true, env)
  | .writeFtst _ => (true, env)
  | .readObservation _ =>
    (if env.1 < 15 then some { quietObservation (if env.1 < 2 then 1 else 0) with
        mode := fun fan => if env.1 < 14 then 0 else if fan = 0 then 3 else other } else none,
      (env.1 + 1, env.2))
  | .waitMilliseconds _ => (true, env)
  | .monotonicSeconds => (finite env.2, (env.1, env.2 + 1))
  | .shouldStop => (false, env)
  | .recordObservation _ _ => ((), env)

/-- Where the system takes both fans over, the fallback's own read shows it. -/
theorem post_clear_spares_pair :
    SparesSystemFans (play (takesFanOver 3) (exact.trialRestoreUnlock.run false) (0, 0)).1 := by
  refine (post_clear_spares_system_fans_iff exact false _ _ _ (ends_play (takesFanOver 3) _ _)).mpr ?_
  rintro ⟨guard, found, -, -, -, hfound, hbaseline, -⟩
  have hread : ((answersAfterClear
      (play (takesFanOver 3) (exact.trialRestoreUnlock.run false) (0, 0)).1)[11]?.any
        fun read => read.any trialObservationIsBaseline) = true := by decide +kernel
  rw [hfound, Option.any_some, Option.any_some, hbaseline] at hread
  cases hread

/-- The rule fails: the fallback's guard and its writes are separated by a read. -/
theorem post_clear_writes_system_fan :
    ¬ ∀ (backend : TrialBackend) (s : Bool) (trace : List TrialEvent) (a s' : Bool),
      Gives backend.trialRestoreUnlock s trace a s' → SparesSystemFans trace := by
  intro h
  have hrun := ends_play (takesFanOver 0) (exact.trialRestoreUnlock.run false) (0, 0)
  have htaken : TakenOver
      (answersAfterClear (play (takesFanOver 0) (exact.trialRestoreUnlock.run false) (0, 0)).1) :=
    ⟨{ quietObservation 0 with mode := fun _ => 0 },
      { quietObservation 0 with mode := fun fan => if fan = 0 then 3 else 0 },
      by decide +kernel, rfl, rfl, by decide +kernel, by decide +kernel, 0, rfl⟩
  exact (restoreUnlock_spares_iff hrun).mp (h exact false _ _ _ hrun) htaken

end TrialBackend
end Ventilator
