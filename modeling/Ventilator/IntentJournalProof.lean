import Ventilator.ControlLeaseProof
import Ventilator.IntentJournal

/-! A marker is removed only on a recovery window of its own: one that began after the marker
was created and after the last start, and that no earlier removal rested on. -/
namespace Ventilator
open CallTree ControlLease

namespace JournalCall

/-- The calls that change the marker or its directory entry. -/
def modifies : JournalCall → Bool
  | createMarker => true
  | writeMarker _ => true
  | unlinkMarker => true
  | _ => false

/-- The calls of a read. -/
def reads : JournalCall → Bool
  | fstatDirectory => true
  | openMarker => true
  | fstatMarker => true
  | readMarker _ => true
  | closeMarker => true
  | _ => false

lemma modifies_of_reads {c : JournalCall} (h : c.reads = true) : c.modifies = false := by
  cases c <;> first | rfl | cases h

end JournalCall

namespace JournalDirectory

variable {journal : JournalDirectory} {fuel : ℕ}

lemma privateDirectory_calls (journal : JournalDirectory) :
    journal.privateDirectory.Calls fun c => c.reads = true :=
  .ite (fun _ => trivial) fun _ => (Calls.perform (by rfl)).bind fun _ => trivial

lemma controlIntentRead_reads (journal : JournalDirectory) (fuel : ℕ) :
    (journal.controlIntentRead fuel).Calls fun c => c.reads = true := by
  have hround : ∀ contents, (readRound contents).Calls fun c => c.reads = true := by
    intro contents
    refine .ite (fun _ => (Calls.perform (by rfl)).bind fun answer => ?_) fun _ => trivial
    match answer with
    | .ok bytes => exact .ite (fun _ => trivial) fun _ => trivial
    | .error .interrupted => trivial
    | .error .noEntry => trivial
    | .error .again => trivial
    | .error .noProcess => trivial
    | .error .other => trivial
  refine journal.privateDirectory_calls.bind fun _ => .ite (fun _ => trivial) fun _ =>
    (Calls.perform (by rfl)).bind fun opened => ?_
  cases opened with
  | error errno => trivial
  | ok u =>
    refine (Calls.perform (by rfl)).bind fun info => .ite (fun _ => ?_) fun _ => ?_
    · exact (Calls.discard (.perform (by rfl))).bind fun _ => trivial
    · refine (Calls.loop (fun _ => hround) _ _ _).bind fun out => ?_
      cases out with
      | inr contents => trivial
      | inl contents =>
        exact (Calls.perform (by rfl)).bind fun _ => .ite (fun _ => trivial) fun _ => trivial

/-- Reading the journal leaves it alone. -/
lemma controlIntentRead_calls (journal : JournalDirectory) (fuel : ℕ) :
    (journal.controlIntentRead fuel).Calls fun c => c.modifies = false :=
  (journal.controlIntentRead_reads fuel).mono fun _ => JournalCall.modifies_of_reads

/-- Marking never removes the marker. -/
lemma controlIntentMarkPending_only (journal : JournalDirectory) (fuel : ℕ) :
    Only (fun c => c ≠ .unlinkMarker) (journal.controlIntentMarkPending fuel) := by
  have hread : (journal.controlIntentRead fuel).Calls fun c => c ≠ .unlinkMarker :=
    (journal.controlIntentRead_calls fuel).mono fun c hc heq => by
      rw [heq] at hc
      cases hc
  have hround : ∀ written, (writeRound written).Calls fun c => c ≠ .unlinkMarker := by
    intro written
    refine .ite (fun _ => (Calls.perform nofun).bind fun answer => ?_) fun _ => trivial
    match answer with
    | .ok count => exact .ite (fun _ => trivial) fun _ => trivial
    | .error .interrupted => trivial
    | .error .noEntry => trivial
    | .error .again => trivial
    | .error .noProcess => trivial
    | .error .other => trivial
  have hwrite : (writeIntent fuel).Calls fun c => c ≠ .unlinkMarker := by
    refine (Calls.loop (fun _ => hround) _ _ _).bind fun out => ?_
    cases out with
    | inr written => trivial
    | inl written =>
      have hclose : ∀ durable : Bool, (do
          let closed ← perform .closeMarker
          let synced ← perform .fsyncDirectory
          pure (some (durable && closed && synced)) : JournalM (Option Bool)).Calls
          fun c => c ≠ .unlinkMarker :=
        fun _ => (Calls.perform nofun).bind fun _ => (Calls.perform nofun).bind fun _ => trivial
      exact .ite (fun _ => (Calls.perform nofun).bind hclose) fun _ => hclose false
  have hprepare : Only (fun c => c ≠ .unlinkMarker)
      (modifyGet ControlLease.preparePersistentIntent : LeaseM Bool) := fun _ => trivial
  refine hprepare.bind fun prepared => .ite (fun _ => .pure _) fun _ => ?_
  refine (Only.lift hread).bind fun intent => ?_
  cases intent with
  | none => exact .pure _
  | some intent =>
    refine .ite (fun _ => .pure _) fun _ => (Only.ask nofun).bind fun _ => ?_
    exact .ite (fun _ => .pure _) fun _ => .lift hwrite

/-- Clearing takes a proof before it unlinks the marker, and otherwise leaves the lease. -/
lemma controlIntentClearVerified_trace {lease lease' : ControlLease} {trace : List JournalEvent}
    {result : Option Bool}
    (h : Gives (journal.controlIntentClearVerified fuel) lease trace result lease') :
    (lease' = lease ∧ ∀ e ∈ trace, e.1 ≠ .unlinkMarker) ∨
      lease.succeeds .takeRecoveryProof = true ∧ lease' = lease.step .takeRecoveryProof ∧
        ∃ e ∈ trace, e.1 = .unlinkMarker := by
  obtain ⟨xs, ys, intent, lease₁, rfl, hread, h₁⟩ := gives_bind.mp h
  obtain ⟨hends, rfl⟩ := gives_lift.mp hread
  have hquiet : ∀ e ∈ xs, e.1 ≠ .unlinkMarker := fun e he heq => by
    have hcalls := (journal.controlIntentRead_calls fuel).runs hends e he
    rw [heq] at hcalls
    cases hcalls
  cases intent with
  | none =>
    obtain ⟨rfl, -, rfl⟩ := gives_pure.mp h₁
    rw [List.append_nil]
    exact .inl ⟨rfl, hquiet⟩
  | some intent =>
    dsimp only at h₁
    split at h₁
    · obtain ⟨rfl, -, rfl⟩ := gives_pure.mp h₁
      rw [List.append_nil]
      exact .inl ⟨rfl, hquiet⟩
    obtain ⟨zs, ws, took, lease₂, rfl, htake, h₂⟩ := gives_bind.mp h₁
    obtain ⟨rfl, rfl, rfl⟩ := gives_modifyGet.mp htake
    by_cases hsucceeds : lease₁.succeeds .takeRecoveryProof = true
    · have htook : lease₁.takeRecoveryProof.1 = true := hsucceeds
      rw [htook, if_neg (by simp)] at h₂
      obtain ⟨removed, rest, rfl, h₃⟩ := gives_ask_bind.mp h₂
      have hlease : lease' = lease₁.takeRecoveryProof.2 := by
        split at h₃
        · exact (gives_pure.mp h₃).2.2
        · obtain ⟨synced, rest', rfl, h₄⟩ := gives_ask_bind.mp h₃
          exact (gives_pure.mp h₄).2.2
      exact .inr ⟨hsucceeds, hlease, ⟨.unlinkMarker, removed⟩, by simp, rfl⟩
    · have hrefused : lease₁.takeRecoveryProof.1 = false := eq_false_of_ne_true hsucceeds
      rw [hrefused, if_pos (by decide)] at h₂
      obtain ⟨rfl, -, rfl⟩ := gives_pure.mp h₂
      refine .inl ⟨?_, by simpa using hquiet⟩
      unfold takeRecoveryProof at hrefused ⊢
      split_ifs at hrefused ⊢
      rfl

/-- Marking prepares the lease first, and creates the marker only when that succeeded. -/
lemma controlIntentMarkPending_trace {lease lease' : ControlLease} {trace : List JournalEvent}
    {result : Option Bool}
    (h : Gives (journal.controlIntentMarkPending fuel) lease trace result lease') :
    lease' = lease.step .preparePersistentIntent ∧
      (trace = [] ∨ lease.succeeds .preparePersistentIntent = true) := by
  obtain ⟨xs, ys, prepared, lease₁, rfl, hprepare, h₁⟩ := gives_bind.mp h
  obtain ⟨rfl, rfl, rfl⟩ := gives_modifyGet.mp hprepare
  split at h₁
  · obtain ⟨rfl, -, rfl⟩ := gives_pure.mp h₁
    exact ⟨rfl, .inl rfl⟩
  rename_i hprepared
  rw [Bool.not_eq_true, Bool.not_eq_false'] at hprepared
  refine ⟨?_, .inr hprepared⟩
  obtain ⟨zs, ws, intent, lease₂, rfl, hread, h₂⟩ := gives_bind.mp h₁
  obtain ⟨-, rfl⟩ := gives_lift.mp hread
  cases intent with
  | none => exact (gives_pure.mp h₂).2.2
  | some intent =>
    dsimp only at h₂
    split at h₂
    · exact (gives_pure.mp h₂).2.2
    obtain ⟨created, rest, rfl, h₃⟩ := gives_ask_bind.mp h₂
    split at h₃
    · exact (gives_pure.mp h₃).2.2
    · exact (gives_lift.mp h₃).2

end JournalDirectory

/-- One operation on the lease and its journal; a journal call with the system calls it made
and their answers. -/
inductive JournalStep
  | lease (op : LeaseOp)
  | markPending (trace : List JournalEvent) (result : Option Bool)
  | clearVerified (trace : List JournalEvent) (result : Option Bool)

namespace JournalStep

/-- The step is a run of its operation from one lease to the next. -/
def Performs (journal : JournalDirectory) (lease : ControlLease) :
    JournalStep → ControlLease → Prop
  | .lease op, lease' => lease' = lease.step op
  | markPending trace result, lease' =>
    ∃ fuel, Gives (journal.controlIntentMarkPending fuel) lease trace result lease'
  | clearVerified trace result, lease' =>
    ∃ fuel, Gives (journal.controlIntentClearVerified fuel) lease trace result lease'

/-- Whether the step created the marker. -/
def creates : JournalStep → Bool
  | markPending trace _ => trace.any fun
    | ⟨.createMarker, created⟩ => created
    | _ => false
  | _ => false

/-- Whether the step went on to unlink the marker, with a proof it took. -/
def unlinks : JournalStep → Bool
  | clearVerified trace _ => trace.any fun e => e.1 == .unlinkMarker
  | _ => false

/-- Whether the step removed the marker. -/
def removes : JournalStep → Bool
  | clearVerified trace _ => trace.any fun
    | ⟨.unlinkMarker, removed⟩ => removed
    | _ => false
  | _ => false

/-- The lease operation a step comes down to. -/
def leaseOp? : JournalStep → Option LeaseOp
  | .lease op => some op
  | markPending _ _ => some .preparePersistentIntent
  | clearVerified trace result =>
    if (clearVerified trace result).unlinks then some .takeRecoveryProof else none

lemma unlinks_of_removes {step : JournalStep} (h : step.removes = true) :
    step.unlinks = true := by
  cases step with
  | clearVerified trace result =>
    obtain ⟨⟨c, answer⟩, he, hremoved⟩ := List.any_eq_true.mp h
    refine List.any_eq_true.mpr ⟨_, he, ?_⟩
    cases c with
    | unlinkMarker => rfl
    | _ => cases hremoved
  | _ => cases h

variable {journal : JournalDirectory} {lease lease' : ControlLease} {step : JournalStep}

lemma Performs.step_eq (h : step.Performs journal lease lease') :
    lease' = lease.runs step.leaseOp?.toList := by
  cases step with
  | lease op => exact h
  | markPending trace result =>
    obtain ⟨fuel, hgives⟩ := h
    exact (JournalDirectory.controlIntentMarkPending_trace hgives).1
  | clearVerified trace result =>
    obtain ⟨fuel, hgives⟩ := h
    rcases JournalDirectory.controlIntentClearVerified_trace hgives with
      ⟨rfl, hquiet⟩ | ⟨-, rfl, e, he, hunlink⟩
    · have hnone : (clearVerified trace result).unlinks = false :=
        List.any_eq_false.mpr fun e he => by simpa using hquiet e he
      rw [leaseOp?, hnone]
      rfl
    · have hsome : (clearVerified trace result).unlinks = true :=
        List.any_eq_true.mpr ⟨e, he, by simp [hunlink]⟩
      rw [leaseOp?, hsome]
      rfl

/-- A step that unlinks has taken a proof. -/
lemma Performs.took (h : step.Performs journal lease lease') (hunlinks : step.unlinks = true) :
    step.leaseOp? = some .takeRecoveryProof ∧ lease.succeeds .takeRecoveryProof = true := by
  cases step with
  | clearVerified trace result =>
    refine ⟨if_pos hunlinks, ?_⟩
    obtain ⟨fuel, hgives⟩ := h
    rcases JournalDirectory.controlIntentClearVerified_trace hgives with
      ⟨-, hquiet⟩ | ⟨hsucceeds, -⟩
    · obtain ⟨e, he, hunlink⟩ := List.any_eq_true.mp hunlinks
      exact absurd (by simpa using hunlink) (hquiet e he)
    · exact hsucceeds
  | _ => cases hunlinks

/-- A step that creates the marker leaves the lease held. -/
lemma Performs.held (h : step.Performs journal lease lease') (hcreates : step.creates = true) :
    lease'.state = .held := by
  cases step with
  | markPending trace result =>
    obtain ⟨fuel, hgives⟩ := h
    obtain ⟨rfl, rfl | hsucceeds⟩ := JournalDirectory.controlIntentMarkPending_trace hgives
    · cases hcreates
    · exact prepare_held hsucceeds
  | _ => cases hcreates

end JournalStep

/-- A run of operations on one lease and one journal. -/
inductive JournalRuns (journal : JournalDirectory) :
    ControlLease → List JournalStep → ControlLease → Prop
  | nil (lease : ControlLease) : JournalRuns journal lease [] lease
  | cons {lease next last : ControlLease} {step : JournalStep} {steps : List JournalStep}
      (h : step.Performs journal lease next) (hrest : JournalRuns journal next steps last) :
      JournalRuns journal lease (step :: steps) last

/-- The lease operations of a run. -/
def leaseOps (steps : List JournalStep) : List LeaseOp := steps.filterMap JournalStep.leaseOp?

namespace JournalRuns

variable {journal : JournalDirectory} {lease last : ControlLease}

lemma lease_eq {steps : List JournalStep} (h : JournalRuns journal lease steps last) :
    last = lease.runs (leaseOps steps) := by
  induction h with
  | nil lease => rfl
  | @cons lease next last step steps h hrest ih =>
    rw [ih, h.step_eq, ← runs_append]
    cases hop : step.leaseOp? <;> simp [leaseOps, hop]

lemma append {xs ys : List JournalStep} (h : JournalRuns journal lease (xs ++ ys) last) :
    ∃ middle, JournalRuns journal lease xs middle ∧ JournalRuns journal middle ys last := by
  induction xs generalizing lease with
  | nil => exact ⟨lease, .nil lease, h⟩
  | cons step xs ih =>
    cases h with
    | cons hstep hrest =>
      obtain ⟨middle, hxs, hys⟩ := ih hrest
      exact ⟨middle, .cons hstep hxs, hys⟩

end JournalRuns

/-- What a removal rests on: a recovery start that began to verify, and the samples after it,
the last of which completed an uninterrupted window. Since that recovery start there was no
other start, the marker was not created, and no proof was taken. -/
structure RecoveryWindow (lease : ControlLease) (opening : Reading) (upto rest : List JournalStep) :
    Prop where
  verifying : (lease.step (.recoveryStarted opening.result opening.snapshot opening.nowNs)).state =
    .verifyingRecovery
  uninterrupted : Stays .verifyingRecovery
    (lease.step (.recoveryStarted opening.result opening.snapshot opening.nowNs))
    (leaseOps upto).dropLast
  complete : Reading.Complete (opening :: sampledReadings (leaseOps upto))
  noStart : ∀ op, .lease op ∈ upto ++ rest → op.isStart = false
  notCreated : ∀ step ∈ upto ++ rest, step.creates = false
  unused : ∀ step ∈ upto ++ rest, step.unlinks = false

lemma leaseOps_append (xs ys : List JournalStep) :
    leaseOps (xs ++ ys) = leaseOps xs ++ leaseOps ys := List.filterMap_append ..

/-- A settled window of the lease operations is a recovery window of the steps. -/
lemma RecoveryWindow.of_settled {journal : JournalDirectory} {lease next last : ControlLease}
    {opening : Reading} {upto rest : List JournalStep}
    (hverifying : next.state = .verifyingRecovery)
    (hnext : next = lease.step (.recoveryStarted opening.result opening.snapshot opening.nowNs))
    (hsettled : Settled lease (.recoveryStarted opening.result opening.snapshot opening.nowNs)
      opening (leaseOps upto) (leaseOps rest))
    (hruns : JournalRuns journal next (upto ++ rest) last) (hproven : last.Proven) :
    RecoveryWindow lease opening upto rest := by
  subst hnext
  have hlast := hruns.lease_eq
  rw [leaseOps_append] at hlast
  have hinside : ∀ xs step ys, upto ++ rest = xs ++ step :: ys → ∃ middle after,
      middle = (lease.step (.recoveryStarted opening.result opening.snapshot
        opening.nowNs)).runs (leaseOps xs) ∧ step.Performs journal middle after := by
    intro xs step ys hcut
    rw [hcut] at hruns
    obtain ⟨middle, hxs, hys⟩ := hruns.append
    cases hys with
    | cons hstep hrest => exact ⟨middle, _, hxs.lease_eq, hstep⟩
  constructor
  · exact hverifying
  · exact hverifying ▸ hsettled.watched
  · exact hsettled.window
  · intro op hop
    refine hsettled.noStart op ?_
    rw [← leaseOps_append]
    exact List.mem_filterMap.mpr ⟨_, hop, rfl⟩
  · intro step hstep
    obtain ⟨xs, ys, hcut⟩ := List.append_of_mem hstep
    obtain ⟨middle, after, rfl, hperforms⟩ := hinside xs step ys hcut
    by_contra hcreates
    refine hsettled.free (leaseOps (xs ++ [step])) ?_ ?_
    · rw [← leaseOps_append, hcut]
      exact ⟨leaseOps ys, by rw [← leaseOps_append]; simp⟩
    · rw [leaseOps_append, runs_append]
      have hheld := hperforms.held (by simpa using hcreates)
      rw [hperforms.step_eq] at hheld
      cases hop : step.leaseOp? with
      | none => simpa [leaseOps, hop] using hheld
      | some op => simpa [leaseOps, hop] using hheld
  · intro step hstep
    obtain ⟨xs, ys, hcut⟩ := List.append_of_mem hstep
    obtain ⟨middle, after, rfl, hperforms⟩ := hinside xs step ys hcut
    by_contra hunlinks
    obtain ⟨hop, hsucceeds⟩ := hperforms.took (by simpa using hunlinks)
    rw [hlast] at hproven
    have hnone := (hsettled.proof hproven.2).2
    have hsplit : leaseOps upto ++ leaseOps rest =
        leaseOps xs ++ .takeRecoveryProof :: leaseOps ys := by
      rw [← leaseOps_append, hcut, leaseOps_append]
      simp [leaseOps, hop]
    rw [hsplit] at hnone
    rw [not_succeeds_of_lastSuccess hnone rfl] at hsucceeds
    cases hsucceeds

/-- The steps behind a window of the lease operations. -/
lemma leaseOps_split {steps : List JournalStep} {before upto rest : List LeaseOp}
    {opening : LeaseOp} (h : leaseOps steps = before ++ opening :: (upto ++ rest)) :
    ∃ xs step ys zs, steps = xs ++ step :: (ys ++ zs) ∧ leaseOps xs = before ∧
      step.leaseOp? = some opening ∧ leaseOps ys = upto ∧ leaseOps zs = rest := by
  obtain ⟨xs, tail, rfl, rfl, htail⟩ := List.filterMap_eq_append_iff.mp h
  obtain ⟨gap, step, after, rfl, hgap, hstep, hafter⟩ := List.filterMap_eq_cons_iff.mp htail
  obtain ⟨ys, zs, rfl, rfl, rfl⟩ := List.filterMap_eq_append_iff.mp hafter
  refine ⟨xs ++ gap, step, ys, zs, by simp, ?_, hstep, rfl, rfl⟩
  rw [leaseOps_append, leaseOps, leaseOps, List.filterMap_eq_nil_iff.mpr hgap, List.append_nil]

lemma leaseOp?_recovery {step : JournalStep} {result : SmcBaselineResult}
    {snapshot : Option SmcBaselineSnapshot} {t : UInt64}
    (h : step.leaseOp? = some (.recoveryStarted result snapshot t)) :
    step = .lease (.recoveryStarted result snapshot t) := by
  cases step with
  | lease op => rw [Option.some.inj h]
  | markPending trace answer => cases Option.some.inj h
  | clearVerified trace answer =>
    rw [JournalStep.leaseOp?] at h
    split at h
    · cases Option.some.inj h
    · cases h

/-- Whenever a run of operations on a lease and its journal, in any order and with any outcome
of every system call, removes the marker, it rests on a recovery window that began after the
marker's creation and the last start, and that no earlier removal used. -/
theorem removed_marker_rests_on_recovery {journal : JournalDirectory} {steps : List JournalStep}
    {lease lease' : ControlLease} {trace : List JournalEvent} {result : Option Bool}
    (hruns : JournalRuns journal zero steps lease)
    (hclear : (JournalStep.clearVerified trace result).Performs journal lease lease')
    (hremoves : (JournalStep.clearVerified trace result).removes = true) :
    ∃ before opening upto rest reached, steps = before ++
        .lease (.recoveryStarted opening.result opening.snapshot opening.nowNs) :: (upto ++ rest) ∧
      JournalRuns journal zero before reached ∧ RecoveryWindow reached opening upto rest := by
  obtain ⟨-, hsucceeds⟩ := hclear.took (JournalStep.unlinks_of_removes hremoves)
  have hproven := take_proven hsucceeds
  have hops := hproven
  rw [hruns.lease_eq] at hops
  obtain ⟨before, opening, reading, upto, rest, hsplit, hverifying, hsettled⟩ :=
    (proofHistory (leaseOps steps)).proven hops
  obtain ⟨xs, step, ys, zs, rfl, rfl, hstep, rfl, rfl⟩ := leaseOps_split hsplit
  have hverified := hruns.lease_eq ▸ hproven.2
  rw [hsplit, runs_append, runs_cons] at hverified
  obtain rfl := hsettled.opens.recovery (hsettled.proof hverified).1
  obtain rfl := leaseOp?_recovery hstep
  obtain ⟨reached, hxs, htail⟩ := hruns.append
  obtain rfl := hxs.lease_eq
  cases htail with
  | cons hopens hrest =>
    refine ⟨xs, reading, ys, zs, _, rfl, hxs, ?_⟩
    obtain rfl : _ = _ := hopens
    exact .of_settled hverifying rfl hsettled hrest hproven

lemma journalRuns_lease (journal : JournalDirectory) (lease : ControlLease)
    (ops : List LeaseOp) : JournalRuns journal lease (ops.map .lease) (lease.runs ops) := by
  induction ops generalizing lease with
  | nil => exact .nil lease
  | cons op ops ih => exact .cons rfl (ih (lease.step op))

def systemSnapshot : SmcBaselineSnapshot :=
  { mode := fun _ => 3, ftst := 0, actualRpm := fun _ => .finite 0, targetRpm := fun _ => .finite 0,
    temperaturesC := fun _ => .finite 40 }

/-- A restart with a pending intent and the recovery window after it. -/
def recoveryOps : List LeaseOp :=
  .start .pending .ok (some systemSnapshot) 1000000000 ::
    .recoveryStarted .ok (some systemSnapshot) 2000000000 ::
      (List.range 60).map fun second =>
        .sample .ok (some systemSnapshot) (3000000000 + 1000000000 * second.toUInt64)

/-- A private directory whose marker is intact. -/
def pendingMarker (_ : Unit) : (c : JournalCall) → c.Answer × Unit
  | .fstatDirectory => (some ⟨.directory, 0o700, 501, 2, 96⟩, ())
  | .openMarker => (.ok (), ())
  | .createMarker => (false, ())
  | .fstatMarker => (some ⟨.regular, 0o600, 501, 1, markerContents.length⟩, ())
  | .readMarker size => (.ok ⟨markerContents.take size, List.length_take_le _ _⟩, ())
  | .writeMarker _ => (.error .other, ())
  | .fsyncMarker => (true, ())
  | .closeMarker => (true, ())
  | .fsyncDirectory => (true, ())
  | .unlinkMarker => (true, ())

theorem recovered_marker_rests_on_recovery :
    ∃ before opening upto rest reached, recoveryOps.map .lease = before ++
        .lease (.recoveryStarted opening.result opening.snapshot opening.nowNs) :: (upto ++ rest) ∧
      JournalRuns ⟨3, 501⟩ zero before reached ∧ RecoveryWindow reached opening upto rest :=
  removed_marker_rests_on_recovery (journalRuns_lease _ zero recoveryOps)
    ⟨2, ends_play pendingMarker
      ((JournalDirectory.controlIntentClearVerified ⟨3, 501⟩ 2).run (zero.runs recoveryOps)) ()⟩
    (by decide +kernel)

end Ventilator
