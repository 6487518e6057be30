import Ventilator.ControlLeaseWindow

/-! The recovery window behind a lease's proof. Unlike the window behind a claim it needs no
start: a lease in zeroed memory has none either. -/
namespace Ventilator
namespace ControlLease

/-- The lease holds a proof that `take_recovery_proof` may take. -/
def Proven (lease : ControlLease) : Prop := lease.state = .stable ∧ lease.recoveryVerified = true

/-- What the run from `memory` says about the recovery window behind the lease. -/
structure ProofHistory (memory : ControlLease) (run : List LeaseOp) : Prop where
  verifying : (memory.runs run).state = .verifyingRecovery → ∃ before opening reading mid,
    run = before ++ opening :: mid ∧ Watched (memory.runs before) opening reading mid
  proven : (memory.runs run).Proven → ∃ before opening reading upto rest,
    run = before ++ opening :: (upto ++ rest) ∧
      ((memory.runs before).step opening).state = .verifyingRecovery ∧
      Settled (memory.runs before) opening reading upto rest

lemma ProofHistory.of_none {memory : ControlLease} {run : List LeaseOp}
    (hverifying : (memory.runs run).state ≠ .verifyingRecovery)
    (hproven : ¬ (memory.runs run).Proven) : ProofHistory memory run :=
  ⟨fun h => absurd h hverifying, fun h => absurd h hproven⟩

lemma ProofHistory.of_state {memory : ControlLease} {run : List LeaseOp}
    (hverifying : (memory.runs run).state ≠ .verifyingRecovery)
    (hstable : (memory.runs run).state ≠ .stable) : ProofHistory memory run :=
  .of_none hverifying fun h => hstable h.1

lemma ProofHistory.of_watched {memory : ControlLease} {before mid : List LeaseOp}
    {opening : LeaseOp} {reading : Reading}
    (h : Watched (memory.runs before) opening reading mid)
    (hstate : (memory.runs (before ++ opening :: mid)).state = .verifyingRecovery) :
    ProofHistory memory (before ++ opening :: mid) where
  verifying _ := ⟨before, opening, reading, mid, rfl, h⟩
  proven hproven := absurd (hproven.1.symm.trans hstate) nofun

lemma ProofHistory.of_settled {memory : ControlLease} {before upto rest : List LeaseOp}
    {opening : LeaseOp} {reading : Reading}
    (hopening : ((memory.runs before).step opening).state = .verifyingRecovery)
    (h : Settled (memory.runs before) opening reading upto rest) :
    ProofHistory memory (before ++ opening :: (upto ++ rest)) where
  verifying hstate := by
    rw [runs_append, runs_cons, runs_append] at hstate
    exact absurd (h.stays.last.symm.trans hstate) nofun
  proven _ := ⟨before, opening, reading, upto, rest, rfl, hopening, h⟩

/-- One operation keeps the history of the recovery window. -/
lemma ProofHistory.step {memory : ControlLease} {run : List LeaseOp} (op : LeaseOp)
    (h : ProofHistory memory run) : ProofHistory memory (run ++ [op]) := by
  have heffect := effect (memory.runs run) op
  generalize hanswer : (memory.runs run).succeeds op = answer at heffect
  generalize hafter : (memory.runs run).step op = after at heffect
  have hruns := (runs_concat memory run op).trans hafter
  have hcurrent : ∀ before opening mid, memory.runs (before ++ opening :: mid) =
      ((memory.runs before).step opening).runs mid := fun before opening mid => by
    rw [runs_append, runs_cons]
  have hidle : after.state ≠ .verifyingRecovery → after.state ≠ .stable →
      ProofHistory memory (run ++ [op]) := fun hverifying hstable => by
    rw [← hruns] at hverifying hstable
    exact .of_state hverifying hstable
  cases heffect with
  | restarted state owner expires samples proof =>
    rcases state with state | state
    · exact hidle (by simp [state]) (by simp [state])
    · exact hidle (by simp [state]) (by simp [state])
  | startOpened time system => exact hidle (by rintro ⟨⟩) (by rintro ⟨⟩)
  | @recoveryOpened snapshot t state time system =>
    have hchanged : ((memory.runs run).step (.recoveryStarted .ok snapshot t)).state ≠
        (memory.runs run).state := by
      rw [hafter, state]
      rintro ⟨⟩
    have hwatched : Watched (memory.runs run) (.recoveryStarted .ok snapshot t)
        ⟨.ok, snapshot, t⟩ [] :=
      .opened ⟨rfl, .inr hchanged⟩ (by simp [Reading.isSystem, system]) hafter fun _ => rfl
    exact .of_watched hwatched (by rw [hruns]; rfl)
  | unchanged start sample =>
    by_cases hverifying : (memory.runs run).state = .verifyingRecovery
    · obtain ⟨before, opening, reading, mid, rfl, hwatched⟩ := h.verifying hverifying
      have hsample : op.isSample = false := by
        by_contra hs
        exact sample (by simpa using hs) (.inr hverifying)
      rw [List.append_assoc, List.cons_append] at hruns ⊢
      rw [hcurrent] at hafter hanswer
      exact .of_watched (hwatched.skip start hsample hafter hanswer) (by rw [hruns]; exact hverifying)
    by_cases hproven : (memory.runs run).Proven
    · obtain ⟨before, opening, reading, upto, rest, rfl, hopening, hsettled⟩ := h.proven hproven
      have hstable := hproven.1
      rw [List.append_assoc, List.cons_append, List.append_assoc]
      rw [hcurrent] at hafter hanswer hstable
      exact .of_settled hopening (hsettled.keep start (by rw [hafter, hstable]) (by rw [hafter])
        (by rw [hanswer, Bool.and_false]) fun hproof => by
          rw [hafter] at hproof
          exact ⟨hproof, by rw [hanswer, Bool.and_false]⟩)
    · exact .of_none (by rwa [hruns]) (by rwa [hruns])
  | dropped start => exact hidle (by rintro ⟨⟩) (by rintro ⟨⟩)
  | changed watching gap => exact hidle (by rintro ⟨⟩) (by rintro ⟨⟩)
  | failed start state => exact hidle (by rintro ⟨⟩) (by rintro ⟨⟩)
  | counted watching gap system short =>
    by_cases hverifying : (memory.runs run).state = .verifyingRecovery
    · obtain ⟨before, opening, reading, mid, rfl, hwatched⟩ := h.verifying hverifying
      rw [List.append_assoc, List.cons_append] at hruns ⊢
      rw [hcurrent] at gap short hafter
      exact .of_watched (hwatched.count_sample system gap short hafter)
        (by rw [hruns]; exact hverifying)
    · have hobserving := watching.resolve_right hverifying
      exact hidle (by simp [ControlLease.counted, hobserving])
        (by simp [ControlLease.counted, hobserving])
  | stabilised watching gap system enough span =>
    by_cases hverifying : (memory.runs run).state = .verifyingRecovery
    · obtain ⟨before, opening, reading, mid, rfl, hwatched⟩ := h.verifying hverifying
      rw [List.append_assoc, List.cons_append]
      rw [hcurrent] at watching gap enough span hafter hverifying
      have hopening := hwatched.stays.last.symm.trans hverifying
      have hsettled := hwatched.stabilise watching system gap enough span hafter
      have hproof := ProofHistory.of_settled hopening hsettled
      rwa [List.append_nil] at hproof
    · refine .of_none (by rw [hruns]; rintro ⟨⟩) fun hproven => hverifying ?_
      rw [hruns] at hproven
      exact of_decide_eq_true hproven.2
  | claimed state nonzero fresh age deadline system cool =>
    exact hidle (by rintro ⟨⟩) (by rintro ⟨⟩)
  | marked state fresh live => exact hidle (by simp [state]) (by simp [state])
  | prepared state => exact hidle (by simp [state]) (by simp [state])
  | renewed state fresh live deadline => exact hidle (by simp [state]) (by simp [state])
  | took state proof =>
    refine .of_none (by rw [hruns, state]; rintro ⟨⟩) fun hproven => ?_
    rw [hruns] at hproven
    cases hproven.2

/-- Every run from zeroed memory keeps the history of its recovery windows. -/
theorem proofHistory (run : List LeaseOp) : ProofHistory zero run := by
  induction run using List.reverseRecOn with
  | nil => exact .of_state nofun nofun
  | append_singleton run op ih => exact ih.step op

/-- The opening of a recovery window is a recovery start. -/
lemma Opens.recovery {lease : ControlLease} {opening : LeaseOp} {reading : Reading}
    (h : Opens lease opening reading) (hstart : opening.isStart = false) :
    opening = .recoveryStarted reading.result reading.snapshot reading.nowNs := by
  obtain ⟨hopening, -⟩ := h
  cases opening with
  | recoveryStarted result snapshot t =>
    obtain rfl := Option.some.inj hopening
    rfl
  | start intent result snapshot t => cases hstart
  | _ => cases hopening

/-- Where no operation of a kind succeeded, none did at any point. -/
lemma not_succeeds_of_lastSuccess {p : LeaseOp → Bool} {lease : ControlLease}
    {xs ys : List LeaseOp} {op : LeaseOp} (h : lastSuccess p lease (xs ++ op :: ys) = none)
    (hop : p op = true) : (lease.runs xs).succeeds op = false := by
  induction xs generalizing lease with
  | nil =>
    rw [List.nil_append, lastSuccess, Option.or_eq_none_iff] at h
    by_contra hsucceeds
    simp only [runs_nil, Bool.not_eq_false] at hsucceeds
    simp [hop, hsucceeds] at h
  | cons x xs ih =>
    rw [List.cons_append, lastSuccess, Option.or_eq_none_iff] at h
    exact ih h.1

/-- A lease is held when an intent may be prepared, and proven when a proof may be taken. -/
lemma prepare_held {lease : ControlLease} (h : lease.succeeds .preparePersistentIntent = true) :
    (lease.step .preparePersistentIntent).state = .held := by
  have heffect := effect lease .preparePersistentIntent
  rw [h] at heffect
  generalize lease.step _ = after at heffect
  cases heffect with
  | prepared state => exact state

lemma take_proven {lease : ControlLease} (h : lease.succeeds .takeRecoveryProof = true) :
    lease.Proven := by
  have heffect := effect lease .takeRecoveryProof
  rw [h] at heffect
  generalize lease.step _ = after at heffect
  cases heffect with
  | took state proof => exact ⟨state, proof⟩

end ControlLease
end Ventilator
