import Ventilator.ControlLeaseStep

/-! Who may write while a lease is held, and until when: the owner of the latest
successful claim, for less than 15 seconds after its latest claim or renewal. -/
namespace Ventilator

namespace ControlLease

/-- What a lease held after `ops` allows, and to whom. -/
structure Authority (lease : ControlLease) (ops : List LeaseOp) : Prop where
  held_iff : lease.state = .held ↔ lease.owner ≠ 0
  deadline : lease.state = .held →
    lease.expiresAtNs.toNat = lease.lastSampleNs.toNat + 15000000000
  idle : lease.state ≠ .held → lease.owner = 0 ∧ lease.expiresAtNs = 0
  settled : lease.state = .stable → lease.writePending = false
  claimant : lease.state = .held →
    (lastSuccess LeaseOp.isClaim zero ops).bind LeaseOp.owner? = some lease.owner
  extended : lease.state = .held →
    (lastSuccess LeaseOp.setsDeadline zero ops).bind LeaseOp.requestTime? = some lease.lastSampleNs

lemma Authority.nil : Authority zero [] := by
  constructor <;> simp [zero]

/-- A lease that is not held needs no history. -/
lemma Authority.of_not_held {lease : ControlLease} {ops : List LeaseOp}
    (hstate : lease.state ≠ .held) (howner : lease.owner = 0) (hexpires : lease.expiresAtNs = 0)
    (hsettled : lease.state = .stable → lease.writePending = false) : Authority lease ops :=
  ⟨by simp [hstate, howner], fun h => absurd h hstate, fun _ => ⟨howner, hexpires⟩, hsettled,
    fun h => absurd h hstate, fun h => absurd h hstate⟩

lemma Authority.requireRecovery (lease : ControlLease) (ops : List LeaseOp) :
    Authority lease.requireRecovery ops :=
  .of_not_held (by simp [ControlLease.requireRecovery]) rfl rfl
    (by simp [ControlLease.requireRecovery])

/-- An operation that neither claims nor renews leaves the recorded history alone. -/
lemma Authority.frame {lease after : ControlLease} {ops : List LeaseOp} {op : LeaseOp}
    (h : Authority lease ops) (hstate : after.state = lease.state)
    (howner : after.owner = lease.owner) (hexpires : after.expiresAtNs = lease.expiresAtNs)
    (hlast : after.lastSampleNs = lease.lastSampleNs)
    (hsettled : after.state = .stable → after.writePending = false)
    (hop : (op.setsDeadline && (zero.runs ops).succeeds op) = false) :
    Authority after (ops ++ [op]) := by
  have hclaim : (op.isClaim && (zero.runs ops).succeeds op) = false := by
    simp only [LeaseOp.setsDeadline, Bool.and_eq_false_iff, Bool.or_eq_false_iff] at hop ⊢
    exact hop.imp_left And.left
  refine ⟨?_, ?_, ?_, hsettled, ?_, ?_⟩
  · rw [hstate, howner]; exact h.held_iff
  · rw [hstate, hexpires, hlast]; exact h.deadline
  · rw [hstate, howner, hexpires]; exact h.idle
  · rw [hstate, howner, lastSuccess_concat, hclaim]; exact h.claimant
  · rw [hstate, hlast, lastSuccess_concat, hop]; exact h.extended

/-- One operation keeps the authority invariant. -/
lemma Authority.step {ops : List LeaseOp} (op : LeaseOp) (h : Authority (zero.runs ops) ops) :
    Authority ((zero.runs ops).step op) (ops ++ [op]) := by
  have heffect := effect (zero.runs ops) op
  revert heffect
  generalize hlease : zero.runs ops = lease at h ⊢
  generalize hanswer : lease.succeeds op = answer
  generalize lease.step op = after
  intro heffect
  have hframe : (op.setsDeadline && answer) = false →
      (op.setsDeadline && (zero.runs ops).succeeds op) = false := by
    rw [hlease, hanswer]
    exact id
  cases heffect with
  | restarted state owner expires samples proof =>
    refine .of_not_held ?_ owner expires ?_ <;> rcases state with h | h <;> simp [h]
  | startOpened time system => exact .of_not_held (by simp [opened]) rfl rfl (by simp [opened])
  | recoveryOpened state time system =>
    have hidle := h.idle (by simp [state])
    exact .of_not_held (by simp [opened]) hidle.1 hidle.2 (by simp [opened])
  | unchanged start sample =>
    exact h.frame rfl rfl rfl rfl h.settled (hframe (by simp))
  | dropped start => exact .requireRecovery _ _
  | changed watching gap => exact .requireRecovery _ _
  | failed start state =>
    exact .of_not_held (by simp) (h.idle state).1 (h.idle state).2 (by simp)
  | counted watching gap system short =>
    have hheld := watching_not_held watching
    refine .of_not_held hheld (h.idle hheld).1 (h.idle hheld).2 fun hs => ?_
    rcases watching with hw | hw <;> simp [counted, hw] at hs
  | stabilised watching gap system enough span =>
    exact .of_not_held (by simp [stabilised]) rfl rfl (by simp [stabilised])
  | claimed state nonzero fresh age deadline system cool =>
    refine ⟨by simp [nonzero], fun _ => deadline, by simp, by simp, fun _ => ?_, fun _ => ?_⟩
    · rw [lastSuccess_concat, hlease, hanswer]; rfl
    · rw [lastSuccess_concat, hlease, hanswer]; rfl
  | marked state fresh live =>
    exact h.frame rfl rfl rfl rfl (by simp [state]) (hframe rfl)
  | prepared state =>
    exact h.frame rfl rfl rfl rfl h.settled (hframe rfl)
  | renewed state fresh live deadline =>
    refine ⟨h.held_iff, fun _ => deadline, fun hs => absurd state hs, by simp [state],
      fun _ => ?_, fun _ => ?_⟩
    · rw [lastSuccess_concat]
      exact h.claimant state
    · rw [lastSuccess_concat, hlease, hanswer]; rfl
  | took state proof => exact h.frame rfl rfl rfl rfl h.settled (hframe rfl)

/-- Every run from zeroed memory keeps the authority invariant. -/
theorem authority (ops : List LeaseOp) : Authority (zero.runs ops) ops := by
  induction ops using List.reverseRecOn with
  | nil => exact .nil
  | append_singleton ops op ih =>
    rw [runs_append]
    exact ih.step op

/-- A mark or a renewal that succeeds speaks for the holder before the deadline. -/
lemma request_inside {lease : ControlLease} {op : LeaseOp} (hop : op.isMark ∨ op.isRenew)
    (hsucceeds : lease.succeeds op = true) :
    lease.state = .held ∧ op.owner? = some lease.owner ∧ ∃ t, op.requestTime? = some t ∧
      lease.lastSampleNs.toNat ≤ t.toNat ∧ t.toNat < lease.expiresAtNs.toNat := by
  have heffect := effect lease op
  rw [hsucceeds] at heffect
  generalize lease.step op = after at heffect
  cases heffect with
  | claimed => simp [LeaseOp.isMark, LeaseOp.isRenew] at hop
  | marked state fresh live => exact ⟨state, rfl, _, rfl, fresh, live⟩
  | prepared => simp [LeaseOp.isMark, LeaseOp.isRenew] at hop
  | renewed state fresh live deadline => exact ⟨state, rfl, _, rfl, fresh, live⟩
  | took => simp [LeaseOp.isMark, LeaseOp.isRenew] at hop

/-- Another owner's claim, mark, renewal or loss leaves a held lease as it was. -/
lemma step_other_owner {lease : ControlLease} {op : LeaseOp} {owner : UInt64}
    (hop : op.owner? = some owner) (hheld : lease.state = .held) (hother : owner ≠ lease.owner) :
    lease.step op = lease := by
  cases op with
  | claim => simp [step, call, claim, hheld]
  | markWritePending =>
    cases hop
    simp [step, call, markWritePending, hother]
  | renew =>
    cases hop
    simp [step, call, renew, hother]
  | ownerLost =>
    cases hop
    simp [step, call, ownerLost, hother]
  | _ => simp [LeaseOp.owner?] at hop

/-- The holder's authority over every run: exactly a held lease has an owner and a deadline
15 seconds after its last claim or renewal, and only that owner may use it, before then. -/
theorem held_authority (ops : List LeaseOp) :
    ((zero.runs ops).state = .held ↔ (zero.runs ops).owner ≠ 0) ∧
    ((zero.runs ops).state = .held →
      (zero.runs ops).expiresAtNs.toNat = (zero.runs ops).lastSampleNs.toNat + 15000000000) ∧
    ((zero.runs ops).state ≠ .held →
      (zero.runs ops).owner = 0 ∧ (zero.runs ops).expiresAtNs = 0) ∧
    ((zero.runs ops).state = .stable → (zero.runs ops).writePending = false) ∧
    (∀ op : LeaseOp, op.isMark ∨ op.isRenew → (zero.runs ops).succeeds op →
      ∃ owner t claimed granted grantedAt,
        op.owner? = some owner ∧ op.requestTime? = some t ∧
        lastSuccess LeaseOp.isClaim zero ops = some claimed ∧ claimed.owner? = some owner ∧
        lastSuccess LeaseOp.setsDeadline zero ops = some granted ∧
        granted.requestTime? = some grantedAt ∧
        (zero.runs ops).lastSampleNs ≤ t ∧ t < (zero.runs ops).expiresAtNs ∧
        grantedAt.toNat ≤ t.toNat ∧ t.toNat < grantedAt.toNat + 15000000000) ∧
    (∀ (op : LeaseOp) (owner : UInt64), op.owner? = some owner → (zero.runs ops).state = .held →
      owner ≠ (zero.runs ops).owner → (zero.runs ops).step op = zero.runs ops) := by
  have h := authority ops
  refine ⟨h.held_iff, h.deadline, h.idle, h.settled, fun op hop hsucceeds => ?_,
    fun op owner hop hheld hother => step_other_owner hop hheld hother⟩
  obtain ⟨hheld, howner, t, ht, hfresh, hlive⟩ := request_inside hop hsucceeds
  obtain ⟨claimed, hclaimed, hclaimant⟩ := Option.bind_eq_some_iff.mp (h.claimant hheld)
  obtain ⟨granted, hgranted, hextended⟩ := Option.bind_eq_some_iff.mp (h.extended hheld)
  refine ⟨_, t, claimed, granted, _, howner, ht, hclaimed, hclaimant, hgranted, hextended,
    UInt64.le_iff_toNat_le.mpr hfresh, UInt64.lt_iff_toNat_lt.mpr hlive, hfresh, ?_⟩
  rw [← h.deadline hheld]
  exact hlive

end ControlLease
end Ventilator
