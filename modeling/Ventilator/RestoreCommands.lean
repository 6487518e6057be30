import Ventilator.SmcWriteTrial
import Ventilator.WriteAllowlist
import Ventilator.TrialRelease

/-! The SMC writes the whole process can send from its arguments: the recoveries of the two
restore commands and nothing else. -/
namespace Ventilator
open Double CallTree

/-- The writes of a recovery: a fan's mode 0 or target 0, or `Ftst = 0`. -/
inductive RecoveryWrite : SmcRequest → Prop
  | mode (fan : Fin 2) (first : Char) (hfirst : first = 'm' ∨ first = 'M') :
    RecoveryWrite (.write (fanKey fan first 'd') 1 [0])
  | target (fan : Fin 2) (size : UInt32) (hsize : size = 2 ∨ size = 4) :
    RecoveryWrite (.write (fanKey fan 'T' 'g') size (List.replicate size.toNat 0))
  | ftst : RecoveryWrite (.write keyFtst 1 [0])

/-- The programs whose SMC writes are those of a recovery. -/
abbrev SendsRecovery {α : Type} (m : ProcessM α) : Prop :=
  Only (fun c => ∀ request, c = .smcCall request → request.isWrite = true →
    RecoveryWrite request) m

lemma sendsRecovery {α : Type} {m : ProcessM α} (h : ReadOnly m) : SendsRecovery m :=
  h.mono fun c hc request heq hwrite => by
    rw [heq, ProcessCall.sendsWrite, hwrite] at hc
    cases hc

/-- The keys a snapshot was read by are the fans' own. -/
def KnownKeys (snapshot : LiveSnapshot) : Prop :=
  ∀ fan, (∃ first, (first = 'm' ∨ first = 'M') ∧
    (snapshot.fans fan).modeKey = fanKey fan first 'd') ∧
    (snapshot.fans fan).targetKey = fanKey fan 'T' 'g'

lemma readModeKey_known {index : Fin 2} {s s' : ProcessState} {trace : List ProcessEvent}
    {key : FourChars} {mode : SmcValue}
    (h : Gives (readModeKey index).run s trace (some (key, mode)) s') :
    ∃ first, (first = 'm' ∨ first = 'M') ∧ key = fanKey index first 'd' := by
  obtain ⟨xs, ys, lower, s₁, rfl, -, h₁⟩ := gives_bind.mp h
  cases lower with
  | some value =>
    obtain ⟨-, heq, -⟩ := gives_pure.mp h₁
    cases heq
    exact ⟨'m', .inl rfl, rfl⟩
  | none =>
    obtain ⟨zs, ws, upper, s₂, rfl, -, h₂⟩ := gives_bind.mp h₁
    cases upper with
    | none => exact absurd (gives_pure.mp h₂).2.1 nofun
    | some value =>
      obtain ⟨-, heq, -⟩ := gives_pure.mp h₂
      cases heq
      exact ⟨'M', .inr rfl, rfl⟩

lemma readFan_known {index : Fin 2} {includeMetrics : Bool} {s s' : ProcessState}
    {trace : List ProcessEvent} {fan : FanLive}
    (h : Gives (readFan index includeMetrics).run s trace (some fan) s') :
    (∃ first, (first = 'm' ∨ first = 'M') ∧ fan.modeKey = fanKey index first 'd') ∧
      fan.targetKey = fanKey index 'T' 'g' := by
  obtain ⟨_, _, ⟨key, mode⟩, s₁, rfl, hmode, h₁⟩ := gives_optionBind h
  obtain ⟨_, _, target, s₂, rfl, -, h₂⟩ := gives_optionBind h₁
  obtain ⟨_, _, metrics, s₃, rfl, -, h₃⟩ := gives_optionBind h₂
  obtain rfl := gives_optionPure h₃
  exact ⟨readModeKey_known hmode, rfl⟩

lemma readSnapshot_known {includeMetrics : Bool} {s s' : ProcessState}
    {trace : List ProcessEvent} {snapshot : LiveSnapshot}
    (h : Gives (readSnapshot includeMetrics).run s trace (some snapshot) s') :
    KnownKeys snapshot := by
  obtain ⟨_, _, count, s₁, rfl, -, h₁⟩ := gives_optionBind h
  obtain ⟨_, _, fanCount, s₂, rfl, -, h₂⟩ := gives_optionBind h₁
  split at h₂
  · exact absurd (gives_pure.mp h₂).2.1 nofun
  obtain ⟨_, _, ftst, s₃, rfl, -, h₃⟩ := gives_optionBind h₂
  obtain ⟨_, _, first, s₄, rfl, hfirst, h₄⟩ := gives_optionBind h₃
  obtain ⟨_, _, second, s₅, rfl, hsecond, h₅⟩ := gives_optionBind h₄
  obtain ⟨_, _, temperatures, s₆, rfl, -, h₆⟩ := gives_optionBind h₅
  obtain rfl := gives_optionPure h₆
  intro fan
  match fan with
  | 0 => exact readFan_known hfirst
  | 1 => exact readFan_known hsecond

/-- The encoding of a zero target is zeros, as many as its type has. -/
lemma trialEncodeRpm_zero {type : FourChars} {size : UInt32} {encoded : List UInt8}
    (h : trialEncodeRpm type size (finite 0) = some encoded) :
    encoded = List.replicate size.toNat 0 ∧ (size = 2 ∨ size = 4) := by
  unfold trialEncodeRpm at h
  split at h
  · cases h
  split at h
  · rename_i hflt
    obtain rfl := Option.some.inj h
    rw [hflt.2, Binary32.ofDouble_zero]
    exact ⟨by decide, .inr rfl⟩
  split at h
  · rename_i hfpe
    obtain rfl := Option.some.inj h
    rw [hfpe.2.1, value_finite, zero_mul, Nat.floor_zero]
    exact ⟨by decide, .inl rfl⟩
  · cases h

lemma sendsRecovery_writeKeyExact {name type : FourChars} {size : UInt32} {bytes : List UInt8}
    (h : RecoveryWrite (.write name size bytes)) :
    SendsRecovery (writeKeyExact name type size bytes) := by
  refine (sendsRecovery (readOnly_readKeyInfo name)).bind fun info => ?_
  cases info with
  | none => exact .pure _
  | some info =>
    refine .ite (fun _ => .pure _) fun hchecks => ?_
    have hsize : info.size = size := by
      by_contra hne
      exact hchecks (by simp [hne])
    have hsent : SendsRecovery (smcCall (.write name info.size bytes)).run := by
      refine (Only.ask ?_).bind fun _ => (Only.modify _).bind fun _ => .pure _
      rintro request heq -
      cases heq
      rwa [hsize]
    exact hsent.bind fun _ => .pure _

namespace LiveBackend

variable {backend : LiveBackend}

lemma sendsRecovery_writeBuffered {name type : FourChars} {size : UInt32} {bytes : List UInt8}
    {value : Double} (h : RecoveryWrite (.write name size bytes)) :
    SendsRecovery (backend.writeBuffered name type size bytes value) :=
  (sendsRecovery_writeKeyExact h).bind fun _ =>
    (sendsRecovery (readOnly_bufferWrite _ _ _ _)).bind fun _ => .pure _

lemma sendsRecovery_writeMode (hknown : KnownKeys backend.knownKeys) (fan : UInt32) :
    SendsRecovery (backend.backendWriteMode fan 0) := by
  unfold backendWriteMode
  split
  · rename_i hfan
    obtain ⟨⟨first, hfirst, hkey⟩, -⟩ := hknown ⟨fan.toNat, hfan⟩
    refine .ite (fun _ => .pure _) fun _ => sendsRecovery_writeBuffered ?_
    rw [hkey]
    exact .mode _ first hfirst
  · exact .pure _

lemma sendsRecovery_writeTarget (hknown : KnownKeys backend.knownKeys) (fan : UInt32) :
    SendsRecovery (backend.backendWriteTarget fan (finite 0)) := by
  refine .ite (fun _ => .pure _) fun _ => ?_
  split
  · rename_i hfan
    obtain ⟨-, hkey⟩ := hknown ⟨fan.toNat, hfan⟩
    dsimp only
    split
    · exact .pure _
    · rename_i encoded hencoded
      obtain ⟨rfl, hsize⟩ := trialEncodeRpm_zero hencoded
      apply sendsRecovery_writeBuffered
      rw [hkey]
      exact .target _ _ hsize
  · exact .pure _

lemma sendsRecovery_writeFtst : SendsRecovery (backend.backendWriteFtst 0) :=
  .ite (fun _ => .pure _) fun _ => .ite (fun _ => .pure _) fun _ =>
    sendsRecovery_writeBuffered .ftst

/-- The calls of a recovery are served by recovery writes. -/
lemma sendsRecovery_handler (hknown : KnownKeys backend.knownKeys) (c : TrialCall)
    (hc : c.recovers = true) : SendsRecovery (backend.handler c) := by
  cases c with
  | writeMode fan mode =>
    obtain rfl : mode = 0 := by simpa [TrialCall.recovers, TrialCall.restores] using hc
    exact sendsRecovery_writeMode hknown _
  | writeTarget fan rpm =>
    obtain rfl : rpm = finite 0 := by simpa [TrialCall.recovers, TrialCall.restores] using hc
    exact sendsRecovery_writeTarget hknown _
  | writeFtst value =>
    obtain rfl : value = 0 := by simpa [TrialCall.recovers, TrialCall.restores] using hc
    exact sendsRecovery_writeFtst
  | readObservation includeTemperatures =>
    exact sendsRecovery (readOnly_backendReadObservation _)
  | recordObservation second observation => exact sendsRecovery (readOnly_backendRecord _ _)
  | waitMilliseconds milliseconds => exact .ask (by simp)
  | monotonicSeconds => exact .ask (by simp)
  | shouldStop => exact .ask (by simp)

lemma sendsRecovery_runAction {α : Type} (hknown : KnownKeys backend.knownKeys)
    {action : TrialM α} (h : Recovers action) : SendsRecovery (backend.runAction action) := by
  have hcalls : (action.run' false).Calls fun c => c.recovers = true :=
    (h false).bind fun _ => trivial
  exact (Only.modify _).bind fun _ => .handle_calls (sendsRecovery_handler hknown) hcalls

end LiveBackend

/-! Everything a command does besides a recovery only reads. -/
namespace SmcWriteTrial
open LiveBackend TrialBackend

lemma readOnly_exactEnvironment : ReadOnly exactEnvironment.run := by
  refine (Only.ask (by rfl)).bind fun model => ?_
  cases model with
  | none => exact .pure _
  | some model =>
    refine (Only.ask (by rfl)).bind fun osVersion => ?_
    cases osVersion with
    | none => exact .pure _
    | some osVersion => exact .ite (fun _ => .pure _) fun _ => .pure _

lemma readOnly_sleepBefore (remaining : ℕ) : ReadOnly (sleepBefore remaining) :=
  .ite (fun _ => .pure _) fun _ => .ask (by rfl)

lemma readOnly_collectSamples (remaining : ℕ) : ReadOnly (collectSamples remaining).run := by
  induction remaining with
  | zero => exact .optionPure _
  | succ remaining ih =>
    refine .optionBind (readOnly_readSnapshot true) fun current => ?_
    split
    · exact .optionFail
    refine .optionBind ((readOnly_sleepBefore remaining).bind fun _ => .pure _) fun slept => ?_
    split
    · exact .optionFail
    · exact .optionBind ih fun _ => .optionPure _

lemma readOnly_collectPreflight (round : ℚ → Double) (model osVersion : String) :
    ReadOnly (collectPreflight round model osVersion).run :=
  .optionBind (readOnly_collectSamples 5) fun _ => .getM _

lemma readOnly_baselineObserverRead : ReadOnly BaselineObserver.baselineObserverRead.run :=
  .optionBind (readOnly_readSnapshot true) fun _ => .optionBind (.getM _) fun _ =>
    .optionBind (.getM _) fun _ => .optionBind (.getM _) fun _ =>
      .optionBind ((Only.discard (.ask (by rfl))).bind fun _ => .pure _) fun _ => .optionPure _

lemma readOnly_observer (c : ObserverCall) : ReadOnly (BaselineObserver.handler c) := by
  cases c with
  | readObservation => exact readOnly_baselineObserverRead
  | recordObservation second observation => exact .pure _
  | shouldStop => exact .ask (by rfl)
  | monotonicSeconds => exact .ask (by rfl)
  | waitMilliseconds milliseconds => exact .ask (by rfl)

lemma readOnly_runObserveBaseline (round : ℚ → Double) : ReadOnly (runObserveBaseline round) := by
  refine readOnly_exactEnvironment.bind fun environment => ?_
  cases environment with
  | none => exact .pure _
  | some environment =>
    exact (Only.ask (by rfl)).bind fun _ => .ite (fun _ => .pure _) fun _ =>
      (Only.handle readOnly_observer _).bind fun _ => .pure _

/-- A trial that is not applied ends after its preflight. -/
lemma readOnly_admitted {round : ℚ → Double} {refused : ℕ} {model osVersion : String}
    {zeroTargets : Bool} {consent : ProcessM Bool} {run : Preflight → ExitM} :
    ReadOnly (admitted round refused model osVersion zeroTargets false consent run) := by
  refine (readOnly_collectPreflight _ _ _).bind fun preflight => ?_
  cases preflight with
  | none => exact .pure _
  | some preflight => exact .ite (fun _ => .pure _) fun _ => .pure _

lemma readOnly_runTrial (round : ℚ → Double) : ReadOnly (runTrial round false) := by
  refine readOnly_exactEnvironment.bind fun environment => ?_
  cases environment with
  | none => exact .pure _
  | some environment => exact readOnly_admitted

lemma readOnly_runFtstCheck (round : ℚ → Double) : ReadOnly (runFtstCheck round false) := by
  refine readOnly_exactEnvironment.bind fun environment => ?_
  cases environment with
  | none => exact .pure _
  | some environment => exact readOnly_admitted

lemma readOnly_runFtstMinimum (round : ℚ → Double) : ReadOnly (runFtstMinimum round false) := by
  refine readOnly_exactEnvironment.bind fun environment => ?_
  cases environment with
  | none => exact .pure _
  | some environment => exact readOnly_admitted

lemma readOnly_printFtstReadback (live : LiveBackend) : ReadOnly (printFtstReadback live) :=
  (Only.discard (readOnly_backendReadObservation false)).bind fun _ => .discard (.ask (by rfl))

lemma readOnly_runRestore (round : ℚ → Double) : ReadOnly (runRestore round false) := by
  refine readOnly_exactEnvironment.bind fun environment => ?_
  cases environment with
  | none => exact .pure _
  | some environment =>
    refine (readOnly_readSnapshot false).bind fun read => ?_
    cases read with
    | none => exact .pure _
    | some current =>
      exact .ite (fun _ => .pure _) fun _ => .ite (fun _ => .pure _) fun _ => .pure _

lemma readOnly_runRestoreUnlock (round : ℚ → Double) :
    ReadOnly (runRestoreUnlock round false) := by
  refine readOnly_exactEnvironment.bind fun environment => ?_
  cases environment with
  | none => exact .pure _
  | some environment =>
    refine (readOnly_readSnapshot false).bind fun read => ?_
    cases read with
    | none => exact .pure _
    | some current =>
      exact .ite (fun _ => .pure _) fun _ => .ite (fun _ => .pure _) fun _ => .pure _

lemma sendsRecovery_runRestore (round : ℚ → Double) (apply : Bool) :
    SendsRecovery (runRestore round apply) := by
  refine (sendsRecovery readOnly_exactEnvironment).bind fun environment => ?_
  cases environment with
  | none => exact .pure _
  | some environment =>
    refine (sendsRecovery (readOnly_readSnapshot false)).bind_gives fun read hread => ?_
    cases read with
    | none => exact .pure _
    | some current =>
      obtain ⟨s, trace, s', hread⟩ := hread
      have hknown := readSnapshot_known hread
      refine .ite (fun _ => .pure _) fun _ => .ite (fun _ => .pure _) fun _ =>
        .ite (fun _ => .pure _) fun _ => (Only.ask (by simp)).bind fun _ =>
          .ite (fun _ => .pure _) fun _ => ?_
      exact (sendsRecovery_runAction hknown restores_restoreSystem.recovers).bind fun _ =>
        .ite (fun _ => .pure _) fun _ =>
          (sendsRecovery (readOnly_runObserveBaseline round)).bind fun _ =>
            .ite (fun _ => .pure _) fun _ => .pure _

lemma sendsRecovery_runRestoreUnlock (round : ℚ → Double) (apply : Bool) :
    SendsRecovery (runRestoreUnlock round apply) := by
  refine (sendsRecovery readOnly_exactEnvironment).bind fun environment => ?_
  cases environment with
  | none => exact .pure _
  | some environment =>
    refine (sendsRecovery (readOnly_readSnapshot false)).bind_gives fun read hread => ?_
    cases read with
    | none => exact .pure _
    | some current =>
      obtain ⟨s, trace, s', hread⟩ := hread
      have hknown := readSnapshot_known hread
      refine .ite (fun _ => .pure _) fun _ => .ite (fun _ => .pure _) fun _ =>
        .ite (fun _ => .pure _) fun _ => (Only.ask (by simp)).bind fun _ =>
          .ite (fun _ => .pure _) fun _ => ?_
      exact (sendsRecovery_runAction hknown recovers_restoreUnlock).bind fun _ =>
        (sendsRecovery (readOnly_printFtstReadback _)).bind fun _ => .pure _

/-- The two forms of the arguments that let a command write. -/
inductive RecoveryArguments : List String → Prop
  | restore (program : String) :
    RecoveryArguments [program, "restore", "--apply", "--confirm", "RESTORE-Mac15,7-27.0"]
  | restoreUnlock (program : String) :
    RecoveryArguments
      [program, "restore-unlock", "--apply", "--confirm", "RESTORE-UNLOCK-Mac15,7-27.0"]

lemma confirms_eq {argv : List String} {command option confirmation : String}
    (hcommand : argumentIs argv 1 command = true)
    (h : confirms argv option confirmation = true) :
    ∃ program, argv = [program, command, option, "--confirm", confirmation] := by
  simp only [confirms, argumentIs, Bool.and_eq_true, beq_iff_eq] at h hcommand
  obtain ⟨⟨⟨hlength, hoption⟩, hconfirm⟩, hconfirmation⟩ := h
  match argv with
  | [program, a, b, c, d] =>
    simp only [List.getElem?_cons_succ, List.getElem?_cons_zero, Option.some.injEq] at *
    exact ⟨program, by rw [hcommand, hoption, hconfirm, hconfirmation]⟩
  | [] | [_] | [_, _] | [_, _, _] | [_, _, _, _] => simp at hlength
  | _ :: _ :: _ :: _ :: _ :: _ :: _ => simp at hlength

/-- One command cannot be two. -/
lemma argumentIs_unique {argv : List String} {index : ℕ} {a b : String}
    (ha : argumentIs argv index a = true) (hb : argumentIs argv index b = true) : a = b := by
  simp only [argumentIs, beq_iff_eq] at ha hb
  exact Option.some.inj (ha.symm.trans hb)

lemma apply_restore {argv : List String} (hrestore : (flags argv).restore = true)
    (happly : (flags argv).apply = true) : RecoveryArguments argv := by
  simp only [flags, Bool.or_eq_true, Bool.and_eq_true] at happly hrestore
  rcases happly with ((⟨hother, -⟩ | ⟨-, h⟩) | ⟨hother, -⟩) | ⟨hother, -⟩
  · exact absurd (argumentIs_unique hrestore hother) (by decide)
  · obtain ⟨program, rfl⟩ := confirms_eq hrestore h
    exact .restore program
  · exact absurd (argumentIs_unique hrestore hother) (by decide)
  · exact absurd (argumentIs_unique hrestore hother) (by decide)

lemma apply_restoreUnlock {argv : List String} (hunlock : (flags argv).restoreUnlock = true)
    (happly : (flags argv).apply = true) : RecoveryArguments argv := by
  simp only [flags, Bool.or_eq_true, Bool.and_eq_true] at happly hunlock
  rcases happly with ((⟨hother, -⟩ | ⟨hother, -⟩) | ⟨hother, -⟩) | ⟨-, h⟩
  · exact absurd (argumentIs_unique hunlock hother) (by decide)
  · exact absurd (argumentIs_unique hunlock hother) (by decide)
  · exact absurd (argumentIs_unique hunlock hother) (by decide)
  · obtain ⟨program, rfl⟩ := confirms_eq hunlock h
    exact .restoreUnlock program

/-- Known arguments that name no other command name the last one. -/
lemma known_restoreUnlock {f : Flags} (hknown : f.known = true)
    (hobserve : ¬ f.observeBaseline = true) (htrial : ¬ f.trial = true)
    (hrestore : ¬ f.restore = true) (hcheck : ¬ f.ftstCheck = true)
    (hminimum : ¬ f.ftstMinimum = true) : f.restoreUnlock = true := by
  by_contra hunlock
  simp [Flags.known, *] at hknown

/-- The writes allowed under these arguments. -/
abbrev SendsAllowed (argv : List String) {α : Type} (m : ProcessM α) : Prop :=
  Only (fun c => ∀ request, c = .smcCall request → request.isWrite = true →
    RecoveryWrite request ∧ RecoveryArguments argv) m

lemma sendsAllowed_readOnly {argv : List String} {α : Type} {m : ProcessM α} (h : ReadOnly m) :
    SendsAllowed argv m :=
  h.mono fun c hc request heq hwrite => by
    rw [heq, ProcessCall.sendsWrite, hwrite] at hc
    cases hc

/-- A command that may recover, under the arguments that apply it. -/
lemma sendsAllowed_apply {argv : List String} {apply : Bool} {run : Bool → ExitM}
    (hread : ReadOnly (run false)) (hrecover : SendsRecovery (run true))
    (harguments : apply = true → RecoveryArguments argv) : SendsAllowed argv (run apply) := by
  cases apply with
  | false => exact sendsAllowed_readOnly hread
  | true =>
    exact hrecover.mono fun c hc request heq hwrite => ⟨hc request heq hwrite, harguments rfl⟩

/-- A command that is never applied only reads. -/
lemma sendsAllowed_refused {argv : List String} {apply : Bool} {run : Bool → ExitM}
    (hread : ReadOnly (run false)) (hrefused : ¬ apply = true) : SendsAllowed argv (run apply) := by
  rw [Bool.not_eq_true] at hrefused
  rw [hrefused]
  exact sendsAllowed_readOnly hread

/-- Whatever the arguments and whatever the SMC answers, the process sends no other write than
mode 0, target 0 or `Ftst = 0`, and those under one of two exact argument lists only. -/
theorem main_sends_recovery_only (round : ℚ → Double) (argv : List String) :
    Only (fun c => ∀ request, c = .smcCall request → request.isWrite = true →
      RecoveryWrite request ∧ RecoveryArguments argv) (main round argv) := by
  refine .ite (fun _ => .pure _) fun hknown => .ite (fun _ => .pure _) fun happly =>
    .ite (fun _ => .pure _) fun hreviewed => .ite (fun _ => .pure _) fun hminimum => ?_
  refine (Only.ask (by simp)).bind fun _ => .ite (fun _ => .pure _) fun _ => ?_
  have hcommand : SendsAllowed argv (command round (flags argv)) := by
    refine .ite (fun _ => sendsAllowed_readOnly (readOnly_runObserveBaseline round))
      fun hobserve => .ite (fun htrial => ?_) fun htrial => .ite (fun hrestore => ?_)
        fun hrestore => .ite (fun hcheck => ?_) fun hcheck => .ite (fun hminimum' => ?_)
          fun hminimum' => ?_
    · exact sendsAllowed_refused (readOnly_runTrial round) (by simpa [htrial] using happly)
    · exact sendsAllowed_apply (readOnly_runRestore round) (sendsRecovery_runRestore round true)
        (apply_restore hrestore)
    · exact sendsAllowed_refused (readOnly_runFtstCheck round) hreviewed
    · exact sendsAllowed_refused (readOnly_runFtstMinimum round) hminimum
    · rw [Bool.not_eq_true, Bool.not_eq_false'] at hknown
      have hunlock := known_restoreUnlock hknown hobserve htrial hrestore hcheck hminimum'
      exact sendsAllowed_apply (readOnly_runRestoreUnlock round)
        (sendsRecovery_runRestoreUnlock round true) (apply_restoreUnlock hunlock)
  exact hcommand.bind fun _ => (Only.discard (.ask (by simp))).bind fun _ => .pure _

end SmcWriteTrial
end Ventilator
