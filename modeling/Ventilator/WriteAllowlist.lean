import Ventilator.LiveBackend

/-! The SMC writes a backend can send, whatever its callbacks are given and whatever the SMC
answers: each is on a fixed list and directly follows the key info it agrees with. -/
namespace Ventilator
open Double CallTree

namespace ProcessCall

def sendsWrite : ProcessCall → Bool
  | smcCall request => request.isWrite
  | _ => false

end ProcessCall

/-- The programs that send no SMC write. -/
abbrev ReadOnly {α : Type} (m : ProcessM α) : Prop := Only (fun c => c.sendsWrite = false) m

lemma readOnly_smcCall {request : SmcRequest} (h : request.isWrite = false) :
    ReadOnly (smcCall request).run :=
  (Only.ask (by exact h)).bind fun _ => (Only.modify _).bind fun _ => .pure _

lemma readOnly_readKeyInfo (name : FourChars) : ReadOnly (readKeyInfo name).run :=
  .optionBind (readOnly_smcCall (by rfl)) fun _ => .getM _

lemma readOnly_readKey (name : FourChars) : ReadOnly (readKey name).run :=
  .optionBind (readOnly_readKeyInfo name) fun _ =>
    .optionBind (readOnly_smcCall (by rfl)) fun _ => .optionPure _

lemma readOnly_readModeKey (index : Fin 2) : ReadOnly (readModeKey index).run := by
  refine (readOnly_readKey _).bind fun lower => ?_
  cases lower with
  | some mode => exact .pure _
  | none =>
    refine (readOnly_readKey _).bind fun upper => ?_
    cases upper <;> exact .pure _

lemma readOnly_readMetrics (index : Fin 2) (includeMetrics : Bool) :
    ReadOnly (readMetrics index includeMetrics).run := by
  unfold readMetrics
  split
  · exact .optionPure _
  · exact .optionBind (readOnly_readKey _) fun _ => .optionBind (readOnly_readKey _) fun _ =>
      .optionBind (readOnly_readKey _) fun _ => .optionPure _

lemma readOnly_readFan (index : Fin 2) (includeMetrics : Bool) :
    ReadOnly (readFan index includeMetrics).run :=
  .optionBind (readOnly_readModeKey index) fun _ => .optionBind (readOnly_readKey _) fun _ =>
    .optionBind (readOnly_readMetrics index includeMetrics) fun _ => .optionPure _

lemma readOnly_readTemperatures (includeMetrics : Bool) :
    ReadOnly (readTemperatures includeMetrics).run := by
  have hread : ∀ sensor, ReadOnly (readTemperature sensor).run := fun sensor =>
    .optionBind (readOnly_readKey _) fun _ => .getM _
  unfold readTemperatures
  split
  · exact .optionPure _
  · exact .optionBind (hread 0) fun _ => .optionBind (hread 1) fun _ =>
      .optionBind (hread 2) fun _ => .optionPure _

lemma readOnly_readSnapshot (includeMetrics : Bool) : ReadOnly (readSnapshot includeMetrics).run := by
  refine .optionBind (readOnly_readKey _) fun _ => .optionBind (.getM _) fun fanCount => ?_
  split
  · exact .optionFail
  · exact .optionBind (readOnly_readKey _) fun _ => .optionBind (readOnly_readFan _ _) fun _ =>
      .optionBind (readOnly_readFan _ _) fun _ =>
        .optionBind (readOnly_readTemperatures _) fun _ => .optionPure _

/-- The key info of an accepted response, and the write of the same key with the same size. -/
inductive AllowedWrite (backend : LiveBackend) : SmcKeyInfo → SmcRequest → Prop
  | mode (fan : Fin 2) (mode : UInt8) (hmode : mode = 0 ∨ mode = 1) :
    AllowedWrite backend ⟨1, typeUi8⟩ (.write (backend.knownKeys.fans fan).modeKey 1 [mode])
  | ftst (value : UInt8) (hvalue : value = 0 ∨ value = 1) :
    AllowedWrite backend ⟨1, typeUi8⟩ (.write keyFtst 1 [value])
  | target (fan : Fin 2) (rpm : Double) (encoded : List UInt8)
    (hrpm : rpm.value? = some 0 ∨ ∃ plan, backend.allowedPlan = some plan ∧
      le (fabs (sub backend.round rpm (plan.targetRpm fan))) planTolerance = true)
    (hencoded : trialEncodeRpm (backend.knownKeys.fans fan).target.type
      (backend.knownKeys.fans fan).target.size rpm = some encoded) :
    AllowedWrite backend
      ⟨(backend.knownKeys.fans fan).target.size, (backend.knownKeys.fans fan).target.type⟩
      (.write (backend.knownKeys.fans fan).targetKey (backend.knownKeys.fans fan).target.size
        encoded)

/-- The event before a write: an accepted answer to the key info request for its key, whose
type and size allow it. -/
def Precedes (backend : LiveBackend) (previous : ProcessEvent) (request : SmcRequest) : Prop :=
  ∃ name response info, previous = ⟨.smcCall (.keyInfo name), response⟩ ∧
    request.key = fourcc name ∧ response.accepted = true ∧ response.keyInfo? = some info ∧
    AllowedWrite backend info request

/-- Every write of the trace is allowed by the event right before it. -/
def WritesGuarded (backend : LiveBackend) (trace : List ProcessEvent) : Prop :=
  ∀ before request answer after, trace = before ++ ⟨.smcCall request, answer⟩ :: after →
    request.isWrite = true →
    ∃ earlier previous, before = earlier ++ [previous] ∧ Precedes backend previous request

namespace WritesGuarded

variable {backend : LiveBackend}

lemma of_readOnly {trace : List ProcessEvent} (h : ∀ e ∈ trace, e.1.sendsWrite = false) :
    WritesGuarded backend trace := by
  intro before request answer after heq hwrite
  have hread := h ⟨.smcCall request, answer⟩ (by rw [heq]; simp)
  rw [ProcessCall.sendsWrite, hwrite] at hread
  cases hread

lemma append {xs ys : List ProcessEvent} (hx : WritesGuarded backend xs)
    (hy : WritesGuarded backend ys) : WritesGuarded backend (xs ++ ys) := by
  intro before request answer after heq hwrite
  rcases List.append_eq_append_iff.mp heq with ⟨gap, rfl, hgap⟩ | ⟨gap, rfl, hgap⟩
  · obtain ⟨earlier, previous, rfl, hprevious⟩ := hy gap request answer after hgap hwrite
    exact ⟨xs ++ earlier, previous, by simp, hprevious⟩
  · cases gap with
    | nil =>
      have hnone := hy [] request answer after (by simpa using hgap.symm) hwrite
      obtain ⟨earlier, previous, hempty, -⟩ := hnone
      exact absurd hempty (by simp)
    | cons x gap =>
      rw [List.cons_append, List.cons.injEq] at hgap
      exact hx before request answer gap (by rw [hgap.1]) hwrite

/-- The one write of a trace of two events. -/
lemma pair {previous : ProcessEvent} {request : SmcRequest} {answer : SmcResponse}
    (hread : previous.1.sendsWrite = false) (h : Precedes backend previous request) :
    WritesGuarded backend [previous, ⟨.smcCall request, answer⟩] := by
  intro before request' answer' after heq hwrite
  match before with
  | [] =>
    obtain ⟨rfl, -⟩ := List.cons.inj heq
    rw [ProcessCall.sendsWrite, hwrite] at hread
    cases hread
  | [x] =>
    obtain ⟨rfl, heq'⟩ := List.cons.inj heq
    obtain ⟨hevent, -⟩ := List.cons.inj heq'
    cases hevent
    exact ⟨[], previous, rfl, h⟩
  | x :: y :: before => simp at heq

end WritesGuarded

/-- Each of the types a write expects is a text without a zero. -/
lemma writeType_nonzero {type : FourChars} (h : type = typeUi8 ∨ type = typeFlt ∨ type = typeFpe2) :
    ∀ b ∈ type.toList, b ≠ 0 := by
  rcases h with rfl | rfl | rfl <;> decide +kernel

/-- An encoding fits its key's type. -/
lemma trialEncodeRpm_some {type : FourChars} {size : UInt32} {rpm : Double}
    {encoded : List UInt8} (h : trialEncodeRpm type size rpm = some encoded) :
    (type = typeFlt ∧ size = 4 ∧ encoded.length = 4) ∨
      type = typeFpe2 ∧ size = 2 ∧ encoded.length = 2 := by
  unfold trialEncodeRpm at h
  split at h
  · cases h
  split at h
  · rename_i hflt
    obtain rfl := Option.some.inj h
    exact .inl ⟨exactType_eq (writeType_nonzero (by simp)) hflt.1, hflt.2, rfl⟩
  split at h
  · rename_i hfpe
    obtain rfl := Option.some.inj h
    exact .inr ⟨exactType_eq (writeType_nonzero (by simp)) hfpe.1, hfpe.2.1, rfl⟩
  · cases h

lemma gives_smcCall {request : SmcRequest} {s s' : ProcessState} {trace : List ProcessEvent}
    {result : Option SmcResponse} (h : Gives (smcCall request).run s trace result s') :
    ∃ response, trace = [⟨.smcCall request, response⟩] ∧
      result = if response.accepted then some response else none := by
  obtain ⟨response, rest, rfl, h₁⟩ := gives_ask_bind.mp h
  obtain ⟨xs, ys, _, s₁, rfl, hmodify, h₂⟩ := gives_bind.mp h₁
  obtain ⟨rfl, -⟩ := gives_modify.mp hmodify
  obtain ⟨rfl, rfl, -⟩ := gives_pure.mp h₂
  exact ⟨response, rfl, rfl⟩

lemma gives_readKeyInfo {name : FourChars} {s s' : ProcessState} {trace : List ProcessEvent}
    {result : Option SmcKeyInfo} (h : Gives (readKeyInfo name).run s trace result s') :
    ∃ response, trace = [⟨.smcCall (.keyInfo name), response⟩] ∧
      ∀ info, result = some info → response.accepted = true ∧ response.keyInfo? = some info := by
  unfold readKeyInfo at h
  rw [optionT_run_bind] at h
  obtain ⟨xs, ys, answer, s₁, rfl, hcall, h₁⟩ := gives_bind.mp h
  obtain ⟨response, rfl, rfl⟩ := gives_smcCall hcall
  by_cases haccepted : response.accepted = true
  · rw [if_pos haccepted] at h₁
    dsimp only at h₁
    cases hinfo : response.keyInfo? with
    | none =>
      rw [hinfo] at h₁
      obtain ⟨rfl, rfl, -⟩ := gives_pure.mp h₁
      exact ⟨response, rfl, nofun⟩
    | some info =>
      rw [hinfo] at h₁
      obtain ⟨rfl, rfl, -⟩ := gives_pure.mp h₁
      exact ⟨response, rfl, fun _ h => ⟨haccepted, by rw [hinfo]; exact h⟩⟩
  · rw [if_neg haccepted] at h₁
    obtain ⟨rfl, rfl, -⟩ := gives_pure.mp h₁
    exact ⟨response, rfl, nofun⟩

/-- An exact write only reads the key info, or sends the write right after it. -/
lemma writeKeyExact_trace {name type : FourChars} {size : UInt32} {bytes : List UInt8}
    {s s' : ProcessState} {trace : List ProcessEvent} {result : Bool × Bool}
    (htype : type = typeUi8 ∨ type = typeFlt ∨ type = typeFpe2)
    (h : Gives (writeKeyExact name type size bytes) s trace result s') :
    ∃ response, trace = [⟨.smcCall (.keyInfo name), response⟩] ∨
      ∃ answer, trace = [⟨.smcCall (.keyInfo name), response⟩,
          ⟨.smcCall (.write name size bytes), answer⟩] ∧
        response.accepted = true ∧ response.keyInfo? = some ⟨size, type⟩ := by
  obtain ⟨xs, ys, read, s₁, rfl, hread, h₁⟩ := gives_bind.mp h
  obtain ⟨response, rfl, hinfo⟩ := gives_readKeyInfo hread
  refine ⟨response, ?_⟩
  cases read with
  | none =>
    obtain ⟨rfl, -⟩ := gives_pure.mp h₁
    exact .inl rfl
  | some info =>
    obtain ⟨haccepted, hkey⟩ := hinfo info rfl
    dsimp only at h₁
    split at h₁
    · obtain ⟨rfl, -⟩ := gives_pure.mp h₁
      exact .inl rfl
    · rename_i hchecks
      simp only [Bool.or_eq_true, not_or, Bool.not_eq_true', Bool.not_eq_false, bne_iff_ne,
        decide_eq_true_eq, not_not] at hchecks
      obtain ⟨⟨⟨hexact, hsize⟩, -⟩, -⟩ := hchecks
      obtain ⟨xs, ys, sent, s₂, rfl, hsend, h₂⟩ := gives_bind.mp h₁
      obtain ⟨answer, rfl, -⟩ := gives_smcCall hsend
      obtain ⟨rfl, -⟩ := gives_pure.mp h₂
      obtain rfl := exactType_eq (writeType_nonzero htype) hexact
      obtain rfl := hsize
      exact .inr ⟨answer, rfl, haccepted, hkey⟩

namespace LiveBackend

variable {backend : LiveBackend}

lemma readOnly_bufferWrite (key : FourChars) (value : Double) (ok attempted : Bool) :
    ReadOnly (backend.bufferWrite key value ok attempted) :=
  Only.get.bind fun _ => .ite (fun _ => .pure _) fun _ =>
    (Only.ask (by rfl)).bind fun _ => .modify _

/-- An exact write that its key info allows is guarded by it. -/
lemma writeBuffered_guarded {name type : FourChars} {size : UInt32} {bytes : List UInt8}
    {value : Double} {s s' : ProcessState} {trace : List ProcessEvent} {a : Bool}
    (htype : type = typeUi8 ∨ type = typeFlt ∨ type = typeFpe2)
    (hallowed : AllowedWrite backend ⟨size, type⟩ (.write name size bytes))
    (h : Gives (backend.writeBuffered name type size bytes value) s trace a s') :
    WritesGuarded backend trace := by
  obtain ⟨xs, ys, ⟨ok, attempted⟩, s₁, rfl, hwrite, h₁⟩ := gives_bind.mp h
  obtain ⟨zs, ws, _, s₂, rfl, hbuffer, h₂⟩ := gives_bind.mp h₁
  obtain ⟨rfl, -⟩ := gives_pure.mp h₂
  have hrest : WritesGuarded backend (zs ++ []) := by
    rw [List.append_nil]
    exact .of_readOnly ((readOnly_bufferWrite _ _ _ _).gives hbuffer)
  refine .append ?_ hrest
  obtain ⟨response, rfl | ⟨answer, rfl, haccepted, hinfo⟩⟩ := writeKeyExact_trace htype hwrite
  · exact .of_readOnly (by simp [ProcessCall.sendsWrite, SmcRequest.isWrite, SmcRequest.keyInfo,
      SmcRequest.smcReadKeyInfo, SmcRequest.smcWriteBytes])
  · exact .pair (by rfl) ⟨name, response, ⟨size, type⟩, rfl, rfl, haccepted, hinfo, hallowed⟩

lemma backendWriteMode_guarded {fan : UInt32} {mode : UInt8} {s s' : ProcessState}
    {trace : List ProcessEvent} {a : Bool}
    (h : Gives (backend.backendWriteMode fan mode) s trace a s') : WritesGuarded backend trace := by
  unfold backendWriteMode at h
  split at h
  · rename_i hfan
    split at h
    · obtain ⟨rfl, -⟩ := gives_pure.mp h
      exact .of_readOnly (by simp)
    · rename_i hmode
      exact writeBuffered_guarded (.inl rfl) (.mode ⟨fan.toNat, hfan⟩ mode (by tauto)) h
  · obtain ⟨rfl, -⟩ := gives_pure.mp h
    exact .of_readOnly (by simp)

lemma backendWriteFtst_guarded {value : UInt8} {s s' : ProcessState}
    {trace : List ProcessEvent} {a : Bool}
    (h : Gives (backend.backendWriteFtst value) s trace a s') : WritesGuarded backend trace := by
  unfold backendWriteFtst at h
  split at h
  · obtain ⟨rfl, -⟩ := gives_pure.mp h
    exact .of_readOnly (by simp)
  rename_i hvalue
  split at h
  · obtain ⟨rfl, -⟩ := gives_pure.mp h
    exact .of_readOnly (by simp)
  · exact writeBuffered_guarded (.inl rfl) (.ftst value (by tauto)) h

/-- A target that may be written is zero or close to the plan. -/
lemma trialTargetWriteAllowed_rpm {round : ℚ → Double} {plan : Option TrialPlan} {fan : UInt32}
    {rpm : Double} (hfan : fan.toNat < 2)
    (h : trialTargetWriteAllowed round plan fan rpm = true) :
    rpm.value? = some 0 ∨ ∃ p, plan = some p ∧
      le (fabs (sub round rpm (p.targetRpm ⟨fan.toNat, hfan⟩))) planTolerance = true := by
  unfold trialTargetWriteAllowed at h
  split at h
  · cases h
  rw [plannedRpm, Bool.or_eq_true, beq_iff_eq] at h
  rcases h with h | h
  · exact .inl h
  · cases plan with
    | none => cases h
    | some p =>
      rw [Option.any_some, Bool.and_eq_true] at h
      exact .inr ⟨p, rfl, h.2⟩

lemma backendWriteTarget_guarded {fan : UInt32} {rpm : Double} {s s' : ProcessState}
    {trace : List ProcessEvent} {a : Bool}
    (h : Gives (backend.backendWriteTarget fan rpm) s trace a s') :
    WritesGuarded backend trace := by
  unfold backendWriteTarget at h
  split at h
  · obtain ⟨rfl, -⟩ := gives_pure.mp h
    exact .of_readOnly (by simp)
  rename_i hallowed
  rw [Bool.not_eq_true, Bool.not_eq_false'] at hallowed
  split at h
  · rename_i hfan
    dsimp only at h
    split at h
    · obtain ⟨rfl, -⟩ := gives_pure.mp h
      exact .of_readOnly (by simp)
    · rename_i encoded hencoded
      refine writeBuffered_guarded ?_ (.target ⟨fan.toNat, hfan⟩ rpm encoded
        (trialTargetWriteAllowed_rpm hfan hallowed) hencoded) h
      rcases trialEncodeRpm_some hencoded with ⟨htype, -⟩ | ⟨htype, -⟩ <;> simp [htype]
  · obtain ⟨rfl, -⟩ := gives_pure.mp h
    exact .of_readOnly (by simp)

lemma readOnly_backendReadObservation (includeTemperatures : Bool) :
    ReadOnly (backend.backendReadObservation includeTemperatures).run :=
  .optionBind (readOnly_readSnapshot _) fun _ => .optionBind (.getM _) fun _ =>
    .optionBind (.getM _) fun _ => .optionBind (.getM _) fun _ => .optionPure _

lemma readOnly_backendRecord (second : ℕ) (o : TrialObservation) :
    ReadOnly (backend.backendRecord second o) :=
  (Only.ask (by rfl)).bind fun _ => .ite (fun _ => .modify _) fun _ => .pure _

/-- One callback, whatever it is given, sends guarded writes only. -/
lemma invoke_guarded {callback : Callback} {s s' : ProcessState} {trace : List ProcessEvent}
    {a : Unit} (h : Gives (backend.invoke callback) s trace a s') :
    WritesGuarded backend trace := by
  cases callback with
  | writeMode fan mode =>
    obtain ⟨ok, hwrite⟩ := gives_discard.mp h
    exact backendWriteMode_guarded hwrite
  | writeTarget fan rpm =>
    obtain ⟨ok, hwrite⟩ := gives_discard.mp h
    exact backendWriteTarget_guarded hwrite
  | writeFtst value =>
    obtain ⟨ok, hwrite⟩ := gives_discard.mp h
    exact backendWriteFtst_guarded hwrite
  | readObservation includeTemperatures =>
    exact .of_readOnly ((readOnly_backendReadObservation _).discard.gives h)
  | recordObservation second observation =>
    exact .of_readOnly ((readOnly_backendRecord _ _).gives h)
  | waitMilliseconds milliseconds =>
    have hread : ReadOnly (backend.invoke (.waitMilliseconds milliseconds)) :=
      .discard (.ask (by rfl))
    exact .of_readOnly (hread.gives h)
  | monotonicSeconds =>
    have hread : ReadOnly (backend.invoke .monotonicSeconds) := .discard (.ask (by rfl))
    exact .of_readOnly (hread.gives h)
  | shouldStop =>
    have hread : ReadOnly (backend.invoke .shouldStop) := .discard (.ask (by rfl))
    exact .of_readOnly (hread.gives h)

/-- Whatever callbacks are made in whatever order, every write sent is a mode or Ftst byte 0 or 1
or an encoded target that is zero or close to the plan; it follows directly the key info of the
same key with the type and the size it is sent with. -/
theorem callbacks_guarded (backend : LiveBackend) (callbacks : List Callback)
    (s s' : ProcessState) (trace : List ProcessEvent) (a : Unit) :
    Gives (backend.invokeAll callbacks) s trace a s' → WritesGuarded backend trace := by
  induction callbacks generalizing s trace with
  | nil =>
    intro h
    obtain ⟨rfl, -⟩ := gives_pure.mp h
    exact .of_readOnly (by simp)
  | cons callback callbacks ih =>
    intro h
    obtain ⟨xs, ys, _, s₁, rfl, hfirst, hrest⟩ := gives_bind.mp h
    exact (invoke_guarded hfirst).append (ih _ _ hrest)

/-- Two fans of the types the machine has, read by the keys `F0md` and `F1md`. -/
def knownFans : LiveSnapshot :=
  { fanCount := 2
    ftst := ⟨1, typeUi8, .zero⟩
    fans := fun fan => ⟨fanKey fan 'm' 'd', fanKey fan 'T' 'g', ⟨1, typeUi8, .zero⟩, .zero,
      ⟨2, typeFpe2, .zero⟩, .zero, .zero⟩
    temperaturesC := fun _ => finite 0 }

/-- An SMC that accepts every call and describes every key by the same type and size. -/
def acceptsAll (info : SmcKeyInfo) (_ : Unit) : (c : ProcessCall) → c.Answer × Unit
  | .smcCall _ => (⟨0, 80, 0, info.size, fourcc info.type, .zero⟩, ())
  | .monotonicSeconds => (finite 0, ())
  | .sleepMilliseconds _ => (true, ())
  | .sleepMillisecondsUninterruptible _ => (true, ())
  | .interrupted => (false, ())
  | .sysctlString _ => (none, ())
  | .geteuid => (0, ())
  | .isatty => (false, ())
  | .fgets => (none, ())
  | .installSignalHandlers => (true, ())
  | .alarm _ => ((), ())
  | .smcOpen => (true, ())
  | .smcClose => ((), ())

/-- The callbacks of a target write on an SMC that describes the key as known. -/
def targetRun : List ProcessEvent :=
  (play (acceptsAll ⟨2, typeFpe2⟩)
    ((invokeAll ⟨knownFans, none, true, finite⟩ [.writeTarget 1 (finite 0)]).run .start) ()).1

theorem target_write_guarded :
    (targetRun.any fun e => e.1.sendsWrite) = true ∧
      WritesGuarded ⟨knownFans, none, true, finite⟩ targetRun :=
  ⟨by decide +kernel, callbacks_guarded _ [.writeTarget 1 (finite 0)] .start _ _ ()
    (ends_play (acceptsAll ⟨2, typeFpe2⟩) _ ())⟩

end LiveBackend
end Ventilator
