import Ventilator.CallTreeState
import Ventilator.WriteAllowlist
import Ventilator.WriteBudget

/-! The write log of a trial's backend, which has room for 64 writes, and the events printed
from it. -/
namespace Ventilator
open Double CallTree

/-- What a logged write shows of the attempt: the key, the value and whether it succeeded. -/
structure WriteAttempt where
  key : FourChars
  value : Double
  ok : Bool
  deriving DecidableEq

def WriteEvent.attempt (event : WriteEvent) : WriteAttempt := ⟨event.key, event.value, event.ok⟩

/-- The attempts of the write log. -/
def ProcessState.log (state : ProcessState) : List WriteAttempt :=
  state.writes.map WriteEvent.attempt

/-- A line of the printed log. -/
inductive PrintedEvent
  | write (event : WriteEvent)
  | observe (event : ObservationEvent)
  | observationOverflow

def PrintedEvent.time : PrintedEvent → Double
  | write event => event.time
  | observe event => event.time
  | observationOverflow => finite 0

/-- The attempt a printed write shows. -/
def PrintedEvent.attempt? : PrintedEvent → Option WriteAttempt
  | write event => some event.attempt
  | _ => none

/-- `print_buffered_events`: an observation goes first when it is earlier than the next write. -/
def printBufferedEvents (state : ProcessState) : List PrintedEvent :=
  List.merge (state.writes.map .write) (state.observations.map .observe)
      (fun write sample => !lt sample.time write.time) ++
    if state.observationOverflow then [.observationOverflow] else []

/-- A merge with entries a filter drops shows what the filter keeps of the others. -/
lemma filterMap_merge {α β : Type} {f : α → Option β} {le : α → α → Bool} {xs ys : List α}
    (hys : ∀ y ∈ ys, f y = none) : (List.merge xs ys le).filterMap f = xs.filterMap f := by
  induction xs generalizing ys with
  | nil =>
    rw [List.nil_merge]
    exact List.filterMap_eq_nil_iff.mpr hys
  | cons x xs ihx =>
    induction ys with
    | nil => rw [List.merge_right]
    | cons y ys ihy =>
      have hrest : ∀ z ∈ ys, f z = none := fun z hz => hys z (List.mem_cons_of_mem _ hz)
      rw [List.cons_merge_cons]
      split
      · rw [List.filterMap_cons, List.filterMap_cons, ihx hys]
      · rw [List.filterMap_cons, hys y List.mem_cons_self]
        exact ihy hrest

/-- Every write of the buffer is printed, in the order it was logged. -/
lemma printed_attempts (state : ProcessState) :
    (printBufferedEvents state).filterMap PrintedEvent.attempt? = state.log := by
  have hoverflow : (if state.observationOverflow then [PrintedEvent.observationOverflow]
      else []).filterMap PrintedEvent.attempt? = [] := by
    split <;> rfl
  have hsamples : ∀ e ∈ state.observations.map PrintedEvent.observe,
      PrintedEvent.attempt? e = none := by
    intro e he
    obtain ⟨sample, -, rfl⟩ := List.mem_map.mp he
    rfl
  rw [printBufferedEvents, List.filterMap_append, filterMap_merge hsamples, hoverflow,
    List.append_nil, List.filterMap_map]
  have hwrite : PrintedEvent.attempt? ∘ PrintedEvent.write = some ∘ WriteEvent.attempt := rfl
  rw [hwrite, List.filterMap_eq_map]
  rfl

/-! The programs that do not touch the log. -/

/-- The programs that log no write. -/
abbrev KeepsLog {α : Type} (m : ProcessM α) : Prop := Keeps ProcessState.writes m

lemma keepsLog_smcCall (request : SmcRequest) : KeepsLog (smcCall request).run :=
  (Keeps.ask _).bind fun _ => (Keeps.modify (by intro; rfl)).bind fun _ => .pure _

lemma keepsLog_readKeyInfo (name : FourChars) : KeepsLog (readKeyInfo name).run :=
  .optionBind (keepsLog_smcCall _) fun _ => .getM _

lemma keepsLog_readKey (name : FourChars) : KeepsLog (readKey name).run :=
  .optionBind (keepsLog_readKeyInfo name) fun _ =>
    .optionBind (keepsLog_smcCall _) fun _ => .optionPure _

lemma keepsLog_readModeKey (index : Fin 2) : KeepsLog (readModeKey index).run := by
  refine (keepsLog_readKey _).bind fun lower => ?_
  cases lower with
  | some mode => exact .pure _
  | none =>
    refine (keepsLog_readKey _).bind fun upper => ?_
    cases upper <;> exact .pure _

lemma keepsLog_readFan (index : Fin 2) (includeMetrics : Bool) :
    KeepsLog (readFan index includeMetrics).run := by
  have hmetrics : KeepsLog (readMetrics index includeMetrics).run := by
    unfold readMetrics
    split
    · exact .optionPure _
    · exact .optionBind (keepsLog_readKey _) fun _ => .optionBind (keepsLog_readKey _) fun _ =>
        .optionBind (keepsLog_readKey _) fun _ => .optionPure _
  exact .optionBind (keepsLog_readModeKey index) fun _ => .optionBind (keepsLog_readKey _)
    fun _ => .optionBind hmetrics fun _ => .optionPure _

lemma keepsLog_readTemperatures (includeMetrics : Bool) :
    KeepsLog (readTemperatures includeMetrics).run := by
  have hread : ∀ sensor, KeepsLog (readTemperature sensor).run := fun sensor =>
    .optionBind (keepsLog_readKey _) fun _ => .getM _
  unfold readTemperatures
  split
  · exact .optionPure _
  · exact .optionBind (hread 0) fun _ => .optionBind (hread 1) fun _ =>
      .optionBind (hread 2) fun _ => .optionPure _

lemma keepsLog_readSnapshot (includeMetrics : Bool) : KeepsLog (readSnapshot includeMetrics).run := by
  refine .optionBind (keepsLog_readKey _) fun _ => .optionBind (.getM _) fun fanCount => ?_
  split
  · exact .optionFail
  · exact .optionBind (keepsLog_readKey _) fun _ => .optionBind (keepsLog_readFan _ _) fun _ =>
      .optionBind (keepsLog_readFan _ _) fun _ =>
        .optionBind (keepsLog_readTemperatures _) fun _ => .optionPure _

lemma keepsLog_writeKeyExact (name type : FourChars) (size : UInt32) (bytes : List UInt8) :
    KeepsLog (writeKeyExact name type size bytes) := by
  refine (keepsLog_readKeyInfo name).bind fun read => ?_
  cases read with
  | none => exact .pure _
  | some info => exact .ite (.pure _) ((keepsLog_smcCall _).bind fun _ => .pure _)

namespace LiveBackend
open ProcessM TrialBackend

variable {backend : LiveBackend}

lemma keepsLog_backendReadObservation (includeTemperatures : Bool) :
    KeepsLog (backend.backendReadObservation includeTemperatures).run :=
  .optionBind (keepsLog_readSnapshot _) fun _ => .optionBind (.getM _) fun _ =>
    .optionBind (.getM _) fun _ => .optionBind (.getM _) fun _ => .optionPure _

lemma keepsLog_backendRecord (second : ℕ) (o : TrialObservation) :
    KeepsLog (backend.backendRecord second o) := by
  refine (Keeps.ask _).bind fun _ => .ite (.modify fun state => ?_) (.pure _)
  split <;> rfl

/-! The callbacks that do. -/

/-- The `buffer_write` of a callback, if the callback comes to one. -/
def attempt (backend : LiveBackend) : TrialEvent → Option WriteAttempt
  | ⟨.writeMode fan mode, ok⟩ =>
    if mode ≠ 0 ∧ mode ≠ 1 then none
    else some ⟨(backend.knownKeys.fans fan).modeKey, finite mode.toNat, ok⟩
  | ⟨.writeTarget fan rpm, ok⟩ =>
    if !trialTargetWriteAllowed backend.round backend.allowedPlan fan.val.toUInt32 rpm then none
    else
      let known := backend.knownKeys.fans fan
      (trialEncodeRpm known.target.type known.target.size rpm).map fun _ =>
        ⟨known.targetKey, rpm, ok⟩
  | ⟨.writeFtst value, ok⟩ =>
    if value ≠ 0 ∧ value ≠ 1 then none
    else if !exactType backend.knownKeys.ftst.type typeUi8 ||
        backend.knownKeys.ftst.size != 1 then none
    else some ⟨keyFtst, finite value.toNat, ok⟩
  | _ => none

/-- The `buffer_write` calls of a run, in order. -/
def attempts (backend : LiveBackend) (trace : List TrialEvent) : List WriteAttempt :=
  trace.filterMap backend.attempt

lemma attempts_append (xs ys : List TrialEvent) :
    backend.attempts (xs ++ ys) = backend.attempts xs ++ backend.attempts ys :=
  List.filterMap_append

lemma attempts_cons (e : TrialEvent) (trace : List TrialEvent) :
    backend.attempts (e :: trace) = (backend.attempt e).toList ++ backend.attempts trace := by
  rw [attempts, List.filterMap_cons]
  cases backend.attempt e <;> rfl

/-- Only writes come to `buffer_write`. -/
lemma attempts_length_le (trace : List TrialEvent) :
    (backend.attempts trace).length ≤ (writesOf trace).length := by
  induction trace with
  | nil => rfl
  | cons e trace ih =>
    have hone : (backend.attempt e).toList.length ≤ (writesOf [e]).length := by
      obtain ⟨c, answer⟩ := e
      cases c with
      | writeMode | writeTarget | writeFtst => exact Option.length_toList_le
      | _ => exact Nat.zero_le _
    have hwrites := writesOf_append [e] trace
    rw [List.singleton_append] at hwrites
    rw [attempts_cons, hwrites, List.length_append, List.length_append]
    exact Nat.add_le_add hone ih

section Log

variable {s s' : ProcessState}

lemma log_length (s : ProcessState) : s.log.length = s.writes.length := List.length_map _

/-- A log with room takes one more attempt, a full one none. -/
lemma bufferWrite_log (hbuffer : backend.bufferEvents = true) {key : FourChars} {value : Double}
    {ok attempted : Bool} {trace : List ProcessEvent} {a : Unit} (hroom : s.writes.length ≤ 64)
    (h : Gives (backend.bufferWrite key value ok attempted) s trace a s') :
    s'.log = (s.log ++ [WriteAttempt.mk key value ok]).take 64 := by
  obtain ⟨xs, ys, state, s₁, rfl, hget, h₁⟩ := gives_bind.mp h
  obtain ⟨rfl, rfl, rfl⟩ := gives_get.mp hget
  have hlength := log_length s₁
  rw [hbuffer, Bool.not_true, Bool.false_or] at h₁
  split at h₁
  · rename_i hfull
    have hfull : 64 ≤ s₁.writes.length := of_decide_eq_true hfull
    obtain ⟨-, -, rfl⟩ := gives_pure.mp h₁
    rw [List.take_append_of_le_length (by omega), List.take_of_length_le (by omega)]
  · rename_i hspace
    have hspace : ¬ 64 ≤ s₁.writes.length := fun hle => hspace (decide_eq_true hle)
    obtain ⟨time, rest, -, h₂⟩ := gives_ask_bind.mp h₁
    obtain ⟨-, rfl⟩ := gives_modify.mp h₂
    rw [List.take_of_length_le (by simp; omega), ProcessState.log, List.map_append]
    rfl

lemma writeBuffered_log (hbuffer : backend.bufferEvents = true) {key type : FourChars}
    {size : UInt32} {bytes : List UInt8} {value : Double} {ok : Bool} {trace : List ProcessEvent}
    (hroom : s.writes.length ≤ 64)
    (h : Gives (backend.writeBuffered key type size bytes value) s trace ok s') :
    s'.log = (s.log ++ [WriteAttempt.mk key value ok]).take 64 := by
  obtain ⟨xs, ys, ⟨written, attempted⟩, s₁, -, hwrite, h₁⟩ := gives_bind.mp h
  obtain ⟨zs, ws, _, s₂, -, hlog, h₂⟩ := gives_bind.mp h₁
  obtain ⟨-, rfl, rfl⟩ := gives_pure.mp h₂
  have hkept := keepsLog_writeKeyExact _ _ _ _ _ _ _ _ hwrite
  rw [bufferWrite_log hbuffer (by rwa [hkept]) hlog, ProcessState.log, hkept]
  rfl

/-- One exact write sends at most one write command. -/
lemma writeBuffered_commands {key type : FourChars} {size : UInt32} {bytes : List UInt8}
    {value : Double} {ok : Bool} {trace : List ProcessEvent}
    (h : Gives (backend.writeBuffered key type size bytes value) s trace ok s') :
    (trace.filter fun e => e.1.sendsWrite).length ≤ 1 := by
  obtain ⟨xs, ys, ⟨written, attempted⟩, s₁, rfl, hwrite, h₁⟩ := gives_bind.mp h
  obtain ⟨zs, ws, _, s₂, rfl, hlog, h₂⟩ := gives_bind.mp h₁
  obtain ⟨rfl, -, -⟩ := gives_pure.mp h₂
  have hbuffer : zs.filter (fun e => e.1.sendsWrite) = [] :=
    List.filter_eq_nil_iff.mpr fun e he => by
      rw [(readOnly_bufferWrite _ _ _ _).gives hlog e he]
      exact Bool.false_ne_true
  obtain ⟨us, vs, read, s₃, rfl, hread, h₃⟩ := gives_bind.mp hwrite
  have hinfo : us.filter (fun e => e.1.sendsWrite) = [] :=
    List.filter_eq_nil_iff.mpr fun e he => by
      rw [(readOnly_readKeyInfo _).gives hread e he]
      exact Bool.false_ne_true
  have hsent : vs.length ≤ 1 := by
    cases read with
    | none =>
      obtain ⟨rfl, -⟩ := gives_pure.mp h₃
      exact Nat.zero_le _
    | some info =>
      dsimp only at h₃
      split at h₃
      · obtain ⟨rfl, -⟩ := gives_pure.mp h₃
        exact Nat.zero_le _
      · obtain ⟨us', vs', sent, s₄, rfl, hcall, h₄⟩ := gives_bind.mp h₃
        obtain ⟨response, rfl, -⟩ := gives_smcCall hcall
        obtain ⟨rfl, -⟩ := gives_pure.mp h₄
        rfl
  rw [List.append_nil, List.filter_append, List.filter_append, hinfo, hbuffer, List.nil_append,
    List.append_nil]
  exact (List.length_filter_le _ _).trans hsent

/-- What a callback can do: it logs and writes nothing, or it is one buffered write. -/
inductive Served (backend : LiveBackend) (s : ProcessState) (e : TrialEvent)
    (trace : List ProcessEvent) (s' : ProcessState) : Prop
  | silent (hattempt : backend.attempt e = none) (hreads : ∀ x ∈ trace, x.1.sendsWrite = false)
    (hkept : s'.writes = s.writes)
  | buffered {key type : FourChars} {size : UInt32} {bytes : List UInt8} {value : Double}
    {ok : Bool} (hattempt : backend.attempt e = some ⟨key, value, ok⟩)
    (hwrite : Gives (backend.writeBuffered key type size bytes value) s trace ok s')

lemma toUInt32_fan (fan : Fin 2) : fan.val.toUInt32.toNat = fan.val := by
  fin_cases fan <;> rfl

lemma served_of_pure {e : TrialEvent} {trace : List ProcessEvent} {a b : Bool}
    (hattempt : backend.attempt e = none) (h : Gives (pure a : ProcessM Bool) s trace b s') :
    Served backend s e trace s' := by
  obtain ⟨rfl, -, rfl⟩ := gives_pure.mp h
  exact .silent hattempt (by simp) rfl

lemma served_writeMode {fan : Fin 2} {mode : UInt8} {ok : Bool} {trace : List ProcessEvent}
    (h : Gives (backend.backendWriteMode fan.val.toUInt32 mode) s trace ok s') :
    Served backend s ⟨.writeMode fan mode, ok⟩ trace s' := by
  have hfan : fan.val.toUInt32.toNat < 2 := (toUInt32_fan fan).trans_lt fan.isLt
  rw [backendWriteMode, dif_pos hfan] at h
  simp only [toUInt32_fan, Fin.eta] at h
  split at h
  · rename_i hmode
    exact served_of_pure (if_pos hmode) h
  · rename_i hmode
    exact .buffered (if_neg hmode) h

lemma served_writeTarget {fan : Fin 2} {rpm : Double} {ok : Bool} {trace : List ProcessEvent}
    (h : Gives (backend.backendWriteTarget fan.val.toUInt32 rpm) s trace ok s') :
    Served backend s ⟨.writeTarget fan rpm, ok⟩ trace s' := by
  have hfan : fan.val.toUInt32.toNat < 2 := (toUInt32_fan fan).trans_lt fan.isLt
  rw [backendWriteTarget, dif_pos hfan] at h
  split at h
  · rename_i hallowed
    exact served_of_pure (if_pos hallowed) h
  · rename_i hallowed
    simp only [toUInt32_fan, Fin.eta] at h
    have hattempt : backend.attempt ⟨.writeTarget fan rpm, ok⟩ =
        (trialEncodeRpm (backend.knownKeys.fans fan).target.type
          (backend.knownKeys.fans fan).target.size rpm).map fun _ =>
            ⟨(backend.knownKeys.fans fan).targetKey, rpm, ok⟩ := if_neg hallowed
    cases hencoded : trialEncodeRpm (backend.knownKeys.fans fan).target.type
        (backend.knownKeys.fans fan).target.size rpm with
    | none =>
      rw [hencoded] at h hattempt
      exact served_of_pure hattempt h
    | some encoded =>
      rw [hencoded] at h hattempt
      exact .buffered hattempt h

lemma served_writeFtst {value : UInt8} {ok : Bool} {trace : List ProcessEvent}
    (h : Gives (backend.backendWriteFtst value) s trace ok s') :
    Served backend s ⟨.writeFtst value, ok⟩ trace s' := by
  rw [backendWriteFtst] at h
  split at h
  · rename_i hvalue
    exact served_of_pure (if_pos hvalue) h
  rename_i hvalue
  split at h
  · rename_i hknown
    exact served_of_pure ((if_neg hvalue).trans (if_pos hknown)) h
  · rename_i hknown
    exact .buffered ((if_neg hvalue).trans (if_neg hknown)) h

lemma handler_served {c : TrialCall} {answer : c.Answer} {trace : List ProcessEvent}
    (h : Gives (backend.handler c) s trace answer s') : Served backend s ⟨c, answer⟩ trace s' := by
  cases c with
  | writeMode fan mode => exact served_writeMode h
  | writeTarget fan rpm => exact served_writeTarget h
  | writeFtst value => exact served_writeFtst h
  | readObservation includeTemperatures =>
    exact .silent rfl ((readOnly_backendReadObservation _).gives h)
      (keepsLog_backendReadObservation _ _ _ _ _ h)
  | recordObservation second observation =>
    exact .silent rfl ((readOnly_backendRecord _ _).gives h)
      (keepsLog_backendRecord _ _ _ _ _ _ h)
  | waitMilliseconds | monotonicSeconds | shouldStop =>
    obtain ⟨rfl, rfl⟩ := gives_ask.mp h
    exact .silent rfl (by simp [ProcessCall.sendsWrite]) rfl

lemma Served.log (hbuffer : backend.bufferEvents = true) {e : TrialEvent}
    {trace : List ProcessEvent} (hroom : s.writes.length ≤ 64)
    (h : Served backend s e trace s') :
    s'.log = (s.log ++ (backend.attempt e).toList).take 64 := by
  cases h with
  | silent hattempt hreads hkept =>
    rw [hattempt, Option.toList_none, List.append_nil,
      List.take_of_length_le (by rwa [log_length]), ProcessState.log, hkept, ProcessState.log]
  | buffered hattempt hwrite =>
    rw [hattempt]
    exact writeBuffered_log hbuffer hroom hwrite

lemma Served.commands {e : TrialEvent} {trace : List ProcessEvent}
    (h : Served backend s e trace s') :
    (trace.filter fun e => e.1.sendsWrite).length ≤ (backend.attempt e).toList.length := by
  cases h with
  | silent hattempt hreads hkept =>
    rw [hattempt, List.filter_eq_nil_iff.mpr fun x hx => by simp [hreads x hx]]
    rfl
  | buffered hattempt hwrite =>
    rw [hattempt]
    exact writeBuffered_commands hwrite

/-- What is cut off first would be cut off at the end as well. -/
lemma take_take_append {α : Type} (xs ys : List α) (n : ℕ) :
    (xs.take n ++ ys).take n = (xs ++ ys).take n := by
  rcases le_total n xs.length with hle | hle
  · rw [List.take_append_of_le_length (by simpa using hle), List.take_take, min_self,
      List.take_append_of_le_length hle]
  · rw [List.take_of_length_le hle]

/-- The log keeps the first 64 attempts of a run. -/
lemma handled_log (hbuffer : backend.bufferEvents = true) {outer : List TrialEvent}
    {inner : List ProcessEvent} (h : Handled backend.handler s outer inner s')
    (hroom : s.writes.length ≤ 64) : s'.log = (s.log ++ backend.attempts outer).take 64 := by
  induction h with
  | nil s =>
    rw [attempts, List.filterMap_nil, List.append_nil,
      List.take_of_length_le (by rwa [log_length])]
  | @cons s s₁ s' c answer outer xs ys hcall hrest ih =>
    have hfirst := (handler_served hcall).log hbuffer hroom
    have hroom₁ : s₁.writes.length ≤ 64 := by
      rw [← log_length, hfirst]
      exact List.length_take_le _ _
    rw [ih hroom₁, hfirst, take_take_append, List.append_assoc, attempts_cons]

/-- Every write command a run sends belongs to one of its attempts. -/
lemma handled_commands {outer : List TrialEvent} {inner : List ProcessEvent}
    (h : Handled backend.handler s outer inner s') :
    (inner.filter fun e => e.1.sendsWrite).length ≤ (backend.attempts outer).length := by
  induction h with
  | nil s => exact Nat.zero_le _
  | cons hcall hrest ih =>
    rw [attempts_cons, List.filter_append, List.length_append, List.length_append]
    exact Nat.add_le_add (handler_served hcall).commands ih

end Log

/-! The three actions that buffer their log. -/

end LiveBackend

inductive BufferedAction
  | checkFtst
  | rehearseFtstMinimumRecovery (minimumRpm : Fin 2 → Double)
  | restoreUnlock

namespace BufferedAction
open LiveBackend TrialBackend

abbrev Result : BufferedAction → Type
  | checkFtst => TrialRunStatus
  | rehearseFtstMinimumRecovery _ => TrialRunStatus
  | restoreUnlock => Bool

def program (backend : TrialBackend) :
    (action : BufferedAction) → CallTree TrialCall TrialCall.Answer action.Result
  | checkFtst => backend.trialCheckFtst
  | rehearseFtstMinimumRecovery minimumRpm =>
    (backend.trialRehearseFtstMinimumRecovery minimumRpm).run' false
  | restoreUnlock => backend.trialRestoreUnlock.run' false

/-- The action on a new backend, as `smc-write-trial.c` runs it. -/
def run (backend : LiveBackend) (action : BufferedAction) : ProcessM action.Result := do
  resetBuffers
  handle backend.handler (action.program backend.trialBackend)

/-- The number of refusals in a row that a run may need before its log can overflow. -/
def patience : BufferedAction → ℕ
  | restoreUnlock => 9
  | _ => 4

/-- The state a new backend begins in. -/
def fresh (s : ProcessState) : ProcessState :=
  { s with writes := [], observations := [], observationOverflow := false }

/-- A run of the action: the callbacks it makes and the process's calls that serve them. -/
structure Serves (backend : LiveBackend) (action : BufferedAction) (s : ProcessState)
    (outer : List TrialEvent) (inner : List ProcessEvent) (result : action.Result)
    (s' : ProcessState) : Prop where
  ends : Ends (action.program backend.trialBackend) outer result
  handled : Handled backend.handler (fresh s) outer inner s'

/-- The run makes at most 64 calls of `buffer_write`, and the printed log shows every one. -/
def Logged (backend : LiveBackend) (outer : List TrialEvent) (s' : ProcessState) : Prop :=
  (backend.attempts outer).length ≤ 64 ∧
    (printBufferedEvents s').filterMap PrintedEvent.attempt? = backend.attempts outer

/-- Every `buffer_write` of the run finds a free entry. -/
def FindsRoom (backend : LiveBackend) (s : ProcessState) (outer : List TrialEvent)
    (inner : List ProcessEvent) (s' : ProcessState) : Prop :=
  ∀ before e after xs ys s₁, outer = before ++ e :: after → inner = xs ++ ys →
    Handled backend.handler (fresh s) before xs s₁ →
    Handled backend.handler s₁ (e :: after) ys s' → (backend.attempt e).isSome = true →
    s₁.writes.length < 64

variable {backend : LiveBackend} {action : BufferedAction} {s s' : ProcessState}
  {outer : List TrialEvent} {inner : List ProcessEvent} {result : action.Result}

lemma serves_of_gives {a : action.Result} (h : Gives (action.run backend) s inner a s') :
    ∃ outer, Serves backend action s outer inner a s' := by
  obtain ⟨xs, ys, _, s₁, rfl, hreset, hrest⟩ := gives_bind.mp h
  obtain ⟨rfl, rfl⟩ := gives_modify.mp hreset
  obtain ⟨outer, hends, hhandled⟩ := gives_handle hrest
  exact ⟨outer, hends, hhandled⟩

/-- The log of a new backend is empty. -/
lemma Serves.log (hbuffer : backend.bufferEvents = true)
    (h : Serves backend action s outer inner result s') :
    s'.log = (backend.attempts outer).take 64 :=
  handled_log hbuffer h.handled (Nat.zero_le _)

lemma Serves.logged_iff (hbuffer : backend.bufferEvents = true)
    (h : Serves backend action s outer inner result s') :
    Logged backend outer s' ↔ (backend.attempts outer).length ≤ 64 := by
  refine ⟨fun hlogged => hlogged.1, fun hle => ⟨hle, ?_⟩⟩
  rw [printed_attempts, h.log hbuffer, List.take_of_length_le hle]

/-- A list with more than `n` kept entries has one after the first `n`. -/
lemma exists_filterMap_split {α β : Type} {f : α → Option β} {xs : List α} {n : ℕ}
    (h : n < (xs.filterMap f).length) :
    ∃ before e after, xs = before ++ e :: after ∧ (before.filterMap f).length = n ∧
      (f e).isSome = true := by
  induction xs generalizing n with
  | nil => exact absurd h (Nat.not_lt_zero n)
  | cons x xs ih =>
    cases hx : f x with
    | none =>
      rw [List.filterMap_cons_none hx] at h
      obtain ⟨before, e, after, rfl, hlength, he⟩ := ih h
      exact ⟨x :: before, e, after, rfl, by rw [List.filterMap_cons_none hx, hlength], he⟩
    | some y =>
      rw [List.filterMap_cons_some hx, List.length_cons] at h
      cases n with
      | zero => exact ⟨[], x, xs, rfl, rfl, by rw [hx]; rfl⟩
      | succ n =>
        obtain ⟨before, e, after, rfl, hlength, he⟩ := ih (Nat.lt_of_succ_lt_succ h)
        refine ⟨x :: before, e, after, rfl, ?_, he⟩
        rw [List.filterMap_cons_some hx, List.length_cons, hlength]

/-- The buffer has room for every write exactly when there are at most 64. -/
lemma Serves.findsRoom_iff (hbuffer : backend.bufferEvents = true)
    (h : Serves backend action s outer inner result s') :
    FindsRoom backend s outer inner s' ↔ (backend.attempts outer).length ≤ 64 := by
  constructor
  · intro hroom
    by_contra hmany
    obtain ⟨before, e, after, rfl, hlength, he⟩ := exists_filterMap_split (not_le.mp hmany)
    obtain ⟨xs, ys, s₁, rfl, hbefore, hafter⟩ := h.handled.split
    have hfree := hroom before e after xs ys s₁ rfl rfl hbefore hafter he
    have hlog : s₁.log = (backend.attempts before).take 64 :=
      handled_log hbuffer hbefore (Nat.zero_le _)
    rw [← log_length, hlog, List.length_take, attempts, hlength] at hfree
    exact absurd hfree (lt_irrefl _)
  · rintro hle before e after xs ys s₁ rfl rfl hbefore - he
    have hlog : s₁.log = (backend.attempts before).take 64 :=
      handled_log hbuffer hbefore (Nat.zero_le _)
    obtain ⟨attempt, hattempt⟩ := Option.isSome_iff_exists.mp he
    rw [attempts_append, List.length_append, attempts, attempts,
      List.filterMap_cons_some hattempt, List.length_cons] at hle
    rw [← log_length, hlog, List.length_take]
    exact (Nat.min_le_right _ _).trans_lt (by rw [attempts]; omega)

/-- A patient run of the action attempts at most 64 writes. -/
lemma program_writes {backend : TrialBackend} (h : Ends (action.program backend) outer result)
    (hpatient : Patient action.patience outer) : (writesOf outer).length ≤ 64 := by
  cases action with
  | checkFtst =>
    rw [program, trialCheckFtst] at h
    split at h
    · obtain ⟨rfl, -⟩ := ends_done.mp h
      exact Nat.zero_le _
    · obtain ⟨s', hgives⟩ := ends_run' h
      exact (atMost_checkFtst (by decide) _ _ _ _ hgives hpatient).trans (by decide)
  | rehearseFtstMinimumRecovery minimumRpm =>
    obtain ⟨s', hgives⟩ := ends_run' h
    exact (atMost_rehearse minimumRpm (by simp [patience]) _ _ _ _ hgives hpatient).trans
      (by simp [patience])
  | restoreUnlock =>
    obtain ⟨s', hgives⟩ := ends_run' h
    exact (atMost_restoreUnlock (by decide) _ _ _ _ hgives hpatient).trans (by decide)

/-- The log of a run is complete exactly when each of its `buffer_write` calls finds a free
entry, and it is complete when no write of the run is refused too often in a row. -/
theorem buffered_writes_logged_iff (backend : LiveBackend) (action : BufferedAction)
    (s s' : ProcessState) (inner : List ProcessEvent) (result : action.Result)
    (hbuffer : backend.bufferEvents = true) (h : Gives (action.run backend) s inner result s') :
    ∃ outer, Serves backend action s outer inner result s' ∧
      (Logged backend outer s' ↔ FindsRoom backend s outer inner s') ∧
      (Patient action.patience outer → Logged backend outer s') := by
  obtain ⟨outer, hserves⟩ := serves_of_gives h
  refine ⟨outer, hserves, ?_, fun hpatient => ?_⟩
  · rw [hserves.logged_iff hbuffer, hserves.findsRoom_iff hbuffer]
  · exact (hserves.logged_iff hbuffer).mpr
      ((attempts_length_le outer).trans (program_writes hserves.ends hpatient))

end BufferedAction

/-! An SMC that refuses every fan write so many times before it accepts it. -/

structure StubbornSmc where
  reads : ℕ
  refused : ℕ
  clock : ℕ

namespace StubbornSmc
open SmcRequest LiveBackend

/-- The first read shows both fans manual, the 25 first ones `Ftst = 1`, every one a target of
2000 RPM. -/
def bytes (smc : StubbornSmc) (key : UInt32) : List UInt8 :=
  if key = fourcc keyFNum then [2]
  else if key = fourcc keyFtst then [if smc.reads ≤ 25 then 1 else 0]
  else if key = fourcc (fanKey 0 'T' 'g') ∨ key = fourcc (fanKey 1 'T' 'g') then [0x1f, 0x40]
  else [if smc.reads = 1 then 1 else 0]

/-- Reads are numbered by their first key; the 45th fails. -/
def describe (smc : StubbornSmc) (key : UInt32) : SmcResponse × StubbornSmc :=
  if key = fourcc keyFNum then
    (⟨0, 80, if smc.reads < 44 then 0 else 1, 1, fourcc typeUi8, .zero⟩,
      { smc with reads := smc.reads + 1 })
  else if key = fourcc (fanKey 0 'T' 'g') ∨ key = fourcc (fanKey 1 'T' 'g') then
    (⟨0, 80, 0, 2, fourcc typeFpe2, .zero⟩, smc)
  else (⟨0, 80, 0, 1, fourcc typeUi8, .zero⟩, smc)

def respond (smc : StubbornSmc) (refusals : ℕ) (request : SmcRequest) :
    SmcResponse × StubbornSmc :=
  if request.command = smcReadKeyInfo then smc.describe request.key
  else if request.command = smcReadBytes then
    (⟨0, 80, 0, 0, 0, .ofList (smc.bytes request.key)⟩, smc)
  else if request.key = fourcc keyFtst ∨ smc.refused = refusals then
    (⟨0, 80, 0, 0, 0, .zero⟩, { smc with refused := 0 })
  else (⟨0, 80, 1, 0, 0, .zero⟩, { smc with refused := smc.refused + 1 })

def answer (refusals : ℕ) (smc : StubbornSmc) : (c : ProcessCall) → c.Answer × StubbornSmc
  | .smcCall request => smc.respond refusals request
  | .monotonicSeconds => (finite smc.clock, { smc with clock := smc.clock + 1 })
  | .sleepMilliseconds _ => (true, smc)
  | .sleepMillisecondsUninterruptible _ => (true, smc)
  | .interrupted => (false, smc)
  | .sysctlString _ => (none, smc)
  | .geteuid => (0, smc)
  | .isatty => (false, smc)
  | .fgets => (none, smc)
  | .installSignalHandlers => (true, smc)
  | .alarm _ => ((), smc)
  | .smcOpen => (true, smc)
  | .smcClose => ((), smc)

def live : LiveBackend := ⟨knownFans, none, true, finite⟩

@[irreducible] def unlockRun (refusals : ℕ) :
    List ProcessEvent × (Bool × ProcessState) × StubbornSmc :=
  play (answer refusals) ((BufferedAction.restoreUnlock.run live).run .start) ⟨0, 0, 0⟩

lemma unlockRun_gives (refusals : ℕ) :
    Gives (BufferedAction.restoreUnlock.run live) .start (unlockRun refusals).1
      (unlockRun refusals).2.1.1 (unlockRun refusals).2.1.2 := by
  unfold unlockRun
  exact gives_play _ _ _ _

end StubbornSmc

namespace BufferedAction
open LiveBackend StubbornSmc

/-- The recovery of fans that accept each write the tenth time it is sent sends 65 writes. -/
theorem stubborn_writes_dropped :
    ¬ ∀ (backend : LiveBackend) (action : BufferedAction) (s s' : ProcessState)
      (inner : List ProcessEvent) (result : action.Result),
      backend.bufferEvents = true → Gives (action.run backend) s inner result s' →
      ∃ outer, Serves backend action s outer inner result s' ∧ Logged backend outer s' := by
  intro hclaim
  obtain ⟨outer, hserves, hlogged⟩ := hclaim live .restoreUnlock .start _ _ _ rfl
    (unlockRun_gives 9)
  have hcommands : ((unlockRun 9).1.filter fun e => e.1.sendsWrite).length = 65 := by
    decide +kernel
  have hle := handled_commands hserves.handled
  have hlimit := hlogged.1
  omega

/-- The recovery of fans that accept every write logs its eleven writes. -/
theorem prompt_writes_logged :
    ∃ outer, Serves live .restoreUnlock .start outer (unlockRun 0).1 (unlockRun 0).2.1.1
        (unlockRun 0).2.1.2 ∧
      (live.attempts outer).length = 11 ∧
      FindsRoom live .start outer (unlockRun 0).1 (unlockRun 0).2.1.2 := by
  obtain ⟨outer, hserves, hiff, -⟩ :=
    buffered_writes_logged_iff live .restoreUnlock .start _ _ _ rfl (unlockRun_gives 0)
  have hwrites : (unlockRun 0).2.1.2.writes.length = 11 := by decide +kernel
  have hlog := congrArg List.length (hserves.log rfl)
  rw [log_length, hwrites, List.length_take] at hlog
  have hlength : (live.attempts outer).length = 11 := by omega
  refine ⟨outer, hserves, hlength, hiff.mp ((hserves.logged_iff rfl).mpr ?_)⟩
  omega

end BufferedAction
end Ventilator
