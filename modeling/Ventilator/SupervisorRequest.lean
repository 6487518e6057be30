import Ventilator.CallTreeGuards
import Ventilator.SupervisorReport

/-! The application's requests to the supervisor of the daemon, from `HelperProbeBridge.m`: a
request that starts a run is held until the run ends. Every call may have any outcome. -/
namespace Ventilator
open CallTree PropertyValue

def helperSupervisorSameRunValid (started response : PropertyDictionary) : Bool :=
  helperSupervisorResponseValid started && helperSupervisorResponseValid response &&
    sameNumber (started.get "daemon_pid") (response.get "daemon_pid") &&
    sameNumber (started.get "runner_pid") (response.get "runner_pid")

inductive DaemonRequest
  | status
  | baseline
  | watchStart
  | watchStatus
  | startupAudit
  | supervisorStart
  | supervisorCrashStart
  | supervisorResume
  | supervisorStatus
  | supervisorCleanup
  deriving DecidableEq

/-- The requests that are held while a run goes on. -/
def DaemonRequest.hold : DaemonRequest → Bool
  | supervisorStart => true
  | supervisorCrashStart => true
  | supervisorResume => true
  | supervisorCleanup => true
  | _ => false

/-- How the wait for a reply ends. -/
inductive Reply
  | timedOut
  | failed (description : String)
  | replied (response : PropertyDictionary)

/-- The calls of a request. The pause between two polls is left out. -/
inductive RequestCall
  | ownTeamID
  | send (request : DaemonRequest)
  | nowNs
  | disconnected
  | print (started : PropertyDictionary)

abbrev RequestCall.Answer : RequestCall → Type
  | ownTeamID => Bool
  | send _ => Reply
  | nowNs => UInt64
  | disconnected => Bool
  | print _ => Unit

instance requestNonempty (c : RequestCall) : Nonempty c.Answer := by
  cases c with
  | send request => exact ⟨.timedOut⟩
  | _ => infer_instance

abbrev RequestEvent := Event RequestCall.Answer

abbrev RequestM := OptionT (StateT Unit (CallTree RequestCall RequestCall.Answer))

/-- `[response[@"state"] isEqual:@"running"]` -/
def isRunning (response : PropertyDictionary) : Bool := isText (response.get "state") "running"

namespace DaemonRequest

abbrev sys (c : RequestCall) : RequestM c.Answer := OptionT.lift (ask c)

/-- `UINT64_C(180000000000)` -/
def holdNs : UInt64 := 180000000000

/-- One round of the loop that holds a request. -/
def poll (started : PropertyDictionary) (deadline : UInt64) : RequestM (Reply ⊕ Unit) := do
  let now ← sys .nowNs
  if now ≥ deadline then pure (.inl .timedOut)
  else
    match ← sys (.send .supervisorStatus) with
    | .timedOut => pure (.inl .timedOut)
    | .failed description => pure (.inl (.failed description))
    | .replied response =>
      if ← sys .disconnected then
        pure (.inl (.failed "Supervisor XPC connection was interrupted"))
      else if !helperSupervisorSameRunValid started response then
        pure (.inl (.failed "Supervisor connection lost or run identity changed"))
      else pure (if isRunning response then .inr () else .inl (.replied response))

/-- The wait for the end of the run that the reply says was started. -/
def await (fuel : ℕ) (started : PropertyDictionary) : RequestM Reply := do
  let now ← sys .nowNs
  match ← loop (fun _ () => poll started (now + holdNs)) fuel 0 () with
  | .inl reply => pure reply
  | .inr () => failure

/-- The rest of a held request: the start of a run is printed, that of a cleanup is not. -/
def settle (fuel : ℕ) (request : DaemonRequest) (reply : Reply) : RequestM Reply :=
  match reply with
  | .replied response =>
    if request.hold && helperSupervisorResponseValid response && isRunning response then
      if request ≠ .supervisorCleanup then do
        sys (.print response)
        await fuel response
      else await fuel response
    else pure reply
  | _ => pure reply

/-- What the last reply comes to, once the connection was checked. -/
def outcome (request : DaemonRequest) (lostConnection : Bool) :
    Reply → Except String PropertyDictionary
  | .timedOut => .error "XPC request timed out"
  | .failed description => .error description
  | .replied response =>
    if request.hold && lostConnection then .error "Supervisor XPC connection was interrupted"
    else .ok response

/-- `fetchDaemon`; an error is the text that it throws. -/
def fetchDaemon (fuel : ℕ) (request : DaemonRequest) :
    RequestM (Except String PropertyDictionary) := do
  if !(← sys .ownTeamID) then
    pure (.error "Ventilator.app must have a trusted development signature")
  else
    let first ← sys (.send request)
    let last ← settle fuel request first
    let lostConnection ← sys .disconnected
    pure (request.outcome lostConnection last)

def requestSupervisor (fuel : ℕ) (request : DaemonRequest) :
    RequestM (Except String PropertyDictionary) := do
  match ← fetchDaemon fuel request with
  | .error text => pure (.error text)
  | .ok result =>
    pure (if helperSupervisorResponseValid result then .ok result
      else .error "XPC supervisor contract mismatch")

/-! What a request returns. -/

abbrev anyRequest : List RequestEvent → RequestEvent → Prop := fun _ _ => True

/-- The reply to a poll of the run. -/
def Polled (response : PropertyDictionary) (trace : List RequestEvent) : Prop :=
  ⟨.send .supervisorStatus, .replied response⟩ ∈ trace

/-- The connection was never found to be lost, and every poll found the same run going on. -/
structure Steady (started : PropertyDictionary) (trace : List RequestEvent) : Prop where
  connected : ⟨.disconnected, true⟩ ∉ trace
  same : ∀ response, Polled response trace → helperSupervisorSameRunValid started response = true
  running : ∀ response, Polled response trace → isRunning response = true

/-- The connection was never found to be lost, and every poll but the last one, which found the end
of the run, found the same run going on. -/
structure Ended (started response : PropertyDictionary) (trace : List RequestEvent) : Prop where
  connected : ⟨.disconnected, true⟩ ∉ trace
  same : ∀ other, Polled other trace → helperSupervisorSameRunValid started other = true
  running : ∀ other, Polled other trace → isRunning other = true ∨ other = response
  last : Polled response trace
  ended : isRunning response = false

variable {started response : PropertyDictionary} {trace : List RequestEvent} {fuel : ℕ}
  {request : DaemonRequest}

lemma polled_append {other : PropertyDictionary} {e : RequestEvent} :
    Polled other (trace ++ [e]) ↔
      Polled other trace ∨ e = ⟨.send .supervisorStatus, .replied other⟩ := by
  rw [Polled, List.mem_append, List.mem_singleton, eq_comm (b := e)]
  rfl

/-- A call that neither polls nor finds the connection lost. -/
lemma Steady.event {e : RequestEvent} (h : Steady started trace)
    (hpoll : ∀ request, e.1 ≠ .send request) (hlost : e ≠ ⟨.disconnected, true⟩) :
    Steady started (trace ++ [e]) := by
  have hpolled : ∀ other, Polled other (trace ++ [e]) → Polled other trace := by
    intro other hother
    rcases polled_append.mp hother with hold | rfl
    · exact hold
    · exact absurd rfl (hpoll _)
  refine ⟨?_, fun other hother => h.same other (hpolled other hother),
    fun other hother => h.running other (hpolled other hother)⟩
  rw [List.mem_append, List.mem_singleton, not_or]
  exact ⟨h.connected, hlost.symm⟩

lemma Ended.event {e : RequestEvent} (h : Ended started response trace)
    (hpoll : ∀ request, e.1 ≠ .send request) (hlost : e ≠ ⟨.disconnected, true⟩) :
    Ended started response (trace ++ [e]) := by
  have hpolled : ∀ other, Polled other (trace ++ [e]) → Polled other trace := by
    intro other hother
    rcases polled_append.mp hother with hold | rfl
    · exact hold
    · exact absurd rfl (hpoll _)
  refine ⟨?_, fun other hother => h.same other (hpolled other hother),
    fun other hother => h.running other (hpolled other hother), polled_append.mpr (.inl h.last),
    h.ended⟩
  rw [List.mem_append, List.mem_singleton, not_or]
  exact ⟨h.connected, hlost.symm⟩

/-- The two calls of a poll that found the same run. -/
lemma Steady.poll (h : Steady started trace)
    (hsame : helperSupervisorSameRunValid started response = true) :
    (isRunning response = true → Steady started
      (trace ++ [⟨.send .supervisorStatus, .replied response⟩] ++ [⟨.disconnected, false⟩])) ∧
    (isRunning response = false → Ended started response
      (trace ++ [⟨.send .supervisorStatus, .replied response⟩] ++ [⟨.disconnected, false⟩])) := by
  have hpolled : ∀ other, Polled other (trace ++ [⟨.send .supervisorStatus, .replied response⟩] ++
      [⟨.disconnected, false⟩]) → Polled other trace ∨ other = response := by
    intro other hother
    rw [polled_append, polled_append] at hother
    rcases hother with (hold | heq) | heq
    · exact .inl hold
    · cases heq
      exact .inr rfl
    · cases heq
  have hconnected : ⟨.disconnected, true⟩ ∉ trace ++
      [⟨.send .supervisorStatus, .replied response⟩] ++ [⟨.disconnected, false⟩] := by
    simpa using h.connected
  have hsames : ∀ other, Polled other (trace ++ [⟨.send .supervisorStatus, .replied response⟩] ++
      [⟨.disconnected, false⟩]) → helperSupervisorSameRunValid started other = true := by
    intro other hother
    rcases hpolled other hother with hold | rfl
    · exact h.same other hold
    · exact hsame
  refine ⟨fun hrunning => ⟨hconnected, hsames, fun other hother => ?_⟩,
    fun hended => ⟨hconnected, hsames, fun other hother => ?_, ?_, hended⟩⟩
  · rcases hpolled other hother with hold | rfl
    · exact h.running other hold
    · exact hrunning
  · exact (hpolled other hother).imp_left (h.running other)
  · rw [polled_append, polled_append]
    exact .inl (.inr rfl)

/-- A round of the loop goes on while the same run goes on, and returns its end. -/
lemma poll_holds (deadline : UInt64) (h : Steady started trace) :
    Holds anyRequest trace () (poll started deadline) fun out _ after => match out with
      | .inl reply => ∀ response, reply = .replied response → Ended started response after
      | .inr () => Steady started after := by
  refine Holds.ask_bind fun now => ⟨trivial, Holds.ite (fun _ => .pure nofun) fun _ => ?_⟩
  have hread := h.event (e := ⟨.nowNs, now⟩) nofun nofun
  refine Holds.ask_bind fun reply => ⟨trivial, ?_⟩
  cases reply with
  | timedOut => exact .pure nofun
  | failed description => exact .pure nofun
  | replied response =>
    refine Holds.ask_bind fun lost => ⟨trivial, Holds.ite (fun _ => .pure nofun) fun hlost => ?_⟩
    rw [Bool.not_eq_true] at hlost
    refine Holds.ite (fun _ => .pure nofun) fun hsame => .pure ?_
    rw [Bool.not_eq_true, Bool.not_eq_false'] at hsame
    rw [hlost]
    obtain ⟨hgoes, hends⟩ := hread.poll hsame
    cases hrunning : isRunning response with
    | true => exact hgoes hrunning
    | false =>
      intro other heq
      cases heq
      exact hends hrunning

/-- A run is awaited to its own end. -/
lemma await_holds (h : Steady started trace) :
    Holds anyRequest trace () (await fuel started) fun reply _ after =>
      ∀ response, reply = .replied response → Ended started response after := by
  refine Holds.ask_bind fun now => ⟨trivial, ?_⟩
  have hread := h.event (e := ⟨.nowNs, now⟩) nofun nofun
  refine Holds.bind (Q := fun out _ after => ∀ reply, out = .inl reply →
    ∀ response, reply = .replied response → Ended started response after)
    (Holds.loop (I := fun _ _ trace => Steady started trace) (fun _ _ _ _ hI => ?_)
      (fun _ _ _ _ => nofun) _ _ hread) ?_
  · refine (poll_holds (now + holdNs) hI).mono fun out _ after hout => ?_
    cases out with
    | inl reply =>
      rintro _ ⟨⟩
      exact hout
    | inr u => exact hout
  · intro out _ after hout
    cases out with
    | inl reply => exact .pure (hout reply rfl)
    | inr u => exact .failure

/-- How a held request can go well: its first reply is final, or it is the start of a run that was
awaited to its end. -/
def Answered (request : DaemonRequest) (response : PropertyDictionary) (trace : List RequestEvent) :
    Prop :=
  ⟨.disconnected, true⟩ ∉ trace ∧ ∃ started, ⟨.send request, .replied started⟩ ∈ trace ∧
    (started = response ∧ (∀ other, ¬ Polled other trace) ∨
      isRunning started = true ∧ Ended started response trace)

/-- A reply from which nothing was polled. -/
lemma steady_fresh (hheld : request.hold = true) {reply : Reply} :
    Steady started [⟨.ownTeamID, true⟩, ⟨.send request, reply⟩] ∧
      ∀ other, ¬ Polled other [⟨.ownTeamID, true⟩, ⟨.send request, reply⟩] := by
  have hnone : ∀ other, ¬ Polled other [⟨.ownTeamID, true⟩, ⟨.send request, reply⟩] := by
    intro other hother
    have hrequest : request = .supervisorStatus := by
      simp only [Polled, List.mem_cons, List.not_mem_nil, or_false] at hother
      rcases hother with h | h
      · cases h
      · exact (RequestCall.send.inj (congrArg Sigma.fst h)).symm
    rw [hrequest] at hheld
    cases hheld
  exact ⟨⟨by simp, fun other h => absurd h (hnone other), fun other h => absurd h (hnone other)⟩,
    hnone⟩

/-- What a held request has, but for the last look at its connection. -/
def Settled (request : DaemonRequest) (response : PropertyDictionary) (trace : List RequestEvent) :
    Prop :=
  Answered request response trace ∧
    (helperSupervisorResponseValid response = true → isRunning response = false)

lemma Ended.answered (h : Ended started response trace) (hrunning : isRunning started = true)
    (hstarted : ⟨.send request, .replied started⟩ ∈ trace) : Settled request response trace :=
  ⟨⟨h.connected, started, hstarted, .inr ⟨hrunning, h⟩⟩, fun _ => h.ended⟩

lemma await_settles (hrunning : isRunning started = true)
    (h : Steady started trace) (hstarted : ⟨.send request, .replied started⟩ ∈ trace) :
    Holds anyRequest trace () (await fuel started) fun reply _ after =>
      ∀ response, reply = .replied response → Settled request response after := by
  refine (await_holds h).extends.mono ?_
  rintro reply _ after ⟨hended, more, rfl⟩ response heq
  exact (hended response heq).answered hrunning (List.mem_append_left _ hstarted)

lemma settle_settles (hheld : request.hold = true) (reply : Reply) :
    Holds anyRequest [⟨.ownTeamID, true⟩, ⟨.send request, reply⟩] () (settle fuel request reply)
      fun reply' _ after => ∀ response, reply' = .replied response →
        Settled request response after := by
  cases reply with
  | timedOut => exact .pure nofun
  | failed description => exact .pure nofun
  | replied started =>
    have hfresh : Steady started [⟨.ownTeamID, true⟩, ⟨.send request, .replied started⟩] ∧
        ∀ other, ¬ Polled other [⟨.ownTeamID, true⟩, ⟨.send request, .replied started⟩] :=
      steady_fresh hheld
    obtain ⟨hsteady, hnone⟩ := hfresh
    refine Holds.ite (fun hstart => ?_) fun hfinal => .pure ?_
    · rw [Bool.and_eq_true] at hstart
      refine Holds.ite (fun _ => Holds.ask_bind fun _ => ⟨trivial, ?_⟩) fun _ =>
        await_settles hstart.2 hsteady (by simp)
      exact await_settles hstart.2 (hsteady.event nofun nofun) (by simp)
    · rintro response ⟨⟩
      refine ⟨⟨hsteady.connected, started, by simp, .inl ⟨rfl, hnone⟩⟩, fun hvalid => ?_⟩
      rw [hheld, hvalid] at hfinal
      simpa using hfinal

lemma Settled.connected (h : Settled request response trace) :
    Settled request response (trace ++ [⟨.disconnected, false⟩]) := by
  obtain ⟨⟨hconnected, started, hstarted, hway⟩, hended⟩ := h
  refine ⟨⟨by simpa using hconnected, started, List.mem_append_left _ hstarted, ?_⟩, hended⟩
  refine hway.imp (fun ⟨heq, hnone⟩ => ⟨heq, fun other hother => ?_⟩)
    fun ⟨hrunning, h⟩ => ⟨hrunning, h.event nofun (by simp)⟩
  rcases polled_append.mp hother with hold | heq
  · exact hnone other hold
  · cases heq

lemma fetchDaemon_settles (fuel : ℕ) (hheld : request.hold = true) :
    Holds anyRequest [] () (fetchDaemon fuel request) fun result _ after =>
      ∀ response, result = .ok response → Settled request response after := by
  refine Holds.ask_bind fun team => ⟨trivial, Holds.ite (fun _ => .pure nofun) fun hteam => ?_⟩
  rw [Bool.not_eq_true, Bool.not_eq_false'] at hteam
  rw [hteam]
  refine Holds.ask_bind fun first => ⟨trivial, (settle_settles hheld first).bind ?_⟩
  intro last _ after hlast
  refine Holds.ask_bind fun lost => ⟨trivial, .pure fun response heq => ?_⟩
  cases last with
  | timedOut => cases heq
  | failed description => cases heq
  | replied other =>
    cases lost with
    | true =>
      rw [outcome, hheld] at heq
      cases heq
    | false =>
      rw [outcome, Bool.and_false, if_neg Bool.false_ne_true] at heq
      cases heq
      exact (hlast response rfl).connected

/-- Whatever the daemon, the connection and the clock do, a held request returns nothing but a valid
reply that is no longer running: its first one, or the end of the run that the first one started,
after polls over a connection that was never found to be lost and that all named the same daemon and
the same runner. -/
theorem requestSupervisor_returns (fuel : ℕ) (request : DaemonRequest)
    (hheld : request.hold = true) {trace : List RequestEvent} {response : PropertyDictionary}
    (h : Gives (requestSupervisor fuel request).run () trace (some (.ok response)) ()) :
    helperSupervisorResponseValid response = true ∧ isRunning response = false ∧
      Answered request response trace := by
  have hreturns : Holds anyRequest [] () (requestSupervisor fuel request) fun result _ after =>
      ∀ response, result = .ok response → helperSupervisorResponseValid response = true ∧
        isRunning response = false ∧ Answered request response after := by
    refine (fetchDaemon_settles fuel hheld).bind fun result _ after hsettled => ?_
    cases result with
    | error text => exact .pure nofun
    | ok result =>
      refine .pure fun response heq => ?_
      split at heq
      · rename_i hvalid
        cases heq
        obtain ⟨hanswered, hended⟩ := hsettled _ rfl
        exact ⟨hvalid, hended hvalid, hanswered⟩
      · cases heq
  exact hreturns.gives h response rfl

/-- The reply of a run: its process is 2 and its daemon 1. -/
def runReply (state : String) : PropertyDictionary :=
  .ofList [("protocol_version", .number (.integer 1)), ("backend", .string "read_only"),
    ("write_available", .number (.bool false)), ("daemon_pid", .number (.integer 1)),
    ("runner_pid", .number (.integer 2)), ("state", .string state)]

/-- A run that ends at the second poll. -/
def endingAnswer (polls : ℕ) : (c : RequestCall) → c.Answer × ℕ
  | .ownTeamID => (true, polls)
  | .send _ => (.replied (runReply (if polls < 2 then "running" else "cleaned")), polls + 1)
  | .nowNs => (1, polls)
  | .disconnected => (false, polls)
  | .print _ => ((), polls)

def endingRun : List RequestEvent × (Option (Except String PropertyDictionary) × Unit) × ℕ :=
  play endingAnswer ((requestSupervisor 3 .supervisorCleanup).run.run ()) 0

/-- A request that returned the reply of a cleanup that is done. -/
def returnsCleaned : Option (Except String PropertyDictionary) → Bool
  | some (.ok response) => isText (response.get "state") "cleaned"
  | _ => false

/-- A cleanup that is held returns the end of its run. -/
theorem requestSupervisor_returns_cleanup : ∃ trace response,
    isText (response.get "state") "cleaned" = true ∧
      helperSupervisorResponseValid response = true ∧ isRunning response = false ∧
        Answered .supervisorCleanup response trace := by
  have hcleaned : returnsCleaned endingRun.2.1.1 = true := by decide +kernel
  have hends : Gives (requestSupervisor 3 .supervisorCleanup).run () endingRun.1 endingRun.2.1.1 () :=
    ends_play _ _ _
  generalize endingRun = run at hcleaned hends
  obtain ⟨trace, ⟨result, u⟩, polls⟩ := run
  match result with
  | some (.ok response) =>
    exact ⟨trace, response, hcleaned, requestSupervisor_returns 3 .supervisorCleanup rfl hends⟩
  | some (.error text) => cases hcleaned
  | none => cases hcleaned

end DaemonRequest
end Ventilator
