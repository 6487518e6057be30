import Ventilator.MonitorUi
import Ventilator.MutexRuns

/-! The refreshes of `MonitorViewModel.kt` over `SmcMonitorRepository.kt`: any number of polls and
manual refreshes that share one mutex and update two flows. -/
namespace Ventilator
open KotlinRead MonitorUi MutexRuns

namespace MonitorRefresh

variable {Instant : Type}

/-- Where one call of `refreshStatus` is. -/
inductive Phase (Instant : Type)
  /-- Not called yet, or suspended in `withLock`. -/
  | waiting
  | locked
  /-- Suspended in `withContext`. -/
  | reading
  /-- The repository's flow has the snapshot. -/
  | stored (snapshot : StatusSnapshot Instant)
  /-- In the `catch` of an exception. -/
  | threw
  /-- In the `finally`. -/
  | leaving
  | finished
  | done

/-- The phases in which a call holds the mutex. -/
def Phase.inside : Phase Instant → Bool
  | waiting => false
  | done => false
  | _ => true

structure UiFlags where
  refreshing : Bool
  error : Option String
  deriving DecidableEq

/-- The two flows, and the calls of `refreshStatus` by number. -/
structure State (Instant : Type) where
  status : Option (StatusSnapshot Instant)
  flags : UiFlags
  calls : Tasks ℕ (Phase Instant)

def initial : State Instant := ⟨none, ⟨true, none⟩, ⟨fun _ => .waiting, none⟩⟩

/-- What one call does next. -/
inductive Event (Instant : Type)
  | lock (call : ℕ)
  | begin (call : ℕ)
  | read (call : ℕ) (snapshot : StatusSnapshot Instant)
  | readThrows (call : ℕ)
  | succeed (call : ℕ) (snapshot : StatusSnapshot Instant)
  | fail (call : ℕ)
  | cancel (call : ℕ)
  | clear (call : ℕ)
  | unlock (call : ℕ)

def failureText : String := "Не удалось прочитать датчики. Повторите попытку."

/-- The steps of `refreshStatus`. Every update of a flow is a step of its own, and a call is
cancelled only where it is suspended. A refresh completes when its outcome is in the flags. -/
inductive Step : State Instant → Event Instant → State Instant → Prop
  | lock {s : State Instant} {i : ℕ} (here : s.calls.phase i = .waiting)
    (free : s.calls.holder = none) :
    Step s (.lock i) { s with calls := s.calls.acquire i .locked }
  | begin {s : State Instant} {i : ℕ} (here : s.calls.phase i = .locked) :
    Step s (.begin i)
      { s with flags := { s.flags with refreshing := true }, calls := s.calls.move i .reading }
  -- The repository stores a snapshot as soon as it is resumed with it.
  | read {s : State Instant} {i : ℕ} {snapshot : StatusSnapshot Instant}
    (here : s.calls.phase i = .reading) :
    Step s (.read i snapshot)
      { s with status := some snapshot, calls := s.calls.move i (.stored snapshot) }
  | readThrows {s : State Instant} {i : ℕ} (here : s.calls.phase i = .reading) :
    Step s (.readThrows i) { s with calls := s.calls.move i .threw }
  | succeed {s : State Instant} {i : ℕ} {snapshot : StatusSnapshot Instant}
    (here : s.calls.phase i = .stored snapshot) :
    Step s (.succeed i snapshot)
      { s with flags := { s.flags with error := none }, calls := s.calls.move i .leaving }
  | fail {s : State Instant} {i : ℕ} (here : s.calls.phase i = .threw) :
    Step s (.fail i)
      { s with
        flags := { s.flags with error := some failureText }, calls := s.calls.move i .leaving }
  | cancelWaiting {s : State Instant} {i : ℕ} (here : s.calls.phase i = .waiting) :
    Step s (.cancel i) { s with calls := s.calls.move i .done }
  | cancelReading {s : State Instant} {i : ℕ} (here : s.calls.phase i = .reading) :
    Step s (.cancel i) { s with calls := s.calls.move i .leaving }
  | clear {s : State Instant} {i : ℕ} (here : s.calls.phase i = .leaving) :
    Step s (.clear i)
      { s with flags := { s.flags with refreshing := false }, calls := s.calls.move i .finished }
  | unlock {s : State Instant} {i : ℕ} (here : s.calls.phase i = .finished) :
    Step s (.unlock i) { s with calls := s.calls.release i .done }

/-- How a refresh that was not cancelled ended. -/
inductive Outcome (Instant : Type)
  | success (snapshot : StatusSnapshot Instant)
  | failure

def Event.outcome? : Event Instant → Option (Outcome Instant)
  | succeed _ snapshot => some (.success snapshot)
  | fail _ => some .failure
  | _ => none

def Event.snapshot? : Event Instant → Option (StatusSnapshot Instant)
  | read _ snapshot => some snapshot
  | _ => none

/-- How the last completed refresh ended. -/
def lastCompleted (events : List (Event Instant)) : Option (Outcome Instant) :=
  (events.filterMap Event.outcome?).getLast?

/-- The last snapshot ever read. -/
def lastRead (events : List (Event Instant)) : Option (StatusSnapshot Instant) :=
  (events.filterMap Event.snapshot?).getLast?

/-- The state the window maps from the flows. -/
def uiState (formats : Formats Instant) (s : State Instant) : MonitorUiState :=
  MonitorUi.map formats s.status s.flags.refreshing s.flags.error

/-! What every run keeps. -/

@[simp] lemma lastCompleted_append (events : List (Event Instant)) (event : Event Instant) :
    lastCompleted (events ++ [event]) = event.outcome?.or (lastCompleted events) := by
  cases h : event.outcome? <;> simp [lastCompleted, List.filterMap_append, h]

@[simp] lemma lastRead_append (events : List (Event Instant)) (event : Event Instant) :
    lastRead (events ++ [event]) = event.snapshot?.or (lastRead events) := by
  cases h : event.snapshot? <;> simp [lastRead, List.filterMap_append, h]

/-- The error of the flags after an outcome. -/
def errorAfter : Option (Outcome Instant) → Option String
  | some .failure => some failureText
  | _ => none

/-- The flows as the events so far leave them. -/
structure Tracks (events : List (Event Instant)) (s : State Instant) : Prop where
  exclusive : s.calls.Exclusive Phase.inside
  status : s.status = lastRead events
  error : s.flags.error = errorAfter (lastCompleted events)
  stored : ∀ i snapshot, s.calls.phase i = .stored snapshot → s.status = some snapshot
  success : ∀ snapshot, lastCompleted events = some (.success snapshot) →
    s.status = some snapshot ∨ ∃ i other, s.calls.phase i = .stored other
  finished : ∀ i, s.calls.phase i = .finished → s.flags.refreshing = false
  idle : s.calls.holder = none → s.flags.refreshing = false ∨ lastCompleted events = none

lemma tracks_initial : Tracks [] (initial : State Instant) where
  exclusive := Tasks.exclusive_start rfl
  status := rfl
  error := rfl
  stored := nofun
  success := nofun
  finished := nofun
  idle _ := .inr rfl

/-- Another call that has stored its snapshot stays where it is. -/
lemma stored_update {f : ℕ → Phase Instant} {i : ℕ} {p : Phase Instant}
    (hi : ∀ other, f i ≠ .stored other) (h : ∃ j other, f j = .stored other) :
    ∃ j other, Function.update f i p j = .stored other := by
  obtain ⟨j, other, hj⟩ := h
  have hne : j ≠ i := by
    rintro rfl
    exact hi other hj
  exact ⟨j, other, by rwa [Function.update_of_ne hne]⟩

namespace Tracks

variable {events : List (Event Instant)} {s : State Instant} {event : Event Instant} {i : ℕ}
  {q : Phase Instant}

/-- A call inside its critical section holds the mutex. -/
lemma holder (h : Tracks events s) {p : Phase Instant} (here : s.calls.phase i = p)
    (hp : p.inside = true) : s.calls.holder = some i :=
  (h.exclusive i).mp (by rw [here, hp])

/-- The call that holds the mutex is the only one in a phase inside. -/
lemma only (h : Tracks events s) {j : ℕ} {p p' : Phase Instant} (hi : s.calls.phase i = p)
    (hp : p.inside = true) (hj : s.calls.phase j = p') (hp' : p'.inside = true) : j = i :=
  h.exclusive.unique (by rw [hj, hp']) (by rw [hi, hp])

/-- A step that reads nothing and completes nothing. -/
lemma quiet (h : Tracks events s) {calls : Tasks ℕ (Phase Instant)} {refreshing : Bool}
    (hphase : calls.phase = Function.update s.calls.phase i q)
    (hexclusive : calls.Exclusive Phase.inside)
    (hfrom : ∀ other, s.calls.phase i ≠ .stored other) (hto : ∀ other, q ≠ .stored other)
    (hfinished : ∀ j, calls.phase j = .finished → refreshing = false)
    (hidle : calls.holder = none → refreshing = false ∨ lastCompleted events = none)
    (houtcome : event.outcome? = none) (hsnapshot : event.snapshot? = none) :
    Tracks (events ++ [event])
      { s with flags := { s.flags with refreshing := refreshing }, calls := calls } where
  exclusive := hexclusive
  status := by simpa [hsnapshot] using h.status
  error := by simpa [houtcome] using h.error
  stored j snapshot hj := by
    rw [hphase] at hj
    exact h.stored j snapshot (Tasks.of_update hj (hto snapshot))
  success snapshot hlast := by
    rw [lastCompleted_append, houtcome, Option.none_or] at hlast
    rw [hphase]
    exact (h.success snapshot hlast).imp_right (stored_update hfrom)
  finished := hfinished
  idle hfree := by simpa [houtcome] using hidle hfree

end Tracks

/-- One step keeps the flows as the events leave them. -/
lemma tracks_step {events : List (Event Instant)} {s s' : State Instant} {event : Event Instant}
    (h : Tracks events s) (hstep : Step s event s') : Tracks (events ++ [event]) s' := by
  cases hstep with
  | @lock i here free =>
    exact h.quiet rfl (h.exclusive.acquire free rfl) (by simp [here]) nofun
      (fun j hj => h.finished j (Tasks.of_update hj nofun)) nofun rfl rfl
  | @begin i here =>
    have hholder := h.holder here rfl
    refine h.quiet rfl (h.exclusive.move (by rw [here]; rfl)) (by simp [here]) nofun
      (fun j hj => ?_) (fun hfree => by simp [hholder] at hfree) rfl rfl
    have hfinished := Tasks.of_update hj nofun
    rw [h.only here rfl hfinished rfl, here] at hfinished
    cases hfinished
  | @read i snapshot here =>
    have hholder := h.holder here rfl
    constructor
    case exclusive => exact h.exclusive.move (by rw [here]; rfl)
    case status => simp [Event.snapshot?]
    case error => simpa [Event.outcome?] using h.error
    case stored =>
      intro j other hj
      by_cases hne : j = i
      · subst hne
        cases (Function.update_self j _ s.calls.phase).symm.trans hj
        rfl
      · have hstored : s.calls.phase j = .stored other := (Function.update_of_ne hne _ _).symm.trans hj
        exact absurd (h.only here rfl hstored rfl) hne
    case success => exact fun _ _ => .inr ⟨i, snapshot, Function.update_self i _ _⟩
    case finished => exact fun j hj => h.finished j (Tasks.of_update hj nofun)
    case idle => exact fun hfree => by simp [hholder] at hfree
  | @readThrows i here =>
    have hholder := h.holder here rfl
    exact h.quiet rfl (h.exclusive.move (by rw [here]; rfl)) (by simp [here]) nofun
      (fun j hj => h.finished j (Tasks.of_update hj nofun)) (fun hfree => by simp [hholder] at hfree)
      rfl rfl
  | @succeed i snapshot here =>
    have hholder := h.holder here rfl
    constructor
    case exclusive => exact h.exclusive.move (by rw [here]; rfl)
    case status => simpa [Event.snapshot?] using h.status
    case error => simp [Event.outcome?, errorAfter]
    case stored => exact fun j other hj => h.stored j other (Tasks.of_update hj nofun)
    case success =>
      intro other hlast
      simp only [lastCompleted_append, Event.outcome?, Option.some_or, Option.some.injEq,
        Outcome.success.injEq] at hlast
      subst hlast
      exact .inl (h.stored i snapshot here)
    case finished => exact fun j hj => h.finished j (Tasks.of_update hj nofun)
    case idle => exact fun hfree => by simp [hholder] at hfree
  | @fail i here =>
    have hholder := h.holder here rfl
    constructor
    case exclusive => exact h.exclusive.move (by rw [here]; rfl)
    case status => simpa [Event.snapshot?] using h.status
    case error => simp [Event.outcome?, errorAfter]
    case stored => exact fun j other hj => h.stored j other (Tasks.of_update hj nofun)
    case success =>
      intro other hlast
      simp [Event.outcome?] at hlast
    case finished => exact fun j hj => h.finished j (Tasks.of_update hj nofun)
    case idle => exact fun hfree => by simp [hholder] at hfree
  | @cancelWaiting i here =>
    exact h.quiet rfl (h.exclusive.move (by rw [here]; rfl)) (by simp [here]) nofun
      (fun j hj => h.finished j (Tasks.of_update hj nofun)) h.idle rfl rfl
  | @cancelReading i here =>
    have hholder := h.holder here rfl
    exact h.quiet rfl (h.exclusive.move (by rw [here]; rfl)) (by simp [here]) nofun
      (fun j hj => h.finished j (Tasks.of_update hj nofun)) (fun hfree => by simp [hholder] at hfree)
      rfl rfl
  | @clear i here =>
    exact h.quiet rfl (h.exclusive.move (by rw [here]; rfl)) (by simp [here]) nofun
      (fun _ _ => rfl) (fun _ => .inl rfl) rfl rfl
  | @unlock i here =>
    have hcleared := h.finished i here
    exact h.quiet rfl (h.exclusive.release (by rw [here]; rfl) rfl) (by simp [here]) nofun
      (fun _ _ => hcleared) (fun _ => .inl hcleared) rfl rfl

/-- Every run keeps the flows as its events leave them. -/
lemma tracks_run {events : List (Event Instant)} {s : State Instant}
    (h : Run Step initial events s) : Tracks events s :=
  h.invariant tracks_initial fun _ _ _ _ => tracks_step

/-- What the window and the menu bar show after some refresh completed. -/
structure ShowsLast (formats : Formats Instant) (events : List (Event Instant))
    (s : State Instant) : Prop where
  failed : lastCompleted events = some .failure →
    (uiState formats s).trayReading = TrayReading.unknown ∧
      (uiState formats s).window = windowOf formats (lastRead events) ∧
      ((uiState formats s).displayState = .error ↔ lastRead events = none)
  succeeded : ∀ snapshot, lastCompleted events = some (.success snapshot) →
    s.calls.holder = none →
    (uiState formats s).error = none ∧ (uiState formats s).refreshing = false ∧
      (uiState formats s).trayReading = TrayReading.ofSnapshot (some snapshot)

/-- In every state of every interleaving of refreshes, a failed refresh leaves nothing in the menu
bar and the last snapshot in the window, and a refresh that succeeded leaves its own snapshot in
both. -/
theorem refreshes_show_last (formats : Formats Instant) {events : List (Event Instant)}
    {s : State Instant} (h : Run Step initial events s) : ShowsLast formats events s := by
  have htracks := tracks_run h
  constructor
  case failed =>
    intro hlast
    have herror : s.flags.error = some failureText := by
      rw [htracks.error, hlast]
      rfl
    refine ⟨trayReading_of_error (by simp [herror]), ?_, ?_⟩
    · rw [← htracks.status]
      rfl
    · rw [← htracks.status]
      exact displayState_error_iff.trans (and_iff_left (by simp [herror]))
  case succeeded =>
    intro snapshot hlast hfree
    have herror : s.flags.error = none := by
      rw [htracks.error, hlast]
      rfl
    have hrefreshing : s.flags.refreshing = false :=
      (htracks.idle hfree).resolve_right (by simp [hlast])
    have hstatus : s.status = some snapshot := by
      refine (htracks.success snapshot hlast).resolve_right ?_
      rintro ⟨i, other, hi⟩
      have houtside := htracks.exclusive.outside hfree (i := i)
      rw [hi] at houtside
      cases houtside
    refine ⟨herror, hrefreshing, ?_⟩
    simp only [uiState, MonitorUi.map, herror, if_true, hstatus]

/-- A refresh that reads a stopped fan, and one after it that fails. -/
theorem failed_after_success_shown :
    ∃ (events : List (Event Unit)) (s : State Unit), Run Step initial events s ∧
      lastCompleted events = some .failure ∧ lastRead events = some stoppedSnapshot ∧
      ShowsLast ⟨fun _ _ => "0", fun _ => ""⟩ events s := by
  have h1 := Run.next .start (@Step.lock Unit initial 0 rfl rfl)
  have h2 := h1.next (.begin (i := 0) rfl)
  have h3 := h2.next (@Step.read Unit _ 0 stoppedSnapshot rfl)
  have h4 := h3.next (.succeed (i := 0) rfl)
  have h5 := h4.next (.clear (i := 0) rfl)
  have h6 := h5.next (.unlock (i := 0) rfl)
  have h7 := h6.next (.lock (i := 1) rfl rfl)
  have h8 := h7.next (.begin (i := 1) rfl)
  have h9 := h8.next (.readThrows (i := 1) rfl)
  have h10 := h9.next (.fail (i := 1) rfl)
  exact ⟨_, _, h10, rfl, rfl, refreshes_show_last _ h10⟩

end MonitorRefresh
end Ventilator
