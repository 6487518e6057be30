import Ventilator.MutexRuns
import Ventilator.TrayLine

/-! The sends of `MenuBarBridge.kt`, which the `LaunchedEffect` of `DesktopMain.kt` starts and
cancels with every new tray reading and every change of the window's visibility, while the bridge is
not stopped. -/
namespace Ventilator
open KotlinRead MutexRuns

namespace MenuBarSend

/-- Where one `send` is, with the line it sends. -/
inductive Phase
  | absent
  /-- The effect is launched and its coroutine has not started. -/
  | created (line : List Char)
  /-- Suspended in `writeMutex.withLock`. -/
  | waiting (line : List Char)
  /-- Suspended in `withContext`, whose block has not begun. -/
  | locked (line : List Char)
  /-- In the block, before `write`. -/
  | writing (line : List Char)
  /-- In the block, before `flush`. -/
  | flushing
  /-- The block is done and the send not resumed yet. -/
  | written
  /-- The block threw and the send is not resumed yet. -/
  | failed
  | done

/-- The phases in which a send holds the mutex. -/
def Phase.inside : Phase → Bool
  | locked _ => true
  | writing _ => true
  | flushing => true
  | written => true
  | failed => true
  | _ => false

/-- The sends by number, the stream to the child with its buffer, and what `send` has told. -/
structure State where
  sends : Tasks ℕ Phase
  /-- The effects that were cancelled by a newer one. -/
  superseded : ℕ → Bool
  current : Option ℕ
  next : ℕ
  buffer : List Char
  received : List Char
  /-- The sends that called `onLost`. -/
  lost : List ℕ
  /-- The sends whose `write` or `flush` failed. -/
  failures : List ℕ

def initial : State := ⟨⟨fun _ => .absent, none⟩, fun _ => false, none, 0, [], [], [], []⟩

inductive Event
  | update (reading : TrayReading) (windowVisible : Bool)
  | drop (send : ℕ)
  | start (send : ℕ)
  | wake (send : ℕ)
  | begin (send : ℕ)
  | write (send : ℕ)
  | writeFails (send : ℕ)
  | flush (send : ℕ)
  | flushFails (send : ℕ)
  | resume (send : ℕ)

variable (doubleToString : Double → List Char)

/-- The effect is cancelled, if there was one. -/
def supersede (s : State) : ℕ → Bool :=
  match s.current with
  | none => s.superseded
  | some current => Function.update s.superseded current true

/-- The `catch` of `send`, which every exception reaches: it tells that the connection is lost. -/
def caught (s : State) (i : ℕ) (sends : Tasks ℕ Phase) : State :=
  { s with sends := sends, lost := i :: s.lost }

/-- The steps of the effects and of their sends, with a child or without one. A send that was
cancelled is resumed with the cancellation, except after a failed write. -/
inductive Step (child : Bool) : State → Event → State → Prop
  | update {s : State} {reading : TrayReading} {windowVisible : Bool} :
    Step child s (.update reading windowVisible)
      { s with
        sends := s.sends.move s.next (.created (reading.wireLine doubleToString windowVisible))
        superseded := supersede s, current := some s.next, next := s.next + 1 }
  | drop {s : State} {i : ℕ} {line : List Char} (here : s.sends.phase i = .created line)
    (cancelled : s.superseded i = true) :
    Step child s (.drop i) { s with sends := s.sends.move i .done }
  | startWithout {s : State} {i : ℕ} {line : List Char}
    (here : s.sends.phase i = .created line) (active : s.superseded i = false)
    (absent : child = false) :
    Step child s (.start i) { s with sends := s.sends.move i .done }
  | startFree {s : State} {i : ℕ} {line : List Char} (here : s.sends.phase i = .created line)
    (active : s.superseded i = false) (present : child = true) (free : s.sends.holder = none) :
    Step child s (.start i) { s with sends := s.sends.acquire i (.locked line) }
  | startBusy {s : State} {i j : ℕ} {line : List Char} (here : s.sends.phase i = .created line)
    (active : s.superseded i = false) (present : child = true)
    (held : s.sends.holder = some j) :
    Step child s (.start i) { s with sends := s.sends.move i (.waiting line) }
  | wake {s : State} {i : ℕ} {line : List Char} (here : s.sends.phase i = .waiting line)
    (active : s.superseded i = false) (free : s.sends.holder = none) :
    Step child s (.wake i) { s with sends := s.sends.acquire i (.locked line) }
  | wakeCancelled {s : State} {i : ℕ} {line : List Char} (here : s.sends.phase i = .waiting line)
    (cancelled : s.superseded i = true) :
    Step child s (.wake i) (caught s i (s.sends.move i .done))
  | begin {s : State} {i : ℕ} {line : List Char} (here : s.sends.phase i = .locked line)
    (active : s.superseded i = false) :
    Step child s (.begin i) { s with sends := s.sends.move i (.writing line) }
  | beginCancelled {s : State} {i : ℕ} {line : List Char} (here : s.sends.phase i = .locked line)
    (cancelled : s.superseded i = true) :
    Step child s (.begin i) (caught s i (s.sends.release i .done))
  -- The block is not interrupted: `write` puts the line in the buffer and `flush` sends the buffer.
  | write {s : State} {i : ℕ} {line : List Char} (here : s.sends.phase i = .writing line) :
    Step child s (.write i)
      { s with sends := s.sends.move i .flushing, buffer := s.buffer ++ line }
  | writeFails {s : State} {i : ℕ} {line : List Char} (here : s.sends.phase i = .writing line) :
    Step child s (.writeFails i)
      { s with sends := s.sends.move i .failed, failures := i :: s.failures }
  | flush {s : State} {i : ℕ} (here : s.sends.phase i = .flushing) :
    Step child s (.flush i)
      { s with
        sends := s.sends.move i .written, received := s.received ++ s.buffer, buffer := [] }
  -- A pipe that fails gives the child nothing, and the buffer keeps its lines.
  | flushFails {s : State} {i : ℕ} (here : s.sends.phase i = .flushing) :
    Step child s (.flushFails i)
      { s with sends := s.sends.move i .failed, failures := i :: s.failures }
  | resume {s : State} {i : ℕ} (here : s.sends.phase i = .written)
    (active : s.superseded i = false) :
    Step child s (.resume i) { s with sends := s.sends.release i .done }
  | resumeCancelled {s : State} {i : ℕ} (here : s.sends.phase i = .written)
    (cancelled : s.superseded i = true) :
    Step child s (.resume i) (caught s i (s.sends.release i .done))
  | resumeFailed {s : State} {i : ℕ} (here : s.sends.phase i = .failed) :
    Step child s (.resume i) (caught s i (s.sends.release i .done))

/-- `onLost` was called only by sends whose write or flush failed. -/
def OnlyFailures (s : State) : Prop := ∀ i ∈ s.lost, i ∈ s.failures

/-- A text made of complete wire lines. -/
def WholeLines (text : List Char) : Prop :=
  ∃ lines : List (TrayReading × Bool),
    text = lines.flatMap fun line => line.1.wireLine doubleToString line.2

/-- No send is resumed after a newer one has superseded it, unless its write failed. -/
def NotSuperseded (s : State) : Event → Prop
  | .wake i => s.superseded i = false
  | .begin i => s.superseded i = false
  | .resume i => s.superseded i = false ∨ s.sends.phase i = .failed
  | _ => True

/-! What every run keeps. -/

/-- The line a send still has to write. -/
def Phase.line? : Phase → Option (List Char)
  | created line => some line
  | waiting line => some line
  | locked line => some line
  | writing line => some line
  | _ => none

def IsLine (text : List Char) : Prop :=
  ∃ (reading : TrayReading) (windowVisible : Bool),
    text = reading.wireLine doubleToString windowVisible

structure Kept (s : State) : Prop where
  exclusive : s.sends.Exclusive Phase.inside
  absent : ∀ i, s.next ≤ i → s.sends.phase i = .absent
  lost : ∀ i ∈ s.lost, s.sends.phase i = .done
  failures : ∀ i ∈ s.failures, s.sends.phase i = .failed ∨ s.sends.phase i = .done
  failed : ∀ i, s.sends.phase i = .failed → i ∈ s.failures
  lines : ∀ i line, (s.sends.phase i).line? = some line → IsLine doubleToString line
  buffer : WholeLines doubleToString s.buffer
  received : WholeLines doubleToString s.received

variable {doubleToString}

lemma wholeLines_nil : WholeLines doubleToString [] := ⟨[], rfl⟩

lemma WholeLines.append {first second : List Char} (h : WholeLines doubleToString first)
    (h' : WholeLines doubleToString second) : WholeLines doubleToString (first ++ second) := by
  obtain ⟨lines, rfl⟩ := h
  obtain ⟨lines', rfl⟩ := h'
  exact ⟨lines ++ lines', List.flatMap_append.symm⟩

lemma IsLine.wholeLines {line : List Char} (h : IsLine doubleToString line) :
    WholeLines doubleToString line := by
  obtain ⟨reading, windowVisible, rfl⟩ := h
  exact ⟨[(reading, windowVisible)], by simp⟩

lemma kept_initial : Kept doubleToString initial where
  exclusive := Tasks.exclusive_start rfl
  absent _ _ := rfl
  lost := nofun
  failures := nofun
  failed := nofun
  lines := nofun
  buffer := wholeLines_nil
  received := wholeLines_nil

namespace Kept

variable {s : State} {i : ℕ} {p : Phase}

/-- A send that has begun and goes on to another phase. -/
lemma onward (h : Kept doubleToString s) {sends : Tasks ℕ Phase} {buffer received : List Char}
    {lost failures : List ℕ} (hphase : sends.phase = Function.update s.sends.phase i p)
    (hexclusive : sends.Exclusive Phase.inside) (hpresent : s.sends.phase i ≠ .absent)
    (hunfinished : s.sends.phase i ≠ .done)
    (hlost : ∀ j ∈ lost, j ∈ s.lost ∨ j = i ∧ p = .done)
    (hfailures : ∀ j ∈ failures, j ∈ s.failures ∨ j = i ∧ p = .failed)
    (hsubset : s.failures ⊆ failures) (hfailed : p = .failed → i ∈ failures)
    (hfrom : s.sends.phase i = .failed → p = .done)
    (hline : ∀ line, p.line? = some line → IsLine doubleToString line)
    (hbuffer : WholeLines doubleToString buffer) (hreceived : WholeLines doubleToString received) :
    Kept doubleToString
      { s with sends := sends, buffer := buffer, received := received, lost := lost,
               failures := failures } := by
  have hother : ∀ {j : ℕ}, j ≠ i → sends.phase j = s.sends.phase j := fun hj => by
    rw [hphase, Function.update_of_ne hj]
  have hself : sends.phase i = p := by rw [hphase, Function.update_self]
  constructor
  case exclusive => exact hexclusive
  case absent =>
    intro j hj
    have hne : j ≠ i := by
      rintro rfl
      exact hpresent (h.absent j hj)
    rw [hother hne]
    exact h.absent j hj
  case lost =>
    intro j hj
    rcases hlost j hj with hj | ⟨rfl, rfl⟩
    · have hne : j ≠ i := by
        rintro rfl
        exact hunfinished (h.lost j hj)
      rw [hother hne]
      exact h.lost j hj
    · exact hself
  case failures =>
    intro j hj
    rcases hfailures j hj with hj | ⟨rfl, rfl⟩
    · by_cases hne : j = i
      · subst hne
        rw [hself]
        exact .inr (hfrom ((h.failures j hj).resolve_right hunfinished))
      · rw [hother hne]
        exact h.failures j hj
    · exact .inl hself
  case failed =>
    intro j hj
    by_cases hne : j = i
    · subst hne
      exact hfailed (hself.symm.trans hj)
    · rw [hother hne] at hj
      exact hsubset (h.failed j hj)
  case lines =>
    intro j line hj
    by_cases hne : j = i
    · subst hne
      rw [hself] at hj
      exact hline line hj
    · rw [hother hne] at hj
      exact h.lines j line hj
  case buffer => exact hbuffer
  case received => exact hreceived

/-- A send that goes on and tells and writes nothing. -/
lemma quiet (h : Kept doubleToString s) {q : Phase} {sends : Tasks ℕ Phase}
    (here : s.sends.phase i = q) (hphase : sends.phase = Function.update s.sends.phase i p)
    (hexclusive : sends.Exclusive Phase.inside) (hpresent : q ≠ .absent) (hunfinished : q ≠ .done)
    (hp : p ≠ .failed) (hq : q = .failed → p = .done)
    (hline : ∀ line, p.line? = some line → q.line? = some line) :
    Kept doubleToString { s with sends := sends } :=
  h.onward hphase hexclusive (by rwa [here]) (by rwa [here]) (fun _ => .inl) (fun _ => .inl)
    (List.Subset.refl _) (fun hcontra => absurd hcontra hp) (by rwa [here])
    (fun line hsome => h.lines i line (by rw [here, hline line hsome])) h.buffer h.received

/-- A send that ends in its `catch`. -/
lemma ended (h : Kept doubleToString s) {q : Phase} {sends : Tasks ℕ Phase}
    (here : s.sends.phase i = q) (hphase : sends.phase = Function.update s.sends.phase i .done)
    (hexclusive : sends.Exclusive Phase.inside) (hpresent : q ≠ .absent)
    (hunfinished : q ≠ .done) : Kept doubleToString (caught s i sends) :=
  h.onward hphase hexclusive (by rwa [here]) (by rwa [here])
    (fun _ hj => (List.mem_cons.mp hj).symm.imp_right fun hj => ⟨hj, rfl⟩) (fun _ => .inl)
    (List.Subset.refl _) nofun (fun _ => rfl) nofun h.buffer h.received

/-- A send whose write or flush fails. -/
lemma broken (h : Kept doubleToString s) {q : Phase} (here : s.sends.phase i = q)
    (hinside : q.inside = true) (hunfinished : q ≠ .done) (hq : q ≠ .failed) :
    Kept doubleToString
      { s with sends := s.sends.move i .failed, failures := i :: s.failures } :=
  h.onward rfl (h.exclusive.move (by rw [here, hinside]; rfl))
    (by rw [here]; rintro rfl; cases hinside) (by rwa [here]) (fun _ => .inl)
    (fun _ hj => (List.mem_cons.mp hj).symm.imp_right fun hj => ⟨hj, rfl⟩)
    (List.subset_cons_self _ _) (fun _ => List.mem_cons_self) (by rw [here]; exact (absurd · hq))
    nofun h.buffer h.received

/-- A new effect, which cancels the one before. -/
lemma update (h : Kept doubleToString s) (reading : TrayReading) (windowVisible : Bool) :
    Kept doubleToString
      { s with
        sends := s.sends.move s.next (.created (reading.wireLine doubleToString windowVisible))
        superseded := supersede s, current := some s.next, next := s.next + 1 } := by
  have habsent := h.absent s.next le_rfl
  have hkept : ∀ {j : ℕ}, s.sends.phase j ≠ .absent → Function.update s.sends.phase s.next
      (.created (reading.wireLine doubleToString windowVisible)) j = s.sends.phase j := by
    intro j hj
    refine Function.update_of_ne ?_ _ _
    rintro rfl
    exact hj habsent
  constructor
  case exclusive => exact h.exclusive.move (by rw [habsent]; rfl)
  case absent =>
    intro j hj
    have hlt : s.next < j := hj
    exact (Function.update_of_ne hlt.ne' _ _).trans (h.absent j hlt.le)
  case lost =>
    intro j hj
    have hdone := h.lost j hj
    exact (hkept (by rw [hdone]; nofun)).trans hdone
  case failures =>
    intro j hj
    rcases h.failures j hj with hphase | hphase
    · exact .inl ((hkept (by rw [hphase]; nofun)).trans hphase)
    · exact .inr ((hkept (by rw [hphase]; nofun)).trans hphase)
  case failed => exact fun j hj => h.failed j (Tasks.of_update hj nofun)
  case lines =>
    intro j line hj
    by_cases hne : j = s.next
    · subst hne
      have hnew : Function.update s.sends.phase s.next
          (.created (reading.wireLine doubleToString windowVisible)) s.next = _ :=
        Function.update_self _ _ _
      rw [Tasks.move_phase, hnew] at hj
      cases hj
      exact ⟨reading, windowVisible, rfl⟩
    · rw [Tasks.move_phase, Function.update_of_ne hne] at hj
      exact h.lines j line hj
  case buffer => exact h.buffer
  case received => exact h.received

end Kept

lemma kept_step {child : Bool} {s s' : State} {event : Event} (h : Kept doubleToString s)
    (hstep : Step doubleToString child s event s') : Kept doubleToString s' := by
  cases hstep with
  | @update reading windowVisible => exact h.update reading windowVisible
  | @drop i line here cancelled =>
    exact h.quiet here rfl (h.exclusive.move (by rw [here]; rfl)) nofun nofun nofun nofun nofun
  | @startWithout i line here active absent =>
    exact h.quiet here rfl (h.exclusive.move (by rw [here]; rfl)) nofun nofun nofun nofun nofun
  | @startFree i line here active present free =>
    exact h.quiet here rfl (h.exclusive.acquire free rfl) nofun nofun nofun nofun fun _ => id
  | @startBusy i j line here active present held =>
    exact h.quiet here rfl (h.exclusive.move (by rw [here]; rfl)) nofun nofun nofun nofun fun _ => id
  | @wake i line here active free =>
    exact h.quiet here rfl (h.exclusive.acquire free rfl) nofun nofun nofun nofun fun _ => id
  | @wakeCancelled i line here cancelled =>
    exact h.ended here rfl (h.exclusive.move (by rw [here]; rfl)) nofun nofun
  | @begin i line here active =>
    exact h.quiet here rfl (h.exclusive.move (by rw [here]; rfl)) nofun nofun nofun nofun fun _ => id
  | @beginCancelled i line here cancelled =>
    exact h.ended here rfl (h.exclusive.release (by rw [here]; rfl) rfl) nofun nofun
  | @write i line here =>
    have hline := h.lines i line (by rw [here]; rfl)
    exact h.onward rfl (h.exclusive.move (by rw [here]; rfl)) (by rw [here]; nofun)
      (by rw [here]; nofun) (fun _ => .inl) (fun _ => .inl) (List.Subset.refl _) nofun
      (by rw [here]; nofun) nofun (h.buffer.append hline.wholeLines) h.received
  | @writeFails i line here => exact h.broken here rfl nofun nofun
  | @flush i here =>
    exact h.onward rfl (h.exclusive.move (by rw [here]; rfl)) (by rw [here]; nofun)
      (by rw [here]; nofun) (fun _ => .inl) (fun _ => .inl) (List.Subset.refl _) nofun
      (by rw [here]; nofun) nofun wholeLines_nil (h.received.append h.buffer)
  | @flushFails i here => exact h.broken here rfl nofun nofun
  | @resume i here active =>
    exact h.quiet here rfl (h.exclusive.release (by rw [here]; rfl) rfl) nofun nofun nofun nofun
      nofun
  | @resumeCancelled i here cancelled =>
    exact h.ended here rfl (h.exclusive.release (by rw [here]; rfl) rfl) nofun nofun
  | @resumeFailed i here =>
    exact h.ended here rfl (h.exclusive.release (by rw [here]; rfl) rfl) nofun nofun

/-- What happens after a step tells only of failures exactly when it did before and no superseded
send is resumed. -/
lemma onlyFailures_step {child : Bool} {s s' : State} {event : Event}
    (h : Kept doubleToString s) (hstep : Step doubleToString child s event s') :
    OnlyFailures s' ↔ OnlyFailures s ∧ NotSuperseded s event := by
  -- A send that has not failed is not among the failures.
  have hclean : ∀ {i : ℕ} {q : Phase}, s.sends.phase i = q → q ≠ .failed → q ≠ .done →
      i ∉ s.failures := fun here hq hq' hi => by
    rcases h.failures _ hi with hphase | hphase
    · exact hq (here.symm.trans hphase)
    · exact hq' (here.symm.trans hphase)
  have hcaught : ∀ {i : ℕ} {sends : Tasks ℕ Phase}, i ∉ s.failures →
      ¬ OnlyFailures (caught s i sends) := fun hi hall => hi (hall _ List.mem_cons_self)
  have hbroken : ∀ {i : ℕ} {q : Phase}, s.sends.phase i = q → q ≠ .done →
      ((∀ j ∈ s.lost, j ∈ i :: s.failures) ↔ OnlyFailures s) := by
    intro i q here hq
    refine ⟨fun hall j hj => ?_, fun hall j hj => List.mem_cons_of_mem _ (hall j hj)⟩
    refine (List.mem_cons.mp (hall j hj)).resolve_left ?_
    rintro rfl
    exact hq (here.symm.trans (h.lost j hj))
  cases hstep with
  | update => exact (and_iff_left trivial).symm
  | drop => exact (and_iff_left trivial).symm
  | startWithout => exact (and_iff_left trivial).symm
  | startFree => exact (and_iff_left trivial).symm
  | startBusy => exact (and_iff_left trivial).symm
  | wake here active => exact (and_iff_left active).symm
  | wakeCancelled here cancelled =>
    refine iff_of_false (hcaught (hclean here nofun nofun)) fun hnot => ?_
    exact absurd (cancelled.symm.trans hnot.2) nofun
  | begin here active => exact (and_iff_left active).symm
  | beginCancelled here cancelled =>
    refine iff_of_false (hcaught (hclean here nofun nofun)) fun hnot => ?_
    exact absurd (cancelled.symm.trans hnot.2) nofun
  | write => exact (and_iff_left trivial).symm
  | writeFails here => exact (hbroken here nofun).trans (and_iff_left trivial).symm
  | flush => exact (and_iff_left trivial).symm
  | flushFails here => exact (hbroken here nofun).trans (and_iff_left trivial).symm
  | resume here active => exact (and_iff_left (.inl active)).symm
  | resumeCancelled here cancelled =>
    refine iff_of_false (hcaught (hclean here nofun nofun)) fun hnot => ?_
    rcases hnot.2 with hactive | hfailed
    · exact absurd (cancelled.symm.trans hactive) nofun
    · exact absurd (here.symm.trans hfailed) nofun
  | @resumeFailed i here =>
    have hfailed := h.failed i here
    have hall : OnlyFailures (caught s i (s.sends.release i .done)) ↔ OnlyFailures s := by
      refine ⟨fun hall j hj => hall j (List.mem_cons_of_mem _ hj), fun hall j hj => ?_⟩
      rcases List.mem_cons.mp hj with rfl | hj
      · exact hfailed
      · exact hall j hj
    exact hall.trans (and_iff_left (.inr here)).symm

lemma kept_run {child : Bool} {events : List Event} {s : State}
    (h : Run (Step doubleToString child) initial events s) : Kept doubleToString s :=
  h.invariant (I := fun _ s => Kept doubleToString s) kept_initial
    fun _ _ _ _ hkept hstep => kept_step hkept hstep

/-- A run that tells only of failures resumes no superseded send. -/
lemma runWhere_of_onlyFailures {child : Bool} {events : List Event} {s : State}
    (h : Run (Step doubleToString child) initial events s) (hall : OnlyFailures s) :
    RunWhere NotSuperseded (Step doubleToString child) initial events s := by
  induction h with
  | start => exact .start
  | next before stepped ih =>
    obtain ⟨hbefore, hmet⟩ := (onlyFailures_step (kept_run before) stepped).mp hall
    exact (ih hbefore).next stepped hmet

lemma onlyFailures_of_runWhere {child : Bool} {events : List Event} {s : State}
    (h : RunWhere NotSuperseded (Step doubleToString child) initial events s) :
    OnlyFailures s :=
  (h.invariant (I := fun _ s => Kept doubleToString s ∧ OnlyFailures s) ⟨kept_initial, nofun⟩
    fun _ _ _ _ hkept hmet hstep =>
      ⟨kept_step hkept.1 hstep, (onlyFailures_step hkept.1 hstep).mpr ⟨hkept.2, hmet⟩⟩).2

/-- `send` tells that the connection is lost only after a failed write, and the child gets complete
lines, in exactly the runs that resume no superseded send. -/
theorem lost_only_by_failure_iff {child : Bool} {events : List Event} {s : State}
    (h : Run (Step doubleToString child) initial events s) :
    (OnlyFailures s ∧ WholeLines doubleToString s.received) ↔
      RunWhere NotSuperseded (Step doubleToString child) initial events s :=
  ⟨fun hall => runWhere_of_onlyFailures h hall.1,
    fun hmet => ⟨onlyFailures_of_runWhere hmet, (kept_run h).received⟩⟩

/-- One reading is written and read by the child. -/
theorem uncontended_send_arrives :
    ∃ (events : List Event) (s : State),
      Run (Step (fun _ => ['0']) true) initial events s ∧ s.lost = [] ∧
        s.received = TrayReading.unknown.wireLine (fun _ => ['0']) true ∧
        (OnlyFailures s ∧ WholeLines (fun _ => ['0']) s.received) := by
  have h0 : RunWhere NotSuperseded (Step (fun _ => ['0']) true) initial [] _ := .start
  have h1 := h0.next (@Step.update _ true _ TrayReading.unknown true) trivial
  have h2 := h1.next (@Step.startFree _ true _ 0 _ rfl rfl rfl rfl) trivial
  have h3 := h2.next (@Step.begin _ true _ 0 _ rfl rfl) rfl
  have h4 := h3.next (@Step.write _ true _ 0 _ rfl) trivial
  have h5 := h4.next (@Step.flush _ true _ 0 rfl) trivial
  have h6 := h5.next (@Step.resume _ true _ 0 rfl rfl) (.inl rfl)
  exact ⟨_, _, h6.run, rfl, rfl, (lost_only_by_failure_iff h6.run).mpr h6⟩

/-- A reading that changes while the one before it is written: the first line arrives whole, and the
connection is reported lost. -/
theorem superseded_send_reports_loss :
    ∃ (events : List Event) (s : State),
      Run (Step (fun _ => ['0']) true) initial events s ∧ s.lost = [0] ∧ s.failures = [] ∧
        s.received = TrayReading.unknown.wireLine (fun _ => ['0']) true ∧ ¬ OnlyFailures s := by
  have h1 := Run.next .start (@Step.update (fun _ => ['0']) true initial TrayReading.unknown true)
  have h2 := h1.next (@Step.startFree _ true _ 0 _ rfl rfl rfl rfl)
  have h3 := h2.next (@Step.begin _ true _ 0 _ rfl rfl)
  have h4 := h3.next (@Step.write _ true _ 0 _ rfl)
  have h5 := h4.next (@Step.update _ true _ TrayReading.unknown false)
  have h6 := h5.next (@Step.flush _ true _ 0 rfl)
  have h7 := h6.next (@Step.resumeCancelled _ true _ 0 rfl rfl)
  exact ⟨_, _, h7, rfl, rfl, rfl, fun hall => nomatch hall 0 List.mem_cons_self⟩

end MenuBarSend
end Ventilator
