import Ventilator.MutexRuns

/-! The login item of `LoginItemViewModel.kt` over `NativeLoginItemRepository.kt`: one poll and any
number of `SetEnabled` actions. The actions share a mutex, which the poll does not take. -/
namespace Ventilator
open MutexRuns

namespace LoginItem

inductive LoginItemStatus
  | disabled
  | enabled
  | requiresApproval
  | notFound
  | unavailable
  deriving DecidableEq

/-- `readStatus`, from what `statusNative` returns; a missing bridge or a failed call is `none`. -/
def readStatus : Option ℤ → LoginItemStatus
  | some 0 => .disabled
  | some 1 => .enabled
  | some 2 => .requiresApproval
  | some 3 => .notFound
  | _ => .unavailable

/-- A status, with the time at which macOS was asked for it. -/
structure Reading where
  status : LoginItemStatus
  readAt : ℕ
  deriving DecidableEq

/-- Where one `SetEnabled` action is. The time of its native call goes along. -/
inductive ActionPhase
  /-- Not begun, or suspended in `withLock`. -/
  | waiting
  /-- In the `withContext` of `setEnabled`, before the native call. -/
  | setting (enabled : Bool)
  /-- The native call was made, and returned an error or none. -/
  | called (setAt : ℕ) (error : Option String)
  /-- In the `withContext` of a refresh, before its native call. The last refresh is the one of the
  `finally`. -/
  | refreshing (setAt : Option ℕ) (last : Bool)
  /-- The refresh has its status and is not resumed yet. -/
  | read (setAt : Option ℕ) (last : Bool) (reading : Reading)
  | done

/-- The phases in which an action holds the mutex. -/
def ActionPhase.inside : ActionPhase → Bool
  | waiting => false
  | done => false
  | _ => true

/-- Where the poll is. -/
inductive PollPhase
  /-- In the `withContext` of its refresh, before the native call. -/
  | refreshing
  /-- The refresh has its status and is not resumed yet. -/
  | read (reading : Reading)
  | delaying
  | stopped

structure LoginItemFlags where
  busy : Bool
  error : Option String
  deriving DecidableEq

/-- The two flows and the coroutines. `clock` counts the steps, and `finished` keeps the times of
the native calls of the actions that have cleared `busy`. -/
structure State where
  published : Reading
  flags : LoginItemFlags
  poll : PollPhase
  actions : Tasks ℕ ActionPhase
  clock : ℕ
  finished : List ℕ

/-- The start, with the status the repository was made with. -/
def initial (native : Option ℤ) : State where
  published := ⟨readStatus native, 0⟩
  flags := ⟨false, none⟩
  poll := .refreshing
  actions := ⟨fun _ => .waiting, none⟩
  clock := 1
  finished := []

def unavailableText : String := "Служба автозапуска недоступна в этой сборке"

def failureText (message : String) : String := "Не удалось изменить автозапуск: " ++ message

inductive Event
  | pollRead (native : Option ℤ)
  | pollStore
  | pollAgain
  | pollStop
  | lock (action : ℕ) (enabled : Bool)
  | lockWithout (action : ℕ)
  | setNative (action : ℕ) (error : Option String)
  | resumeSet (action : ℕ)
  | read (action : ℕ) (native : Option ℤ)
  | store (action : ℕ)
  | finish (action : ℕ)
  | cancel (action : ℕ)

/-- The steps between suspension points, one tick of the clock each. `bridge` tells whether the
native library is there. -/
inductive Step (bridge : Bool) : State → Event → State → Prop
  | pollRead {s : State} {native : Option ℤ} (here : s.poll = .refreshing)
    (answered : bridge = false → native = none) :
    Step bridge s (.pollRead native)
      { s with poll := .read ⟨readStatus native, s.clock⟩, clock := s.clock + 1 }
  | pollStore {s : State} {reading : Reading} (here : s.poll = .read reading) :
    Step bridge s .pollStore { s with published := reading, poll := .delaying, clock := s.clock + 1 }
  | pollAgain {s : State} (here : s.poll = .delaying) :
    Step bridge s .pollAgain { s with poll := .refreshing, clock := s.clock + 1 }
  | pollStop {s : State} : Step bridge s .pollStop { s with poll := .stopped, clock := s.clock + 1 }
  | lock {s : State} {i : ℕ} {enabled : Bool} (here : s.actions.phase i = .waiting)
    (free : s.actions.holder = none) (present : bridge = true) :
    Step bridge s (.lock i enabled)
      { s with
        flags := ⟨true, none⟩, actions := s.actions.acquire i (.setting enabled),
        clock := s.clock + 1 }
  -- Without the bridge `setEnabled` throws before it is suspended.
  | lockWithout {s : State} {i : ℕ} (here : s.actions.phase i = .waiting)
    (free : s.actions.holder = none) (absent : bridge = false) :
    Step bridge s (.lockWithout i)
      { s with
        flags := ⟨true, some (failureText unavailableText)⟩,
        actions := s.actions.acquire i (.refreshing none true), clock := s.clock + 1 }
  | setNative {s : State} {i : ℕ} {enabled : Bool} {error : Option String}
    (here : s.actions.phase i = .setting enabled) :
    Step bridge s (.setNative i error)
      { s with actions := s.actions.move i (.called s.clock error), clock := s.clock + 1 }
  | resumeSet {s : State} {i setAt : ℕ} (here : s.actions.phase i = .called setAt none) :
    Step bridge s (.resumeSet i)
      { s with
        actions := s.actions.move i (.refreshing (some setAt) false), clock := s.clock + 1 }
  | resumeFailed {s : State} {i setAt : ℕ} {message : String}
    (here : s.actions.phase i = .called setAt (some message)) :
    Step bridge s (.resumeSet i)
      { s with
        flags := { s.flags with error := some (failureText message) },
        actions := s.actions.move i (.refreshing (some setAt) true), clock := s.clock + 1 }
  | read {s : State} {i : ℕ} {setAt : Option ℕ} {last : Bool} {native : Option ℤ}
    (here : s.actions.phase i = .refreshing setAt last)
    (answered : bridge = false → native = none) :
    Step bridge s (.read i native)
      { s with
        actions := s.actions.move i (.read setAt last ⟨readStatus native, s.clock⟩),
        clock := s.clock + 1 }
  | store {s : State} {i : ℕ} {setAt : Option ℕ} {reading : Reading}
    (here : s.actions.phase i = .read setAt false reading) :
    Step bridge s (.store i)
      { s with
        published := reading, actions := s.actions.move i (.refreshing setAt true),
        clock := s.clock + 1 }
  -- The last status is stored, `busy` cleared and the mutex given back without a suspension.
  | finish {s : State} {i : ℕ} {setAt : Option ℕ} {reading : Reading}
    (here : s.actions.phase i = .read setAt true reading) :
    Step bridge s (.finish i)
      { s with
        published := reading, flags := { s.flags with busy := false },
        actions := s.actions.release i .done, clock := s.clock + 1,
        finished := setAt.toList ++ s.finished }
  | cancelWaiting {s : State} {i : ℕ} (here : s.actions.phase i = .waiting) :
    Step bridge s (.cancel i) { s with actions := s.actions.move i .done, clock := s.clock + 1 }
  -- The refresh of the `finally` is cancelled too, so that `busy` stays set.
  | cancelInside {s : State} {i : ℕ} (here : (s.actions.phase i).inside = true) :
    Step bridge s (.cancel i) { s with actions := s.actions.release i .done, clock := s.clock + 1 }

/-- The published status is newer than the native call of every finished action. -/
def Fresh (s : State) : Prop := ∀ setAt ∈ s.finished, setAt < s.published.readAt

/-- Whether the poll waits to store a status it read before the native call of an action that
finishes now. -/
def Overtaken (s : State) (setAt : ℕ) : Prop :=
  ∃ reading, s.poll = .read reading ∧ reading.readAt ≤ setAt

/-- No action finishes while the poll still has a status from before its native call. -/
def PollSettled (s : State) : Event → Prop
  | .finish i => ∀ setAt last reading, s.actions.phase i = .read (some setAt) last reading →
    ¬ Overtaken s setAt
  | _ => True

/-! What every run that meets the condition keeps. -/

/-- The times recorded, and the order they are in. -/
structure Ordered (s : State) : Prop where
  exclusive : s.actions.Exclusive ActionPhase.inside
  finished : ∀ t ∈ s.finished, t < s.clock
  poll : ∀ reading, s.poll = .read reading → ∀ t ∈ s.finished, t < reading.readAt
  called : ∀ i setAt error, s.actions.phase i = .called setAt error → setAt < s.clock
  refreshing : ∀ i setAt last, s.actions.phase i = .refreshing setAt last →
    ∀ t ∈ setAt, t < s.clock
  read : ∀ i setAt last reading, s.actions.phase i = .read setAt last reading →
    ∀ t ∈ setAt.toList ++ s.finished, t < reading.readAt ∧ t < s.clock
  fresh : Fresh s

lemma ordered_initial (native : Option ℤ) : Ordered (initial native) where
  exclusive := Tasks.exclusive_start rfl
  finished := nofun
  poll := nofun
  called := nofun
  refreshing := nofun
  read := nofun
  fresh := nofun

namespace Ordered

variable {s : State} {i : ℕ} {p : ActionPhase}

/-- What a step that finishes no action keeps: it publishes only what is newer than every finished
action, and an action that goes on takes its times along. -/
lemma onward (h : Ordered s) {published : Reading} {flags : LoginItemFlags} {poll : PollPhase}
    {actions : Tasks ℕ ActionPhase} (hphase : actions.phase = Function.update s.actions.phase i p)
    (hexclusive : actions.Exclusive ActionPhase.inside)
    (hpublished : ∀ t ∈ s.finished, t < published.readAt)
    (hpoll : ∀ reading, poll = .read reading → ∀ t ∈ s.finished, t < reading.readAt)
    (hcalled : ∀ setAt error, p = .called setAt error → setAt ≤ s.clock)
    (hrefreshing : ∀ setAt last, p = .refreshing setAt last → ∀ t ∈ setAt, t ≤ s.clock)
    (hread : ∀ setAt last reading, p = .read setAt last reading →
      ∀ t ∈ setAt.toList ++ s.finished, t < reading.readAt ∧ t ≤ s.clock) :
    Ordered ⟨published, flags, poll, actions, s.clock + 1, s.finished⟩ := by
  have hsplit : ∀ j q, actions.phase j = q → p = q ∨ s.actions.phase j = q := by
    intro j q hj
    by_cases hpq : p = q
    · exact .inl hpq
    · rw [hphase] at hj
      exact .inr (Tasks.of_update hj hpq)
  constructor
  case exclusive => exact hexclusive
  case finished => exact fun t ht => (h.finished t ht).trans (Nat.lt_succ_self _)
  case poll => exact hpoll
  case called =>
    intro j setAt error hj
    rcases hsplit j _ hj with hp | hj
    · exact Nat.lt_succ_of_le (hcalled setAt error hp)
    · exact (h.called j setAt error hj).trans (Nat.lt_succ_self _)
  case refreshing =>
    intro j setAt last hj t ht
    rcases hsplit j _ hj with hp | hj
    · exact Nat.lt_succ_of_le (hrefreshing setAt last hp t ht)
    · exact (h.refreshing j setAt last hj t ht).trans (Nat.lt_succ_self _)
  case read =>
    intro j setAt last reading hj t ht
    rcases hsplit j _ hj with hp | hj
    · have hread := hread setAt last reading hp t ht
      exact ⟨hread.1, Nat.lt_succ_of_le hread.2⟩
    · have hread := h.read j setAt last reading hj t ht
      exact ⟨hread.1, hread.2.trans (Nat.lt_succ_self _)⟩
  case fresh => exact hpublished

/-- The poll goes on and the actions stay. -/
lemma polled (h : Ordered s) {published : Reading} {poll : PollPhase}
    (hpublished : ∀ t ∈ s.finished, t < published.readAt)
    (hpoll : ∀ reading, poll = .read reading → ∀ t ∈ s.finished, t < reading.readAt) :
    Ordered ⟨published, s.flags, poll, s.actions, s.clock + 1, s.finished⟩ where
  exclusive := h.exclusive
  finished t ht := (h.finished t ht).trans (Nat.lt_succ_self _)
  poll := hpoll
  called j setAt error hj := (h.called j setAt error hj).trans (Nat.lt_succ_self _)
  refreshing j setAt last hj t ht :=
    (h.refreshing j setAt last hj t ht).trans (Nat.lt_succ_self _)
  read j setAt last reading hj t ht :=
    ⟨(h.read j setAt last reading hj t ht).1,
      (h.read j setAt last reading hj t ht).2.trans (Nat.lt_succ_self _)⟩
  fresh := hpublished

/-- The finish of an action, when the poll has nothing older than its native call. -/
lemma finish (h : Ordered s) {setAt : Option ℕ} {reading : Reading}
    (here : s.actions.phase i = .read setAt true reading)
    (hsettled : PollSettled s (.finish i)) :
    Ordered
      { s with
        published := reading, flags := { s.flags with busy := false },
        actions := s.actions.release i .done, clock := s.clock + 1,
        finished := setAt.toList ++ s.finished } := by
  have hinside : (s.actions.phase i).inside = true := by rw [here]; rfl
  have hread := h.read i setAt true reading here
  constructor
  case exclusive => exact h.exclusive.release hinside rfl
  case finished => exact fun t ht => (hread t ht).2.trans (Nat.lt_succ_self _)
  case poll =>
    intro polled hpoll t ht
    rcases List.mem_append.mp ht with ht | ht
    · obtain rfl := Option.mem_toList.mp ht
      by_contra hold
      exact hsettled t true reading here ⟨polled, hpoll, not_lt.mp hold⟩
    · exact h.poll polled hpoll t ht
  case called =>
    intro j setAt error hj
    exact (h.called j setAt error (Tasks.of_update hj nofun)).trans (Nat.lt_succ_self _)
  case refreshing =>
    intro j setAt last hj t ht
    exact (h.refreshing j setAt last (Tasks.of_update hj nofun) t ht).trans (Nat.lt_succ_self _)
  case read =>
    -- Another action with a status would hold the mutex too.
    intro j setAt' last other hj t ht
    have hother : s.actions.phase j = .read setAt' last other := Tasks.of_update hj nofun
    obtain rfl : j = i := h.exclusive.unique (by rw [hother]; rfl) hinside
    have hdone : Function.update s.actions.phase j .done j = .read setAt' last other := hj
    rw [Function.update_self] at hdone
    cases hdone
  case fresh => exact fun t ht => (hread t ht).1

end Ordered

lemma ordered_step {bridge : Bool} {s s' : State} {event : Event} (h : Ordered s)
    (hsettled : PollSettled s event) (hstep : Step bridge s event s') : Ordered s' := by
  have hfresh := h.fresh
  cases hstep with
  | pollRead here answered =>
    refine h.polled hfresh fun reading hreading => ?_
    cases hreading
    exact h.finished
  | @pollStore reading here => exact h.polled (h.poll reading here) nofun
  | pollAgain here => exact h.polled hfresh nofun
  | pollStop => exact h.polled hfresh nofun
  | lock here free present =>
    exact h.onward rfl (h.exclusive.acquire free rfl) hfresh h.poll nofun nofun nofun
  | lockWithout here free absent =>
    refine h.onward rfl (h.exclusive.acquire free rfl) hfresh h.poll nofun ?_ nofun
    rintro setAt last hp t ht
    cases hp
    cases ht
  | @setNative i enabled error here =>
    refine h.onward rfl (h.exclusive.move (by rw [here]; rfl)) hfresh h.poll ?_ nofun nofun
    rintro setAt error' hp
    cases hp
    exact le_rfl
  | @resumeSet i setAt here =>
    refine h.onward rfl (h.exclusive.move (by rw [here]; rfl)) hfresh h.poll nofun ?_ nofun
    rintro setAt' last hp t ht
    cases hp
    cases ht
    exact (h.called i setAt none here).le
  | @resumeFailed i setAt message here =>
    refine h.onward rfl (h.exclusive.move (by rw [here]; rfl)) hfresh h.poll nofun ?_ nofun
    rintro setAt' last hp t ht
    cases hp
    cases ht
    exact (h.called i setAt _ here).le
  | @read i setAt last native here answered =>
    refine h.onward rfl (h.exclusive.move (by rw [here]; rfl)) hfresh h.poll nofun nofun ?_
    rintro setAt' last' reading hp t ht
    cases hp
    rcases List.mem_append.mp ht with ht | ht
    · have hset := h.refreshing i setAt last here t (Option.mem_toList.mp ht)
      exact ⟨hset, hset.le⟩
    · exact ⟨h.finished t ht, (h.finished t ht).le⟩
  | @store i setAt reading here =>
    have hread := h.read i setAt false reading here
    refine h.onward rfl (h.exclusive.move (by rw [here]; rfl))
      (fun t ht => (hread t (List.mem_append_right _ ht)).1) h.poll nofun ?_ nofun
    rintro setAt' last hp t ht
    cases hp
    exact (hread t (List.mem_append_left _ (Option.mem_toList.mpr ht))).2.le
  | finish here => exact h.finish here hsettled
  | @cancelWaiting i here =>
    exact h.onward rfl (h.exclusive.move (by rw [here]; rfl)) hfresh h.poll nofun nofun nofun
  | cancelInside here =>
    exact h.onward rfl (h.exclusive.release here rfl) hfresh h.poll nofun nofun nofun

/-- In a run in which no action finishes while the poll still has a status from before its native
call, the published status is never older than the native call of a finished action. -/
theorem settled_polls_stay_fresh {bridge : Bool} {native : Option ℤ} {events : List Event}
    {s : State} (h : RunWhere PollSettled (Step bridge) (initial native) events s) : Fresh s :=
  (h.invariant (I := fun _ s => Ordered s) (ordered_initial native)
    fun _ _ _ _ hordered hsettled hstep => ordered_step hordered hsettled hstep).fresh

/-- The poll's read of a disabled item is stored after the action that enabled it has finished. -/
theorem overtaken_poll_stores_stale_status :
    ∃ (events : List Event) (s : State), Run (Step true) (initial (some 0)) events s ∧
      s.flags.busy = false ∧ ¬ Fresh s ∧ s.published = ⟨.disabled, 1⟩ := by
  have h1 := Run.next .start (@Step.pollRead true (initial (some 0)) (some 0) rfl nofun)
  have h2 := h1.next (@Step.lock true _ 0 true rfl rfl rfl)
  have h3 := h2.next (@Step.setNative true _ 0 true none rfl)
  have h4 := h3.next (@Step.resumeSet true _ 0 3 rfl)
  have h5 := h4.next (@Step.read true _ 0 _ _ (some 1) rfl nofun)
  have h6 := h5.next (@Step.store true _ 0 _ _ rfl)
  have h7 := h6.next (@Step.read true _ 0 _ _ (some 1) rfl nofun)
  have h8 := h7.next (@Step.finish true _ 0 _ _ rfl)
  have h9 := h8.next (@Step.pollStore true _ _ rfl)
  refine ⟨_, _, h9, rfl, fun hfresh => ?_, rfl⟩
  exact absurd (hfresh 3 (by decide)) (by decide)

/-- The same poll stored before the action finishes. -/
theorem prompt_poll_stays_fresh :
    ∃ (events : List Event) (s : State),
      RunWhere PollSettled (Step true) (initial (some 0)) events s ∧ s.finished = [3] ∧
      s.published.status = .enabled ∧ Fresh s := by
  have h0 : RunWhere PollSettled (Step true) (initial (some 0)) [] _ := .start
  have h1 := h0.next (@Step.pollRead true _ (some 0) rfl nofun) trivial
  have h2 := h1.next (@Step.lock true _ 0 true rfl rfl rfl) trivial
  have h3 := h2.next (@Step.setNative true _ 0 true none rfl) trivial
  have h4 := h3.next (@Step.pollStore true _ _ rfl) trivial
  have h5 := h4.next (@Step.resumeSet true _ 0 3 rfl) trivial
  have h6 := h5.next (@Step.read true _ 0 _ _ (some 1) rfl nofun) trivial
  have h7 := h6.next (@Step.store true _ 0 _ _ rfl) trivial
  have h8 := h7.next (@Step.read true _ 0 _ _ (some 1) rfl nofun) trivial
  -- The poll is in its delay when the action finishes.
  have h9 := h8.next (@Step.finish true _ 0 _ _ rfl) fun _ _ _ _ hpoll => nomatch hpoll.choose_spec.1
  exact ⟨_, _, h9, rfl, rfl, settled_polls_stay_fresh h9⟩

end LoginItem
end Ventilator
