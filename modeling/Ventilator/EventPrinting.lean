import Ventilator.BufferLog
import Ventilator.ElapsedTime

/-! The loop of `print_buffered_events`: the writes and the observations of a trial, merged by
time. -/
namespace Ventilator
open Double

@[simp] lemma PrintedEvent.time_write (event : WriteEvent) :
    (PrintedEvent.write event).time = event.time := rfl

@[simp] lemma PrintedEvent.time_observe (event : ObservationEvent) :
    (PrintedEvent.observe event).time = event.time := rfl

/-- Whether the next line is the observation's. `none` is a read past the end of a buffer. -/
def sampleFirst (writes : List WriteEvent) (observations : List ObservationEvent)
    (writeIndex observationIndex : ℕ) : Option Bool :=
  if observationIndex < observations.length then
    if writeIndex = writes.length then some true
    else do
      let sample ← observations[observationIndex]?
      let event ← writes[writeIndex]?
      pure (lt sample.time event.time)
  else some false

/-- The loop, from the two indices on. -/
def printEventsFrom (writes : List WriteEvent) (observations : List ObservationEvent)
    (writeIndex observationIndex : ℕ) : Option (List PrintedEvent) :=
  if writeIndex < writes.length ∨ observationIndex < observations.length then
    match sampleFirst writes observations writeIndex observationIndex with
    | none => none
    | some true =>
      if h : observationIndex < observations.length then
        (printEventsFrom writes observations writeIndex (observationIndex + 1)).map
          (.observe observations[observationIndex] :: ·)
      else none
    | some false =>
      if h : writeIndex < writes.length then
        (printEventsFrom writes observations (writeIndex + 1) observationIndex).map
          (.write writes[writeIndex] :: ·)
      else none
  else some []
termination_by (writes.length - writeIndex) + (observations.length - observationIndex)

/-- `print_buffered_events`, with its loop over the indices of the two buffers. -/
def printEvents (state : ProcessState) : Option (List PrintedEvent) :=
  (printEventsFrom state.writes state.observations 0 0).map
    (· ++ if state.observationOverflow then [.observationOverflow] else [])

/-- Within the buffers, an observation is next exactly when no write is left or it is earlier. -/
lemma sampleFirst_eq {writes : List WriteEvent} {observations : List ObservationEvent}
    {writeIndex observationIndex : ℕ} (h : writeIndex ≤ writes.length) :
    sampleFirst writes observations writeIndex observationIndex =
      some (match writes.drop writeIndex, observations.drop observationIndex with
        | _, [] => false
        | [], _ :: _ => true
        | event :: _, sample :: _ => lt sample.time event.time) := by
  rw [sampleFirst]
  by_cases hsample : observationIndex < observations.length
  · rw [if_pos hsample, List.drop_eq_getElem_cons hsample]
    rcases h.eq_or_lt with hdone | hwrite
    · rw [if_pos hdone, hdone, List.drop_length]
    · rw [if_neg hwrite.ne, List.drop_eq_getElem_cons hwrite, List.getElem?_eq_getElem hsample,
        List.getElem?_eq_getElem hwrite]
      rfl
  · rw [if_neg hsample, List.drop_eq_nil_of_le (not_lt.mp hsample)]

/-- The loop reads within the buffers and merges what is left of them. -/
lemma printEventsFrom_eq (writes : List WriteEvent) (observations : List ObservationEvent)
    (writeIndex observationIndex : ℕ) (h : writeIndex ≤ writes.length) :
    printEventsFrom writes observations writeIndex observationIndex =
      some (List.merge ((writes.drop writeIndex).map .write)
        ((observations.drop observationIndex).map .observe)
        (fun write sample => !lt sample.time write.time)) := by
  fun_induction printEventsFrom writes observations writeIndex observationIndex with
  | case1 writeIndex observationIndex hmore hfirst =>
    rw [sampleFirst_eq h] at hfirst
    cases hfirst
  | case2 writeIndex observationIndex hmore hfirst hsample ih =>
    rw [ih h, List.drop_eq_getElem_cons hsample, List.map_cons]
    rcases h.eq_or_lt with hdone | hwrite
    · rw [hdone, List.drop_length, List.map_nil, List.nil_merge, List.nil_merge]
      rfl
    · rw [sampleFirst_eq h, List.drop_eq_getElem_cons hsample, List.drop_eq_getElem_cons hwrite,
        Option.some.injEq] at hfirst
      rw [List.drop_eq_getElem_cons hwrite, List.map_cons, List.cons_merge_cons_neg]
      · rfl
      · simpa using hfirst
  | case3 writeIndex observationIndex hmore hfirst hsample =>
    rw [sampleFirst_eq h, List.drop_eq_nil_of_le (not_lt.mp hsample)] at hfirst
    cases hfirst
  | case4 writeIndex observationIndex hmore hfirst hwrite ih =>
    rw [ih hwrite, List.drop_eq_getElem_cons hwrite, List.map_cons]
    cases hsamples : observations.drop observationIndex with
    | nil => simp
    | cons sample samples =>
      rw [sampleFirst_eq h, hsamples, List.drop_eq_getElem_cons hwrite, Option.some.injEq] at hfirst
      rw [List.map_cons, List.cons_merge_cons_pos]
      · rfl
      · simpa using hfirst
  | case5 writeIndex observationIndex hmore hfirst hwrite =>
    have hsample : observationIndex < observations.length := hmore.resolve_left hwrite
    rw [sampleFirst_eq h, List.drop_eq_nil_of_le (not_lt.mp hwrite),
      List.drop_eq_getElem_cons hsample] at hfirst
    cases hfirst
  | case6 writeIndex observationIndex hdone =>
    obtain ⟨hwrite, hsample⟩ := not_or.mp hdone
    rw [List.drop_eq_nil_of_le (not_lt.mp hwrite), List.drop_eq_nil_of_le (not_lt.mp hsample),
      List.map_nil, List.map_nil, List.nil_merge]

/-- The loop ends and prints what the trial's log is read from. -/
lemma printEvents_eq (state : ProcessState) : printEvents state = some (printBufferedEvents state) := by
  rw [printEvents, printEventsFrom_eq _ _ 0 0 (Nat.zero_le _)]
  rfl

/-! Merging two lists. -/

/-- A merge with entries a filter drops on the left shows what the filter keeps of the right. -/
lemma filterMap_merge_right {α β : Type} {f : α → Option β} {le : α → α → Bool} {xs ys : List α}
    (hxs : ∀ x ∈ xs, f x = none) : (List.merge xs ys le).filterMap f = ys.filterMap f := by
  induction xs generalizing ys with
  | nil => rw [List.nil_merge]
  | cons x xs ihx =>
    have hrest : ∀ z ∈ xs, f z = none := fun z hz => hxs z (List.mem_cons_of_mem _ hz)
    induction ys with
    | nil =>
      rw [List.merge_right]
      exact List.filterMap_eq_nil_iff.mpr hxs
    | cons y ys ihy =>
      rw [List.cons_merge_cons]
      split
      · rw [List.filterMap_cons, hxs x List.mem_cons_self]
        exact ihx hrest
      · rw [List.filterMap_cons, List.filterMap_cons, ihy]

/-- A merge is in any order that its parts are in and that each choice between them follows. -/
lemma pairwise_merge_of {α : Type} {r : α → α → Prop} {le : α → α → Bool} {xs ys : List α}
    (htrans : ∀ a b c, r a b → r b c → r a c) (hxs : xs.Pairwise r) (hys : ys.Pairwise r)
    (hle : ∀ x ∈ xs, ∀ y ∈ ys, le x y = true → r x y)
    (hnot : ∀ x ∈ xs, ∀ y ∈ ys, le x y = false → r y x) : (List.merge xs ys le).Pairwise r := by
  induction xs generalizing ys with
  | nil => rwa [List.nil_merge]
  | cons x xs ihx =>
    obtain ⟨hx, hxs'⟩ := List.pairwise_cons.mp hxs
    induction ys with
    | nil => rwa [List.merge_right]
    | cons y ys ihy =>
      obtain ⟨hy, hys'⟩ := List.pairwise_cons.mp hys
      rw [List.cons_merge_cons]
      cases hfirst : le x y with
      | true =>
        have hxy : r x y := hle x (by simp) y (by simp) hfirst
        refine List.pairwise_cons.mpr ⟨fun z hz => ?_, ihx hxs' hys
          (fun z hz => hle z (by simp [hz])) (fun z hz => hnot z (by simp [hz]))⟩
        rcases List.mem_merge.mp hz with hz | hz
        · exact hx z hz
        · rcases List.mem_cons.mp hz with rfl | hz
          · exact hxy
          · exact htrans _ _ _ hxy (hy z hz)
      | false =>
        have hyx : r y x := hnot x (by simp) y (by simp) hfirst
        refine List.pairwise_cons.mpr ⟨fun z hz => ?_, ihy hys'
          (fun z hz w hw => hle z hz w (by simp [hw])) (fun z hz w hw => hnot z hz w (by simp [hw]))⟩
        rcases List.mem_merge.mp hz with hz | hz
        · rcases List.mem_cons.mp hz with rfl | hz
          · exact hyx
          · exact htrans _ _ _ hyx (hx z hz)
        · exact hy z hz

/-! The printed order. -/

def PrintedEvent.asWrite : PrintedEvent → Option WriteEvent
  | write event => some event
  | _ => none

def PrintedEvent.asObservation : PrintedEvent → Option ObservationEvent
  | observe event => some event
  | _ => none

/-- Times in the order they were taken, each a number. -/
structure SortedTimes (times : List Double) : Prop where
  numbers : ∀ time ∈ times, time ≠ nan
  sorted : times.Pairwise fun earlier later => le earlier later = true

/-- The order of two lines: not backwards in time, and a write before what has the same time. -/
structure PrintedEvent.Before (first second : PrintedEvent) : Prop where
  time : le first.time second.time = true
  tie : first.asWrite = none → second.asWrite.isSome = true → lt first.time second.time = true

lemma lt_of_le_of_lt {x y z : Double} (hxy : le x y = true) (hyz : lt y z = true) :
    lt x z = true := by
  rw [lt, Bool.and_eq_true, Bool.not_eq_true'] at hyz ⊢
  refine ⟨le_trans hxy hyz.1, ?_⟩
  by_contra h
  rw [Bool.not_eq_false] at h
  exact absurd (le_trans h hxy) (by simp [hyz.2])

lemma lt_of_lt_of_le {x y z : Double} (hxy : lt x y = true) (hyz : le y z = true) :
    lt x z = true := by
  rw [lt, Bool.and_eq_true, Bool.not_eq_true'] at hxy ⊢
  refine ⟨le_trans hxy.1 hyz, ?_⟩
  by_contra h
  rw [Bool.not_eq_false] at h
  exact absurd (le_trans hyz h) (by simp [hxy.2])

lemma PrintedEvent.Before.trans {a b c : PrintedEvent} (hab : a.Before b) (hbc : b.Before c) :
    a.Before c where
  time := le_trans hab.time hbc.time
  tie ha hc := by
    cases hb : b.asWrite with
    | none => exact lt_of_le_of_lt hab.time (hbc.tie hb hc)
    | some middle => exact lt_of_lt_of_le (hab.tie ha (by simp [hb])) hbc.time

/-- The lines of a buffer whose times are sorted follow each other. -/
lemma sorted_before {α : Type} {line : α → PrintedEvent} {time : α → Double} {events : List α}
    (h : SortedTimes (events.map time)) (htime : ∀ event, (line event).time = time event)
    (htie : ∀ first second : α, (line first).asWrite = none → (line second).asWrite = none) :
    (events.map line).Pairwise PrintedEvent.Before := by
  refine List.pairwise_map.mpr ((List.pairwise_map.mp h.sorted).imp fun {first second} hle => ?_)
  refine ⟨by rwa [htime, htime], fun hfirst hsecond => ?_⟩
  rw [htie first second hfirst] at hsecond
  cases hsecond

/-- The merged lines of two buffers whose times are sorted follow each other. -/
lemma merged_before {writes : List WriteEvent} {observations : List ObservationEvent}
    (hwrites : SortedTimes (writes.map (·.time)))
    (hobservations : SortedTimes (observations.map (·.time))) :
    (List.merge (writes.map PrintedEvent.write) (observations.map PrintedEvent.observe)
      fun write sample => !lt sample.time write.time).Pairwise PrintedEvent.Before := by
  refine pairwise_merge_of (fun _ _ _ => PrintedEvent.Before.trans)
    (sorted_before hwrites (fun _ => rfl) fun _ _ h => nomatch h)
    (sorted_before hobservations (fun _ => rfl) fun _ _ _ => rfl) ?write ?sample
  case write =>
    intro x hx y hy hfirst
    obtain ⟨event, hevent, rfl⟩ := List.mem_map.mp hx
    obtain ⟨sample, hsample, rfl⟩ := List.mem_map.mp hy
    have hle := le_of_not_lt
      (hobservations.numbers _ (List.mem_map_of_mem (f := (·.time)) hsample))
      (hwrites.numbers _ (List.mem_map_of_mem (f := (·.time)) hevent)) (by simpa using hfirst)
    exact ⟨hle, nofun⟩
  case sample =>
    intro x hx y hy hfirst
    obtain ⟨event, -, rfl⟩ := List.mem_map.mp hx
    obtain ⟨sample, -, rfl⟩ := List.mem_map.mp hy
    have hlt : lt sample.time event.time = true := by simpa using hfirst
    refine ⟨?_, fun _ _ => hlt⟩
    rw [lt, Bool.and_eq_true] at hlt
    exact hlt.1

/-- What `print_buffered_events` prints of the two buffers. -/
structure PrintedInOrder (state : ProcessState) (events : List PrintedEvent) : Prop where
  once : events.Perm (state.writes.map .write ++ state.observations.map .observe)
  writes : events.filterMap PrintedEvent.asWrite = state.writes
  observations : events.filterMap PrintedEvent.asObservation = state.observations
  time : events.Pairwise fun first second => le first.time second.time = true
  tie : events.Pairwise fun first second => ∀ sample event,
    first = .observe sample → second = .write event → lt sample.time event.time = true

/-- `print_buffered_events` ends, and prints both buffers in the order of time, each in its own
order and a write before an observation of the same time; then the overflow, if there was one. -/
theorem events_printed_in_order {state : ProcessState}
    (hwrites : SortedTimes (state.writes.map (·.time)))
    (hobservations : SortedTimes (state.observations.map (·.time))) :
    ∃ events, printEvents state =
        some (events ++ if state.observationOverflow then [.observationOverflow] else []) ∧
      PrintedInOrder state events := by
  refine ⟨_, printEvents_eq state, ?_⟩
  have hbefore := merged_before hwrites hobservations
  constructor
  case once => exact List.merge_perm_append _
  case writes =>
    rw [filterMap_merge (by simp [PrintedEvent.asWrite]), List.filterMap_map]
    exact List.filterMap_some
  case observations =>
    rw [filterMap_merge_right (by simp [PrintedEvent.asObservation]), List.filterMap_map]
    exact List.filterMap_some
  case time => exact hbefore.imp fun h => h.time
  case tie =>
    refine hbefore.imp fun {first second} h sample event hfirst hsecond => ?_
    subst hfirst hsecond
    exact h.tie rfl rfl

/-- A buffer with a write at one second and observations half a second before it and with it. -/
def tiedState : ProcessState :=
  let observation : TrialObservation :=
    ⟨fun _ => 3, 0, fun _ => finite 0, fun _ => finite 0, fun _ => finite 40, false⟩
  { ProcessState.start with
    writes := [⟨keyFtst, finite 1, finite 1, true, true, 0, 0⟩]
    observations := [⟨0, finite (1 / 2), observation⟩, ⟨1, finite 1, observation⟩]
    observationOverflow := true }

theorem tied_events_printed :
    ∃ events, printEvents tiedState = some (events ++ [.observationOverflow]) ∧
      PrintedInOrder tiedState events :=
  @events_printed_in_order tiedState ⟨by decide, by decide +kernel⟩
    ⟨by decide, by decide +kernel⟩

end Ventilator
