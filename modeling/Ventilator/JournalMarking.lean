import Ventilator.JournalClearing

/-! Marking the journal when its calls may fail: when its write loop returns, and what it leaves
for the next reader and of the lease. -/
namespace Ventilator
open CallTree TraceGuard

namespace JournalDirectory
open JournalStore

/-! The write loop. -/
section WriteLoop

def Interrupted (e : JournalEvent) : Prop :=
  ∃ bytes, e = ⟨.writeMarker bytes, .error .interrupted⟩

instance : DecidablePred Interrupted
  | ⟨.writeMarker bytes, .error .interrupted⟩ => isTrue ⟨bytes, rfl⟩
  | ⟨.writeMarker _, .error .noEntry⟩ => isFalse nofun
  | ⟨.writeMarker _, .error .again⟩ => isFalse nofun
  | ⟨.writeMarker _, .error .noProcess⟩ => isFalse nofun
  | ⟨.writeMarker _, .error .other⟩ => isFalse nofun
  | ⟨.writeMarker _, .ok _⟩ => isFalse nofun
  | ⟨.fstatDirectory, _⟩ => isFalse nofun
  | ⟨.openMarker, _⟩ => isFalse nofun
  | ⟨.createMarker, _⟩ => isFalse nofun
  | ⟨.fstatMarker, _⟩ => isFalse nofun
  | ⟨.readMarker _, _⟩ => isFalse nofun
  | ⟨.fsyncMarker, _⟩ => isFalse nofun
  | ⟨.closeMarker, _⟩ => isFalse nofun
  | ⟨.fsyncDirectory, _⟩ => isFalse nofun
  | ⟨.unlinkMarker, _⟩ => isFalse nofun

/-- The calls of a trace that were not interrupted writes. -/
def uninterrupted (trace : List JournalEvent) : ℕ := trace.countP fun e => ¬ Interrupted e

/-- A round that goes on made one call; it was interrupted or wrote something. -/
lemma writeRound_goes_on {written next : ℕ} {trace : List JournalEvent}
    (h : Ends (writeRound written) trace (.inr next)) :
    trace.length = 1 ∧ written + uninterrupted trace ≤ next ∧ next ≤ markerContents.length := by
  rw [writeRound] at h
  split at h
  swap
  · cases (ends_done.mp h).2
  rename_i hshort
  obtain ⟨answer, rest, rfl, hrest⟩ := ends_perform_bind.mp h
  match answer with
  | .ok count =>
    dsimp only at hrest
    split at hrest
    · rename_i hpos
      obtain ⟨rfl, hnext⟩ := ends_done.mp hrest
      obtain rfl := Sum.inr.inj hnext
      have hcount : count.val ≤ markerContents.length - written := by
        have hlt := count.isLt
        have hdrop : (markerContents.drop written).length = markerContents.length - written :=
          List.length_drop
        omega
      have hone : uninterrupted
          [⟨.writeMarker (markerContents.drop written), .ok count⟩] ≤ 1 := List.countP_le_length
      exact ⟨rfl, by omega, by omega⟩
    · cases (ends_done.mp hrest).2
  | .error .interrupted =>
    obtain ⟨rfl, hnext⟩ := ends_done.mp hrest
    obtain rfl := Sum.inr.inj hnext
    exact ⟨rfl, le_rfl, hshort.le⟩
  | .error .noEntry => cases (ends_done.mp hrest).2
  | .error .again => cases (ends_done.mp hrest).2
  | .error .noProcess => cases (ends_done.mp hrest).2
  | .error .other => cases (ends_done.mp hrest).2

/-- The calls and the progress of a loop that still runs. -/
structure WriteProgress (index written : ℕ) (trace : List JournalEvent) : Prop where
  calls : trace.length = index
  progress : uninterrupted trace ≤ written
  bounded : written ≤ markerContents.length

/-- A loop that still runs made one call a round, and few that were not interrupted. -/
lemma writeContents_running {fuel written : ℕ} {trace : List JournalEvent}
    (h : Ends (writeContents fuel) trace (.inr written)) :
    trace.length = fuel ∧ uninterrupted trace ≤ markerContents.length := by
  have hstep : ∀ index written before trace next, WriteProgress index written before →
      Ends (writeRound written) trace (.inr next) →
      WriteProgress (index + 1) next (before ++ trace) := by
    intro index written before trace next hprogress hround
    obtain ⟨hone, hnext, hbound⟩ := writeRound_goes_on hround
    have hle := hprogress.progress
    have hcalls := hprogress.calls
    have hsum : uninterrupted (before ++ trace) = uninterrupted before + uninterrupted trace :=
      List.countP_append
    exact ⟨by rw [List.length_append]; omega, by omega, hbound⟩
  have hinit : WriteProgress 0 0 [] := ⟨rfl, le_rfl, Nat.zero_le _⟩
  rcases Ends.loop hstep hinit h with
    ⟨result, index, vars, middle, last, hout, -⟩ | ⟨vars, hout, hprogress⟩
  · cases hout
  · rw [List.nil_append, Nat.zero_add] at hprogress
    exact ⟨hprogress.calls, hprogress.progress.trans hprogress.bounded⟩

section Played

variable {ε : Type} (answer : ε → (c : JournalCall) → c.Answer × ε) (env : ε)

/-- The calls of the loop's first rounds. -/
def writeCalls (rounds : ℕ) : List JournalEvent := (play answer (writeContents rounds) env).1

/-- A loop that still runs is the beginning of the same loop with another round. -/
lemma writeCalls_succ (rounds : ℕ) :
    ∃ more, writeCalls answer env (rounds + 1) = writeCalls answer env rounds ++ more := by
  have hsucc : writeContents (rounds + 1) = writeContents rounds >>= fun out => match out with
      | .inl count => pure (.inl count)
      | .inr count => writeRound count := by
    refine (loop_succ (fun _ written => writeRound written) rounds 0 0).trans ?_
    refine bind_congr fun out => ?_
    cases out <;> rfl
  rw [writeCalls, hsucc, play_bind]
  exact ⟨_, rfl⟩

lemma writeCalls_mono {rounds rounds' : ℕ} (h : rounds ≤ rounds') :
    ∃ more, writeCalls answer env rounds' = writeCalls answer env rounds ++ more := by
  induction h with
  | refl => exact ⟨[], by simp⟩
  | step h ih =>
    obtain ⟨more, hmore⟩ := ih
    obtain ⟨last, hlast⟩ := writeCalls_succ answer env _
    exact ⟨more ++ last, by rw [hlast, hmore, List.append_assoc]⟩

/-- The loop returns, unless it is interrupted without end from some call on. -/
lemma writeContents_returns :
    (∃ rounds count, (play answer (writeContents rounds) env).2.1 = .inl count) ∨
      ∃ calls, ∀ rounds, (writeCalls answer env rounds).length = rounds ∧
        ∀ e ∈ (writeCalls answer env rounds).drop calls, Interrupted e := by
  by_cases hreturns : ∃ rounds count, (play answer (writeContents rounds) env).2.1 = .inl count
  · exact .inl hreturns
  have hrunning : ∀ rounds, (writeCalls answer env rounds).length = rounds ∧
      uninterrupted (writeCalls answer env rounds) ≤ markerContents.length := by
    intro rounds
    have hends := ends_play answer (writeContents rounds) env
    cases hout : (play answer (writeContents rounds) env).2.1 with
    | inl count => exact absurd ⟨rounds, count, hout⟩ hreturns
    | inr count =>
      rw [hout] at hends
      exact writeContents_running hends
  -- the round from which on nothing more is written
  obtain ⟨last, hlast⟩ : ∃ last, ∀ rounds,
      uninterrupted (writeCalls answer env rounds) ≤ uninterrupted (writeCalls answer env last) := by
    have hbounded : BddAbove (Set.range fun rounds => uninterrupted (writeCalls answer env rounds)) :=
      ⟨markerContents.length, by rintro _ ⟨rounds, rfl⟩; exact (hrunning rounds).2⟩
    obtain ⟨last, hmax⟩ := Nat.sSup_mem (Set.range_nonempty _) hbounded
    exact ⟨last, fun rounds => (le_csSup hbounded ⟨rounds, rfl⟩).trans hmax.ge⟩
  refine .inr ⟨last, fun rounds => ⟨(hrunning rounds).1, ?_⟩⟩
  rcases le_total rounds last with hle | hle
  · rw [List.drop_of_length_le ((hrunning rounds).1.le.trans hle)]
    exact nofun
  · obtain ⟨more, hmore⟩ := writeCalls_mono answer env hle
    have hnone : uninterrupted more = 0 := by
      have hsum : uninterrupted (writeCalls answer env last ++ more) =
          uninterrupted (writeCalls answer env last) + uninterrupted more := List.countP_append
      have hmax := hlast rounds
      rw [hmore] at hmax
      omega
    rw [hmore, List.drop_left' (hrunning last).1]
    intro e he
    simpa using List.countP_eq_zero.mp hnone e he

end Played

end WriteLoop

/-! What the loop and the calls after it leave of the directory. -/
section Store

variable {journal : JournalDirectory} {fuel : ℕ} {store : JournalStore}

/-- The created marker with the beginning of its contents. -/
structure Written (journal : JournalDirectory) (store : JournalStore) (count : ℕ)
    (s : JournalStore) : Prop where
  directory : s.directory = store.directory
  offset : s.offset = count
  bounded : count ≤ markerContents.length
  marker : ∃ file, s.marker = .file file ∧ file.contents = markerContents.take count ∧
    file.info = ⟨.regular, 0o600, journal.euid, 1, count⟩

lemma write_at_end {whole : List UInt8} {size count : ℕ} (h : size ≤ whole.length) :
    (whole.take size).take size ++ (whole.drop size).take count ++
      (whole.take size).drop (size + count) = whole.take (size + count) := by
  have hend : ((whole.take size).drop (size + count)).length = 0 := by
    rw [List.length_drop, List.length_take]
    omega
  rw [List.length_eq_zero_iff.mp hend, List.append_nil, List.take_take, min_self, List.take_add]

lemma writeRound_writes {written : ℕ} {history : List JournalEvent}
    (h : Leads (Serves journal.euid True) store history (Written journal store written)) :
    Meets anyJournalCall history (writeRound written) fun out after =>
      Leads (Serves journal.euid True) store after fun s => Written journal store (match out with
        | .inl count => count
        | .inr count => count) s := by
  refine Meets.ite (fun hshort answer => ⟨trivial, ?_⟩) fun _ => h
  have hfailed : ∀ errno, Leads (Serves journal.euid True) store
      (history ++ [⟨.writeMarker (markerContents.drop written), .error errno⟩])
      (Written journal store written) := fun errno => by
    refine leads_quiet h (fun s s' hs htells => ?_) fun _ _ s hs => hs
    cases htells
    exact hs
  match answer with
  | .ok count =>
    have hwrote : Leads (Serves journal.euid True) store
        (history ++ [⟨.writeMarker (markerContents.drop written), .ok count⟩])
        (Written journal store (written + count)) := by
      refine leads_quiet h (fun s s' hs htells => ?_) fun _ hfails => nomatch hfails
      obtain ⟨file, hmarker, hcontents, hinfo⟩ := hs.marker
      have hcount : written + count.val ≤ markerContents.length := by
        have hlt := count.isLt
        have hdrop : (markerContents.drop written).length = markerContents.length - written :=
          List.length_drop
        omega
      have hoffset := hs.offset
      cases htells with
      | writeMarker hfile hcontents' hinfo' =>
        obtain rfl := MarkerEntry.file.inj (hmarker.symm.trans hfile)
        rename_i file'
        have hnew : file'.contents = markerContents.take (written + count) := by
          rw [hcontents', hoffset, hcontents]
          exact write_at_end hs.bounded
        refine ⟨hs.directory, by simp [hoffset], hcount, file', rfl, hnew, ?_⟩
        rw [hinfo', hnew, hinfo, List.length_take, min_eq_left hcount]
    refine Meets.ite (fun _ => hwrote) fun hzero => ?_
    have hnone : count.val = 0 := by omega
    rw [hnone] at hwrote
    exact hwrote
  | .error .interrupted => exact hfailed _
  | .error .noEntry => exact hfailed _
  | .error .again => exact hfailed _
  | .error .noProcess => exact hfailed _
  | .error .other => exact hfailed _

/-- After the marker was created, it stays, and it is whole when the result is `true`. -/
lemma writeIntent_writes {history : List JournalEvent}
    (h : Leads (Serves journal.euid True) store history (Written journal store 0)) :
    Meets anyJournalCall history (writeIntent fuel) fun result after =>
      Leads (Serves journal.euid True) store after fun s => ∃ count, Written journal store count s ∧
        (result = some true → count = markerContents.length) := by
  refine Meets.bind (Q := fun out after => Leads (Serves journal.euid True) store after fun s =>
    Written journal store (match out with | .inl count => count | .inr count => count) s)
    (Meets.loop (fun _ written history hI => ?_) (fun _ _ hI => hI) _ _ h) fun out after hout => ?_
  · refine (writeRound_writes hI).mono fun out after hout => ?_
    cases out <;> exact hout
  cases out with
  | inr count => exact fun s hs => ⟨count, hout s hs, nofun⟩
  | inl count =>
    have hquiet : ∀ {history : List JournalEvent} {e : JournalEvent} {p : JournalStore → Prop},
        Leads (Serves journal.euid True) store history p →
        (∀ s s', Tells journal.euid s e s' → s' = s) →
        Leads (Serves journal.euid True) store (history ++ [e]) p :=
      fun h htells => leads_quiet h (fun s s' hs htold => by rwa [htells s s' htold])
        fun _ _ _ hs => hs
    have hclose : ∀ {history : List JournalEvent} {durable : Bool},
        (durable = true → count = markerContents.length) →
        Leads (Serves journal.euid True) store history (Written journal store count) →
        Meets anyJournalCall history (do
          let closed ← perform .closeMarker
          let synced ← perform .fsyncDirectory
          pure (some (durable && closed && synced))) fun result after =>
          Leads (Serves journal.euid True) store after fun s =>
            ∃ count, Written journal store count s ∧
              (result = some true → count = markerContents.length) := by
      intro history durable hdurable hwritten closed
      refine ⟨trivial, fun synced => ⟨trivial, fun s hs => ⟨count, ?_, fun htrue => ?_⟩⟩⟩
      · refine hquiet (hquiet hwritten fun s s' htells => ?_) (fun s s' htells => ?_) s hs
        · cases htells; rfl
        · cases htells; rfl
      · simp only [Option.some.injEq, Bool.and_eq_true] at htrue
        exact hdurable htrue.1.1
    refine Meets.ite (fun hwhole synced => ⟨trivial, ?_⟩) fun _ => hclose nofun hout
    refine hclose (fun _ => hwhole) (hquiet hout fun s s' htells => ?_)
    cases htells
    rfl

/-- The runs of `control_intent_mark_pending`: it reads, and then may create and write. -/
lemma controlIntentMarkPending_runs {lease lease' : ControlLease} {trace : List JournalEvent}
    {result : Option Bool}
    (h : Gives (journal.controlIntentMarkPending fuel) lease trace result lease') :
    trace = [] ∧ result = some false ∨
      ∃ read intent, Ends (journal.controlIntentRead fuel) read intent ∧
        (trace = read ∧ result ≠ some true ∨
          intent = some .clear ∧ trace = read ++ [⟨.createMarker, false⟩] ∧ result = some false ∨
          ∃ rest, intent = some .clear ∧ trace = read ++ ⟨.createMarker, true⟩ :: rest ∧
            Ends (writeIntent fuel) rest result) := by
  obtain ⟨xs, ys, prepared, lease₁, rfl, hprepare, h₁⟩ := gives_bind.mp h
  obtain ⟨rfl, rfl, rfl⟩ := gives_modifyGet.mp hprepare
  split at h₁
  · obtain ⟨rfl, rfl, -⟩ := gives_pure.mp h₁
    exact .inl ⟨rfl, rfl⟩
  obtain ⟨read, ws, intent, lease₂, rfl, hread, h₂⟩ := gives_bind.mp h₁
  obtain ⟨hends, rfl⟩ := gives_lift.mp hread
  refine .inr ⟨read, intent, hends, ?_⟩
  cases intent with
  | none =>
    obtain ⟨rfl, rfl, -⟩ := gives_pure.mp h₂
    exact .inl ⟨by simp, nofun⟩
  | some intent =>
    dsimp only at h₂
    split at h₂
    · obtain ⟨rfl, rfl, -⟩ := gives_pure.mp h₂
      exact .inl ⟨by simp, nofun⟩
    rename_i hclear
    rw [not_not] at hclear
    obtain ⟨created, rest, rfl, h₃⟩ := gives_ask_bind.mp h₂
    cases created with
    | false =>
      obtain ⟨rfl, rfl, -⟩ := gives_pure.mp h₃
      exact .inr (.inl ⟨by rw [hclear], by simp, rfl⟩)
    | true => exact .inr (.inr ⟨rest, by rw [hclear], by simp, (gives_lift.mp h₃).1⟩)

/-- A read that says the journal is clear found it private and without a marker. -/
lemma clear_of_read {store' : JournalStore} {read : List JournalEvent}
    (halong : Along (Serves journal.euid True) store read store')
    (h : Ends (journal.controlIntentRead fuel) read (some .clear)) :
    Unchanged store store' ∧ store.marker = .absent ∧
      ¬ (journal.directoryFd < 0 ∨ journal.directoryPrivate store.directory = false) := by
  obtain ⟨hunchanged, hsays⟩ :=
    ((controlIntentRead_status journal fuel True store).ends h).2 store' halong
  rcases hsays .clear rfl with hstatus | ⟨-, hunknown⟩
  swap
  · cases hunknown
  rw [status] at hstatus
  split at hstatus
  · cases hstatus
  rename_i hprivate
  refine ⟨hunchanged, ?_, hprivate⟩
  split at hstatus
  · assumption
  · cases hstatus
  · split at hstatus <;> cases hstatus

/-- The marker that was created in a clear journal, as the writing left it. -/
lemma created_leaves {store' : JournalStore} {read rest : List JournalEvent} {result : Option Bool}
    (halong : Along (Serves journal.euid True) store
      (read ++ ⟨.createMarker, true⟩ :: rest) store')
    (hread : Ends (journal.controlIntentRead fuel) read (some .clear))
    (hwrite : Ends (writeIntent fuel) rest result) :
    ∃ count, Written journal store count store' ∧
      (result = some true → count = markerContents.length) := by
  have hcreated : Leads (Serves journal.euid True) store (read ++ [⟨.createMarker, true⟩])
      (Written journal store 0) := by
    have hunchanged : Leads (Serves journal.euid True) store read (Unchanged store) :=
      fun s hs => (clear_of_read hs hread).1
    refine leads_quiet hunchanged (fun s s' hs htells => ?_) fun _ hfails => nomatch hfails
    cases htells
    exact ⟨hs.directory, rfl, Nat.zero_le _, _, rfl, rfl, rfl⟩
  have hwritten := ((writeIntent_writes hcreated).ends hwrite).2
  rw [List.append_assoc, List.singleton_append] at hwritten
  exact hwritten store' halong

/-- What a run of `control_intent_mark_pending` leaves of the directory and the lease, whatever
fails in it. -/
structure MarksSafely (journal : JournalDirectory) (store : JournalStore)
    (trace : List JournalEvent) (result : Option Bool) (store' : JournalStore)
    (lease' : ControlLease) : Prop where
  marked : result = some true → ∀ status, journal.ReadsAs store' status ↔ status = .pending
  retained : ⟨.createMarker, true⟩ ∈ trace → ∀ fuel run store'' status,
    Along (Serves journal.euid True) store' run store'' →
    Ends (journal.controlIntentRead fuel) run (some status) → status ≠ .clear
  existing : store.marker ≠ .absent →
    store'.marker = store.marker ∧ ∀ e ∈ trace, e.1.modifies = false
  unproven : trace ≠ [] → lease'.recoveryVerified = false

lemma controlIntentMarkPending_safe {store' : JournalStore} {lease lease' : ControlLease}
    {trace : List JournalEvent} {result : Option Bool}
    (halong : Along (Serves journal.euid True) store trace store')
    (h : Gives (journal.controlIntentMarkPending fuel) lease trace result lease') :
    journal.MarksSafely store trace result store' lease' := by
  have hunproven : trace ≠ [] → lease'.recoveryVerified = false := by
    intro htouched
    obtain ⟨rfl, hnil | hsucceeds⟩ := controlIntentMarkPending_trace h
    · exact absurd hnil htouched
    · have heffect := ControlLease.effect lease .preparePersistentIntent
      rw [hsucceeds] at heffect
      generalize lease.step .preparePersistentIntent = lease' at heffect ⊢
      cases heffect
      rfl
  have hreadOnly : ∀ {read : List JournalEvent} {intent},
      Ends (journal.controlIntentRead fuel) read intent → ∀ e ∈ read, e.1.modifies = false :=
    fun hread => (journal.controlIntentRead_calls fuel).runs hread
  have hnotCreated : ∀ {read : List JournalEvent}, (∀ e ∈ read, e.1.modifies = false) →
      ∀ created, ⟨.createMarker, created⟩ ∉ read := fun hread created hmem => by
    cases hread _ hmem
  rcases controlIntentMarkPending_runs h with
    ⟨rfl, rfl⟩ | ⟨read, intent, hread, ⟨rfl, hresult⟩ | ⟨rfl, rfl, rfl⟩ | ⟨rest, rfl, rfl, hwrite⟩⟩
  · obtain rfl := along_nil.mp halong
    exact ⟨nofun, nofun, fun _ => ⟨rfl, nofun⟩, hunproven⟩
  · have hkept := (((controlIntentRead_status journal fuel True store).ends hread).2 store' halong).1
    exact ⟨fun htrue => absurd htrue hresult,
      fun hcreated => absurd hcreated (hnotCreated (hreadOnly hread) true),
      fun _ => ⟨hkept.marker, hreadOnly hread⟩, hunproven⟩
  · obtain ⟨store₁, hreads, -⟩ := along_append.mp halong
    refine ⟨nofun, fun hcreated => ?_, fun hexists => ?_, hunproven⟩
    · rcases List.mem_append.mp hcreated with hmem | hmem
      · exact absurd hmem (hnotCreated (hreadOnly hread) true)
      · simp at hmem
    · exact absurd (clear_of_read hreads hread).2.1 hexists
  · obtain ⟨count, hwritten, hwhole⟩ := created_leaves halong hread hwrite
    obtain ⟨store₁, hreads, -⟩ := along_append.mp halong
    obtain ⟨-, habsent, hprivate⟩ := clear_of_read hreads hread
    obtain ⟨file, hmarker, hcontents, hinfo⟩ := hwritten.marker
    have hstatus : journal.status store' =
        if journal.markerPrivate file.info ∧ file.contents = markerContents then .pending
        else .unknown := by
      rw [status, hwritten.directory, if_neg hprivate, hmarker]
    refine ⟨fun htrue status => ?_, fun _ fuel' run store'' status hlater hends => ?_,
      fun hexists => absurd habsent hexists, hunproven⟩
    · have hfull : file.contents = markerContents := by
        rw [hcontents, hwhole htrue, List.take_length]
      have hisPrivate : journal.markerPrivate file.info = true := by
        simp only [markerPrivate, hinfo, hwhole htrue, beq_self_eq_true, Bool.true_and,
          Bool.and_true]
        decide
      rw [readsAs_iff, hstatus, if_pos ⟨hisPrivate, hfull⟩]
    · rintro rfl
      rw [(clear_of_read hlater hends).2.1] at hmarker
      cases hmarker

/-- Marking fails closed: its write loop returns unless it is interrupted without end, a marked
journal reads as pending, a created marker is retained, one that exists is left alone, and the
lease has lost its proof before the journal is touched. -/
theorem controlIntentMarkPending_fails_closed :
    (∀ (ε : Type) (answer : ε → (c : JournalCall) → c.Answer × ε) (env : ε),
      (∃ rounds count, (play answer (writeContents rounds) env).2.1 = .inl count) ∨
        ∃ calls, ∀ rounds, (writeCalls answer env rounds).length = rounds ∧
          ∀ e ∈ (writeCalls answer env rounds).drop calls, Interrupted e) ∧
    ∀ (journal : JournalDirectory) (fuel : ℕ) (store store' : JournalStore)
      (lease lease' : ControlLease) (trace : List JournalEvent) (result : Option Bool),
      Along (Serves journal.euid True) store trace store' →
      Gives (journal.controlIntentMarkPending fuel) lease trace result lease' →
      journal.MarksSafely store trace result store' lease' :=
  ⟨fun _ answer env => writeContents_returns answer env,
    fun _ _ _ _ _ _ _ _ halong h => controlIntentMarkPending_safe halong h⟩

end Store

end JournalDirectory
end Ventilator
