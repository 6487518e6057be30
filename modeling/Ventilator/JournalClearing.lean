import Ventilator.IntentJournalProof
import Ventilator.JournalStore

/-! Clearing the journal when its calls may fail: what a clearing that is reported as failed
leaves for the next reader. -/
namespace Ventilator
open CallTree TraceGuard

namespace JournalDirectory
open JournalStore

variable {journal : JournalDirectory} {fuel : ℕ} {store : JournalStore}

/-- A read of the directory, none of whose calls fails, can return the status. -/
def ReadsAs (journal : JournalDirectory) (store : JournalStore) (status : ControlIntentStatus) :
    Prop :=
  ∃ fuel run store', Along (Serves journal.euid False) store run store' ∧
    Ends (journal.controlIntentRead fuel) run (some status)

lemma markerContents_pos : 0 < markerContents.length := by decide +kernel

/-- One read gives the whole contents of a marker of the right size. -/
lemma readContents_whole {contents : List UInt8} (h : contents.length = markerContents.length) :
    Ends (readContents 2) [⟨.readMarker markerContents.length, .ok ⟨contents, h.le⟩⟩]
      (.inl contents) := by
  have hne : contents ≠ [] := fun hnil => by
    have hpos := markerContents_pos
    rw [hnil] at h
    exact absurd h.symm hpos.ne'
  have hfirst : Ends (readRound []) [⟨.readMarker markerContents.length, .ok ⟨contents, h.le⟩⟩]
      (.inr contents) := by
    rw [readRound, if_pos (show ([] : List UInt8).length < markerContents.length from
      markerContents_pos)]
    refine ends_perform_bind.mpr ⟨.ok ⟨contents, h.le⟩, [], rfl, ?_⟩
    dsimp only
    rw [if_neg hne]
    exact .refl _
  have hsecond : Ends (readRound contents) [] (.inl contents) := by
    rw [readRound, if_neg (by omega)]
    exact .refl _
  exact ends_bind.mpr ⟨_, [], .inr contents, rfl, hfirst,
    ends_bind.mpr ⟨[], [], .inl contents, rfl, hsecond, .refl _⟩⟩

/-- What a read does once it knows whether the marker opens. -/
def readAnswered (journal : JournalDirectory) (fuel : ℕ) :
    JournalCall.openMarker.Answer → JournalM (Option ControlIntentStatus)
  | .error errno => pure (some (if errno = .noEntry then .clear else .unknown))
  | .ok () => journal.readOpened fuel

/-- Every directory can be read. -/
lemma exists_read (journal : JournalDirectory) (store : JournalStore) :
    journal.ReadsAs store (journal.status store) := by
  have hquiet : ∀ {s s' : JournalStore} {e : JournalEvent} {rest : List JournalEvent},
      Tells journal.euid s e s' → (∃ s'', Along (Serves journal.euid False) s' rest s'') →
      ∃ s'', Along (Serves journal.euid False) s (e :: rest) s'' :=
    fun htells ⟨s'', hrest⟩ => ⟨s'', .cons (.inl htells) hrest⟩
  suffices hrun : ∃ fuel run, (∃ store', Along (Serves journal.euid False) store run store') ∧
      Ends (journal.controlIntentRead fuel) run (some (journal.status store)) by
    obtain ⟨fuel, run, ⟨store', halong⟩, hends⟩ := hrun
    exact ⟨fuel, run, store', halong, hends⟩
  refine ⟨2, ?_⟩
  by_cases hfd : journal.directoryFd < 0
  · refine ⟨[], ⟨store, .nil _⟩, ?_⟩
    rw [status, if_pos (.inl hfd), controlIntentRead, privateDirectory, if_pos hfd]
    exact .refl _
  have hread : journal.controlIntentRead 2 = call .fstatDirectory fun info =>
      (do
        if !(info.any journal.directoryPrivate) then pure (some .unknown)
        else perform .openMarker >>= journal.readAnswered 2) := by
    rw [controlIntentRead, privateDirectory, if_neg hfd]
    rfl
  rw [hread]
  cases hprivate : journal.directoryPrivate store.directory with
  | false =>
    have hstatus : journal.status store = .unknown := if_pos (.inr hprivate)
    rw [hstatus]
    refine ⟨[_], hquiet (.fstatDirectory store) ⟨_, .nil _⟩, .step _ ?_⟩
    rw [if_pos (by simp [hprivate])]
    exact .refl _
  | true =>
    have hreadable : ¬ (journal.directoryFd < 0 ∨ journal.directoryPrivate store.directory = false) :=
      not_or.mpr ⟨hfd, by simp [hprivate]⟩
    suffices hopen : ∃ run, (∃ store', Along (Serves journal.euid False) store run store') ∧
        Ends (perform .openMarker >>= journal.readAnswered 2) run
          (some (journal.status store)) by
      obtain ⟨run, halong, hends⟩ := hopen
      refine ⟨_ :: run, hquiet (.fstatDirectory store) halong, .step _ ?_⟩
      rw [if_neg (by simp [hprivate])]
      exact hends
    rw [status, if_neg hreadable]
    cases hmarker : store.marker with
    | absent =>
      exact ⟨[_], hquiet (.openAbsent hmarker) ⟨_, .nil _⟩, .step _ (.refl _)⟩
    | refused errno found =>
      refine ⟨_, hquiet (.openRefused hmarker) ⟨_, .nil _⟩,
        ends_perform_bind.mpr ⟨.error errno, [], rfl, ?_⟩⟩
      dsimp only [readAnswered]
      rw [if_neg found]
      exact .refl _
    | file file =>
      by_cases hfile : journal.markerPrivate file.info = true
      swap
      · refine ⟨_, hquiet (.openFile hmarker) (hquiet (.fstatMarker hmarker)
          (hquiet (.closeMarker _) ⟨_, .nil _⟩)), ends_perform_bind.mpr ⟨.ok (), _, rfl,
            ends_perform_bind.mpr ⟨some file.info, _, rfl, ?_⟩⟩⟩
        dsimp only
        rw [if_pos (by simpa using hfile), if_neg (fun h => hfile h.1)]
        exact .step _ (.refl _)
      have hsize : file.contents.length = markerContents.length := by
        have hsized := file.sized
        simp only [markerPrivate, Bool.and_eq_true, beq_iff_eq] at hfile
        omega
      have htold : Tells journal.euid { store with offset := 0 } ⟨.readMarker markerContents.length,
          .ok ⟨file.contents, hsize.le⟩⟩ { store with offset := 0 + file.contents.length } :=
        .readMarker hmarker (by simp) fun hnil => .inr (by simpa using congrArg List.length hnil)
      refine ⟨_, hquiet (.openFile hmarker) (hquiet (.fstatMarker hmarker)
        (hquiet htold (hquiet (.closeMarker _) ⟨_, .nil _⟩))),
        ends_perform_bind.mpr ⟨.ok (), _, rfl,
          ends_perform_bind.mpr ⟨some file.info, _, rfl, ?_⟩⟩⟩
      dsimp only
      rw [if_neg (by simp [hfile])]
      refine ends_bind.mpr ⟨_, _, .inl file.contents, rfl, readContents_whole hsize,
        ends_perform_bind.mpr ⟨true, [], rfl, ?_⟩⟩
      simp only [hfile, true_and]
      exact .refl _

/-- What a directory reads as is its status. -/
lemma readsAs_iff {status : ControlIntentStatus} :
    journal.ReadsAs store status ↔ status = journal.status store := by
  constructor
  · rintro ⟨fuel, run, store', halong, hends⟩
    have hreads := (controlIntentRead_status journal fuel False store).ends hends
    rcases (hreads.2 store' halong).2 status rfl with hstatus | ⟨hfalse, -⟩
    · exact hstatus
    · exact hfalse.elim
  · rintro rfl
    exact journal.exists_read store

/-- The runs of `control_intent_clear_verified`: it reads, and then may unlink and sync. -/
lemma controlIntentClearVerified_runs {lease lease' : ControlLease} {trace : List JournalEvent}
    {result : Option Bool}
    (h : Gives (journal.controlIntentClearVerified fuel) lease trace result lease') :
    ∃ read intent, Ends (journal.controlIntentRead fuel) read intent ∧
      (trace = read ∧ result ≠ some true ∨
        intent = some .pending ∧ trace = read ++ [⟨.unlinkMarker, false⟩] ∧ result = some false ∨
        ∃ synced, intent = some .pending ∧
          trace = read ++ [⟨.unlinkMarker, true⟩, ⟨.fsyncDirectory, synced⟩] ∧
          result = some synced) := by
  obtain ⟨read, ys, intent, lease₁, rfl, hread, h₁⟩ := gives_bind.mp h
  obtain ⟨hends, rfl⟩ := gives_lift.mp hread
  refine ⟨read, intent, hends, ?_⟩
  cases intent with
  | none =>
    obtain ⟨rfl, rfl, -⟩ := gives_pure.mp h₁
    exact .inl ⟨by simp, nofun⟩
  | some intent =>
    dsimp only at h₁
    split at h₁
    · obtain ⟨rfl, rfl, -⟩ := gives_pure.mp h₁
      exact .inl ⟨by simp, nofun⟩
    rename_i hpending
    rw [not_not] at hpending
    obtain ⟨zs, ws, took, lease₂, rfl, htake, h₂⟩ := gives_bind.mp h₁
    obtain ⟨rfl, rfl, rfl⟩ := gives_modifyGet.mp htake
    split at h₂
    · obtain ⟨rfl, rfl, -⟩ := gives_pure.mp h₂
      exact .inl ⟨by simp, nofun⟩
    obtain ⟨removed, rest, rfl, h₃⟩ := gives_ask_bind.mp h₂
    cases removed with
    | false =>
      obtain ⟨rfl, rfl, -⟩ := gives_pure.mp h₃
      exact .inr (.inl ⟨by rw [hpending], by simp, rfl⟩)
    | true =>
      obtain ⟨synced, rest', rfl, h₄⟩ := gives_ask_bind.mp h₃
      obtain ⟨rfl, rfl, -⟩ := gives_pure.mp h₄
      exact .inr (.inr ⟨synced, by rw [hpending], by simp, rfl⟩)

/-- A read may fail, but says nothing false. -/
lemma status_of_read {store' : JournalStore} {run : List JournalEvent}
    {intent : Option ControlIntentStatus}
    (halong : Along (Serves journal.euid True) store run store')
    (h : Ends (journal.controlIntentRead fuel) run intent) :
    journal.status store' = journal.status store ∧
      (intent = some .pending → journal.status store = .pending) := by
  obtain ⟨hunchanged, hsays⟩ := ((controlIntentRead_status journal fuel True store).ends h).2 store'
    halong
  refine ⟨by rw [status, status, hunchanged.directory, hunchanged.marker], fun hpending => ?_⟩
  rcases hsays .pending hpending with hstatus | ⟨-, hunknown⟩
  · exact hstatus.symm
  · cases hunknown

/-- A clearing that fails leaves the status as it was, unless the marker was unlinked and then the
directory was not synced. -/
lemma clearVerified_keeps_iff {store' : JournalStore} {lease lease' : ControlLease}
    {trace : List JournalEvent} {result : Option Bool}
    (halong : Along (Serves journal.euid True) store trace store')
    (h : Gives (journal.controlIntentClearVerified fuel) lease trace result lease') :
    (result = some false → journal.status store' = journal.status store) ↔
      ¬ (⟨.unlinkMarker, true⟩ ∈ trace ∧ ⟨.fsyncDirectory, false⟩ ∈ trace) := by
  obtain ⟨read, intent, hread, hends⟩ := controlIntentClearVerified_runs h
  have hkept : ∀ answer, ⟨.unlinkMarker, answer⟩ ∉ read := fun answer hmem => by
    cases (journal.controlIntentRead_reads fuel).runs hread _ hmem
  rcases hends with ⟨rfl, -⟩ | ⟨rfl, rfl, rfl⟩ | ⟨synced, rfl, rfl, rfl⟩
  · exact iff_of_true (fun _ => (status_of_read halong hread).1) fun hmem => hkept true hmem.1
  · obtain ⟨store₁, hreads, hunlink⟩ := along_append.mp halong
    obtain ⟨store₂, hserves, hnil⟩ := along_cons.mp hunlink
    obtain rfl := along_nil.mp hnil
    rcases hserves with htells | ⟨-, -, rfl⟩
    · cases htells
    · refine iff_of_true (fun _ => (status_of_read hreads hread).1) fun hmem => ?_
      rcases List.mem_append.mp hmem.1 with hmem | hmem
      · exact hkept true hmem
      · simp at hmem
  · obtain ⟨store₁, hreads, hrest⟩ := along_append.mp halong
    obtain ⟨store₂, hserves, hsync⟩ := along_cons.mp hrest
    obtain ⟨store₃, hsynced, hnil⟩ := along_cons.mp hsync
    obtain rfl := along_nil.mp hnil
    have hpending := (status_of_read hreads hread).2 rfl
    have hcleared : journal.status store' ≠ .pending := by
      have habsent : store'.marker = .absent := by
        have hremoved : store₂.marker = .absent := by
          rcases hserves with htells | ⟨-, hfails, -⟩
          · cases htells
            rfl
          · cases hfails
        rcases hsynced with htells | ⟨-, -, rfl⟩
        · cases htells
          exact hremoved
        · exact hremoved
      rw [status, habsent]
      split <;> nofun
    cases synced with
    | true =>
      refine iff_of_true nofun fun hmem => ?_
      have hfailed : ⟨.fsyncDirectory, false⟩ ∉ read := fun hmem => by
        cases (journal.controlIntentRead_reads fuel).runs hread _ hmem
      rcases List.mem_append.mp hmem.2 with hmem | hmem
      · exact hfailed hmem
      · simp at hmem
    | false =>
      refine iff_of_false (fun hkeeps => ?_) fun hnot => hnot ⟨by simp, by simp⟩
      exact hcleared ((hkeeps rfl).trans hpending)

/-- A pending marker in a private directory. -/
def pendingStore : JournalStore :=
  ⟨⟨.directory, 0o700, 0, 2, 0⟩,
    .file ⟨⟨.regular, 0o600, 0, 1, markerContents.length⟩, markerContents, rfl⟩, 0⟩

/-- A lease with the proof of a recovery. -/
def provenLease : ControlLease :=
  { ControlLease.zero with
    state := .stable, observationStartedNs := 1, lastSampleNs := 60000000001, samples := 61,
    recoveryVerified := true }

def unsyncedClearing : List JournalEvent × (Option Bool × ControlLease) × JournalStore :=
  play (JournalStore.answer false)
    (((⟨3, 0⟩ : JournalDirectory).controlIntentClearVerified 2).run provenLease) pendingStore

/-- A clearing whose last sync fails reports a failure and leaves a clear journal. -/
theorem unsynced_clearing_loses_marker :
    ¬ ∀ (journal : JournalDirectory) (fuel : ℕ) (store store' : JournalStore)
        (lease lease' : ControlLease) (trace : List JournalEvent),
      Along (Serves journal.euid True) store trace store' →
      Gives (journal.controlIntentClearVerified fuel) lease trace (some false) lease' →
      ∀ status, journal.ReadsAs store' status ↔ journal.ReadsAs store status := by
  intro hclaim
  have halong : Along (Serves 0 True) pendingStore unsyncedClearing.1 unsyncedClearing.2.2 :=
    along_play (serves_answer 0 false) _ _
  have hgives : Gives ((⟨3, 0⟩ : JournalDirectory).controlIntentClearVerified 2) provenLease
      unsyncedClearing.1 unsyncedClearing.2.1.1 unsyncedClearing.2.1.2 := ends_play _ _ _
  have hresult : unsyncedClearing.2.1.1 = some false := by decide +kernel
  have hbefore : (⟨3, 0⟩ : JournalDirectory).status pendingStore = .pending := by decide +kernel
  have hafter : (⟨3, 0⟩ : JournalDirectory).status unsyncedClearing.2.2 = .clear := by
    decide +kernel
  rw [hresult] at hgives
  have hreads := (hclaim _ _ _ _ _ _ _ halong hgives .clear).mp (readsAs_iff.mpr hafter.symm)
  rw [readsAs_iff, hbefore] at hreads
  cases hreads

end JournalDirectory
end Ventilator
