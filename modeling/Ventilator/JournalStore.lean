import Ventilator.CallTreeLogic
import Ventilator.IntentJournal

/-! The directory behind the intent journal: what its one marker is, how it answers the journal's
calls, and what reading the journal says of it. -/
namespace Ventilator
open CallTree TraceGuard

/-- A file with the size it has. -/
structure MarkerFile where
  info : FileStat
  contents : List UInt8
  sized : info.size = (contents.length : Int)

/-- What the marker's name refers to; what cannot be opened is refused with its own error. -/
inductive MarkerEntry
  | absent
  | refused (errno : Errno) (found : errno ≠ .noEntry)
  | file (marker : MarkerFile)

/-- The directory, its marker and the offset of the opened one. -/
structure JournalStore where
  directory : FileStat
  marker : MarkerEntry
  offset : ℕ

namespace JournalStore

/-- The answers that tell the truth about the directory, and what they make of it. A read may be
short or interrupted. -/
inductive Tells (euid : UInt32) : JournalStore → JournalEvent → JournalStore → Prop
  | fstatDirectory (s) : Tells euid s ⟨.fstatDirectory, some s.directory⟩ s
  | openAbsent {s} (h : s.marker = .absent) : Tells euid s ⟨.openMarker, .error .noEntry⟩ s
  | openRefused {s errno found} (h : s.marker = .refused errno found) :
      Tells euid s ⟨.openMarker, .error errno⟩ s
  | openFile {s file} (h : s.marker = .file file) :
      Tells euid s ⟨.openMarker, .ok ()⟩ { s with offset := 0 }
  | createMarker {s} (h : s.marker = .absent) :
      Tells euid s ⟨.createMarker, true⟩
        { s with marker := .file ⟨⟨.regular, 0o600, euid, 1, 0⟩, [], rfl⟩, offset := 0 }
  | fstatMarker {s file} (h : s.marker = .file file) :
      Tells euid s ⟨.fstatMarker, some file.info⟩ s
  | readMarker {s file size} {bytes : { bytes : List UInt8 // bytes.length ≤ size }}
      (h : s.marker = .file file)
      (hbytes : bytes.val = (file.contents.drop s.offset).take bytes.val.length)
      (hempty : bytes.val = [] → size = 0 ∨ file.contents.length ≤ s.offset) :
      Tells euid s ⟨.readMarker size, .ok bytes⟩ { s with offset := s.offset + bytes.val.length }
  | readInterrupted {s size} : Tells euid s ⟨.readMarker size, .error .interrupted⟩ s
  | writeMarker {s file written} {bytes : List UInt8} {count : Fin (bytes.length + 1)}
      (h : s.marker = .file file)
      (hcontents : written.contents = file.contents.take s.offset ++ bytes.take count ++
        file.contents.drop (s.offset + count))
      (hinfo : written.info = { file.info with size := written.contents.length }) :
      Tells euid s ⟨.writeMarker bytes, .ok count⟩
        { s with marker := .file written, offset := s.offset + count }
  | writeInterrupted {s bytes} : Tells euid s ⟨.writeMarker bytes, .error .interrupted⟩ s
  | fsyncMarker (s) : Tells euid s ⟨.fsyncMarker, true⟩ s
  | closeMarker (s) : Tells euid s ⟨.closeMarker, true⟩ s
  | fsyncDirectory (s) : Tells euid s ⟨.fsyncDirectory, true⟩ s
  | unlinkMarker {s} (h : s.marker ≠ .absent) :
      Tells euid s ⟨.unlinkMarker, true⟩ { s with marker := .absent }

/-- The answers of a call that failed. -/
inductive Fails : JournalEvent → Prop
  | fstatDirectory : Fails ⟨.fstatDirectory, none⟩
  | openMarker {errno} (h : errno ≠ .noEntry) : Fails ⟨.openMarker, .error errno⟩
  | createMarker : Fails ⟨.createMarker, false⟩
  | fstatMarker : Fails ⟨.fstatMarker, none⟩
  | readMarker {size errno} : Fails ⟨.readMarker size, .error errno⟩
  | writeMarker {bytes errno} : Fails ⟨.writeMarker bytes, .error errno⟩
  | fsyncMarker : Fails ⟨.fsyncMarker, false⟩
  | closeMarker : Fails ⟨.closeMarker, false⟩
  | fsyncDirectory : Fails ⟨.fsyncDirectory, false⟩
  | unlinkMarker : Fails ⟨.unlinkMarker, false⟩

/-- Every call tells the truth or, in a faulty directory, may fail; a failed one changes nothing. -/
def Serves (euid : UInt32) (faulty : Prop) (s : JournalStore) (e : JournalEvent)
    (s' : JournalStore) : Prop :=
  Tells euid s e s' ∨ faulty ∧ Fails e ∧ s' = s

/-- A directory whose calls succeed wherever they can, but for the syncs of the directory. -/
def answer (syncs : Bool) (s : JournalStore) : (c : JournalCall) → c.Answer × JournalStore
  | .fstatDirectory => (some s.directory, s)
  | .openMarker =>
    match s.marker with
    | .absent => (.error .noEntry, s)
    | .refused errno _ => (.error errno, s)
    | .file _ => (.ok (), { s with offset := 0 })
  | .createMarker => (false, s)
  | .fstatMarker =>
    match s.marker with
    | .file file => (some file.info, s)
    | _ => (none, s)
  | .readMarker size =>
    match s.marker with
    | .file file =>
      let bytes := (file.contents.drop s.offset).take size
      (.ok ⟨bytes, by simp [bytes]⟩, { s with offset := s.offset + bytes.length })
    | _ => (.error .other, s)
  | .writeMarker _ => (.error .other, s)
  | .fsyncMarker => (true, s)
  | .closeMarker => (true, s)
  | .fsyncDirectory => (syncs, s)
  | .unlinkMarker =>
    match s.marker with
    | .absent => (false, s)
    | _ => (true, { s with marker := .absent })

lemma serves_answer (euid : UInt32) (syncs : Bool) (s : JournalStore) (c : JournalCall) :
    Serves euid True s ⟨c, (s.answer syncs c).1⟩ (s.answer syncs c).2 := by
  have hfails : ∀ {e : JournalEvent}, Fails e → Serves euid True s e s :=
    fun h => .inr ⟨trivial, h, rfl⟩
  cases c with
  | fstatDirectory => exact .inl (.fstatDirectory s)
  | openMarker =>
    cases hmarker : s.marker with
    | absent =>
      simp only [answer, hmarker]
      exact .inl (.openAbsent hmarker)
    | refused errno found =>
      simp only [answer, hmarker]
      exact .inl (.openRefused hmarker)
    | file file =>
      have hopened : Tells euid s ⟨.openMarker, .ok ()⟩ { s with offset := 0 } := .openFile hmarker
      rw [hmarker] at hopened
      simp only [answer, hmarker]
      exact .inl hopened
  | createMarker => exact hfails .createMarker
  | fstatMarker =>
    cases hmarker : s.marker with
    | file file =>
      simp only [answer, hmarker]
      exact .inl (.fstatMarker hmarker)
    | _ =>
      simp only [answer, hmarker]
      exact hfails .fstatMarker
  | readMarker size =>
    cases hmarker : s.marker with
    | file file =>
      have hread : Tells euid s ⟨.readMarker size, .ok ⟨(file.contents.drop s.offset).take size,
          List.length_take_le _ _⟩⟩
          { s with offset := s.offset + ((file.contents.drop s.offset).take size).length } := by
        refine .readMarker hmarker (by simp) fun hempty => ?_
        rwa [List.take_eq_nil_iff, List.drop_eq_nil_iff] at hempty
      rw [hmarker] at hread
      simp only [answer, hmarker]
      exact .inl hread
    | _ =>
      simp only [answer, hmarker]
      exact hfails .readMarker
  | writeMarker bytes => exact hfails .writeMarker
  | fsyncMarker => exact .inl (.fsyncMarker s)
  | closeMarker => exact .inl (.closeMarker s)
  | fsyncDirectory =>
    cases syncs
    · exact hfails .fsyncDirectory
    · exact .inl (.fsyncDirectory s)
  | unlinkMarker =>
    cases hmarker : s.marker with
    | absent =>
      simp only [answer, hmarker]
      exact hfails .unlinkMarker
    | _ =>
      simp only [answer, hmarker]
      exact .inl (.unlinkMarker (by simp [hmarker]))

end JournalStore

namespace JournalDirectory
open JournalStore

variable {journal : JournalDirectory} {fuel : ℕ} {faulty : Prop} {store : JournalStore}

/-- What `private_directory` demands of the directory. -/
def directoryPrivate (journal : JournalDirectory) (info : FileStat) : Bool :=
  info.kind == .directory && info.uid == journal.euid && info.mode &&& 0o077 == 0

/-- What the journal says of a directory whose calls do not fail. -/
def status (journal : JournalDirectory) (store : JournalStore) : ControlIntentStatus :=
  if journal.directoryFd < 0 ∨ journal.directoryPrivate store.directory = false then .unknown
  else
    match store.marker with
    | .absent => .clear
    | .refused _ _ => .unknown
    | .file file =>
      if journal.markerPrivate file.info ∧ file.contents = markerContents then .pending
      else .unknown

/-- A directory that was not changed, but for the offset of its opened marker. -/
structure Unchanged (store s : JournalStore) : Prop where
  directory : s.directory = store.directory
  marker : s.marker = store.marker

abbrev anyJournalCall : List JournalEvent → JournalEvent → Prop := fun _ _ => True

/-- A result that is the journal's status, or unknown because a call failed. -/
def Says (journal : JournalDirectory) (faulty : Prop) (store : JournalStore)
    (result : ControlIntentStatus) : Prop :=
  result = journal.status store ∨ faulty ∧ result = .unknown

/-- The bytes read so far, in a directory that was not changed. -/
structure Reading (store : JournalStore) (file : MarkerFile) (contents : List UInt8)
    (s : JournalStore) : Prop extends Unchanged store s where
  read : contents = file.contents.take s.offset
  offset : s.offset = contents.length

/-- What the read loop may return with. -/
def ReadTo (faulty : Prop) (store : JournalStore) (file : MarkerFile) (contents : List UInt8)
    (s : JournalStore) : Prop :=
  Unchanged store s ∧ (contents = file.contents ∨ faulty ∧ contents.length < markerContents.length)

/-- A round reads on, or returns at the end of the contents or at a failed read. -/
lemma readRound_reads {file : MarkerFile} {contents : List UInt8} {history : List JournalEvent}
    (hmarker : store.marker = .file file)
    (hsize : file.contents.length = markerContents.length)
    (h : Leads (Serves journal.euid faulty) store history (Reading store file contents)) :
    Meets anyJournalCall history (readRound contents) fun out after => match out with
      | .inl contents =>
        Leads (Serves journal.euid faulty) store after (ReadTo faulty store file contents)
      | .inr contents =>
        Leads (Serves journal.euid faulty) store after (Reading store file contents) := by
  refine Meets.ite (fun hshort answer => ⟨trivial, ?_⟩) fun hlong s hs => ?_
  · have hfailed : ∀ errno, errno ≠ .interrupted →
        Leads (Serves journal.euid faulty) store
          (history ++ [⟨.readMarker (markerContents.length - contents.length), .error errno⟩])
          (ReadTo faulty store file contents) := by
      intro errno herrno
      refine h.event fun s s' hread hserves => ?_
      rcases hserves with htells | ⟨hfaulty, -, rfl⟩
      · cases htells
        exact absurd rfl herrno
      · exact ⟨hread.toUnchanged, .inr ⟨hfaulty, hshort⟩⟩
    match answer with
    | .ok bytes =>
      have hbytes : Leads (Serves journal.euid faulty) store
          (history ++ [⟨.readMarker (markerContents.length - contents.length), .ok bytes⟩])
          fun s => Reading store file (contents ++ bytes.val) s ∧ bytes.val ≠ [] := by
        refine h.event fun s s' hread hserves => ?_
        rcases hserves with htells | ⟨-, hfails, -⟩
        · cases htells with
          | readMarker hfile hbytes hend =>
            obtain rfl : file = _ := MarkerEntry.file.inj
              (hmarker.symm.trans (hread.marker.symm.trans hfile))
            have hoffset := hread.offset
            refine ⟨⟨⟨hread.directory, hread.marker⟩, ?_, by simp [hread.offset]⟩, fun hempty => ?_⟩
            · rw [List.take_add, ← hbytes, ← hread.read]
            · have := hend hempty
              omega
        · cases hfails
      refine Meets.ite (fun hempty s hs => absurd hempty (hbytes s hs).2) fun _ s hs => ?_
      exact (hbytes s hs).1
    | .error .interrupted =>
      refine h.event fun s s' hread hserves => ?_
      rcases hserves with htells | ⟨-, -, rfl⟩
      · cases htells
        exact hread
      · exact hread
    | .error .noEntry => exact hfailed _ nofun
    | .error .again => exact hfailed _ nofun
    | .error .noProcess => exact hfailed _ nofun
    | .error .other => exact hfailed _ nofun
  · have hread := h s hs
    have hoffset := hread.offset
    refine ⟨hread.toUnchanged, .inl ?_⟩
    rw [hread.read, List.take_of_length_le (by omega)]

/-- The read loop gives the whole contents, or fewer bytes because a read failed. -/
lemma readContents_reads {file : MarkerFile} {before : List JournalEvent}
    (hmarker : store.marker = .file file)
    (hsize : file.contents.length = markerContents.length)
    (h : Leads (Serves journal.euid faulty) store before (Reading store file [])) :
    Meets anyJournalCall before (readContents fuel) fun out after =>
      Leads (Serves journal.euid faulty) store after fun s => Unchanged store s ∧
        ∀ contents, out = .inl contents → ReadTo faulty store file contents s := by
  refine Meets.loop (I := fun contents history =>
    Leads (Serves journal.euid faulty) store history (Reading store file contents))
    (fun _ contents history hI => (readRound_reads hmarker hsize hI).mono fun out after hout => ?_)
    (fun contents history hI s hs => ⟨(hI s hs).toUnchanged, nofun⟩) _ _ h
  cases out with
  | inl contents =>
    refine fun s hs => ⟨(hout s hs).1, fun contents' heq => ?_⟩
    obtain rfl := Sum.inl.inj heq
    exact hout s hs
  | inr contents => exact hout

/-- What comes after a history that no directory gives. -/
lemma meets_unreachable {α : Type} {t : JournalM α} {R : JournalStore → JournalEvent → JournalStore → Prop}
    {before : List JournalEvent} {p : α → JournalStore → Prop}
    (h : Leads R store before fun _ => False) :
    Meets anyJournalCall before t fun out after => Leads R store after (p out) := by
  induction t generalizing before with
  | done a => exact fun s hs => (h s hs).elim
  | call c next ih => exact fun answer => ⟨trivial, ih answer (h.event fun _ _ hfalse _ => hfalse)⟩

/-- A call that changes nothing, whether it tells the truth or fails. -/
lemma leads_quiet {history : List JournalEvent} {e : JournalEvent} {p q : JournalStore → Prop}
    (h : Leads (Serves journal.euid faulty) store history p)
    (htells : ∀ s s', p s → Tells journal.euid s e s' → q s')
    (hfails : faulty → Fails e → ∀ s, p s → q s) :
    Leads (Serves journal.euid faulty) store (history ++ [e]) q := by
  refine h.event fun s s' hs hserves => ?_
  rcases hserves with htold | ⟨hfaulty, hfailed, rfl⟩
  · exact htells s s' hs htold
  · exact hfails hfaulty hfailed s' hs

lemma leads_close {history : List JournalEvent} {closed : Bool} {p : JournalStore → Prop}
    (h : Leads (Serves journal.euid faulty) store history p) :
    Leads (Serves journal.euid faulty) store (history ++ [⟨.closeMarker, closed⟩]) fun s => p s ∧
      (closed = false → faulty) := by
  refine leads_quiet h (fun s s' hs htells => ?_) fun hfaulty _ s hs => ⟨hs, fun _ => hfaulty⟩
  cases htells
  exact ⟨hs, nofun⟩

/-- What a program leaves of a directory it only reads, and what its result says of it. -/
abbrev ReadsOnly (journal : JournalDirectory) (faulty : Prop) (store : JournalStore)
    (out : Option ControlIntentStatus) (after : List JournalEvent) : Prop :=
  Leads (Serves journal.euid faulty) store after fun s => Unchanged store s ∧
    ∀ result, out = some result → journal.Says faulty store result

lemma reads_some {after : List JournalEvent} {result : ControlIntentStatus}
    (h : Leads (Serves journal.euid faulty) store after fun s =>
      Unchanged store s ∧ journal.Says faulty store result) :
    journal.ReadsOnly faulty store (some result) after := by
  refine fun s hs => ⟨(h s hs).1, fun result' heq => ?_⟩
  obtain rfl := Option.some.inj heq
  exact (h s hs).2

/-- The part of `control_intent_read` after it opened the marker. -/
def readOpened (journal : JournalDirectory) (fuel : ℕ) : JournalM (Option ControlIntentStatus) := do
  let info ← perform .fstatMarker
  if !info.any journal.markerPrivate then
    discard (perform .closeMarker)
    pure (some .unknown)
  else
    match ← readContents fuel with
    | .inr _ => pure none
    | .inl contents =>
      if !(← perform .closeMarker) then pure (some .unknown)
      else pure (some (if contents = markerContents then .pending else .unknown))

/-- An opened marker in a private directory says the status. -/
lemma readOpened_status {file : MarkerFile} {before : List JournalEvent}
    (hmarker : store.marker = .file file)
    (hstatus : journal.status store =
      if journal.markerPrivate file.info ∧ file.contents = markerContents then .pending
      else .unknown)
    (h : Leads (Serves journal.euid faulty) store before (Reading store file [])) :
    Meets anyJournalCall before (journal.readOpened fuel) (journal.ReadsOnly faulty store) := by
  refine fun info => ⟨trivial, ?_⟩
  have hinfo : Leads (Serves journal.euid faulty) store (before ++ [⟨.fstatMarker, info⟩])
      fun s => Reading store file [] s ∧ (info = some file.info ∨ faulty ∧ info = none) := by
    refine leads_quiet h (fun s s' hs htells => ?_) fun hfaulty hfails s hs => ?_
    · cases htells with
      | fstatMarker hfile =>
        obtain rfl : file = _ := MarkerEntry.file.inj
          (hmarker.symm.trans (hs.marker.symm.trans hfile))
        exact ⟨hs, .inl rfl⟩
    · cases hfails
      exact ⟨hs, .inr ⟨hfaulty, rfl⟩⟩
  refine Meets.ite (fun hrefused closed => ⟨trivial, reads_some ?_⟩) fun hprivate => ?_
  · refine fun s hs => ?_
    obtain ⟨⟨hread, hsaid⟩, -⟩ := leads_close hinfo s hs
    refine ⟨hread.toUnchanged, ?_⟩
    rcases hsaid with rfl | ⟨hfaulty, -⟩
    · refine .inl (hstatus.trans (if_neg fun hpending => ?_)).symm
      rw [Option.any_some, hpending.1] at hrefused
      exact absurd hrefused (by decide)
    · exact .inr ⟨hfaulty, rfl⟩
  · rw [Bool.not_eq_true, Bool.not_eq_false'] at hprivate
    by_cases hfile : journal.markerPrivate file.info = true
    swap
    · refine meets_unreachable fun s hs => ?_
      rcases (hinfo s hs).2 with rfl | ⟨-, rfl⟩
      · exact hfile hprivate
      · cases hprivate
    have hsize : file.contents.length = markerContents.length := by
      have hsized := file.sized
      simp only [markerPrivate, Bool.and_eq_true, beq_iff_eq] at hfile
      omega
    refine (readContents_reads hmarker hsize fun s hs => (hinfo s hs).1).bind ?_
    rintro out after hout
    cases out with
    | inr contents => exact fun s hs => ⟨(hout s hs).1, nofun⟩
    | inl contents =>
      refine fun closed => ⟨trivial, ?_⟩
      have hclosed : Leads (Serves journal.euid faulty) store (after ++ [⟨.closeMarker, closed⟩])
          fun s => ReadTo faulty store file contents s ∧ (closed = false → faulty) :=
        leads_close fun s hs => (hout s hs).2 contents rfl
      refine Meets.ite (fun hfailed => reads_some fun s hs => ?_) fun _ => reads_some fun s hs => ?_
      · obtain ⟨⟨hunchanged, -⟩, hfaulty⟩ := hclosed s hs
        exact ⟨hunchanged, .inr ⟨hfaulty (by simpa using hfailed), rfl⟩⟩
      · obtain ⟨⟨hunchanged, hread⟩, -⟩ := hclosed s hs
        refine ⟨hunchanged, ?_⟩
        rcases hread with rfl | ⟨hfaulty, hshort⟩
        · refine .inl ?_
          rw [hstatus]
          simp [hfile]
        · refine .inr ⟨hfaulty, if_neg fun heq => ?_⟩
          rw [heq] at hshort
          exact absurd hshort (lt_irrefl _)

/-- Reading the journal says its status, or that a call failed, and changes nothing. -/
lemma controlIntentRead_status (journal : JournalDirectory) (fuel : ℕ) (faulty : Prop)
    (store : JournalStore) :
    Meets anyJournalCall [] (journal.controlIntentRead fuel) (journal.ReadsOnly faulty store) := by
  have hstart : Leads (Serves journal.euid faulty) store [] (· = store) :=
    fun s hs => along_nil.mp hs
  have hprivate : Meets anyJournalCall [] journal.privateDirectory fun isPrivate after =>
      Leads (Serves journal.euid faulty) store after fun s => s = store ∧
        if isPrivate then ¬ (journal.directoryFd < 0 ∨ journal.directoryPrivate store.directory = false)
        else journal.Says faulty store .unknown := by
    refine Meets.ite (fun hfd s hs => ⟨hstart s hs, ?_⟩) fun hfd info => ⟨trivial, ?_⟩
    · exact .inl (if_pos (.inl hfd)).symm
    · refine leads_quiet hstart (fun s s' hs htells => ?_) fun hfaulty hfails s hs => ?_
      · cases htells
        obtain rfl := hs
        refine ⟨rfl, ?_⟩
        change if journal.directoryPrivate s.directory = true then _ else _
        split
        · rename_i hdirectory
          exact not_or.mpr ⟨hfd, by simp [hdirectory]⟩
        · rename_i hdirectory
          exact .inl (if_pos (.inr (by simpa using hdirectory))).symm
      · cases hfails
        exact ⟨hs, .inr ⟨hfaulty, rfl⟩⟩
  refine hprivate.bind fun isPrivate after hafter => ?_
  cases isPrivate with
  | false =>
    refine reads_some fun s hs => ?_
    obtain ⟨rfl, hunknown⟩ := hafter s hs
    exact ⟨⟨rfl, rfl⟩, hunknown⟩
  | true =>
    by_cases hdirectory : journal.directoryFd < 0 ∨
      journal.directoryPrivate store.directory = false
    · exact meets_unreachable fun s hs => (hafter s hs).2 hdirectory
    refine fun opened => ⟨trivial, ?_⟩
    have hstatus : journal.status store = match store.marker with
      | .absent => .clear
      | .refused _ _ => .unknown
      | .file file =>
        if journal.markerPrivate file.info ∧ file.contents = markerContents then .pending
        else .unknown := if_neg hdirectory
    cases opened with
    | error errno =>
      refine reads_some (leads_quiet hafter (fun s s' hs htells => ?_) fun hfaulty hfails s hs => ?_)
      · obtain ⟨rfl, -⟩ := hs
        cases htells with
        | openAbsent habsent =>
          rw [habsent] at hstatus
          exact ⟨⟨rfl, rfl⟩, .inl hstatus.symm⟩
        | openRefused hrefused =>
          rename_i found
          rw [hrefused] at hstatus
          exact ⟨⟨rfl, rfl⟩, .inl ((if_neg found).trans hstatus.symm)⟩
      · obtain ⟨rfl, -⟩ := hs
        cases hfails with
        | openMarker found => exact ⟨⟨rfl, rfl⟩, .inr ⟨hfaulty, if_neg found⟩⟩
    | ok u =>
      have hopened : Leads (Serves journal.euid faulty) store (after ++ [⟨.openMarker, .ok u⟩])
          fun s => ∃ file, store.marker = .file file ∧ Reading store file [] s := by
        refine leads_quiet hafter (fun s s' hs htells => ?_) fun hfaulty hfails => ?_
        · obtain ⟨rfl, -⟩ := hs
          cases htells with
          | openFile hfile => exact ⟨_, hfile, ⟨rfl, rfl⟩, by simp, rfl⟩
        · cases hfails
      cases hmarker : store.marker with
      | absent =>
        refine meets_unreachable fun s hs => ?_
        obtain ⟨file, hfile, -⟩ := hopened s hs
        cases hmarker.symm.trans hfile
      | refused errno found =>
        refine meets_unreachable fun s hs => ?_
        obtain ⟨file, hfile, -⟩ := hopened s hs
        cases hmarker.symm.trans hfile
      | file file =>
        rw [hmarker] at hstatus
        refine readOpened_status hmarker hstatus fun s hs => ?_
        obtain ⟨file', hfile, hread⟩ := hopened s hs
        obtain rfl := MarkerEntry.file.inj (hmarker.symm.trans hfile)
        exact hread

end JournalDirectory
end Ventilator
