import Ventilator.CallTreeGuards
import Ventilator.IntentJournal

/-! The copy of the runner into the daemon's private directory, `stageRunner` of
`SupervisorProbeController.m`: the signature that is checked is that of the copied bytes. Every call
may have any outcome. -/
namespace Ventilator
open CallTree

/-- The calls of the copy. The paths are fixed, and closing the source is left out. -/
inductive StageCall
  | fstatFolder
  | openSource
  | fstatSource
  | openStaging
  | readSource (size : ℕ)
  | writeStaging (bytes : List UInt8)
  | makeExecutable
  | syncStaging
  | closeStaging
  | checkSignature
  | renameStaging
  | syncFolder
  | unlinkStaging

abbrev StageCall.Answer : StageCall → Type
  | fstatFolder => Option FileStat
  | openSource => Bool
  | fstatSource => Option FileStat
  | openStaging => Bool
  | readSource size => Except Errno { bytes : List UInt8 // bytes.length ≤ size }
  | writeStaging bytes => Except Errno (Fin (bytes.length + 1))
  | makeExecutable => Bool
  | syncStaging => Bool
  | closeStaging => Bool
  | checkSignature => Bool
  | renameStaging => Bool
  | syncFolder => Bool
  | unlinkStaging => Unit

instance stageNonempty (c : StageCall) : Nonempty c.Answer := by
  cases c with
  | readSource size => exact ⟨.error .other⟩
  | writeStaging bytes => exact ⟨.error .other⟩
  | _ => infer_instance

abbrev StageEvent := Event StageCall.Answer

abbrev StageM := OptionT (StateT Unit (CallTree StageCall StageCall.Answer))

namespace RunnerStaging

abbrev sys (c : StageCall) : StageM c.Answer := OptionT.lift (ask c)

def bufferSize : ℕ := 16384

/-- `8 * 1024 * 1024` -/
def maxSize : Int := 8388608

/-- A loop that ends by `.inl`, for the given number of rounds. -/
def rounds {ρ κ : Type} (fuel : ℕ) (body : κ → StageM (ρ ⊕ κ)) (vars : κ) : StageM ρ := do
  match ← loop (fun _ => body) fuel 0 vars with
  | .inl result => pure result
  | .inr _ => failure

/-- One write of a chunk: the loop's end, or what is written so far. -/
def writeRound (chunk : List UInt8) (written : ℕ) : StageM (Bool ⊕ ℕ) :=
  if written < chunk.length then do
    match ← sys (.writeStaging (chunk.drop written)) with
    | .ok count => pure (if 0 < count.val then .inr (written + count.val) else .inl false)
    | .error errno => pure (if errno = .interrupted then .inr written else .inl false)
  else pure (.inl true)

/-- One read of the source and the write of its bytes: the loop's end, or what remains. -/
def copyRound (fuel : ℕ) (remaining : ℕ) : StageM (Bool ⊕ ℕ) :=
  if 0 < remaining then do
    match ← sys (.readSource (min remaining bufferSize)) with
    | .error errno => pure (if errno = .interrupted then .inr remaining else .inl false)
    | .ok bytes =>
      if bytes.val = [] then pure (.inl false)
      else
        let written ← rounds fuel (writeRound bytes.val) 0
        pure (if written then .inr (remaining - bytes.val.length) else .inl false)
  else pure (.inl true)

/-- The copy, up to the sync of its bytes. -/
def sealCopy (fuel size : ℕ) : StageM Bool := do
  if !(← rounds fuel (copyRound fuel) size) then pure false
  else if !(← sys .makeExecutable) then pure false
  else sys .syncStaging

/-- The copy, closed; a failure to close it is one to copy. -/
def closeCopy (fuel size : ℕ) : StageM Bool := do
  let copied ← sealCopy fuel size
  let closed ← sys .closeStaging
  pure (copied && closed)

/-- The copy is checked and takes its name. -/
def install (fuel size : ℕ) : StageM Bool := do
  if !(← closeCopy fuel size) then pure false
  else if !(← sys .checkSignature) then pure false
  else if !(← sys .renameStaging) then pure false
  else sys .syncFolder

/-- From the opening of the staging file on. -/
def stage (fuel size : ℕ) : StageM Bool := do
  if !(← sys .openStaging) then pure false
  else
    let installed ← install fuel size
    sys .unlinkStaging
    pure installed

/-- `stageRunner`: whether the runner's new path is returned. -/
def stageRunner (fuel : ℕ) (euid : UInt32) : StageM Bool := do
  let folder ← sys .fstatFolder
  if !(folder.any fun folder =>
      folder.kind == .directory && folder.uid == euid && folder.mode &&& 0o777 == 0o700) then
    pure false
  else if !(← sys .openSource) then pure false
  else
    match ← sys .fstatSource with
    | none => pure false
    | some info =>
      if info.kind = .regular ∧ 0 < info.size ∧ info.size ≤ maxSize then stage fuel info.size.toNat
      else pure false

/-! What was copied. -/

/-- The bytes that an event took from the source. -/
def taken : StageEvent → List UInt8
  | ⟨.readSource _, .ok bytes⟩ => bytes.val
  | _ => []

/-- The bytes that an event gave to the staging file. -/
def given : StageEvent → List UInt8
  | ⟨.writeStaging bytes, .ok count⟩ => bytes.take count.val
  | _ => []

def sourceBytes (trace : List StageEvent) : List UInt8 := trace.flatMap taken

def stagedBytes (trace : List StageEvent) : List UInt8 := trace.flatMap given

/-- The staging file holds exactly the source, which is a regular file of at most 8 MiB, and was made
executable, synced, closed and found to be signed, in this order and with nothing written since. -/
def Installable (trace : List StageEvent) : Prop :=
  ∃ early info, trace = early ++ [⟨.makeExecutable, true⟩, ⟨.syncStaging, true⟩,
      ⟨.closeStaging, true⟩, ⟨.checkSignature, true⟩] ∧
    ⟨.fstatSource, some info⟩ ∈ early ∧ info.kind = .regular ∧ 0 < info.size ∧
    info.size ≤ maxSize ∧ stagedBytes early = sourceBytes early ∧
    ((sourceBytes early).length : Int) = info.size

/-- The copy takes the runner's name only when it may be installed. -/
def StageGuard (before : List StageEvent) : StageEvent → Prop
  | ⟨.renameStaging, _⟩ => Installable before
  | _ => True

variable {trace : List StageEvent} {fuel : ℕ}

lemma sourceBytes_event (e : StageEvent) :
    sourceBytes (trace ++ [e]) = sourceBytes trace ++ taken e := by
  simp [sourceBytes]

lemma stagedBytes_event (e : StageEvent) :
    stagedBytes (trace ++ [e]) = stagedBytes trace ++ given e := by
  simp [stagedBytes]

lemma sourceBytes_quiet {e : StageEvent} (h : taken e = []) :
    sourceBytes (trace ++ [e]) = sourceBytes trace := by
  rw [sourceBytes_event, h, List.append_nil]

/-- The loop rule. -/
lemma holds_rounds {ρ κ : Type} (I : κ → List StageEvent → Prop)
    (post : ρ → List StageEvent → Prop) {body : κ → StageM (ρ ⊕ κ)} {vars : κ}
    (hbody : ∀ vars before, I vars before →
      Holds StageGuard before () (body vars) fun out _ after => match out with
        | .inl result => post result after
        | .inr vars' => I vars' after)
    (hinit : I vars trace) :
    Holds StageGuard trace () (rounds fuel body vars) fun result _ after => post result after := by
  refine Holds.bind (Q := fun out _ after => ∀ result, out = .inl result → post result after)
    (Holds.loop (I := fun vars _ before => I vars before) (fun _ vars _ before hI =>
      (hbody vars before hI).mono fun out _ _ hout => ?_) (fun _ _ _ _ => nofun) _ _ hinit) ?_
  · cases out with
    | inl result =>
      rintro _ ⟨⟩
      exact hout
    | inr vars' => exact hout
  · intro out _ after hout
    cases out with
    | inl result => exact .pure (hout result rfl)
    | inr vars' => exact .failure

/-- In the middle of a chunk, its beginning is staged after what was staged before. -/
structure Writing (info : FileStat) (earlier chunk : List UInt8) (written : ℕ)
    (trace : List StageEvent) : Prop where
  stat : ⟨.fstatSource, some info⟩ ∈ trace
  written_le : written ≤ chunk.length
  staged : stagedBytes trace = earlier ++ chunk.take written
  source : sourceBytes trace = earlier ++ chunk

/-- The part of the source that was read is staged. -/
structure Copying (info : FileStat) (remaining : ℕ) (trace : List StageEvent) : Prop where
  stat : ⟨.fstatSource, some info⟩ ∈ trace
  staged : stagedBytes trace = sourceBytes trace
  size : (sourceBytes trace).length + remaining = info.size.toNat

lemma Writing.event {info : FileStat} {earlier chunk : List UInt8} {written : ℕ} {e : StageEvent}
    (h : Writing info earlier chunk written trace) (more : ℕ) (htaken : taken e = [])
    (hle : written + more ≤ chunk.length)
    (hgiven : given e = (chunk.drop written).take more) :
    Writing info earlier chunk (written + more) (trace ++ [e]) := by
  refine ⟨List.mem_append_left _ h.stat, hle, ?_, ?_⟩
  · rw [stagedBytes_event, h.staged, hgiven, List.append_assoc, ← List.take_add]
  · rw [sourceBytes_quiet htaken, h.source]

lemma writeRound_holds {info : FileStat} {earlier chunk : List UInt8} {written : ℕ}
    (h : Writing info earlier chunk written trace) :
    Holds StageGuard trace () (writeRound chunk written) fun out _ after => match out with
      | .inl result => result = true → Writing info earlier chunk chunk.length after
      | .inr written' => Writing info earlier chunk written' after := by
  refine Holds.ite (fun hlt => Holds.ask_bind fun answer => ⟨trivial, ?_⟩) fun hge => .pure fun _ => ?_
  · cases answer with
    | ok count =>
      have hcount : count.val ≤ chunk.length - written :=
        (Nat.le_of_lt_succ count.isLt).trans_eq List.length_drop
      refine .pure ?_
      by_cases hpos : 0 < count.val
      · rw [if_pos hpos]
        exact h.event _ rfl (by omega) rfl
      · rw [if_neg hpos]
        exact nofun
    | error errno =>
      refine .pure ?_
      by_cases hagain : errno = .interrupted
      · rw [if_pos hagain]
        exact h.event 0 rfl h.written_le (by simp [given])
      · rw [if_neg hagain]
        exact nofun
  · have heq : written = chunk.length := le_antisymm h.written_le (not_lt.mp hge)
    rw [← heq]
    exact h

/-- A read of the source and the write of what it read, in however many calls. -/
lemma copyRound_holds {info : FileStat} {remaining : ℕ} (h : Copying info remaining trace) :
    Holds StageGuard trace () (copyRound fuel remaining) fun out _ after => match out with
      | .inl result => result = true → Copying info 0 after
      | .inr remaining' => Copying info remaining' after := by
  refine Holds.ite (fun hlt => Holds.ask_bind fun answer => ⟨trivial, ?_⟩) fun hge => .pure fun _ => ?_
  · cases answer with
    | error errno =>
      refine .pure ?_
      by_cases hagain : errno = .interrupted
      · rw [if_pos hagain]
        refine ⟨List.mem_append_left _ h.stat, ?_, ?_⟩
        · rw [stagedBytes_event, sourceBytes_event, h.staged]
          rfl
        · rw [sourceBytes_quiet rfl]
          exact h.size
      · rw [if_neg hagain]
        exact nofun
    | ok bytes =>
      refine Holds.ite (fun _ => .pure nofun) fun _ => ?_
      have hbytes : bytes.val.length ≤ remaining := bytes.property.trans (min_le_left _ _)
      have hwriting : Writing info (sourceBytes trace) bytes.val 0
          (trace ++ [⟨.readSource (min remaining bufferSize), .ok bytes⟩]) := by
        refine ⟨List.mem_append_left _ h.stat, Nat.zero_le _, ?_, ?_⟩
        · rw [stagedBytes_event, h.staged]
          rfl
        · rw [sourceBytes_event]
          rfl
      refine (holds_rounds (Writing info (sourceBytes trace) bytes.val)
        (fun wrote after => wrote = true →
          Writing info (sourceBytes trace) bytes.val bytes.val.length after)
        (fun _ _ hI => (writeRound_holds hI).mono fun out _ _ hout => by cases out <;> exact hout)
        hwriting).bind ?_
      intro written _ after hwritten
      refine .pure ?_
      cases written with
      | false => exact nofun
      | true =>
        have hwhole := hwritten rfl
        have hstaged := hwhole.staged
        rw [List.take_length] at hstaged
        refine ⟨hwhole.stat, hstaged.trans hwhole.source.symm, ?_⟩
        have hsize := h.size
        rw [hwhole.source, List.length_append]
        omega
  · have heq : remaining = 0 := by omega
    rw [← heq]
    exact h

/-- Until it is closed, the staging file holds the whole source, and is executable and synced. -/
def Sealed (info : FileStat) (trace : List StageEvent) : Prop :=
  ∃ early, trace = early ++ [⟨.makeExecutable, true⟩, ⟨.syncStaging, true⟩] ∧ Copying info 0 early

lemma sealCopy_holds {info : FileStat} (h : Copying info info.size.toNat trace) :
    Holds StageGuard trace () (sealCopy fuel info.size.toNat) fun sealed _ after =>
      sealed = true → Sealed info after := by
  refine (holds_rounds (Copying info) (fun copied after => copied = true → Copying info 0 after)
    (fun _ _ hI => (copyRound_holds hI).mono fun out _ _ hout => by cases out <;> exact hout)
    h).bind ?_
  intro copied _ after hcopied
  refine Holds.ite (fun _ => .pure nofun) fun hdone => ?_
  rw [Bool.not_eq_true, Bool.not_eq_false'] at hdone
  refine Holds.ask_bind fun executable => ⟨trivial, Holds.ite (fun _ => .pure nofun) fun hmade => ?_⟩
  rw [Bool.not_eq_true, Bool.not_eq_false'] at hmade
  refine .ask fun synced => ⟨trivial, fun hsynced => ⟨after, ?_, hcopied hdone⟩⟩
  rw [hmade, hsynced]
  simp

lemma install_holds {info : FileStat} (hkind : info.kind = .regular) (hpos : 0 < info.size)
    (hmax : info.size ≤ maxSize) (h : Copying info info.size.toNat trace) :
    Holds StageGuard trace () (install fuel info.size.toNat) fun installed _ after =>
      installed = true → ∃ early,
        after = early ++ [⟨.renameStaging, true⟩, ⟨.syncFolder, true⟩] ∧ Installable early := by
  have hclose : Holds StageGuard trace () (closeCopy fuel info.size.toNat) fun closed _ after =>
      closed = true → ∃ early, after = early ++ [⟨.closeStaging, true⟩] ∧ Sealed info early := by
    refine (sealCopy_holds h).bind fun sealed _ after hsealed => ?_
    refine Holds.ask_bind fun closed => ⟨trivial, .pure fun hclosed => ?_⟩
    rw [Bool.and_eq_true] at hclosed
    exact ⟨after, by rw [hclosed.2], hsealed hclosed.1⟩
  refine hclose.bind fun closed _ after hclosed => ?_
  refine Holds.ite (fun _ => .pure nofun) fun hdone => ?_
  rw [Bool.not_eq_true, Bool.not_eq_false'] at hdone
  obtain ⟨_, rfl, early, rfl, hcopied⟩ := hclosed hdone
  refine Holds.ask_bind fun trusted => ⟨trivial, Holds.ite (fun _ => .pure nofun) fun htrusted => ?_⟩
  rw [Bool.not_eq_true, Bool.not_eq_false'] at htrusted
  rw [htrusted]
  have hinstallable : Installable (early ++ [⟨.makeExecutable, true⟩, ⟨.syncStaging, true⟩] ++
      [⟨.closeStaging, true⟩] ++ [⟨.checkSignature, true⟩]) := by
    refine ⟨early, info, by simp, hcopied.stat, hkind, hpos, hmax, hcopied.staged, ?_⟩
    have hsize := hcopied.size
    omega
  refine Holds.ask_bind fun renamed => ⟨hinstallable, Holds.ite (fun _ => .pure nofun) fun hnamed => ?_⟩
  rw [Bool.not_eq_true, Bool.not_eq_false'] at hnamed
  refine .ask fun synced => ⟨trivial, fun hsynced => ⟨_, ?_, hinstallable⟩⟩
  rw [hnamed, hsynced, List.append_assoc]
  rfl

/-- What a whole run did: it installed what it copied if it returned the runner's path, and it left
no staging file that it had opened. -/
structure Staged (installed : Bool) (trace : List StageEvent) : Prop where
  installs : installed = true → ∃ early, Installable early ∧ trace =
    early ++ [⟨.renameStaging, true⟩, ⟨.syncFolder, true⟩, ⟨.unlinkStaging, ()⟩]
  removes : ⟨.openStaging, true⟩ ∈ trace → ∃ early, trace = early ++ [⟨.unlinkStaging, ()⟩]

lemma stage_holds {info : FileStat} (hkind : info.kind = .regular) (hpos : 0 < info.size)
    (hmax : info.size ≤ maxSize) (h : Copying info info.size.toNat trace)
    (hclosed : ⟨.openStaging, true⟩ ∉ trace) :
    Holds StageGuard trace () (stage fuel info.size.toNat) fun installed _ after =>
      Staged installed after := by
  refine Holds.ask_bind fun opened => ⟨trivial, Holds.ite (fun hopened => .pure ⟨nofun, ?_⟩)
    fun _ => ?_⟩
  · intro hmem
    rw [Bool.not_eq_true'] at hopened
    rw [hopened] at hmem
    simp [hclosed] at hmem
  · have hopened : Copying info info.size.toNat (trace ++ [⟨.openStaging, opened⟩]) := by
      refine ⟨List.mem_append_left _ h.stat, ?_, ?_⟩
      · rw [stagedBytes_event, sourceBytes_event, h.staged]
        rfl
      · rw [sourceBytes_quiet rfl]
        exact h.size
    refine (install_holds hkind hpos hmax hopened).bind fun installed _ after hinstalled => ?_
    refine Holds.ask_bind fun _ => ⟨trivial, .pure ⟨fun hdone => ?_, fun _ => ⟨after, rfl⟩⟩⟩
    obtain ⟨early, rfl, hinstallable⟩ := hinstalled hdone
    exact ⟨early, hinstallable, by simp⟩

lemma stageRunner_holds (fuel : ℕ) (euid : UInt32) :
    Holds StageGuard [] () (stageRunner fuel euid) fun installed _ after =>
      Staged installed after := by
  refine Holds.ask_bind fun folder => ⟨trivial, Holds.ite (fun _ => .pure ⟨nofun, by simp⟩)
    fun _ => ?_⟩
  refine Holds.ask_bind fun opened => ⟨trivial, Holds.ite (fun _ => .pure ⟨nofun, by simp⟩)
    fun _ => ?_⟩
  refine Holds.ask_bind fun stat => ⟨trivial, ?_⟩
  cases stat with
  | none => exact .pure ⟨nofun, by simp⟩
  | some info =>
    refine Holds.ite (fun hinfo => ?_) fun _ => .pure ⟨nofun, by simp⟩
    exact stage_holds hinfo.1 hinfo.2.1 hinfo.2.2 ⟨by simp, rfl, by simp [sourceBytes, taken]⟩
      (by simp)

/-- However its reads and writes are cut and interrupted, a copy is renamed only when the staging
file holds exactly the bytes of a regular source of at most 8 MiB and was made executable, synced,
closed and then found to be signed. The runner's path is returned only after the rename was made and
synced, and every whole run unlinks the staging file that it opened. -/
theorem stageRunner_installs_checked (fuel : ℕ) (euid : UInt32) {trace : List StageEvent} :
    (∀ rest before answer after, Runs ((stageRunner fuel euid).run.run ()) trace rest →
      trace = before ++ ⟨.renameStaging, answer⟩ :: after → Installable before) ∧
    ∀ installed, Gives (stageRunner fuel euid).run () trace (some installed) () →
      Staged installed trace := by
  refine ⟨fun rest before answer after h htrace => ?_, fun installed h => ?_⟩
  · exact (Meets.runs (stageRunner_holds fuel euid) h).1 before _ after htrace
  · exact (stageRunner_holds fuel euid).gives h

/-- A source of three bytes that are read one by one, every other read being interrupted. -/
def slowAnswer (reads : ℕ) : (c : StageCall) → c.Answer × ℕ
  | .fstatFolder => (some ⟨.directory, 0o700, 0, 2, 0⟩, reads)
  | .openSource => (true, reads)
  | .fstatSource => (some ⟨.regular, 0o755, 501, 1, 3⟩, reads)
  | .openStaging => (true, reads)
  | .readSource size =>
    (if h : reads % 2 = 1 ∧ 1 ≤ size then .ok ⟨[reads.toUInt8], h.2⟩ else .error .interrupted,
      reads + 1)
  | .writeStaging _ => (.ok (Fin.last _), reads)
  | .makeExecutable => (true, reads)
  | .syncStaging => (true, reads)
  | .closeStaging => (true, reads)
  | .checkSignature => (true, reads)
  | .renameStaging => (true, reads)
  | .syncFolder => (true, reads)
  | .unlinkStaging => ((), reads)

def slowRun : List StageEvent × (Option Bool × Unit) × ℕ :=
  play slowAnswer ((stageRunner 7 0).run.run ()) 0

def renames : StageEvent → Bool
  | ⟨.renameStaging, _⟩ => true
  | _ => false

/-- Such a source is installed. -/
theorem stageRunner_installs_checked_slow : ∃ trace, Staged true trace ∧
    ∃ before answer after, trace = before ++ ⟨.renameStaging, answer⟩ :: after ∧
      Installable before := by
  have hresult : slowRun.2.1.1 = some true := by decide +kernel
  have hrenames : slowRun.1.any renames = true := by decide +kernel
  have hends : Gives (stageRunner 7 0).run () slowRun.1 slowRun.2.1.1 () := ends_play _ _ _
  generalize slowRun = run at hresult hrenames hends
  obtain ⟨trace, ⟨result, u⟩, reads⟩ := run
  obtain rfl : result = some true := hresult
  have hcopy := @stageRunner_installs_checked 7 0 trace
  obtain ⟨hinstallable, hstaged⟩ := hcopy
  refine ⟨trace, hstaged true hends, ?_⟩
  obtain ⟨⟨c, answer⟩, he, hrename⟩ := List.any_eq_true.mp hrenames
  obtain ⟨before, after, htrace⟩ := List.append_of_mem he
  cases c with
  | renameStaging =>
    exact ⟨before, answer, after, htrace, hinstallable _ before answer after hends htrace⟩
  | _ => cases hrename

end RunnerStaging
end Ventilator
