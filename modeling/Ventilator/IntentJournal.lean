import Ventilator.ControlLease
import Ventilator.CallTree

/-! The intent journal of `ControlIntentJournal.c` as programs over the system calls it makes on
its directory and its one marker file. Every call may have any outcome. -/
namespace Ventilator
open CallTree

/-- The values of `errno` the code tells apart. -/
inductive Errno
  | noEntry
  | interrupted
  | again
  | noProcess
  | other
  deriving DecidableEq

inductive FileKind
  | directory
  | regular
  | other
  deriving DecidableEq

/-- The fields of `struct stat` the code reads; `mode` is its permission bits. -/
structure FileStat where
  kind : FileKind
  mode : UInt16
  uid : UInt32
  nlink : UInt16
  size : Int
  deriving DecidableEq

/-- The system calls on the journal's directory and on its opened marker. -/
inductive JournalCall
  | fstatDirectory
  | openMarker
  | createMarker
  | fstatMarker
  | readMarker (size : ℕ)
  | writeMarker (bytes : List UInt8)
  | fsyncMarker
  | closeMarker
  | fsyncDirectory
  | unlinkMarker
  deriving DecidableEq

/-- A read gives at most as many bytes as it was asked for, and a write takes at most as many as
it was given. -/
abbrev JournalCall.Answer : JournalCall → Type
  | fstatDirectory => Option FileStat
  | openMarker => Except Errno Unit
  | createMarker => Bool
  | fstatMarker => Option FileStat
  | readMarker size => Except Errno { bytes : List UInt8 // bytes.length ≤ size }
  | writeMarker bytes => Except Errno (Fin (bytes.length + 1))
  | fsyncMarker => Bool
  | closeMarker => Bool
  | fsyncDirectory => Bool
  | unlinkMarker => Bool

abbrev JournalEvent := Event JournalCall.Answer
abbrev JournalM := CallTree JournalCall JournalCall.Answer

/-- The arguments that do not change during a call: the descriptor and the caller's euid. -/
structure JournalDirectory where
  directoryFd : Int32
  euid : UInt32

/-- `marker_contents` without its terminating zero. -/
def markerContents : List UInt8 :=
  "Ventilator control pending: Mac15,7 macOS 27.0 v1\n".toUTF8.toList

namespace JournalDirectory

abbrev perform (c : JournalCall) : JournalM c.Answer := CallTree.perform c

def privateDirectory (journal : JournalDirectory) : JournalM Bool :=
  if journal.directoryFd < 0 then pure false
  else do
    let info ← perform .fstatDirectory
    pure (info.any fun info =>
      info.kind == .directory && info.uid == journal.euid && info.mode &&& 0o077 == 0)

/-- What `control_intent_read` demands of the opened marker before it reads it. -/
def markerPrivate (journal : JournalDirectory) (info : FileStat) : Bool :=
  info.kind == .regular && info.uid == journal.euid && info.mode &&& 0o777 == 0o600 &&
    info.nlink == 1 && info.size == markerContents.length

/-- One round of the read loop: the bytes at its end, or the bytes so far. -/
def readRound (contents : List UInt8) : JournalM (List UInt8 ⊕ List UInt8) :=
  if contents.length < markerContents.length then do
    match ← perform (.readMarker (markerContents.length - contents.length)) with
    | .ok bytes =>
      if bytes.val = [] then pure (.inl contents)
      else pure (.inr (contents ++ bytes.val))
    | .error .interrupted => pure (.inr contents)
    | .error _ => pure (.inl contents)
  else pure (.inl contents)

/-- The read loop in at most `fuel` rounds; it ends but for interruptions without end. -/
def readContents (fuel : ℕ) : JournalM (List UInt8 ⊕ List UInt8) :=
  loop (fun _ contents => readRound contents) fuel 0 []

/-- `control_intent_read`; no status when its loop is still running. -/
def controlIntentRead (journal : JournalDirectory) (fuel : ℕ) :
    JournalM (Option ControlIntentStatus) := do
  if !(← journal.privateDirectory) then pure (some .unknown)
  else
    match ← perform .openMarker with
    | .error errno => pure (some (if errno = .noEntry then .clear else .unknown))
    | .ok () =>
      let info ← perform .fstatMarker
      if !info.any journal.markerPrivate then
        discard (perform .closeMarker)
        pure (some .unknown)
      else
        match ← readContents fuel with
        | .inr _ => pure none
        | .inl contents =>
          if !(← perform .closeMarker) then pure (some .unknown)
          else pure (some (if contents = markerContents then .pending else .unknown))

/-- One round of the write loop: the count at its end, or the count so far. -/
def writeRound (written : ℕ) : JournalM (ℕ ⊕ ℕ) :=
  if written < markerContents.length then do
    match ← perform (.writeMarker (markerContents.drop written)) with
    | .ok count => if 0 < count.val then pure (.inr (written + count.val)) else pure (.inl written)
    | .error .interrupted => pure (.inr written)
    | .error _ => pure (.inl written)
  else pure (.inl written)

def writeContents (fuel : ℕ) : JournalM (ℕ ⊕ ℕ) :=
  loop (fun _ written => writeRound written) fuel 0 0

/-- The part of `control_intent_mark_pending` after the marker is created. -/
def writeIntent (fuel : ℕ) : JournalM (Option Bool) := do
  match ← writeContents fuel with
  | .inr _ => pure none
  | .inl written =>
    let durable ← if written = markerContents.length then perform .fsyncMarker else pure false
    let closed ← perform .closeMarker
    let synced ← perform .fsyncDirectory
    pure (some (durable && closed && synced))

/-- A program on the journal that also holds a lease. -/
abbrev LeaseM := StateT ControlLease JournalM

/-- `control_intent_mark_pending` with a lease that is not `NULL`. -/
def controlIntentMarkPending (journal : JournalDirectory) (fuel : ℕ) : LeaseM (Option Bool) := do
  if !(← modifyGet ControlLease.preparePersistentIntent) then pure (some false)
  else
    match ← StateT.lift (journal.controlIntentRead fuel) with
    | none => pure none
    | some intent =>
      if intent ≠ .clear then pure (some false)
      else if !(← ask .createMarker) then pure (some false)
      else StateT.lift (writeIntent fuel)

/-- `control_intent_clear_verified` with a lease that is not `NULL`. -/
def controlIntentClearVerified (journal : JournalDirectory) (fuel : ℕ) :
    LeaseM (Option Bool) := do
  match ← StateT.lift (journal.controlIntentRead fuel) with
  | none => pure none
  | some intent =>
    if intent ≠ .pending then pure (some false)
    else if !(← modifyGet ControlLease.takeRecoveryProof) then pure (some false)
    else if !(← ask .unlinkMarker) then pure (some false)
    else
      let synced ← ask .fsyncDirectory
      pure (some synced)

end JournalDirectory
end Ventilator
