import Issuance.Audit.Chain
import Issuance.Audit.Event
import Issuance.Fault
import Issuance.Text.Blank

/-!
# Issuance.Audit.Trail

**The audit trail** is a directory with a log, one event a line, and a file with the hash of the
last event. `Trail.append` adds an event: it reads the last hash, links the event to it, and only
when the line can be written does it write anything. A last hash that is neither missing, empty
nor a hash is an error, because starting a new chain would hide what was done to the old one.

`Trail.publish` records what happened to a session; what cannot be recorded fails the request.

Of what the operating system can refuse there is one thing here: to make the directory, where
something else is in its place (`blocked`). Files that cannot be read, locked, written or flushed,
as on a full disk, are left out, so what `append` writes it writes in full, the log and then the
last hash.
-/

namespace Issuance

namespace Audit

/-- The names of the files of a trail. -/
def logName : Text := "issuer_audit.jsonl"
def stateName : Text := "issuer_audit.state"
def lockName : Text := "issuer_audit.lock"

/-- What is found at the place of the trail. -/
inductive Trail
  /-- Nothing yet; the directory is made when it is needed. -/
  | missing
  /-- Something that is not a directory. -/
  | blocked
  /-- A directory with the contents of its files, and whether it has been locked before. -/
  | directory (log state : Option Bytes) (locked : Bool)
  deriving DecidableEq

namespace Trail

/-- The contents of the log. -/
def log? : Trail → Option Bytes
  | directory log _ _ => log
  | _ => none

/-- The contents of the file with the last hash. -/
def state? : Trail → Option Bytes
  | directory _ state _ => state
  | _ => none

/-- Whether the trail has been locked. -/
def isLocked : Trail → Bool
  | directory _ _ locked => locked
  | _ => false

/-- Why an event cannot be added. -/
inductive Fault
  | blocked
  /-- The file with the last hash is not UTF-8. -/
  | stateNotText
  /-- The file with the last hash holds something else. -/
  | corruptState
  /-- The event cannot be written as UTF-8. -/
  | eventNotText
  deriving DecidableEq

namespace Fault

/-- The name of a fault in details. -/
def label : Fault → Text
  | blocked => "FileExistsError"
  | stateNotText => "UnicodeDecodeError"
  | corruptState => "ValueError"
  | eventNotText => "UnicodeEncodeError"

/-- The fault in words, where it has any. -/
def message? : Fault → Option Text
  | corruptState => some ("corrupt audit state file: " ++ stateName)
  | _ => none

end Fault

/-- The hash of the last event, given the contents of the file that keeps it. -/
def lastHash : Option Bytes → Except Fault Text
  | none => .ok genesis
  | some bs => match Utf8.decode? bs with
    | none => .error .stateNotText
    | some t =>
      let s := t.unifyLineBreaks.trim
      if s.isEmpty then .ok genesis
      else if isHash s then .ok (s.map CodePoint.toLowerAscii)
      else .error .corruptState

/-- The line of an event after a given last hash, and the event's hash. -/
def line (previous : Text) (event : List (Text × Json)) : Except Fault (Bytes × Text) :=
  match chainHash previous event with
  | .error .notHex => .error .corruptState
  | .error .notEncodable => .error .eventNotText
  | .ok hash => match Json.canonicalBytes? (.obj (linked previous hash event)) with
    | none => .error .eventNotText
    | some bs => .ok (bs ++ [0x0A], hash)

/-- Adds an event to a directory's files: the new files, and the event's hash. -/
def appendTo (log state : Option Bytes) (event : List (Text × Json)) :
    Except Fault (Bytes × Bytes × Text) :=
  match lastHash state with
  | .error f => .error f
  | .ok previous => match line previous event with
    | .error f => .error f
    | .ok (bs, hash) => .ok (log.getD [] ++ bs, Bytes.ofAscii hash ++ [0x0A], hash)

/-- Adds an event. Whatever goes wrong, log and last hash stay as they are. -/
def append (trail : Trail) (event : List (Text × Json)) : Except Fault Text × Trail :=
  match trail with
  | blocked => (.error .blocked, blocked)
  | missing => add none none
  | directory log state _ => add log state
where
  /-- Adds an event to the files of a directory, which is locked first. -/
  add (log state : Option Bytes) : Except Fault Text × Trail :=
    match appendTo log state event with
    | .error f => (.error f, directory log state true)
    | .ok (newLog, newState, hash) => (.ok hash, directory (some newLog) (some newState) true)

/-- Records what happened to a session. -/
def publish (trail : Trail) (source : Source) (type : EventType) (s : Session)
    (clientAddress : Option Text) (extensions : List (Text × Json)) (now : Int) :
    Except Issuance.Fault Unit × Trail :=
  match trail.append (event source type s clientAddress extensions now) with
  | (.ok _, trail) => (.ok (), trail)
  | (.error f, trail) =>
    (.error (.detailed .auditFailure "Failed to publish audit event"
      (source.eventName type ++ ": " ++ f.label)), trail)

end Trail

end Audit

end Issuance
