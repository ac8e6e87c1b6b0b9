import Issuance.Audit.Chain
import Issuance.Json.Reader
import Issuance.Text.Stream

/-!
# Issuance.Audit.Verdict

**Verifying a log** without the issuer: every line that is not blank must be an event linked to
the one before it, with the right hash; the file with the last hash, if it is to be checked, must
hold the hash of the last line. The verdict says how far the log is good and what is wrong with
it. Files that are not text, and events that have no canonical form, get no verdict.
-/

namespace Issuance

namespace Audit

/-- Why what may be at a path cannot be read. -/
inductive PathFault
  | isDirectory
  | nameTooLong
  deriving DecidableEq

/-- The fault in words. -/
def PathFault.message : PathFault → Text
  | isDirectory => "[Errno 21] Is a directory: "
  | nameTooLong => "[Errno 36] File name too long: "

/-- What is found at a path. -/
inductive FileContent
  | missing
  | unreadable (fault : PathFault)
  | file (contents : Bytes)
  deriving DecidableEq

namespace FileContent

/-- The file with given contents, if any. -/
def ofOption : Option Bytes → FileContent
  | none => missing
  | some bs => file bs

end FileContent

/-- What is wrong with a line. -/
inductive LineFault
  | notJson
  | notObject
  | unlinked
  | previousMismatch (expected claimed : Text)
  | hashMismatch (expected claimed : Text)
  deriving DecidableEq

namespace LineFault

/-- The fault in words. -/
def message : LineFault → Text
  | notJson => "invalid JSON:"
  | notObject => "JSON root must be an object"
  | unlinked => "missing or malformed prev_hash/hash"
  | previousMismatch expected claimed =>
    "prev_hash mismatch: expected " ++ expected ++ " got " ++ claimed
  | hashMismatch expected claimed => "hash mismatch: expected " ++ expected ++ " got " ++ claimed

end LineFault

/-- Why there is no verdict. -/
inductive NoVerdict
  | notText
  | notEncodable
  | unreadable (fault : PathFault) (path : Text)
  /-- The file with the last hash is to be checked, but no path says which it is. -/
  | noStatePath
  deriving DecidableEq

/-- The result of verifying a log. -/
structure Verdict where
  ok : Bool
  /-- Lines looked at, the blank ones not counted. -/
  lines : Nat
  /-- The hash of the last good line. -/
  lastHash : Option Text
  message : Text
  deriving DecidableEq

namespace Verdict

/-- A chain field of an event that is a hash. -/
def claimedHash? (members : List (Text × Json)) (field : Text) : Option Text :=
  match Json.field? members field with
  | some (.str t) => if isHash t then some t else none
  | _ => none

/-- The hash of a line that follows a given hash. -/
def checkLine (previous line : Text) : Except NoVerdict (Except LineFault Text) :=
  match Json.read? line with
  | none => .ok (.error .notJson)
  | some (.obj members) =>
    match claimedHash? members previousField, claimedHash? members hashField with
    | some previousClaimed, some claimed =>
      if previousClaimed ≠ previous then
        .ok (.error (.previousMismatch previous previousClaimed))
      else match chainHash previous members with
        | .error _ => .error .notEncodable
        | .ok expected =>
          if claimed ≠ expected then .ok (.error (.hashMismatch expected claimed))
          else .ok (.ok claimed)
    | _, _ => .ok (.error .unlinked)
  | some _ => .ok (.error .notObject)

/-- How far a log has been checked. -/
structure Progress where
  lines : Nat
  lastHash : Option Text
  deriving DecidableEq

/-- The hash that the next line must link to. -/
def Progress.previous (p : Progress) : Text := p.lastHash.getD genesis

/-- Checks lines one after the other; the first has the given number. The result is how far the
lines are good, or the verdict on the first that is not. -/
def checkLines (logPath : Text) (number : Nat) (p : Progress) :
    List Text → Except NoVerdict (Except Verdict Progress)
  | [] => .ok (.ok p)
  | raw :: rest =>
    let line := raw.trim
    if line.isEmpty then checkLines logPath (number + 1) p rest
    else match checkLine p.previous line with
      | .error e => .error e
      | .ok (.error fault) =>
        .ok (.error ⟨false, p.lines + 1, p.lastHash,
          logPath ++ ":" ++ Text.ofNat number ++ ": " ++ fault.message⟩)
      | .ok (.ok hash) => checkLines logPath (number + 1) ⟨p.lines + 1, some hash⟩ rest

/-- Checks a log. If it is not text, lines before the fault may still earn it a verdict. -/
def checkLog (logPath : Text) (contents : Bytes) : Except NoVerdict (Except Verdict Progress) :=
  match Utf8.decode? contents with
  | some t => checkLines logPath 1 ⟨0, none⟩ (Text.lines t)
  | none => match checkLines logPath 1 ⟨0, none⟩ (Stream.linesBeforeFault contents) with
    | .ok (.error v) => .ok (.error v)
    | .ok (.ok _) => .error .notText
    | .error e => .error e

/-- Compares the file with the last hash to the log. -/
def checkState (p : Progress) (statePath : Text) : FileContent → Except NoVerdict Verdict
  | .missing => .ok ⟨false, p.lines, p.lastHash, "State file not found: " ++ statePath⟩
  | .unreadable fault => .error (.unreadable fault statePath)
  | .file bs => match Utf8.decode? bs with
    | none => .error .notText
    | some t =>
      let state := t.unifyLineBreaks.trim
      if state = p.lastHash.getD [] then .ok ⟨true, p.lines, p.lastHash, "OK"⟩
      else .ok ⟨false, p.lines, p.lastHash,
        "State mismatch: state=" ++ state ++ " log_last=" ++ p.lastHash.getD "None"⟩

/-- Verifies a log and, if given, the file with the last hash. -/
def verify (logPath : Text) (log : FileContent) (state : Option (Text × FileContent)) :
    Except NoVerdict Verdict :=
  match log with
  | .missing => .ok ⟨false, 0, none, "Log not found: " ++ logPath⟩
  | .unreadable fault => .error (.unreadable fault logPath)
  | .file contents =>
    match checkLog logPath contents with
    | .error e => .error e
    | .ok (.error v) => .ok v
    | .ok (.ok p) => match state with
      | none => .ok ⟨true, p.lines, p.lastHash, "OK"⟩
      | some (statePath, content) => checkState p statePath content

/-- Whether a log is intact: it verifies, or there is none. -/
def isIntact (logPath : Text) (log : FileContent) : Except NoVerdict Bool :=
  match log with
  | .missing => .ok true
  | _ => (verify logPath log none).map Verdict.ok

end Verdict

end Audit

end Issuance
