import Issuance.Audit.Command

/-!
# Issuance.Main

The command that verifies an audit log on disk. It exits with zero if the log is good, with one
if it is not, and with two if its arguments make no sense.
-/

open Issuance Issuance.Audit

/-- What is found on disk at a path. -/
def contentOnDisk (path : Text) : IO FileContent := do
  try
    let bytes ← IO.FS.readBinFile path.toString
    return .file bytes.toList
  catch
    | .noFileOrDirectory .. => return .missing
    | .invalidArgument .. => return .unreadable .nameTooLong
    | _ => return .unreadable .isDirectory

/-- How the command is used. -/
def usage : String := "usage: issuance [-h] [--state STATE] log"

/-- Runs the command. -/
def main (arguments : List String) : IO UInt32 := do
  match Command.read (arguments.map Text.ofString) with
  | .help =>
    IO.println usage
    return 0
  | .usageError =>
    IO.eprintln usage
    return 2
  | .verify log state =>
    let logContent ← contentOnDisk log.normalPath
    let statePath := match state with
      | .path p => some p.normalPath
      | _ => none
    let stateContent ← statePath.mapM contentOnDisk
    let contentAt (path : Text) : FileContent :=
      if some path = statePath then stateContent.getD .missing else logContent
    match Command.verify contentAt log state with
    | .ok outcome =>
      IO.print outcome.output.toString
      IO.eprint outcome.errors.toString
      return UInt32.ofNat outcome.exit
    | .error _ =>
      IO.eprintln "FAIL: the files cannot be read as text with a canonical form"
      return 1
