import Issuance.Audit.Verdict
import Issuance.Json.Display
import Issuance.Text.Digit
import Issuance.Text.Path

/-!
# Issuance.Audit.Command

**The verification command**: its arguments, and what it prints for what it finds. It takes the
path of a log and, as an option, of the file with the last hash. Long options may be shortened as
long as they remain unambiguous, and may have their value after an equals sign.
-/

namespace Issuance

namespace Audit

namespace Command

/-- The file with the last hash, as the arguments name it. -/
inductive StateFile
  | absent
  | path (t : Text)
  /-- Two minus signs behind the equals sign: they ask for the check, but are no path. -/
  | unnamed
  deriving DecidableEq

/-- What the command is asked to do. -/
inductive Request
  | verify (log : Text) (state : StateFile)
  | help
  | usageError
  deriving DecidableEq

/-- The kinds of arguments. -/
inductive Argument
  | positional (t : Text)
  /-- The option for the file with the last hash, with the value after its equals sign. -/
  | state (value : Option Text)
  | help
  /-- The call for help with a value, which it must not have. -/
  | helpWithValue
  | unknown
  /-- It may be short for more than one option. -/
  | ambiguous
  deriving DecidableEq

/-- The long options. -/
def stateOption : Text := "--state"
def helpOption : Text := "--help"

/-- Whether an argument is a number with a minus sign, which is no option. Its digits may be those
of any script, and a line feed may end it. -/
def isNegativeNumber (t : Text) : Bool :=
  let line := if t.endsWith "\n" then t.take (t.length - 1) else t
  match line with
  | [] => false
  | _ :: body => match Text.cut? (· = '.') body with
    | none => !body.isEmpty && body.all CodePoint.isDecimal
    | some (whole, fraction) =>
      whole.all CodePoint.isDecimal && !fraction.isEmpty && fraction.all CodePoint.isDecimal

/-- The short call for help with what follows its letter. The letter may be repeated, and the first
of the others may follow an equals sign. -/
def shortHelp (tail : Text) : Argument :=
  let letters (t : Text) : Argument := if t.all (· = 'h') then .help else .helpWithValue
  match tail with
  | [] => .help
  | c :: rest =>
    if c = '=' then if rest.isEmpty then .helpWithValue else letters rest else letters tail

/-- The kind of an argument that begins with a minus sign and is longer than that. -/
def classifyOption (t : Text) : Argument :=
  if t.startsWith "--" then
    let (name, value) := match Text.cut? (· = '=') t with
      | some (name, value) => (name, some value)
      | none => (t, none)
    match Text.startsWith stateOption name, Text.startsWith helpOption name with
    | true, false => .state value
    | false, true => if value.isSome then .helpWithValue else .help
    | true, true => .ambiguous
    | false, false => if t.contains " " then .positional t else .unknown
  else if t.startsWith "-h" then shortHelp (t.drop 2)
  else if isNegativeNumber t || t.contains " " then .positional t
  else .unknown

/-- The kind of an argument. -/
def classify (t : Text) : Argument :=
  match t with
  | [] => .positional []
  | [_] => .positional t
  | c :: _ => if c = '-' then classifyOption t else .positional t

/-- The arguments read so far. -/
structure Reading where
  log : Option Text
  state : StateFile
  /-- There was an argument that has no place. -/
  hasExtra : Bool

/-- The request of arguments that are all read. -/
def Reading.request (r : Reading) : Request :=
  match r.log with
  | some log => if r.hasExtra then .usageError else .verify log r.state
  | none => .usageError

/-- Takes a positional argument: the path of the log, if there is none yet. -/
def Reading.take (r : Reading) (t : Text) : Reading :=
  match r.log with
  | none => { r with log := some t }
  | some _ => { r with hasExtra := true }

/-- The request once two minus signs have ended the options. They belong to the path of the log,
which stands right before them or after them; where they do not, they have no place. -/
def Reading.close (r : Reading) (isAfterLog : Bool) (rest : List Text) : Request :=
  let r := if r.log.isSome && !isAfterLog then { r with hasExtra := true } else r
  Reading.request (rest.foldl Reading.take r)

/-- The file that a value of the option names. -/
def StateFile.ofValue (value : Text) : StateFile := if value = "--" then unnamed else path value

/-- Reads arguments in order. After `--` every argument is positional. A call for help is heeded
even after an argument that has no place, but not after an option that lacks its value. -/
def readFrom (r : Reading) (isAfterLog : Bool) : List Text → Request
  | [] => r.request
  | t :: rest =>
    if t = "--" then r.close isAfterLog rest
    else match classify t with
      | .positional p => readFrom (r.take p) r.log.isNone rest
      | .help => .help
      | .helpWithValue | .ambiguous => .usageError
      | .unknown => readFrom { r with hasExtra := true } false rest
      | .state (some value) => readFrom { r with state := .ofValue value } false rest
      | .state none => match rest with
        | [] => .usageError
        | value :: rest =>
          match classify value with
          | .positional v => readFrom { r with state := .path v } false rest
          | _ => .usageError

/-- The request of a list of arguments. -/
def read (arguments : List Text) : Request :=
  let options := arguments.takeWhile fun (t : Text) => t ≠ "--"
  if options.any fun t => classify t = .ambiguous then .usageError
  else readFrom ⟨none, .absent, false⟩ false arguments

/-- What the command leaves behind: its exit code and what it printed. -/
structure Outcome where
  exit : Nat
  output : Text
  errors : Text
  deriving DecidableEq

/-- Lines with their ends. -/
def printed (lines : List Text) : Text := lines.flatMap (· ++ "\n")

/-- The lines that tell how far the log is good. -/
def progressLines (v : Verdict) : List Text :=
  ("lines=" ++ Text.ofNat v.lines) :: v.lastHash.toList.map ("last_hash=" ++ ·)

/-- What is printed for a verdict. -/
def ofVerdict (v : Verdict) : Outcome :=
  if v.ok then ⟨0, printed ("OK" :: progressLines v), []⟩
  else ⟨1, [], printed ("FAIL" :: v.message :: progressLines v)⟩

/-- What is printed where a path cannot be read. -/
def ofPathFault (fault : PathFault) (path : Text) : Outcome :=
  ⟨1, [], printed ["FAIL: " ++ fault.message ++ path.quoted]⟩

/-- What comes of a verdict or of there being none. Files that are not text, and events without a
canonical form, are left without an outcome. -/
def ofResult : Except NoVerdict Verdict → Except NoVerdict Outcome
  | .ok v => .ok (ofVerdict v)
  | .error (.unreadable fault path) => .ok (ofPathFault fault path)
  | .error e => .error e

/-- Verifies the log and the file with the last hash. A file without a path is only missed once the
log is found good. -/
def verify (contentAt : Text → FileContent) (log : Text) (state : StateFile) :
    Except NoVerdict Outcome :=
  let logPath := log.normalPath
  let verdict (state : Option Text) : Except NoVerdict Verdict :=
    Verdict.verify logPath (contentAt logPath) (state.map fun p => (p, contentAt p))
  match state with
  | .absent => ofResult (verdict none)
  | .path p => ofResult (verdict (some p.normalPath))
  | .unnamed => match verdict none with
    | .ok v => if v.ok then .error .noStatePath else .ok (ofVerdict v)
    | e => ofResult e

end Command

end Audit

end Issuance
