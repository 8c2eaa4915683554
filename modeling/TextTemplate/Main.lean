import Std.Time.Zoned
import TextTemplate.CommandLine.Run
import TextTemplate.CommandLine.Survey

/-!
# The program

Answers the questions of the command line about files and the time, and prints what it
leaves behind.
-/

namespace TextTemplate.Program

/-- What stands in the way of reading a file. -/
def failureOf (error : IO.Error) : ReadFailure :=
  match error with
  | .noFileOrDirectory .. => .missing
  | .inappropriateType _ 20 _ => .notDirectory
  | .inappropriateType _ 21 _ => .isDirectory
  | .resourceExhausted _ 36 _ => .nameTooLong
  | .invalidArgument _ 36 _ => .nameTooLong
  | other => .other (toString other)

/-- What a failure to read tells about a path. -/
def statusOf (failure : ReadFailure) : FileStatus :=
  match failure with
  | .isDirectory => .directory
  | .other reason => .locked (.other reason)
  | known => .unreachable known

/-- What stands at a path. -/
def look (path : Path) : IO FileStatus := do
  try
    return .file (← IO.FS.readBinFile path.text)
  catch error =>
    return statusOf (failureOf error)

/-- The current time in the local zone. -/
def now : IO Moment := do
  let time ← Std.Time.DateTime.now
  return {
    year := time.year.toInt
    month := time.month.val.toNat
    day := time.day.val.toNat
    hour := time.hour.val.toNat
    minute := time.minute.val.toNat
    second := time.second.val.toNat
    nanosecond := time.nanosecond.val.toNat
    offset := time.timezone.offset.second.val }

/-- Runs the program on what is known about files, and learns more for as long as it
asks for more. -/
partial def answer (clock : Moment) (arguments : List String) (survey : Survey) :
    IO CommandLine.Outcome := do
  let (outcome, after) := (CommandLine.run Survey.probe clock arguments).run survey
  match after.wanted with
  | none => return outcome
  | some path => answer clock arguments (survey.learn path (← look path))

end TextTemplate.Program

/-- The command line. -/
def main (arguments : List String) : IO UInt32 := do
  let clock ← TextTemplate.Program.now
  let outcome ← TextTemplate.Program.answer clock arguments .start
  IO.print outcome.output
  IO.eprint (String.join (outcome.notices.map TextTemplate.CommandLine.Notice.print))
  return outcome.exit.toUInt32
