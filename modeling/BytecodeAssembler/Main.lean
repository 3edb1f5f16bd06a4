import BytecodeAssembler.CommandLine
import Std.Time.DateTime.Timestamp

/-!
# The program

Reads the listing and the clock, and carries out in the outside world what `CommandLine.run` tells.
When the output file cannot be written, the run is told again with that failure, so that it is
reported.
-/

namespace BytecodeAssembler.Program

/-- A text as a string; a lone surrogate has no character and shows as a question mark. -/
def string (t : Text) : String :=
  String.ofList (t.map fun p => (CodePoint.toChar? p).getD '?')

/-- The failure behind an error of the operating system. -/
def failureOf : IO.Error → OutputFailure
  | .alreadyExists _ c d | .otherError c d | .resourceBusy c d | .resourceVanished c d
  | .unsupportedOperation c d | .hardwareFault c d | .unsatisfiedConstraints c d
  | .illegalOperation c d | .protocolError c d | .timeExpired c d | .interrupted _ c d
  | .noFileOrDirectory _ c d | .invalidArgument _ c d | .permissionDenied _ c d
  | .resourceExhausted _ c d | .inappropriateType _ c d | .noSuchThing _ c d =>
    ⟨.opening, c.toNat, d⟩
  | .unexpectedEof => ⟨.opening, 0, "end of file"⟩
  | .userError d => ⟨.opening, 0, d⟩

/-- The listing at a path, if it can be read. -/
def listingAt (path : String) : IO (Option String) := do
  try
    return some (← IO.FS.readFile path)
  catch _ =>
    return none

/-- Write files; the first failure ends it. -/
def writeFiles (files : List OutputFile) : IO (Option OutputFailure) := do
  try
    for file in files do
      IO.FS.writeBinFile file.name ⟨file.bytes.toArray⟩
    return none
  catch error =>
    return some (failureOf error)

/-- The status that the program exits with. -/
def status : Option Fault → UInt32
  | none => 0
  | some (.report _) => 254
  | some .usage => 255
  | some _ => 1

end BytecodeAssembler.Program

open BytecodeAssembler BytecodeAssembler.Program in
def main (arguments : List String) : IO UInt32 := do
  let nanoseconds := (← Std.Time.Timestamp.now).toNanosecondsSinceUnixEpoch.val
  let now : Rat := mkRat nanoseconds 1000000000
  let text ← match arguments with
    | [path] => listingAt path
    | _ => pure none
  let result := CommandLine.run arguments (fun _ => text) ⟨now, none⟩
  let result ← match ← writeFiles result.files with
    | none => pure result
    | some failure => pure (CommandLine.run arguments (fun _ => text) ⟨now, some failure⟩)
  IO.print (string result.printed)
  match result.fault.bind Fault.message? with
  | some message => if status result.fault = 1 then IO.eprintln (string message)
  | none => pure ()
  return status result.fault
