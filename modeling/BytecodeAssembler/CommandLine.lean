import BytecodeAssembler.Session
import BytecodeAssembler.Text.Blank

/-!
# The command line

The program takes one argument, the path of a listing, and assembles it.  `CommandLine.run` tells
all that it does: given the arguments and the outside world, which of its files can be read
included, it gives the text printed, the files written, the code object built and the fault the
program ends in, if any.

Whatever error of a file comes up while the listing is read and assembled, and is not handled before,
is taken to mean that the listing is not found.
-/

namespace BytecodeAssembler

/-- The end of a program run. -/
structure CommandLine.Result where
  printed : Text
  files : List OutputFile
  object : Option CodeObject
  fault : Option Fault

namespace CommandLine

/-- The error of a file that is not there. -/
def missing : FileError :=
  ⟨2, "No such file or directory"⟩

/-- Read the listing at a path and assemble it, with no handler; `content` gives the text of a file
that can be read. -/
def attempt (path : String) (content : String → Option String) (world : World)
    (dump : Option CodeObject → List UInt8) (order : SetOrder) : Result × Option FileError :=
  match content path with
  | none => (⟨[], [], none, none⟩, some missing)
  | some text =>
    let heading := "PyBy: The python bytecode assembler\nAssembling " ++ path ++ "\n"
    let o := (Session.start ⟨Path.fileName path, Text.lines text⟩).run world dump order
    (⟨Text.ofString heading ++ o.printed, o.files,
      if o.fault.isNone then o.session.object else none, o.fault⟩, o.error)

/-- Handle an error of a file: the listing is said not to be found. -/
def excused (path : String) : Result × Option FileError → Result
  | (r, some _) =>
    { r with
      printed := r.printed ++ Text.ofString ("The specified file is not found: " ++ path ++ "\n") }
  | (r, none) => r

/-- Run the program; `content` gives the text of a file that can be read, and `dump` tells which bytes
stand for a code object. -/
def run (arguments : List String) (content : String → Option String) (world : World)
    (dump : Option CodeObject → List UInt8 := CodeObject.tag) (order : SetOrder := .written) :
    Result :=
  match arguments with
  | [path] => excused path (attempt path content world dump order)
  | _ => ⟨Text.ofString (Fault.printed .usage), [], none, some .usage⟩

end CommandLine

end BytecodeAssembler
