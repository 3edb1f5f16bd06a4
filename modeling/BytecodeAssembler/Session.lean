import BytecodeAssembler.Assembly.Code
import BytecodeAssembler.Assembly.Declare
import BytecodeAssembler.CodeObject
import BytecodeAssembler.OutputFile

/-!
# Sessions

A session assembles one listing step by step.  A step changes the session, prints text, may write a
file and may end in a fault; after a fault the session holds all that was done before it, and
further steps may follow.  An error of a file ends a step as a fault does, and goes on outward until
something handles it.

`Session.run` carries out all steps in order, with a line of progress for each, up to the first that
is not completed.
-/

namespace BytecodeAssembler

structure Session where
  listing : Listing
  assembly : Assembly
  /-- The code object that was built last, if it is still in use. -/
  object : Option CodeObject

/-- What a step leaves behind. -/
structure Outcome where
  session : Session
  printed : Text
  files : List OutputFile
  fault : Option Fault
  /-- An error of a file that ended the step, and that nothing has handled. -/
  error : Option FileError

/-- Whether a step came to its end. -/
def Outcome.completed (o : Outcome) : Bool :=
  o.fault.isNone && o.error.isNone

namespace Session

def start (listing : Listing) : Session :=
  ⟨listing, Assembly.initial, none⟩

/-! ## Single steps -/

/-- The outcome of a step that printed `before`, with what is printed for its fault after that. -/
def ended (s : Session) (before : Text) (files : List OutputFile) (fault : Option Fault) :
    Outcome :=
  ⟨s, before ++ Text.ofString ((fault.map Fault.printed).getD ""), files, fault, none⟩

/-- Carry out the directives. -/
def declare (s : Session) : Outcome :=
  let (a, fault) := s.assembly.declareLines s.listing.directives
  ended { s with assembly := a } [] [] fault

/-- Assemble the code. -/
def assemble (s : Session) : Outcome :=
  let (a, fault) := s.assembly.assemble s.listing.linesBeforeCode s.listing.code
  ended { s with assembly := a } [] [] fault

/-- Build the code object; at a fault the earlier one stays. -/
def build (s : Session) (order : SetOrder := .written) : Outcome :=
  match CodeObject.build s.listing.name s.assembly order with
  | .ok object => ended { s with object := some object } [] [] none
  | .error f => ended s [] [] (some f)

/-- Write the code object to its file, with no handler; `dump` tells which bytes stand for it. -/
def writeFile (world : World) (s : Session) (dump : Option CodeObject → List UInt8) : Outcome :=
  let (files, fault, error) := OutputFile.write s.listing.targetName (dump s.object) world
  { ended s [] files fault with error := error }

/-- Handle an error of the output file: it is reported. -/
def reported (o : Outcome) : Outcome :=
  match o.error with
  | some e => ended o.session o.printed o.files (some (.report (.outputFailed e.code e.reason)))
  | none => o

/-- Write the code object to its file. -/
def write (world : World) (s : Session)
    (dump : Option CodeObject → List UInt8 := CodeObject.tag) : Outcome :=
  reported (s.writeFile world dump)

/-- The text of a value that stands alone: a text stands for itself. -/
def shownAlone (order : SetOrder) (v : Value) : Except Fault Text :=
  match v with
  | .str t => .ok t
  | v => if v.holdsLongInt then .error .longNumeral else .ok (v.arranged order).display

/-- How a result is shown: a tuple stands for its only item.  Where it has more, the first is still
made out before the others are found to be too many. -/
def shown (order : SetOrder) : Value → Except Fault Text
  | .tuple [] => .error .partCount
  | .tuple [v] => shownAlone order v
  | .tuple (v :: _) => do
    let _ ← shownAlone order v
    .error .partCount
  | v => shownAlone order v

/-- Evaluate a code object that returns the given result.  It takes the place of the one that was
built. -/
def evaluate (result : Value) (s : Session) (order : SetOrder := .written) : Outcome :=
  let s := { s with object := none }
  let heading := Text.ofString "Evaluating code object\n"
  match shown order result with
  | .ok t =>
    ended s
      (heading ++ Text.ofString "The python bytecode VM exited with return value " ++ t ++
        Text.ofString "\n") [] none
  | .error f => ended s heading [] (some f)

/-! ## All steps -/

/-- Carry out a step after an outcome that was completed, and join what they leave behind. -/
def next (heading : String) (step : Session → Outcome) (o : Outcome) : Outcome :=
  if o.completed then
    let o' := step o.session
    ⟨o'.session,
      o.printed ++ Text.ofString heading ++ o'.printed ++
        Text.ofString (if o'.completed then "Done.\n" else ""),
      o.files ++ o'.files, o'.fault, o'.error⟩
  else o

/-- Declare, assemble, build and write. -/
def run (world : World) (s : Session) (dump : Option CodeObject → List UInt8 := CodeObject.tag)
    (order : SetOrder := .written) : Outcome :=
  let o := next "Writing to file...  " (fun s => s.write world dump)
    (next "Generating Python Code object...  " (fun s => s.build order)
      (next "Assembling instructions...  " assemble
        (next "Initializing directives...  " declare ⟨s, [], [], none, none⟩)))
  if o.completed then
    { o with
      printed := o.printed ++
        Text.ofString ("Sucessfully assembled and saved to " ++ s.listing.targetName ++ "\n") }
  else o

end Session

end BytecodeAssembler
