import BytecodeAssembler.Fault

/-!
# Output files

A compiled file holds a magic number, the time as a stamp of four bytes, least byte first, and the
body.  The three parts are written one after the other, and writing may fail at any point: when the
file is opened, at one of the three parts, which is then not written, or when the file is closed.
Such a failure raises an error, which is for others to handle.  The stamp is made after the magic
number is written, and a time that does not fit into it ends the writing there; that is a fault like
any other, and no error of a file.
-/

namespace BytecodeAssembler

/-- A file that was opened for writing, and the bytes that got into it. -/
structure OutputFile where
  name : String
  bytes : List UInt8
deriving DecidableEq

/-- Where writing a file may fail. -/
inductive OutputStage where
  | opening
  | writing (part : Nat)
  | closing
deriving DecidableEq

/-- An error of a file that was raised, and not handled yet. -/
structure FileError where
  code : Int
  reason : String
deriving DecidableEq

/-- A failure of the outside world while a file is written. -/
structure OutputFailure where
  stage : OutputStage
  code : Int
  reason : String

/-- The error that a failure raises. -/
def OutputFailure.error (failure : OutputFailure) : FileError :=
  ⟨failure.code, failure.reason⟩

/-- The outside world during a step: the clock in seconds, and what goes wrong with output, if
anything. -/
structure World where
  now : Rat
  failure : Option OutputFailure

namespace OutputFile

/-- The first four bytes of a compiled file. -/
def magic : List UInt8 :=
  [0x0a, 0xf3, 0x0d, 0x0a]

/-- Whole seconds of a time, cut toward zero. -/
def seconds (now : Rat) : Int :=
  now.num.tdiv now.den

/-- The stamp of a time. -/
def stamp? (now : Rat) : Option (List UInt8) :=
  let t := seconds now
  if 0 ≤ t && t < 0x100000000 then
    let n := t.toNat
    some [UInt8.ofNat n, UInt8.ofNat (n / 0x100), UInt8.ofNat (n / 0x10000),
      UInt8.ofNat (n / 0x1000000)]
  else none

/-- The error that is raised at a stage, if there is one. -/
def errorAt? (world : World) (stage : OutputStage) : Option FileError :=
  match world.failure with
  | some failure => if failure.stage = stage then some failure.error else none
  | none => none

/-- Write a compiled file with the given body: the file, if it was opened, and the fault or the error
that ended the writing. -/
def write (name : String) (body : List UInt8) (world : World) :
    List OutputFile × Option Fault × Option FileError :=
  match errorAt? world .opening with
  | some e => ([], none, some e)
  | none =>
    match errorAt? world (.writing 0) with
    | some e => ([⟨name, []⟩], none, some e)
    | none =>
      match stamp? world.now with
      | none => ([⟨name, magic⟩], some .stampRange, none)
      | some stamp =>
        match errorAt? world (.writing 1) with
        | some e => ([⟨name, magic⟩], none, some e)
        | none =>
          match errorAt? world (.writing 2) with
          | some e => ([⟨name, magic ++ stamp⟩], none, some e)
          | none => ([⟨name, magic ++ stamp ++ body⟩], none, errorAt? world .closing)

end OutputFile

end BytecodeAssembler
