import BytecodeAssembler.Text.Blank
import BytecodeAssembler.Text.WordChar

/-!
# Directives

A directive line has one of four forms: `#define` sets a field, `#const` declares a constant,
`#defn` lists the global names and `#defvar` the local ones.  At least one blank follows the
keyword, and the name in the first two forms; what comes after it goes to the end of the line.
Lines of any other form mean nothing.
-/

namespace BytecodeAssembler

inductive Directive where
  | field (name value : String)
  | constant (name value : String)
  | globals (names : String)
  | locals (names : String)
deriving DecidableEq

namespace Directive

/-- What follows one or more blanks. -/
def afterBlanks? (cs : List Char) : Option (List Char) :=
  match cs with
  | c :: rest => if Text.isBlank c then some (rest.dropWhile Text.isBlank) else none
  | [] => none

/-- What follows a keyword and blanks. -/
def afterKeyword? (keyword : String) (cs : List Char) : Option (List Char) :=
  if keyword.toList.isPrefixOf cs then afterBlanks? (cs.drop keyword.toList.length) else none

/-- The rest of a line: it holds no line feed, but for one at its end, which does not count. -/
def restOfLine? (cs : List Char) : Option String :=
  if !cs.contains '\n' then some (String.ofList cs)
  else if cs.getLast? == some '\n' && !cs.dropLast.contains '\n' then
    some (String.ofList cs.dropLast)
  else none

/-- A name, blanks, and the rest of the line. -/
def nameAndRest? (cs : List Char) : Option (String × String) :=
  let name := cs.takeWhile Text.isWordChar
  if name.isEmpty then none
  else do
    let rest ← afterBlanks? (cs.dropWhile Text.isWordChar)
    let value ← restOfLine? rest
    some (String.ofList name, value)

/-- The directive on a line. -/
def ofLine? (line : String) : Option Directive :=
  let cs := line.toList
  match afterKeyword? "#define" cs with
  | some rest => (nameAndRest? rest).map fun (name, value) => .field name value
  | none =>
    match afterKeyword? "#const" cs with
    | some rest => (nameAndRest? rest).map fun (name, value) => .constant name value
    | none =>
      match afterKeyword? "#defn" cs with
      | some rest => (restOfLine? rest).map .globals
      | none => (afterKeyword? "#defvar" cs).bind fun rest => (restOfLine? rest).map .locals

/-! ## Lists of names -/

/-- Split at commas and the blanks after them; `name` is what the current name holds so far, last
character first, and `afterComma` holds while blanks are passed over. -/
def splitNames (name : List Char) (afterComma : Bool) : List Char → List (List Char)
  | [] => [name.reverse]
  | c :: cs =>
    if c == ',' then name.reverse :: splitNames [] true cs
    else if afterComma && Text.isBlank c then splitNames name true cs
    else splitNames (c :: name) false cs

/-- Names in double quotes with commas between them. -/
def quoteAll : List (List Char) → List Char
  | [] => []
  | [name] => '"' :: name ++ ['"']
  | name :: names => '"' :: name ++ ['"', ',', ' '] ++ quoteAll names

/-- The literal that a list of names stands for. -/
def namesLiteral (names : String) : String :=
  String.ofList (quoteAll (splitNames [] false names.toList))

end Directive

end BytecodeAssembler
