/-!
# Capital letters

Mnemonics are spelled in capitals, and a line may spell them in any case.  The letters whose capital
form is plain ASCII are the small ASCII letters, the dotless i, the long s, the sharp s and seven
ligatures, some of which have two or three capitals.  Every other letter stays as it is: no mnemonic
holds its capital form, so the word is unknown either way.
-/

namespace BytecodeAssembler.Text

/-- The capital form of a character where that is ASCII, and otherwise the character itself. -/
def capital (c : Char) : List Char :=
  match c with
  | 'ı' => ['I']
  | 'ſ' => ['S']
  | 'ß' => ['S', 'S']
  | 'ﬀ' => ['F', 'F']
  | 'ﬁ' => ['F', 'I']
  | 'ﬂ' => ['F', 'L']
  | 'ﬃ' => ['F', 'F', 'I']
  | 'ﬄ' => ['F', 'F', 'L']
  | 'ﬅ' => ['S', 'T']
  | 'ﬆ' => ['S', 'T']
  | c => [c.toUpper]

/-- A word in capitals. -/
def capitals (word : String) : String :=
  String.ofList (word.toList.flatMap capital)

end BytecodeAssembler.Text
