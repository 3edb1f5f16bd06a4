/-!
# Code points and texts

A text that a listing describes may hold any Unicode code point, lone surrogates included, because a
quoted literal can spell one by number.  `Char` leaves the surrogates out, so texts are lists of
`CodePoint`.  Lines of a listing are ordinary strings and enter the world of texts by
`Text.ofString`.
-/

namespace BytecodeAssembler

/-- A Unicode code point; surrogates count. -/
abbrev CodePoint := Fin 0x110000

/-- A sequence of code points. -/
abbrev Text := List CodePoint

/-- The code point of a character. -/
def CodePoint.ofChar (c : Char) : CodePoint :=
  ⟨c.toNat, by
    have h := c.valid
    simp only [UInt32.isValidChar, Nat.isValidChar] at h
    simp only [Char.toNat]
    omega⟩

/-- The code point of a number, when there is one. -/
def CodePoint.ofNat? (n : Nat) : Option CodePoint :=
  if h : n < 0x110000 then some ⟨n, h⟩ else none

/-- The character of a code point; a surrogate has none. -/
def CodePoint.toChar? (p : CodePoint) : Option Char :=
  if h : p.val.isValidChar then some (Char.ofNatAux p.val h) else none

namespace Text

def ofChars (cs : List Char) : Text :=
  cs.map CodePoint.ofChar

def ofString (s : String) : Text :=
  ofChars s.toList

end Text

/-- Two characters with one code point are the same. -/
theorem CodePoint.ofChar_injective {c d : Char} (h : CodePoint.ofChar c = CodePoint.ofChar d) :
    c = d := by
  have hval : (CodePoint.ofChar c).val = (CodePoint.ofChar d).val := congrArg Fin.val h
  exact Char.toNat_inj.mp hval

theorem Text.ofChars_injective {cs ds : List Char} (h : Text.ofChars cs = Text.ofChars ds) :
    cs = ds := by
  induction cs generalizing ds with
  | nil => cases ds <;> simp_all [Text.ofChars]
  | cons c cs ih =>
    cases ds with
    | nil => simp [Text.ofChars] at h
    | cons d ds =>
      simp only [Text.ofChars, List.map_cons, List.cons.injEq] at h
      rw [CodePoint.ofChar_injective h.1, ih h.2]

theorem Text.ofString_injective {s t : String} (h : Text.ofString s = Text.ofString t) : s = t :=
  String.toList_inj.mp (Text.ofChars_injective h)

end BytecodeAssembler
