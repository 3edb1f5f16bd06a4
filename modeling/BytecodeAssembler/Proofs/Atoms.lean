import BytecodeAssembler.Literal.Read
import Mathlib.Data.List.TakeWhile

/-!
# Expressions of one token

A name is an expression by itself, and so is a quoted text.  The readers of the grammar pass such a
token down from one to the next, and each finds nothing to add to it if the tokens end there or a
comma follows (`spreadable_atom`).  `Literal.read_of_expressions` turns what the readers find
into the value of a text.

A word that is an identifier, and no keyword or constant, is cut into one token, so it is a name and
no literal (`Literal.read_name`).
-/

namespace BytecodeAssembler.Literal

/-! ## Where an expression ends -/

/-- No expression goes on here: no token is left, or a comma is the next. -/
def EndsHere (ts : List Token) : Prop :=
  ts = [] ∨ ∃ more, ts = .symbol .comma :: more

/-- The expression that a token makes alone. -/
inductive AtomOf : Token → Expr → Prop
  | name (spelling : List Char) : AtomOf (.name spelling) (.name spelling)
  | text (t : Text) : AtomOf (.text t) (.constant (.str t))

/-- Few enough rules are open for a quoted text at this depth. -/
def Depth.HasRoom (d : Depth) : Prop :=
  d.level + 2 + Depth.toAtom ≤ Depth.limit

/-- So it is where a text or a list begins. -/
theorem Depth.hasRoom_of_level_le {d : Depth} (h : d.level ≤ 5) : d.HasRoom := by
  have hlimit : 5 + 2 + Depth.toAtom ≤ Depth.limit := by decide
  unfold HasRoom
  omega

theorem Depth.HasRoom.check {d : Depth} (h : d.HasRoom) : d.check = .ok () := by
  unfold HasRoom at h
  rw [Depth.check, if_pos (by omega)]

theorem Depth.HasRoom.check_below {d : Depth} (h : d.HasRoom) : (d.below 2).check = .ok () :=
  if_pos h

section Ends

variable {d : Depth} {e : Expr} {token : Token} {rest : List Token}

theorem operatorAt_ends (h : EndsHere rest) : operatorAt rest = none := by
  rcases h with rfl | ⟨more, rfl⟩ <;> rfl

theorem continued_ends (h : EndsHere rest) (n level last : Nat) :
    continued (n + 1) d level last e rest = .ok (e, rest) := by
  rw [continued, operatorAt_ends h]

theorem trailers_ends (h : EndsHere rest) (n : Nat) :
    trailers (n + 1) d e rest = .ok (e, rest) := by
  rcases h with rfl | ⟨more, rfl⟩ <;> simp [trailers]

theorem joined_ends (h : EndsHere rest) (n : Nat) (t : Text) :
    joined (n + 1) d (.text t) rest = .ok (.constant (.str t), rest) := by
  rcases h with rfl | ⟨more, rfl⟩ <;> simp [joined, Joined.expr, bind, Except.bind]

/-! ## One token from reader to reader -/

theorem atom_atom (ha : AtomOf token e) (h : EndsHere rest) (hd : d.HasRoom) (n : Nat) :
    atom (n + 3) d (token :: rest) = .ok (e, rest) := by
  cases ha with
  | name spelling =>
    rw [atom, hd.check]
    rfl
  | text t =>
    rw [atom, hd.check]
    · show joined (n + 2) d .nothing (.text t :: rest) = _
      rw [joined, hd.check_below]
      exact joined_ends h n t
    all_goals simp

theorem primary_atom (ha : AtomOf token e) (h : EndsHere rest) (hd : d.HasRoom) (n : Nat) :
    primary (n + 4) d (token :: rest) = .ok (e, rest) := by
  rw [primary, atom_atom ha h hd]
  exact trailers_ends h (n + 2)

theorem awaited_atom (ha : AtomOf token e) (h : EndsHere rest) (hd : d.HasRoom) (n : Nat) :
    awaited (n + 5) d (token :: rest) = .ok (e, rest) := by
  rw [awaited]
  · exact primary_atom ha h hd n
  · cases ha <;> simp

theorem operand_atom (ha : AtomOf token e) (h : EndsHere rest) (hd : d.HasRoom) (n : Nat) :
    operand (n + 6) d (token :: rest) = .ok (e, rest) := by
  rw [operand, awaited_atom ha h hd]
  · rcases h with rfl | ⟨more, rfl⟩ <;> rfl
  all_goals cases ha <;> simp

theorem operation_atom (ha : AtomOf token e) (h : EndsHere rest) (hd : d.HasRoom) (n level : Nat) :
    operation (n + 7) d level (token :: rest) = .ok (e, rest) := by
  rw [operation, operand_atom ha h hd]
  · exact continued_ends h (n + 5) level 0
  · cases ha <;> simp

/-- **A name or a text alone** is read as itself. -/
theorem spreadable_atom (ha : AtomOf token e) (h : EndsHere rest)
    (hd : (d.below d.detour).HasRoom) (n : Nat) :
    spreadable (n + 9) d false (token :: rest) = .ok (e, rest) := by
  rw [spreadable, expression, operation_atom ha h hd]
  · rcases h with rfl | ⟨more, rfl⟩ <;> rfl
  · cases ha <;> simp
  · simp

end Ends

/-! ## One token from characters -/

/-- Characters that may begin a token which is no bracket. -/
def OpensToken (c : Char) : Prop :=
  c ∉ [' ', '\t', '\x0c', '\n', '#', '\\', '(', '[', '\x7b', ')', ']', '\x7d']

instance (c : Char) : Decidable (OpensToken c) :=
  inferInstanceAs (Decidable (c ∉ _))

section Tokens

variable {c : Char} {cs rest : List Char} {token : Token}

theorem tokensFrom_nil (fuel : Nat) : tokensFrom fuel .within [] [] = [] := by
  cases fuel <;> rfl

theorem tokensFrom_lineStart (hc : OpensToken c) (fuel : Nat) (brackets : List Bracket) :
    tokensFrom (fuel + 1) (.lineStart false false) brackets (c :: cs)
      = tokensFrom fuel .within brackets (c :: cs) := by
  simp only [OpensToken, List.mem_cons, List.not_mem_nil, or_false, not_or] at hc
  simp [tokensFrom, hc]

theorem tokensFrom_plain (hc : OpensToken c) (h : plainToken (c :: cs) = some (token, rest))
    (ht : token ≠ .invalid) (fuel : Nat) (brackets : List Bracket) :
    tokensFrom (fuel + 1) .within brackets (c :: cs)
      = token :: tokensFrom fuel .within brackets rest := by
  simp only [OpensToken, List.mem_cons, List.not_mem_nil, or_false, not_or] at hc
  simp [tokensFrom, hc, opening?, closing?, h]

/-- Without carriage returns all lines break in one way. -/
theorem unifyBreaks_eq_self (h : '\r' ∉ cs) : unifyBreaks cs = cs := by
  induction cs with
  | nil => rfl
  | cons c cs ih =>
    rw [List.mem_cons, not_or] at h
    rw [unifyBreaks, ih h.2]
    · simp [Ne.symm h.1]
    · rintro cs rfl
      exact absurd rfl h.1

end Tokens

/-! ## From expressions to values -/

theorem readAll_of_expressions {fuel : Nat} {ts : List Token} {e : Expr}
    (hts : ∀ more, ts ≠ .indent :: more) (h : expressions fuel ⟨3, 0⟩ false ts = .ok (e, [])) :
    readAll fuel 0 ts = .ok e := by
  unfold readAll
  split
  · exact absurd rfl (hts _)
  · rw [h]
    rfl

/-- A text that is all one expression, and not too high a one, is read as that expression. -/
theorem read_of_expressions {text : String} {e : Expr}
    (hblank : ∀ c ∈ text.toList.head?, c ≠ ' ' ∧ c ≠ '\t') (hnul : '\x00' ∉ text.toList)
    (hts : ∀ more, tokens text.toList ≠ .indent :: more)
    (h : expressions (16 * (text.toList.length + 1)) ⟨3, 0⟩ false (tokens text.toList)
      = .ok (e, []))
    (hheight : e.height ≤ Expr.maxHeight) : read text = e.value := by
  have hdrop : text.toList.dropWhile (fun c => c == ' ' || c == '\t') = text.toList := by
    cases hcs : text.toList with
    | nil => rfl
    | cons c cs =>
      have hc : c ≠ ' ' ∧ c ≠ '\t' := hblank c (by rw [hcs]; rfl)
      rw [List.dropWhile_cons_of_neg (by simpa using hc)]
  have hparse : parse text.toList = .ok e := by
    simp only [parse, readAll_of_expressions hts h, if_pos hheight]
  unfold read
  rw [hdrop]
  simp only [List.contains_iff_mem, if_neg hnul, hparse]
  rfl

/-! ## Names -/

theorem isWordStart_of_isIdentifierStart {c : Char} (h : Text.isIdentifierStart c = true) :
    isWordStart c = true := by
  unfold Text.isIdentifierStart at h
  split at h
  · rw [isWordStart, h, Bool.true_or]
  · rename_i hbeyond
    rw [isWordStart, decide_eq_true (Nat.not_lt.mp hbeyond), Bool.or_true]

theorem isWordLike_of_isWordStart {c : Char} (h : isWordStart c = true) : isWordLike c = true := by
  simp only [isWordStart, Bool.or_eq_true] at h
  rcases h with (h | h) | h <;> simp [isWordLike, Char.isAlphanum, h]

theorem isWordLike_of_isIdentifierRest {c : Char} (h : Text.isIdentifierRest c = true) :
    isWordLike c = true := by
  rcases Bool.or_eq_true_iff.mp h with h | h
  · exact isWordLike_of_isWordStart (isWordStart_of_isIdentifierStart h)
  · split at h
    · simp [isWordLike, Char.isAlphanum, h]
    · rename_i hbeyond
      rw [isWordLike, decide_eq_true (Nat.not_lt.mp hbeyond), Bool.or_true]

theorem isWordLike_of_isIdentifier {word : List Char} (h : isIdentifier word = true) :
    ∀ c ∈ word, isWordLike c = true := by
  cases word with
  | nil => cases h
  | cons c cs =>
    obtain ⟨hc, hcs⟩ := Bool.and_eq_true_iff.mp h
    have hstart := isWordLike_of_isWordStart (isWordStart_of_isIdentifierStart hc)
    refine List.forall_mem_cons.mpr ⟨hstart, fun x hx => ?_⟩
    exact isWordLike_of_isIdentifierRest (List.all_eq_true.mp hcs x hx)

theorem not_mem_of_isIdentifier {word : List Char} {c : Char} (h : isIdentifier word = true)
    (hc : isWordLike c = false) : c ∉ word := by
  intro hmem
  rw [isWordLike_of_isIdentifier h c hmem] at hc
  cases hc

theorem opensToken_of_isWordStart {c : Char} (h : isWordStart c = true) : OpensToken c := by
  have hnone : [' ', '\t', '\x0c', '\n', '#', '\\', '(', '[', '\x7b', ')', ']', '\x7d'].all
      (fun x => !isWordStart x) = true := by decide
  intro hmem
  have hc := List.all_eq_true.mp hnone c hmem
  simp [h] at hc

theorem plainToken_identifier {word : List Char} (h : isIdentifier word = true) :
    plainToken word = some (Token.ofWord word, []) := by
  cases word with
  | nil => cases h
  | cons c cs =>
    have hc : isWordStart c = true :=
      isWordStart_of_isIdentifierStart (Bool.and_eq_true_iff.mp h).1
    have hlike := isWordLike_of_isIdentifier h
    have htake : (c :: cs).takeWhile isWordLike = c :: cs := List.takeWhile_eq_self_iff.mpr hlike
    have hdrop : (c :: cs).dropWhile isWordLike = [] := List.dropWhile_eq_nil_iff.mpr hlike
    simp only [plainToken, hc, if_true, wordOrQuoted, htake, hdrop, h]

/-- **An identifier is one token.** -/
theorem tokens_identifier {word : List Char} (h : isIdentifier word = true) :
    tokens word = [Token.ofWord word] := by
  have hreturn : '\r' ∉ word := not_mem_of_isIdentifier h (by decide)
  have hvalid : Token.ofWord word ≠ .invalid := by
    unfold Token.ofWord
    split <;> simp
  cases word with
  | nil => cases h
  | cons c cs =>
    have hopens : OpensToken c := opensToken_of_isWordStart
      (isWordStart_of_isIdentifierStart (Bool.and_eq_true_iff.mp h).1)
    unfold tokens
    rw [unifyBreaks_eq_self hreturn]
    show tokensFrom (2 * (c :: cs).length + 1 + 1) _ _ _ = _
    rw [tokensFrom_lineStart hopens, tokensFrom_plain hopens (plainToken_identifier h) hvalid,
      tokensFrom_nil]

/-- Words that are names: identifiers that are neither keywords nor constants. -/
def IsName (word : String) : Prop :=
  isIdentifier word.toList = true ∧ Token.ofWord word.toList = .name word.toList

/-- **A name is no literal.** -/
theorem read_name {word : String} (hname : IsName word) : read word = .error .notLiteral := by
  obtain ⟨h, htoken⟩ := hname
  have htokens : tokens word.toList = [.name word.toList] := by
    rw [tokens_identifier h, htoken]
  have hexpr : expressions (16 * (word.toList.length + 1)) ⟨3, 0⟩ false (tokens word.toList)
      = .ok (.name word.toList, []) := by
    show expressions (16 * word.toList.length + 6 + 9 + 1) ⟨3, 0⟩ false _ = _
    rw [htokens, expressions, spreadable_atom (.name _) (.inl rfl)
      (Depth.hasRoom_of_level_le (by decide))]
    rfl
  rw [read_of_expressions _ _ _ hexpr]
  · rfl
  · show 1 ≤ Expr.maxHeight
    decide
  · intro c hc
    have hmem := List.mem_of_mem_head? hc
    exact ⟨fun heq => not_mem_of_isIdentifier h (c := ' ') (by decide) (heq ▸ hmem),
      fun heq => not_mem_of_isIdentifier h (c := '\t') (by decide) (heq ▸ hmem)⟩
  · exact not_mem_of_isIdentifier h (by decide)
  · rw [htokens]
    simp

end BytecodeAssembler.Literal
