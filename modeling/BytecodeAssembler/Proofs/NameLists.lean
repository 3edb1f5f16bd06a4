import BytecodeAssembler.Proofs.Atoms
import BytecodeAssembler.Proofs.ListedNames
import Mathlib

/-!
# Lists of plain names

Names of letters, digits and underscores with commas between them (`Directive.Lists`) are split, put
in quotes and read as a literal.  What is read is a row of texts: `Literal.read_quoteAll` follows
the quoted list through the tokens and the grammar.  A single text is no tuple, so a list of one
name stands for its characters (`Directive.listed`).

The main result is `Session.declare_listedNames`: what the last list of a kind leaves in the field
of its names and in the table that numbers them.
-/

namespace BytecodeAssembler

/-! ## Lists and their splitting -/

namespace Directive

/-- Characters of plain names. -/
def isNameChar (c : Char) : Bool :=
  c.isAlphanum || c == '_'

/-- Letters, digits and underscores, one at least. -/
def IsPlain (name : List Char) : Prop :=
  name ≠ [] ∧ ∀ c ∈ name, isNameChar c = true

/-- **Lists of names**: plain names with commas between them, and blanks or tabs after any comma. -/
inductive Lists : List String → String → Prop
  | single {name : String} (h : IsPlain name.toList) : Lists [name] name
  | cons {name blanks text : String} {names : List String} (h : IsPlain name.toList)
      (hblanks : ∀ c ∈ blanks.toList, c = ' ' ∨ c = '\t') (htext : Lists names text) :
      Lists (name :: names) (name ++ "," ++ blanks ++ text)

/-- What a list stands for: a single name stands for its characters. -/
def listed : List String → List Text
  | [name] => name.toList.map fun c => Text.ofChars [c]
  | names => names.map Text.ofString

theorem isNameChar_ne {c d : Char} (hc : isNameChar c = true) (hd : isNameChar d = false) :
    c ≠ d := by
  rintro rfl
  rw [hc] at hd
  cases hd

theorem toNat_of_isNameChar {c : Char} (h : isNameChar c = true) :
    0x30 ≤ c.toNat ∧ c.toNat ≤ 0x7a := by
  have hval : c.toNat = c.val.toNat := rfl
  rw [isNameChar, Bool.or_eq_true, beq_iff_eq] at h
  rcases h with h | rfl
  · simp only [Char.isAlphanum, Char.isAlpha, Char.isUpper, Char.isLower, Char.isDigit,
      Bool.or_eq_true, Bool.and_eq_true, decide_eq_true_eq, UInt32.le_iff_toNat_le, ge_iff_le] at h
    have hcapitals : 'A'.val.toNat = 0x41 ∧ 'Z'.val.toNat = 0x5a := ⟨rfl, rfl⟩
    have hsmall : 'a'.val.toNat = 0x61 ∧ 'z'.val.toNat = 0x7a := ⟨rfl, rfl⟩
    have hdigits : '0'.val.toNat = 0x30 ∧ '9'.val.toNat = 0x39 := ⟨rfl, rfl⟩
    omega
  · decide

theorem isBlank_of_isNameChar {c : Char} (h : isNameChar c = true) : Text.isBlank c = false := by
  obtain ⟨hlow, hhigh⟩ := toNat_of_isNameChar h
  simp only [Text.isBlank, Text.blankRanges, Text.Ranges.holds, List.any_cons, List.any_nil,
    Bool.or_false, Bool.or_eq_false_iff, Bool.and_eq_false_iff, decide_eq_false_iff_not]
  omega

theorem splitNames_plain {name : List Char} (h : ∀ c ∈ name, isNameChar c = true)
    (held rest : List Char) :
    splitNames held false (name ++ rest) = splitNames (name.reverse ++ held) false rest := by
  induction name generalizing held with
  | nil => rfl
  | cons c name ih =>
    obtain ⟨hc, hname⟩ := List.forall_mem_cons.mp h
    have hcomma : c ≠ ',' := isNameChar_ne hc (by decide)
    rw [List.cons_append, splitNames, if_neg (by simpa using hcomma), if_neg (by simp), ih hname]
    simp

/-- Blanks after a comma are passed over. -/
theorem splitNames_blanks {blanks : List Char} (h : ∀ c ∈ blanks, c = ' ' ∨ c = '\t')
    (rest : List Char) : splitNames [] true (blanks ++ rest) = splitNames [] true rest := by
  induction blanks with
  | nil => rfl
  | cons c blanks ih =>
    obtain ⟨hc, hblanks⟩ := List.forall_mem_cons.mp h
    rcases hc with rfl | rfl <;> exact ih hblanks

/-- A name opens after a comma as at the start of the list. -/
theorem splitNames_first {c : Char} (hc : isNameChar c = true) (afterComma : Bool)
    (rest : List Char) : splitNames [] afterComma (c :: rest) = splitNames [c] false rest := by
  have hcomma : c ≠ ',' := isNameChar_ne hc (by decide)
  rw [splitNames, if_neg (by simpa using hcomma), isBlank_of_isNameChar hc, Bool.and_false]
  rfl

theorem splitNames_name {name : List Char} (h : IsPlain name) (afterComma : Bool)
    (rest : List Char) :
    splitNames [] afterComma (name ++ rest) = splitNames name.reverse false rest := by
  obtain ⟨hne, hchars⟩ := h
  cases name with
  | nil => exact absurd rfl hne
  | cons c cs =>
    obtain ⟨hc, hcs⟩ := List.forall_mem_cons.mp hchars
    rw [List.cons_append, splitNames_first hc, splitNames_plain hcs, List.reverse_cons]

/-- **Splitting a list** gives its names. -/
theorem Lists.splitNames {names : List String} {text : String} (h : Lists names text)
    (afterComma : Bool) :
    splitNames [] afterComma text.toList = names.map String.toList := by
  induction h generalizing afterComma with
  | @single name hname =>
    have hsplit := splitNames_name hname afterComma []
    rw [List.append_nil] at hsplit
    rw [hsplit]
    simp [Directive.splitNames]
  | @cons name blanks text names hname hblanks htext ih =>
    have hchars : (name ++ "," ++ blanks ++ text).toList
        = name.toList ++ ',' :: (blanks.toList ++ text.toList) := by
      simp
    rw [hchars, splitNames_name hname, Directive.splitNames, if_pos (by simp),
      splitNames_blanks hblanks, ih true]
    simp

theorem Lists.ne_nil {names : List String} {text : String} (h : Lists names text) : names ≠ [] := by
  cases h <;> simp

theorem Lists.isPlain {names : List String} {text : String} (h : Lists names text) :
    ∀ name ∈ names, IsPlain name.toList := by
  induction h with
  | single hname => simpa using hname
  | cons hname hblanks htext ih => exact List.forall_mem_cons.mpr ⟨hname, ih⟩

/-- A list opens with a character of its first name. -/
theorem Lists.opens {names : List String} {text : String} (h : Lists names text) :
    ∃ c rest, text.toList = c :: rest ∧ isNameChar c = true := by
  have hopens : ∀ {name : List Char} (more : List Char), IsPlain name →
      ∃ c rest, name ++ more = c :: rest ∧ isNameChar c = true := by
    intro name more hname
    cases name with
    | nil => exact absurd rfl hname.1
    | cons c cs => exact ⟨c, cs ++ more, rfl, hname.2 c List.mem_cons_self⟩
  cases h with
  | single hname => simpa using hopens [] hname
  | cons hname hblanks htext => simpa using hopens _ hname

/-- A list is all on one line. -/
theorem Lists.not_mem_newline {names : List String} {text : String} (h : Lists names text) :
    '\n' ∉ text.toList := by
  have hname : ∀ {name : List Char}, IsPlain name → '\n' ∉ name := fun hplain hmem =>
    isNameChar_ne (hplain.2 _ hmem) (by decide) rfl
  induction h with
  | single hplain => exact hname hplain
  | cons hplain hblanks htext ih =>
    simp only [String.toList_append, List.mem_append, not_or]
    refine ⟨⟨⟨hname hplain, by decide⟩, fun hmem => ?_⟩, ih⟩
    rcases hblanks _ hmem with h | h <;> cases h

/-! ## Listing directives -/

end Directive

namespace NameKind

/-- The word that a listing directive opens with. -/
def keyword : NameKind → String
  | .global => "#defn"
  | .local => "#defvar"

end NameKind

/-- A list after its keyword and a blank is the list of a directive. -/
theorem Directive.Lists.ofLine? {names : List String} {text : String} (h : Lists names text)
    (kind : NameKind) :
    Directive.ofLine? (kind.keyword ++ " " ++ text) = some (kind.directive text) := by
  obtain ⟨c, rest, hcs, hc⟩ := h.opens
  have hblanks : text.toList.dropWhile Text.isBlank = text.toList := by
    rw [hcs, List.dropWhile_cons_of_neg (by simp [isBlank_of_isNameChar hc])]
  have hrest : restOfLine? text.toList = some text := by
    simp [restOfLine?, h.not_mem_newline]
  have hafter : afterBlanks? (' ' :: text.toList) = some text.toList := by
    rw [afterBlanks?, hblanks]
    rfl
  have hline : (kind.keyword ++ " " ++ text).toList
      = kind.keyword.toList ++ ' ' :: text.toList := by
    simp
  have hkeyword : afterKeyword? kind.keyword (kind.keyword.toList ++ ' ' :: text.toList)
      = some text.toList := by
    simp [afterKeyword?, hafter]
  have hother : ∀ keyword : String,
      keyword.toList.isPrefixOf (kind.keyword.toList ++ ' ' :: text.toList) = false →
      afterKeyword? keyword (kind.keyword.toList ++ ' ' :: text.toList) = none := by
    intro keyword hno
    rw [afterKeyword?, hno]
    rfl
  have hdefine := hother "#define" (by cases kind <;> rfl)
  have hconst := hother "#const" (by cases kind <;> rfl)
  unfold Directive.ofLine?
  rw [hline]
  simp only [hdefine, hconst]
  cases kind with
  | global =>
    change afterKeyword? "#defn" _ = _ at hkeyword
    simp only [hkeyword, hrest]
    rfl
  | «local» =>
    change afterKeyword? "#defvar" _ = _ at hkeyword
    simp only [hother "#defn" rfl, hkeyword, Option.bind_some, hrest]
    rfl

namespace Literal

/-! ## Names in quotes -/

section Quoted

variable {name rest : List Char}

theorem untilQuote_plain (h : ∀ c ∈ name, Directive.isNameChar c = true) :
    untilQuote '"' (name ++ '"' :: rest) = some (name, rest) := by
  induction name with
  | nil => simp [untilQuote]
  | cons c name ih =>
    obtain ⟨hc, hname⟩ := List.forall_mem_cons.mp h
    have hne : ∀ d, Directive.isNameChar d = false → c ≠ d := fun d => Directive.isNameChar_ne hc
    rw [List.cons_append, untilQuote, ih hname]
    · simp [hne '"' (by decide), hne '\n' (by decide), hne '\\' (by decide)]
    · exact fun _ _ heq _ => hne '\\' (by decide) heq

theorem unescape_plain (h : ∀ c ∈ name, Directive.isNameChar c = true) :
    unescape true name.length name = some (name.map Char.toNat) := by
  induction name with
  | nil => rfl
  | cons c name ih =>
    obtain ⟨hc, hname⟩ := List.forall_mem_cons.mp h
    rw [List.length_cons, unescape, ih hname]
    · rfl
    · exact Directive.isNameChar_ne hc (by decide)

theorem mapM_ofNat? (name : List Char) :
    (name.map Char.toNat).mapM CodePoint.ofNat? = some (Text.ofChars name) := by
  have hchar : ∀ c : Char, CodePoint.ofNat? c.toNat = some (CodePoint.ofChar c) := fun c =>
    dif_pos (CodePoint.ofChar c).isLt
  induction name with
  | nil => rfl
  | cons c name ih =>
    rw [List.map_cons, List.mapM_cons, hchar, ih]
    rfl

/-- A plain name in quotes is a text. -/
theorem plainToken_quoted (hplain : Directive.IsPlain name) :
    plainToken ('"' :: (name ++ '"' :: rest)) = some (.text (Text.ofChars name), rest) := by
  obtain ⟨hne, h⟩ := hplain
  have hsingle : ['"', '"'].isPrefixOf (name ++ '"' :: rest) = false := by
    cases name with
    | nil => exact absurd rfl hne
    | cons c name =>
      have hc : c ≠ '"' := Directive.isNameChar_ne (h c List.mem_cons_self) (by decide)
      simp [List.isPrefixOf, Ne.symm hc]
  have htoken : quotedToken ⟨false, false, false⟩ name = .text (Text.ofChars name) := by
    simp only [quotedToken, Bool.false_eq_true, if_false, unescapeText, unescape_plain h,
      Option.bind_some, mapM_ofNat?]
  have hplain : plainToken ('"' :: (name ++ '"' :: rest))
      = quotedAt ⟨false, false, false⟩ '"' (name ++ '"' :: rest) := by
    simp [plainToken, isWordStart]
  rw [hplain, quotedAt, hsingle, untilQuote_plain h]
  simp [htoken]

end Quoted

/-! ## Rows of texts -/

/-- The tokens of texts with commas between them. -/
def rowTokens : List Text → List Token
  | [] => []
  | [t] => [.text t]
  | t :: ts => .text t :: .symbol .comma :: rowTokens ts

/-- The expression that texts in a row make: without a comma there is no tuple. -/
def rowExpr : List Text → Expr
  | [t] => .constant (.str t)
  | ts => .tuple (ts.map fun t => .constant (.str t))

/-- The value of texts in a row. -/
def rowValue : List Text → Value
  | [t] => .str t
  | ts => .tuple (ts.map .str)

/-- **The tokens of names in quotes.**  Every name takes three steps, with the comma and the blank
after it. -/
theorem tokensFrom_quoteAll {names : List (List Char)} (h : ∀ name ∈ names, Directive.IsPlain name)
    {fuel : Nat} (hfuel : 3 * names.length ≤ fuel) :
    tokensFrom fuel .within [] (Directive.quoteAll names) = rowTokens (names.map Text.ofChars) := by
  induction names generalizing fuel with
  | nil => exact tokensFrom_nil fuel
  | cons name names ih =>
    obtain ⟨hname, hnames⟩ := List.forall_mem_cons.mp h
    rw [List.length_cons] at hfuel
    obtain ⟨fuel, rfl⟩ : ∃ k, fuel = k + 3 := ⟨fuel - 3, by omega⟩
    cases names with
    | nil =>
      rw [Directive.quoteAll, List.cons_append,
        tokensFrom_plain (by decide) (plainToken_quoted hname) (by simp), tokensFrom_nil]
      rfl
    | cons other names =>
      have hrest : tokensFrom fuel .within [] (Directive.quoteAll (other :: names))
          = rowTokens ((other :: names).map Text.ofChars) := ih hnames (by omega)
      have hquoted : Directive.quoteAll (name :: other :: names)
          = '"' :: (name ++ '"' :: ',' :: ' ' :: Directive.quoteAll (other :: names)) := by
        simp [Directive.quoteAll]
      have hcomma : ∀ more,
          plainToken (',' :: ' ' :: more) = some (.symbol .comma, ' ' :: more) := by
        intro more
        rfl
      rw [hquoted, tokensFrom_plain (by decide) (plainToken_quoted hname) (by simp),
        tokensFrom_plain (by decide) (hcomma _) (by simp)]
      show .text _ :: .symbol .comma :: tokensFrom fuel .within [] _ = _
      rw [hrest]
      rfl

theorem length_quoteAll {names : List (List Char)} (h : ∀ name ∈ names, Directive.IsPlain name) :
    3 * names.length ≤ (Directive.quoteAll names).length := by
  induction names with
  | nil => exact Nat.zero_le _
  | cons name names ih =>
    obtain ⟨⟨hne, -⟩, hnames⟩ := List.forall_mem_cons.mp h
    have hlength : 0 < name.length := List.length_pos_iff.mpr hne
    have hrest := ih hnames
    cases names with
    | nil =>
      simp only [Directive.quoteAll, List.cons_append, List.length_cons, List.length_append,
        List.length_nil]
      omega
    | cons other names =>
      simp only [Directive.quoteAll, List.cons_append, List.length_cons, List.length_append,
        List.length_nil] at hrest ⊢
      omega

/-- Only characters of names, quotes, commas and blanks stand in a quoted list. -/
theorem mem_quoteAll {names : List (List Char)} (h : ∀ name ∈ names, Directive.IsPlain name)
    {c : Char} (hc : c ∈ Directive.quoteAll names) :
    Directive.isNameChar c = true ∨ c = '"' ∨ c = ',' ∨ c = ' ' := by
  induction names with
  | nil => cases hc
  | cons name names ih =>
    obtain ⟨⟨-, hchars⟩, hnames⟩ := List.forall_mem_cons.mp h
    cases names with
    | nil =>
      have hcases : c = '"' ∨ c ∈ name ∨ c = '"' := by
        simpa [Directive.quoteAll] using hc
      rcases hcases with hc | hc | hc
      · exact .inr (.inl hc)
      · exact .inl (hchars c hc)
      · exact .inr (.inl hc)
    | cons other names =>
      have hcases : c = '"' ∨ c ∈ name ∨ c = '"' ∨ c = ',' ∨ c = ' ' ∨
          c ∈ Directive.quoteAll (other :: names) := by
        simpa [Directive.quoteAll] using hc
      rcases hcases with hc | hc | hc | hc | hc | hc
      · exact .inr (.inl hc)
      · exact .inl (hchars c hc)
      · exact .inr (.inl hc)
      · exact .inr (.inr (.inl hc))
      · exact .inr (.inr (.inr hc))
      · exact ih hnames hc

/-- A quoted list opens with a quote. -/
theorem quoteAll_cons (name : List Char) (names : List (List Char)) :
    ∃ more, Directive.quoteAll (name :: names) = '"' :: more := by
  cases names <;> exact ⟨_, rfl⟩

theorem tokens_quoteAll {names : List (List Char)} (hne : names ≠ [])
    (h : ∀ name ∈ names, Directive.IsPlain name) :
    tokens (Directive.quoteAll names) = rowTokens (names.map Text.ofChars) := by
  have hreturn : '\r' ∉ Directive.quoteAll names := by
    intro hmem
    rcases mem_quoteAll h hmem with h | h | h | h <;> exact absurd h (by decide)
  have hlength := length_quoteAll h
  unfold tokens
  rw [unifyBreaks_eq_self hreturn]
  obtain ⟨name, names, rfl⟩ := List.exists_cons_of_ne_nil hne
  obtain ⟨more, hmore⟩ := quoteAll_cons name names
  have hwithin : tokensFrom (2 * (Directive.quoteAll (name :: names)).length + 1) .within []
      (Directive.quoteAll (name :: names)) = rowTokens ((name :: names).map Text.ofChars) :=
    tokensFrom_quoteAll h (by omega)
  rw [← hwithin, hmore]
  exact tokensFrom_lineStart (by decide) _ []

/-! ## The value of a row -/

section Row

variable {ts : List Text}

theorem rowTokens_cons_cons (t u : Text) (ts : List Text) :
    rowTokens (t :: u :: ts) = .text t :: .symbol .comma :: rowTokens (u :: ts) :=
  rfl

theorem rowTokens_ne_indent (ts : List Text) (more : List Token) :
    rowTokens ts ≠ .indent :: more := by
  unfold rowTokens
  split <;> simp

/-- The texts after a comma. -/
theorem moreExpressions_row (hne : ts ≠ []) {n : Nat} (hn : ts.length + 9 ≤ n) :
    moreExpressions n ⟨5, 0⟩ false (rowTokens ts)
      = .ok (ts.map fun t => .constant (.str t), []) := by
  have hroom : (Depth.below 0 ⟨5, 0⟩).HasRoom := Depth.hasRoom_of_level_le (Nat.le_refl 5)
  induction ts generalizing n with
  | nil => exact absurd rfl hne
  | cons t ts ih =>
    rw [List.length_cons] at hn
    -- One step for the list, and nine for the readers that a text goes through.
    obtain ⟨n, rfl⟩ : ∃ k, n = k + 9 + 1 := ⟨n - 10, by omega⟩
    cases ts with
    | nil =>
      rw [moreExpressions, rowTokens, spreadable_atom (.text t) (.inl rfl) hroom]
      rfl
    | cons u ts =>
      have hmore := ih (by simp) (n := n + 9) (by omega)
      rw [rowTokens_cons_cons, moreExpressions, spreadable_atom (.text t) (.inr ⟨_, rfl⟩) hroom]
      show (moreExpressions (n + 9) ⟨5, 0⟩ false (rowTokens (u :: ts))).bind _ = _
      rw [hmore]
      rfl

/-- **Texts in a row** make one expression. -/
theorem expressions_row (hne : ts ≠ []) {n : Nat} (hn : ts.length + 9 ≤ n) :
    expressions n ⟨3, 0⟩ false (rowTokens ts) = .ok (rowExpr ts, []) := by
  have hroom : (Depth.below 0 ⟨3, 0⟩).HasRoom := Depth.hasRoom_of_level_le (by decide)
  obtain ⟨t, ts, rfl⟩ := List.exists_cons_of_ne_nil hne
  rw [List.length_cons] at hn
  obtain ⟨n, rfl⟩ : ∃ k, n = k + 9 + 1 := ⟨n - 10, by omega⟩
  cases ts with
  | nil =>
    rw [expressions, rowTokens, spreadable_atom (.text t) (.inl rfl) hroom]
    rfl
  | cons u ts =>
    have hmore : moreExpressions (n + 9) ⟨5, 0⟩ false (rowTokens (u :: ts))
        = .ok ((u :: ts).map fun t => .constant (.str t), []) :=
      moreExpressions_row (by simp) (by omega)
    rw [rowTokens_cons_cons, expressions, spreadable_atom (.text t) (.inr ⟨_, rfl⟩) hroom]
    show (moreExpressions (n + 9) ⟨5, 0⟩ false (rowTokens (u :: ts))).bind _ = _
    rw [hmore]
    rfl

theorem value_rowExpr (ts : List Text) : (rowExpr ts).value = .ok (rowValue ts) := by
  have hvalues : ∀ ts : List Text,
      Expr.values (ts.map fun t => .constant (.str t)) = .ok (ts.map .str) := by
    intro ts
    induction ts with
    | nil => rfl
    | cons t ts ih =>
      rw [List.map_cons, Expr.values, ih]
      rfl
  have htuple : (Expr.tuple (ts.map fun t => .constant (.str t))).value
      = .ok (.tuple (ts.map .str)) := by
    rw [Expr.value, hvalues]
    rfl
  cases ts with
  | nil => exact htuple
  | cons t ts =>
    cases ts with
    | nil => rfl
    | cons u ts => exact htuple

theorem height_rowExpr (ts : List Text) : (rowExpr ts).height ≤ Expr.maxHeight := by
  have hlimit : 2 ≤ Expr.maxHeight := by decide
  have hitems : ∀ ts : List Text,
      Expr.itemsHeight (ts.map fun t => .constant (.str t)) ≤ 1 := by
    intro ts
    induction ts with
    | nil => exact Nat.zero_le 1
    | cons t ts ih =>
      rw [List.map_cons, Expr.itemsHeight]
      exact Nat.max_le.mpr ⟨Nat.le_refl 1, ih⟩
  have htuple : (Expr.tuple (ts.map fun t => .constant (.str t))).height ≤ Expr.maxHeight := by
    have hts := hitems ts
    rw [Expr.height]
    omega
  cases ts with
  | nil => exact htuple
  | cons t ts =>
    cases ts with
    | nil => exact Nat.le_trans (Nat.le_succ 1) hlimit
    | cons u ts => exact htuple

end Row

/-- **A list of names in quotes** is read as a row of texts. -/
theorem read_quoteAll {names : List (List Char)} (hne : names ≠ [])
    (h : ∀ name ∈ names, Directive.IsPlain name) :
    read (String.ofList (Directive.quoteAll names)) = .ok (rowValue (names.map Text.ofChars)) := by
  have htokens := tokens_quoteAll hne h
  have hlength := length_quoteAll h
  have hrow : names.map Text.ofChars ≠ [] := by simpa using hne
  have hexpr : expressions (16 * ((Directive.quoteAll names).length + 1)) ⟨3, 0⟩ false
      (tokens (Directive.quoteAll names)) = .ok (rowExpr (names.map Text.ofChars), []) := by
    rw [htokens]
    apply expressions_row hrow
    rw [List.length_map]
    omega
  have hopens : ∃ more, Directive.quoteAll names = '"' :: more := by
    obtain ⟨name, names, rfl⟩ := List.exists_cons_of_ne_nil hne
    exact quoteAll_cons name names
  have htext : (String.ofList (Directive.quoteAll names)).toList = Directive.quoteAll names :=
    String.toList_ofList
  rw [← value_rowExpr]
  apply read_of_expressions
  · intro c hc
    obtain ⟨more, hmore⟩ := hopens
    rw [htext, hmore] at hc
    obtain rfl : '"' = c := Option.some.inj hc
    decide
  · rw [htext]
    intro hmem
    rcases mem_quoteAll h hmem with h | h | h | h <;> exact absurd h (by decide)
  · rw [htext, htokens]
    exact rowTokens_ne_indent _
  · rw [htext]
    exact hexpr
  · exact height_rowExpr _

end Literal

/-! ## What a list leaves -/

namespace Directive

theorem Lists.namesOf {names : List String} {text : String} (h : Lists names text) :
    Assembly.namesOf text = .ok ((listed names).map .str) := by
  have hplain : ∀ name ∈ names.map String.toList, IsPlain name := by
    simpa using h.isPlain
  have hread : Literal.read (namesLiteral text)
      = .ok (Literal.rowValue (names.map Text.ofString)) := by
    rw [namesLiteral, h.splitNames false, Literal.read_quoteAll (by simpa using h.ne_nil) hplain,
      List.map_map]
    rfl
  unfold Assembly.namesOf
  rw [hread]
  cases names with
  | nil => rfl
  | cons name names =>
    cases names with
    | nil =>
      show Except.ok _ = _
      simp [listed, Text.ofString, Text.ofChars]
    | cons other names => rfl

/-- A list stands for its names, unless it is a single name of more than one character. -/
theorem Lists.listed_eq_iff {names : List String} {text : String} (h : Lists names text) :
    listed names = names.map Text.ofString ↔
      2 ≤ names.length ∨ ∃ name, names.head? = some name ∧ name.length = 1 := by
  obtain ⟨name, names, rfl⟩ := List.exists_cons_of_ne_nil h.ne_nil
  cases names with
  | nil =>
    have hsame : listed [name] = [Text.ofString name] ↔ name.length = 1 := by
      rw [← String.length_toList]
      constructor
      · intro heq
        simpa [listed] using congrArg List.length heq
      · intro hone
        obtain ⟨c, hc⟩ := List.length_eq_one_iff.mp hone
        simp [listed, Text.ofString, hc]
    simpa using hsame
  | cons other names => simp [listed]

end Directive

/-- A name that stands at several places is numbered by the last of them. -/
theorem SymbolTable.le_of_find?_addNames {names : List (Option Text)} {table : SymbolTable}
    {start i k : Nat} {name : Text} (h : (table.addNames start names).find? name = some i)
    (hk : names[k]? = some (some name)) : start + k ≤ i := by
  induction names generalizing table start k with
  | nil => cases hk
  | cons place names ih =>
    cases k with
    | zero =>
      obtain rfl : place = some name := by simpa using hk
      change ((table.insert name start).addNames (start + 1) names).find? name = some i at h
      rcases SymbolTable.find?_addNames h with hfirst | ⟨j, hj, -⟩
      · rw [SymbolTable.find?_insert, if_pos rfl, Option.some.injEq] at hfirst
        omega
      · omega
    | succ k =>
      have hk' : names[k]? = some (some name) := by simpa using hk
      have hlater : start + 1 + k ≤ i := by
        cases place with
        | none =>
          change (table.addNames (start + 1) names).find? name = some i at h
          exact ih h hk'
        | some other =>
          change ((table.insert other start).addNames (start + 1) names).find? name = some i at h
          exact ih h hk'
      omega

namespace Assembly

/-- **The table of a list of texts** numbers exactly them, each by its last place. -/
theorem find?_tableOf_iff {ts : List Text} {t : Text} {i : Nat} :
    (tableOf (ts.map .str)).find? t = some i ↔
      ts[i]? = some t ∧ ∀ j, ts[j]? = some t → j ≤ i := by
  have hplace : ∀ {j : Nat}, (ts.map Value.str)[j]? = some (Value.str t) ↔ ts[j]? = some t := by
    intro j
    simp [List.getElem?_map]
  have hlast : ∀ {i j : Nat}, (tableOf (ts.map Value.str)).find? t = some i →
      ts[j]? = some t → j ≤ i := by
    intro i j hi hj
    have hle := SymbolTable.le_of_find?_addNames (k := j) hi (by simp [hj, Value.text?])
    omega
  constructor
  · intro hi
    exact ⟨hplace.mp (getElem?_of_tableOf hi), fun j hj => hlast hi hj⟩
  · rintro ⟨hi, hmax⟩
    obtain ⟨j, hj⟩ := (mem_iff_tableOf _ t).mp (List.mem_of_getElem? (hplace.mpr hi))
    have hji : j ≤ i := hmax j (hplace.mp (getElem?_of_tableOf hj))
    have hij : i ≤ j := hlast hj hi
    rw [hj, Nat.le_antisymm hji hij]

/-- A run of directives without a fault, seen from one of its lines. -/
theorem declareLines_split {pre post : List String} {line : String} {a a' : Assembly}
    (h : declareLines (pre ++ line :: post) a = (a', none)) :
    ∃ b c : Assembly, b.declareLine line = .ok c ∧ declareLines post c = (a', none) := by
  induction pre generalizing a with
  | nil =>
    rw [List.nil_append, declareLines] at h
    cases hl : a.declareLine line with
    | error f => simp [hl] at h
    | ok c => exact ⟨a, c, hl, by simpa only [hl] using h⟩
  | cons first pre ih =>
    rw [List.cons_append, declareLines] at h
    cases hl : a.declareLine first with
    | error f => simp [hl] at h
    | ok b => exact ih (by simpa only [hl] using h)

/-- Lines that neither list names nor set their field leave the field and the table. -/
theorem declareLines_keepsNames {kind : NameKind} {lines : List String} (a : Assembly)
    (h : ∀ line ∈ lines, kind.listedOn line = false ∧
      Directive.definesOn kind.field.word line = false) :
    (declareLines lines a).1.fields.get kind.field = a.fields.get kind.field ∧
      (declareLines lines a).1.table kind.operand = a.table kind.operand := by
  apply declareLines_invariant (P := fun b => b.fields.get kind.field = a.fields.get kind.field ∧
    b.table kind.operand = a.table kind.operand) _ ⟨rfl, rfl⟩
  intro line hline b b' hb hs
  obtain ⟨hlisted, hdefines⟩ := h line hline
  obtain ⟨hfield, htable⟩ := hs.keepsNames hlisted hdefines
  exact ⟨hfield.trans hb.1, htable.trans hb.2⟩

/-- A list sets the field to what it stands for, and the table to its places. -/
theorem declareLine_lists {kind : NameKind} {names : List String} {text : String} {a a' : Assembly}
    (h : Directive.Lists names text)
    (hline : a.declareLine (kind.keyword ++ " " ++ text) = .ok a') :
    a'.fields.get kind.field = .tuple ((Directive.listed names).map .str) ∧
      a'.table kind.operand = tableOf ((Directive.listed names).map .str) := by
  rw [declareLine, h.ofLine? kind] at hline
  cases kind with
  | global =>
    simp only [NameKind.directive, declare, declareGlobals, h.namesOf, Except.ok.injEq] at hline
    subst hline
    exact ⟨rfl, rfl⟩
  | «local» =>
    simp only [NameKind.directive, declare, declareLocals, h.namesOf, Except.ok.injEq] at hline
    subst hline
    exact ⟨rfl, rfl⟩

end Assembly

/-- **What a list of names leaves.**  Let the directives of a listing be carried out without a fault
on a fresh session, and let a list of plain names be the last of them that lists names of its kind
or sets their field.  The field is then the tuple of the names if there are two at least, or if the
only one has one character, and not otherwise: a single name leaves the tuple of its characters.  In
each case the names in the table are the items of the field, and each has the last of its places. -/
theorem Session.declare_listedNames (kind : NameKind) {listing : Listing} {names : List String}
    {text : String} {pre post : List String} (hlists : Directive.Lists names text)
    (hlast : listing.directives = pre ++ (kind.keyword ++ " " ++ text) :: post)
    (hpost : ∀ line ∈ post, kind.listedOn line = false ∧
      Directive.definesOn kind.field.word line = false)
    (hdeclare : (Session.start listing).declare.fault = none) :
    let a := (Session.start listing).declare.session.assembly
    (a.fields.get kind.field = .tuple (names.map fun name => .str (Text.ofString name)) ↔
        2 ≤ names.length ∨ ∃ name, names.head? = some name ∧ name.length = 1) ∧
      (∀ name, names = [name] →
        a.fields.get kind.field = .tuple (name.toList.map fun c => .str (Text.ofChars [c]))) ∧
      ∃ ts : List Text, a.fields.get kind.field = .tuple (ts.map .str) ∧
        (∀ t, t ∈ ts ↔ ∃ i, (a.table kind.operand).find? t = some i) ∧
        ∀ t i, (a.table kind.operand).find? t = some i ↔
          ts[i]? = some t ∧ ∀ j, ts[j]? = some t → j ≤ i := by
  intro a
  have hlines : Assembly.declareLines listing.directives Assembly.initial = (a, none) :=
    Prod.ext rfl hdeclare
  rw [hlast] at hlines
  obtain ⟨b, c, hline, hrest⟩ := Assembly.declareLines_split hlines
  obtain ⟨hfield, htable⟩ := Assembly.declareLine_lists hlists hline
  obtain ⟨hkeptField, hkeptTable⟩ := Assembly.declareLines_keepsNames c hpost
  rw [hrest] at hkeptField hkeptTable
  rw [hfield] at hkeptField
  rw [htable] at hkeptTable
  refine ⟨?_, ?_, Directive.listed names, hkeptField, fun t => ?_, fun t i => ?_⟩
  · have hnames : names.map (fun name => Value.str (Text.ofString name))
        = (names.map Text.ofString).map .str := by
      rw [List.map_map]
      rfl
    rw [hkeptField, hnames, Value.tuple.injEq, List.map_inj_right fun _ _ heq => Value.str.inj heq]
    exact hlists.listed_eq_iff
  · rintro name rfl
    rw [hkeptField]
    simp [Directive.listed]
  · rw [hkeptTable, ← Assembly.mem_iff_tableOf]
    simp
  · rw [hkeptTable]
    exact Assembly.find?_tableOf_iff

/-- The global names are listed twice, the second time with one of them twice; the only local name
leaves its characters. -/
theorem Session.declare_listedNames_both :
    let listing : Listing :=
      { name := "listed"
        lines := ["#defn f", "#define names 7", "#defn say,\t go,  say", "load 1", "#defvar xy",
          "#const one 1"] }
    let a := (Session.start listing).declare.session.assembly
    (Session.start listing).declare.fault = none ∧
      a.fields.globalNames
        = .tuple (["say", "go", "say"].map fun name => .str (Text.ofString name)) ∧
      a.fields.localNames = .tuple ("xy".toList.map fun c => .str (Text.ofChars [c])) := by
  intro listing a
  have hdeclare : (Session.start listing).declare.fault = none :=
    Option.isNone_iff_eq_none.mp (by decide +kernel)
  have hsay : Directive.IsPlain "say".toList := ⟨by simp, List.all_eq_true.mp (by decide +kernel)⟩
  have hgo : Directive.IsPlain "go".toList := ⟨by simp, List.all_eq_true.mp (by decide +kernel)⟩
  have hxy : Directive.IsPlain "xy".toList := ⟨by simp, List.all_eq_true.mp (by decide +kernel)⟩
  have htwo : Directive.Lists ["go", "say"] ("go" ++ "," ++ "  " ++ "say") :=
    .cons hgo (by simp) (.single hsay)
  have hglobals : Directive.Lists ["say", "go", "say"]
      ("say" ++ "," ++ "\t " ++ ("go" ++ "," ++ "  " ++ "say")) :=
    .cons hsay (by simp) htwo
  have hlastGlobals : listing.directives = ["#defn f", "#define names 7"] ++
      (NameKind.keyword .global ++ " " ++
        ("say" ++ "," ++ "\t " ++ ("go" ++ "," ++ "  " ++ "say"))) ::
      ["#defvar xy", "#const one 1"] := by decide +kernel
  have hlastLocals : listing.directives = ["#defn f", "#define names 7", "#defn say,\t go,  say"] ++
      (NameKind.keyword .local ++ " " ++ "xy") :: ["#const one 1"] := by decide +kernel
  obtain ⟨hnames, -⟩ := Session.declare_listedNames .global hglobals hlastGlobals
    (by decide +kernel) hdeclare
  obtain ⟨-, hchars, -⟩ := Session.declare_listedNames .local (.single hxy) hlastLocals
    (by decide +kernel) hdeclare
  exact ⟨hdeclare, hnames.mpr (.inl (by decide)), hchars "xy" rfl⟩

end BytecodeAssembler
