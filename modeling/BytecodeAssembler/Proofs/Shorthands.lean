import BytecodeAssembler.Proofs.Calls
import BytecodeAssembler.Proofs.LineStep
import BytecodeAssembler.Proofs.Mnemonics

/-!
# Shorthands and their raw forms

A shorthand of one operation stands for a line that names the operation: `LOAD` for one of three
loads, by where its operand is found when the line is reached; `STORE` for `STORE_FAST`; an operator
for the operation of its family.  `RawForm` says which line stands for which, `Listing.respell`
writes the raw forms of any chosen lines into a listing, and `Respelled` is what both have in common
with every other way to do so.

The raw line takes the way of an operation through the assembler and the shorthand a way of its own,
with its own look-up, its own change of depth and its own width.  That both come to the same is shown
for one line first (`RawForm.assembleLine_eq`), and then for a run, along which the constants change.
-/

namespace BytecodeAssembler

/-! ## Words on a line -/

namespace Text

/-- Whether characters make up one word. -/
def isWord (cs : List Char) : Bool :=
  !cs.isEmpty && cs.all fun c => !isBlank c

theorem isWord_iff {cs : List Char} :
    isWord cs = true ↔ cs ≠ [] ∧ ∀ c ∈ cs, isBlank c = false := by
  simp [isWord]

theorem splitWords_append {cs : List Char} (h : ∀ c ∈ cs, isBlank c = false)
    (word rest : List Char) :
    splitWords word (cs ++ rest) = splitWords (cs.reverse ++ word) rest := by
  induction cs generalizing word with
  | nil => rfl
  | cons c cs ih =>
    have hc : isBlank c = false := h c List.mem_cons_self
    simp [splitWords, hc, ih fun d hd => h d (List.mem_cons_of_mem _ hd)]

theorem isWord_of_mem_splitWords {word cs w : List Char} (hword : ∀ c ∈ word, isBlank c = false)
    (h : w ∈ splitWords word cs) : isWord w = true := by
  rw [isWord_iff]
  -- What has been gathered so far is a word as soon as it is not empty.
  have hgathered : word.isEmpty = false →
      word.reverse ≠ [] ∧ ∀ c ∈ word.reverse, isBlank c = false := by
    intro hne
    exact ⟨by simpa using hne, fun c hc => hword c (List.mem_reverse.mp hc)⟩
  induction cs generalizing word with
  | nil =>
    cases he : word.isEmpty with
    | true => simp [splitWords, he] at h
    | false =>
      obtain rfl : w = word.reverse := by simpa [splitWords, he] using h
      exact hgathered he
  | cons c cs ih =>
    have hnil : ∀ d ∈ ([] : List Char), isBlank d = false := by simp
    cases hc : isBlank c with
    | false =>
      have hnext : ∀ d ∈ c :: word, isBlank d = false := by
        simpa [hc] using hword
      apply ih hnext _ _
      · simpa [splitWords, hc] using h
      · exact fun _ => ⟨by simp, fun d hd => hnext d (List.mem_reverse.mp hd)⟩
    | true =>
      cases he : word.isEmpty with
      | true => exact ih hnil (by simpa [splitWords, hc, he] using h) (by simp)
      | false =>
        have hw : w = word.reverse ∨ w ∈ splitWords [] cs := by
          simpa [splitWords, hc, he] using h
        rcases hw with rfl | hw
        · exact hgathered he
        · exact ih hnil hw (by simp)

theorem isWord_of_mem_words {w line : String} (h : w ∈ words line) : isWord w.toList = true := by
  obtain ⟨cs, hcs, rfl⟩ := List.mem_map.mp h
  rw [String.toList_ofList]
  exact isWord_of_mem_splitWords (by simp) hcs

theorem words_single {w : String} (hw : isWord w.toList = true) : words w = [w] := by
  rw [isWord_iff] at hw
  have hsplit := splitWords_append hw.2 [] []
  rw [List.append_nil, List.append_nil] at hsplit
  simp [words, hsplit, splitWords, hw.1]

theorem words_pair {w t : String} (hw : isWord w.toList = true) (ht : isWord t.toList = true) :
    words (w ++ " " ++ t) = [w, t] := by
  rw [isWord_iff] at hw ht
  have hblank : isBlank ' ' = true := by decide
  have htail := splitWords_append ht.2 [] []
  rw [List.append_nil, List.append_nil] at htail
  simp [words, splitWords_append hw.2, splitWords, hblank, hw.1, htail, ht.1]

/-- What has been gathered begins the first word. -/
theorem splitWords_gathered {word : List Char} (h : word ≠ []) (cs : List Char) :
    ∃ tail rest, splitWords word cs = (word.reverse ++ tail) :: rest := by
  have he : word.isEmpty = false := by simpa using h
  induction cs generalizing word with
  | nil => exact ⟨[], [], by simp [splitWords, he]⟩
  | cons c cs ih =>
    cases hc : isBlank c with
    | true => exact ⟨[], splitWords [] cs, by simp [splitWords, hc, he]⟩
    | false =>
      obtain ⟨tail, rest, hsplit⟩ := ih (List.cons_ne_nil c word) rfl
      exact ⟨c :: tail, rest, by simp [splitWords, hc, hsplit]⟩

/-- The first word of a line that begins with no blank begins as the line does. -/
theorem words_of_head {line : String} {c : Char} (hline : line.toList.head? = some c)
    (hc : isBlank c = false) : ∃ w ws, words line = w :: ws ∧ w.toList.head? = some c := by
  obtain ⟨cs, hcs⟩ := List.head?_eq_some_iff.mp hline
  obtain ⟨tail, rest, hsplit⟩ := splitWords_gathered (List.cons_ne_nil c []) cs
  refine ⟨String.ofList ([c].reverse ++ tail), rest.map String.ofList, ?_, by simp⟩
  simp [words, hcs, splitWords, hc, hsplit]

theorem capitals_append (v w : String) : capitals (v ++ w) = capitals v ++ capitals w := by
  simp [capitals, String.ofList_append]

end Text

namespace Assembly

/-! ## Raw forms -/

theorem instruction?_eq_some_iff {line word : String} {operands : List String} :
    instruction? line = some (word, operands) ↔
      Text.words line = word :: operands ∧ word.toList.head? ≠ some '%' := by
  unfold instruction?
  cases Text.words line with
  | nil => simp
  | cons w ws =>
    by_cases hm : w.toList.head? = some '%'
    · simp only [hm, beq_self_eq_true, if_true, reduceCtorEq, false_iff, not_and]
      intro heq hne
      rw [← (List.cons.inj heq).1] at hne
      exact hne hm
    · have hbeq : (w.toList.head? == some '%') = false := by simpa using hm
      simp only [hbeq, Bool.false_eq_true, if_false, Option.some.injEq, Prod.mk.injEq,
        List.cons.injEq]
      constructor
      · rintro ⟨rfl, rfl⟩
        exact ⟨⟨rfl, rfl⟩, hm⟩
      · exact And.left

/-- A line holds the instruction with this name in capitals and these operands. -/
def Spells (line name : String) (operands : List String) : Prop :=
  ∃ word, instruction? line = some (word, operands) ∧ Text.capitals word = name

/-- **Raw forms**: `line'` is a raw form of the shorthand on `line` in a state. -/
inductive RawForm (a : Assembly) (line line' : String) : Prop
  | constant {t : String} {rest : List String} (h : Spells line "LOAD" (t :: rest))
      (hc : a.constantTable.Has t) (h' : Spells line' "LOAD_CONST" [t])
  | local {t : String} {rest : List String} (h : Spells line "LOAD" (t :: rest))
      (hc : ¬ a.constantTable.Has t) (hl : a.localTable.Has t) (h' : Spells line' "LOAD_FAST" [t])
  | global {t : String} {rest : List String} (h : Spells line "LOAD" (t :: rest))
      (hc : ¬ a.constantTable.Has t) (hl : ¬ a.localTable.Has t) (hg : a.globalTable.Has t)
      (h' : Spells line' "LOAD_GLOBAL" [t])
  | store {t : String} {rest : List String} (h : Spells line "STORE" (t :: rest))
      (h' : Spells line' "STORE_FAST" [t])
  | binary {name : String} {number : Nat} {operands : List String}
      (hn : (name, number) ∈ Mnemonic.binaryOperators) (h : Spells line name operands)
      (h' : Spells line' ("BINARY_" ++ name) [])
  | unary {name : String} {number : Nat} {operands : List String}
      (hn : (name, number) ∈ Mnemonic.unaryOperators) (h : Spells line name operands)
      (h' : Spells line' ("UNARY_" ++ name) [])

/-- The text of a raw form, for the shorthands that have one in a state. -/
def rawText? (a : Assembly) (line : String) : Option String :=
  match instruction? line with
  | none => none
  | some (word, operands) =>
    match Mnemonic.ofWord? word, operands with
    | some .load, t :: _ =>
      if (a.constantTable.find? (Text.ofString t)).isSome then some ("load_const" ++ " " ++ t)
      else if (a.localTable.find? (Text.ofString t)).isSome then some ("load_fast" ++ " " ++ t)
      else if (a.globalTable.find? (Text.ofString t)).isSome then some ("load_global" ++ " " ++ t)
      else none
    | some .store, t :: _ => some ("store_fast" ++ " " ++ t)
    | some (.binary _), _ => some ("binary_" ++ word)
    | some (.unary _), _ => some ("unary_" ++ word)
    | _, _ => none

/-- A raw form of two words: the name of an operation, and the operand of the shorthand. -/
theorem spells_pair {line word t w : String} {rest : List String}
    (hi : instruction? line = some (word, t :: rest)) (hw : Text.isWord w.toList = true)
    (hmark : w.toList.head? ≠ some '%') : Spells (w ++ " " ++ t) (Text.capitals w) [t] := by
  obtain ⟨hwords, -⟩ := instruction?_eq_some_iff.mp hi
  have hmem : t ∈ Text.words line := by simp [hwords]
  have ht := Text.isWord_of_mem_words hmem
  exact ⟨w, instruction?_eq_some_iff.mpr ⟨Text.words_pair hw ht, hmark⟩, rfl⟩

/-- A raw form of one word: the name of the family before the word of the shorthand. -/
theorem spells_family {line word family : String} {operands : List String}
    (hi : instruction? line = some (word, operands)) (hw : Text.isWord family.toList = true)
    (hmark : family.toList.head? ≠ some '%') :
    Spells (family ++ word) (Text.capitals family ++ Text.capitals word) [] := by
  obtain ⟨hwords, -⟩ := instruction?_eq_some_iff.mp hi
  have hmem : word ∈ Text.words line := by simp [hwords]
  have hword := Text.isWord_of_mem_words hmem
  have hne : family.toList ≠ [] := (Text.isWord_iff.mp hw).1
  have hboth : Text.isWord (family ++ word).toList = true := by
    rw [Text.isWord_iff] at hw hword ⊢
    rw [String.toList_append]
    refine ⟨by simp [hw.1], fun c hc => ?_⟩
    rcases List.mem_append.mp hc with hc | hc
    · exact hw.2 c hc
    · exact hword.2 c hc
  have hhead : (family ++ word).toList.head? ≠ some '%' := by
    obtain ⟨c, cs, hcs⟩ := List.exists_cons_of_ne_nil hne
    rw [hcs] at hmark
    simpa [hcs] using hmark
  exact ⟨family ++ word, instruction?_eq_some_iff.mpr ⟨Text.words_single hboth, hhead⟩,
    Text.capitals_append family word⟩

/-- The text of a raw form is one. -/
theorem rawForm_rawText {a : Assembly} {line line' : String} (h : a.rawText? line = some line') :
    RawForm a line line' := by
  unfold rawText? at h
  split at h
  · cases h
  rename_i word operands hi
  split at h
  · rename_i t rest hm
    have hload : Spells line "LOAD" (t :: rest) := by
      cases Mnemonic.ofWord?_eq_some_iff.mp hm with
      | load hn => exact ⟨word, hi, hn⟩
    split at h
    · rename_i hc
      cases h
      have hc := Option.isSome_iff_exists.mp hc
      exact .constant hload hc (spells_pair hi (by decide) (by decide))
    rename_i hc
    rw [Option.isSome_iff_exists] at hc
    split at h
    · rename_i hl
      cases h
      have hl := Option.isSome_iff_exists.mp hl
      exact .local hload hc hl (spells_pair hi (by decide) (by decide))
    rename_i hl
    rw [Option.isSome_iff_exists] at hl
    split at h
    · rename_i hg
      cases h
      have hg := Option.isSome_iff_exists.mp hg
      exact .global hload hc hl hg (spells_pair hi (by decide) (by decide))
    · cases h
  · rename_i t rest hm
    cases h
    cases Mnemonic.ofWord?_eq_some_iff.mp hm with
    | store hn => exact .store ⟨word, hi, hn⟩ (spells_pair hi (by decide) (by decide))
  · rename_i number hm
    cases h
    cases Mnemonic.ofWord?_eq_some_iff.mp hm with
    | binary hn => exact .binary hn ⟨word, hi, rfl⟩ (spells_family hi (by decide) (by decide))
  · rename_i number hm
    cases h
    cases Mnemonic.ofWord?_eq_some_iff.mp hm with
    | unary hn => exact .unary hn ⟨word, hi, rfl⟩ (spells_family hi (by decide) (by decide))
  · cases h

/-- The operations that operators stand for have the numbers of the operators, and count for the
depth of the stack as these do. -/
theorem operator_operations :
    (∀ e ∈ Mnemonic.binaryOperators, Opcode.number? ("BINARY_" ++ e.1) = some e.2 ∧
      (Mnemonic.operation ("BINARY_" ++ e.1) e.2).depthChange = -1) ∧
    ∀ e ∈ Mnemonic.unaryOperators, Opcode.number? ("UNARY_" ++ e.1) = some e.2 ∧
      (Mnemonic.operation ("UNARY_" ++ e.1) e.2).depthChange = 0 := by
  decide +kernel

/-- Two lines do the same if their mnemonics change the depth alike, have the same width and resolve
to the same. -/
theorem assembleLine_congr {a : Assembly} {line line' name name' : String}
    {operands operands' : List String} {m m' : Mnemonic} (h : Spells line name operands)
    (h' : Spells line' name' operands') (hm : Mnemonic.Named name m) (hm' : Mnemonic.Named name' m')
    (hdepth : m'.depthChange = m.depthChange) (hwidth : m'.width operands' = m.width operands)
    (hresolve : a.resolve m' operands' = a.resolve m operands) (before : Nat) (p : Progress) :
    a.assembleLine before line' p = a.assembleLine before line p := by
  obtain ⟨word, hi, rfl⟩ := h
  obtain ⟨word', hi', rfl⟩ := h'
  rw [← Mnemonic.ofWord?_eq_some_iff] at hm hm'
  simp only [assembleLine, hi, hi', placeInstruction_eq, assembleInstruction, hm, hm',
    resolve_withLines, hresolve, Progress.count_congr hdepth, hwidth]

/-- **A raw form does what its shorthand does**, from the state in which the line is reached. -/
theorem RawForm.assembleLine_eq {a : Assembly} {line line' : String} (h : RawForm a line line')
    (before : Nat) (p : Progress) :
    a.assembleLine before line' p = a.assembleLine before line p := by
  cases h with
  | @constant t rest h hc h' =>
    obtain ⟨i, hi⟩ := hc
    have hm : Mnemonic.Named "LOAD_CONST" (.operation "LOAD_CONST" Opcode.loadConst) :=
      .operation (by decide +kernel)
    apply assembleLine_congr h h' (.load rfl) hm (by decide +kernel) rfl
    rw [resolve_load, resolve_operation]
    simp [loadForLoad, operand, Mnemonic.operandKind_loadConst, lookup, hi, Except.map]
  | @«local» t rest h hc hl h' =>
    obtain ⟨i, hi⟩ := hl
    have hnone := SymbolTable.find?_eq_none_iff.mpr hc
    have hm : Mnemonic.Named "LOAD_FAST" (.operation "LOAD_FAST" Opcode.loadFast) :=
      .operation (by decide +kernel)
    have hkind : Mnemonic.operandKind "LOAD_FAST" = .local := Mnemonic.operandKind_local (by decide)
    apply assembleLine_congr h h' (.load rfl) hm (by decide +kernel) rfl
    rw [resolve_load, resolve_operation]
    simp [loadForLoad, operand, hkind, lookup, hnone, hi, Except.map]
  | @global t rest h hc hl hg h' =>
    obtain ⟨i, hi⟩ := hg
    have hnone := SymbolTable.find?_eq_none_iff.mpr hc
    have hnone' := SymbolTable.find?_eq_none_iff.mpr hl
    have hm : Mnemonic.Named "LOAD_GLOBAL" (.operation "LOAD_GLOBAL" Opcode.loadGlobal) :=
      .operation (by decide +kernel)
    have hkind : Mnemonic.operandKind "LOAD_GLOBAL" = .global :=
      Mnemonic.operandKind_global (by decide)
    apply assembleLine_congr h h' (.load rfl) hm (by decide +kernel) rfl
    rw [resolve_load, resolve_operation]
    simp [loadForLoad, operand, hkind, lookup, hnone, hnone', hi, Except.map]
  | @store t rest h h' =>
    have hm : Mnemonic.Named "STORE_FAST" (.operation "STORE_FAST" Opcode.storeFast) :=
      .operation (by decide +kernel)
    have hkind : Mnemonic.operandKind "STORE_FAST" = .local :=
      Mnemonic.operandKind_local (by decide)
    apply assembleLine_congr h h' (.store rfl) hm (by decide +kernel) rfl
    -- Both look the operand up in the same table, so they also fail alike.
    rw [resolve_store, resolve_operation]
    simp only [operand, hkind]
    cases lookup a.localTable t <;> rfl
  | @binary name number operands hn h h' =>
    obtain ⟨hnumber, hdepth⟩ := operator_operations.1 _ hn
    exact assembleLine_congr h h' (.binary hn) (.operation hnumber) hdepth rfl rfl before p
  | @unary name number operands hn h h' =>
    obtain ⟨hnumber, hdepth⟩ := operator_operations.2 _ hn
    exact assembleLine_congr h h' (.unary hn) (.operation hnumber) hdepth rfl rfl before p

theorem assembleLines_cons_congr {before : Nat} {line line' : String} {rest rest' : List String}
    {a : Assembly} {p : Progress}
    (hline : a.assembleLine before line' p = a.assembleLine before line p)
    (hrest : ∀ b q, a.assembleLine before line p = (b, q, none) →
      assembleLines before rest' b q = assembleLines before rest b q) :
    assembleLines before (line' :: rest') a p = assembleLines before (line :: rest) a p := by
  simp only [assembleLines, hline]
  rcases hr : a.assembleLine before line p with ⟨b, q, f⟩
  cases f with
  | none => exact hrest b q hr
  | some f => rfl

/-- An instruction of the code is on no directive line: its name begins with no `#`. -/
theorem Spells.not_directive {line name : String} {operands : List String}
    (h : Spells line name operands) (hname : name.toList.head? ≠ some '#') :
    Listing.isDirective line = false := by
  obtain ⟨word, hi, rfl⟩ := h
  have hcapital : Text.capital '#' = ['#'] := by decide
  rw [Bool.eq_false_iff]
  intro hd
  -- The line begins with the mark, so its first word does, and the name of the instruction too.
  have hline : line.toList.head? = some '#' := by
    unfold Listing.isDirective at hd
    split at hd
    · rename_i heq
      simp [heq]
    · simp at hd
  obtain ⟨w, ws, hwords, hw⟩ := Text.words_of_head hline (by decide)
  simp only [instruction?, hwords, hw] at hi
  obtain rfl : w = word := by simpa using congrArg (Option.map Prod.fst) hi
  obtain ⟨cs, hcs⟩ := List.head?_eq_some_iff.mp hw
  exact hname (by simp [Text.capitals, hcs, hcapital])

theorem RawForm.not_directive {a : Assembly} {line line' : String} (h : RawForm a line line') :
    Listing.isDirective line = false ∧ Listing.isDirective line' = false := by
  have hbinary : ∀ e ∈ Mnemonic.binaryOperators, e.1.toList.head? ≠ some '#' := by decide +kernel
  have hunary : ∀ e ∈ Mnemonic.unaryOperators, e.1.toList.head? ≠ some '#' := by decide +kernel
  cases h with
  | constant h hc h' =>
    exact ⟨h.not_directive (by decide +kernel), h'.not_directive (by decide +kernel)⟩
  | «local» h hc hl h' =>
    exact ⟨h.not_directive (by decide +kernel), h'.not_directive (by decide +kernel)⟩
  | global h hc hl hg h' =>
    exact ⟨h.not_directive (by decide +kernel), h'.not_directive (by decide +kernel)⟩
  | store h h' =>
    exact ⟨h.not_directive (by decide +kernel), h'.not_directive (by decide +kernel)⟩
  | binary hn h h' =>
    exact ⟨h.not_directive (hbinary _ hn), h'.not_directive (by simp)⟩
  | unary hn h h' =>
    exact ⟨h.not_directive (hunary _ hn), h'.not_directive (by simp)⟩

end Assembly

/-! ## Listings with raw forms -/

/-- The session after the directives of a listing. -/
def Listing.declared (listing : Listing) : Session :=
  (Session.start listing).declare.session

/-- Some of the lines after `pre` in raw form; a raw form depends on the state in which its line is
reached, if it is reached at all. -/
inductive Listing.RespelledFrom (listing : Listing) : List String → List String → List String → Prop
  | nil {pre : List String} : RespelledFrom listing pre [] []
  | keep {pre rest rest' : List String} {line : String}
      (hrest : RespelledFrom listing (pre ++ [line]) rest rest') :
      RespelledFrom listing pre (line :: rest) (line :: rest')
  | raw {pre rest rest' : List String} {line line' : String} {a : Assembly}
      (hreached : ∀ b p, Assembly.assembleLines listing.linesBeforeCode (Listing.codeOf pre)
        listing.declared.assembly Progress.initial = (b, p, none) → b = a)
      (hraw : Assembly.RawForm a line line')
      (hrest : RespelledFrom listing (pre ++ [line]) rest rest') :
      RespelledFrom listing pre (line :: rest) (line' :: rest')

/-- A listing with the shorthands on some of its lines in raw form, and all else as it is. -/
def Listing.Respelled (listing listing' : Listing) : Prop :=
  listing.RespelledFrom [] listing.lines listing'.lines

namespace Listing

variable {listing listing' : Listing} {pre rest rest' : List String}

theorem RespelledFrom.directives (h : listing.RespelledFrom pre rest rest') :
    rest'.filter isDirective = rest.filter isDirective := by
  induction h with
  | nil => rfl
  | keep hrest ih => simp [List.filter_cons, ih]
  | raw hreached hraw hrest ih =>
    obtain ⟨hd, hd'⟩ := hraw.not_directive
    simp [hd, hd', ih]

theorem RespelledFrom.takeWhile (h : listing.RespelledFrom pre rest rest') :
    rest'.takeWhile isDirective = rest.takeWhile isDirective := by
  induction h with
  | nil => rfl
  | keep hrest ih => simp [List.takeWhile_cons, ih]
  | raw hreached hraw hrest ih =>
    obtain ⟨hd, hd'⟩ := hraw.not_directive
    simp [hd, hd']

/-- The run over the lines up to one of the code goes on with that line. -/
theorem assembleLines_codeOf_concat {before : Nat} {pre : List String} {line : String}
    {a b c : Assembly} {p q : Progress} (hd : isDirective line = false)
    (hpre : Assembly.assembleLines before (codeOf pre) a Progress.initial = (b, p, none))
    (hline : b.assembleLine before line p = (c, q, none)) :
    Assembly.assembleLines before (codeOf (pre ++ [line])) a Progress.initial = (c, q, none) := by
  have hcode : codeOf [line] = [line] := by simp [codeOf, hd]
  rw [codeOf_append, hcode, Assembly.assembleLines_append, hpre]
  simp [Assembly.assembleLines, hline]

/-- From the state in which the lines after `pre` are reached, both spellings of them do the same.
-/
theorem RespelledFrom.run (h : listing.RespelledFrom pre rest rest') {b : Assembly} {p : Progress}
    (hpre : Assembly.assembleLines listing.linesBeforeCode (codeOf pre) listing.declared.assembly
      Progress.initial = (b, p, none)) :
    Assembly.assembleLines listing.linesBeforeCode (codeOf rest') b p
      = Assembly.assembleLines listing.linesBeforeCode (codeOf rest) b p := by
  induction h generalizing b p with
  | nil => rfl
  | @keep pre rest rest' line hrest ih =>
    cases hd : isDirective line with
    | true =>
      have hcode : codeOf (pre ++ [line]) = codeOf pre := by simp [codeOf, hd]
      have hrun := ih (hcode ▸ hpre)
      simpa [codeOf, hd] using hrun
    | false =>
      have hrun := Assembly.assembleLines_cons_congr rfl fun c q hline =>
        ih (assembleLines_codeOf_concat hd hpre hline)
      simpa [codeOf, hd] using hrun
  | @raw pre rest rest' line line' a hreached hraw hrest ih =>
    obtain ⟨hd, hd'⟩ := hraw.not_directive
    obtain rfl : b = a := hreached b p hpre
    have hrun := Assembly.assembleLines_cons_congr (hraw.assembleLine_eq _ p) fun c q hline =>
      ih (assembleLines_codeOf_concat hd hpre hline)
    simpa [codeOf, hd, hd'] using hrun

/-- The lines after `pre` with the texts of raw forms in the place of the chosen ones among them
that have one when they are reached. -/
def respellFrom (listing : Listing) (chosen : Nat → Bool) (pre : List String) :
    List String → List String
  | [] => []
  | line :: rest =>
    (if chosen pre.length then ((listing.declared.reaching pre).rawText? line).getD line
      else line) ::
      respellFrom listing chosen (pre ++ [line]) rest

/-- The listing with the chosen lines in raw form, a line being chosen by how many stand before it.
-/
def respell (chosen : Nat → Bool) (listing : Listing) : Listing :=
  { listing with lines := listing.respellFrom chosen [] listing.lines }

theorem respelledFrom_respellFrom (listing : Listing) (chosen : Nat → Bool)
    (pre rest : List String) :
    listing.RespelledFrom pre rest (listing.respellFrom chosen pre rest) := by
  induction rest generalizing pre with
  | nil => exact .nil
  | cons line rest ih =>
    unfold respellFrom
    cases chosen pre.length with
    | false => exact .keep (ih _)
    | true =>
      cases hraw : (listing.declared.reaching pre).rawText? line with
      | none => exact .keep (ih _)
      | some line' =>
        refine .raw ?_ (Assembly.rawForm_rawText hraw) (ih _)
        intro b p hpre
        exact (congrArg Prod.fst hpre).symm

theorem respelled_respell (listing : Listing) (chosen : Nat → Bool) :
    listing.Respelled (listing.respell chosen) :=
  listing.respelledFrom_respellFrom chosen [] listing.lines

end Listing

/-- Two outcomes differ in nothing but the listings they are about. -/
structure Outcome.Agrees (o o' : Outcome) : Prop where
  fault : o'.fault = o.fault
  printed : o'.printed = o.printed
  files : o'.files = o.files
  error : o'.error = o.error
  assembly : o'.session.assembly = o.session.assembly

theorem Session.declare_agrees {s s' : Session} (ha : s'.assembly = s.assembly)
    (hd : s'.listing.directives = s.listing.directives) : s.declare.Agrees s'.declare := by
  unfold Session.declare
  rw [ha, hd]
  exact ⟨rfl, rfl, rfl, rfl, rfl⟩

theorem Session.assemble_agrees {s s' : Session}
    (h : s'.assembly.assemble s'.listing.linesBeforeCode s'.listing.code
      = s.assembly.assemble s.listing.linesBeforeCode s.listing.code) :
    s.assemble.Agrees s'.assemble := by
  unfold Session.assemble
  rw [h]
  exact ⟨rfl, rfl, rfl, rfl, rfl⟩

/-- **Shorthands are their raw forms.** Let some shorthands of a listing be written in raw form,
each by the state in which its line is reached.  Declaring, and then assembling, comes to the same
for both listings: the same fault if any, the same text printed, and the same code, symbol tables
and fields. -/
theorem Session.respelled_agrees {listing listing' : Listing} (h : listing.Respelled listing') :
    (Session.start listing).declare.Agrees (Session.start listing').declare ∧
      (Session.start listing).declare.session.assemble.Agrees
        (Session.start listing').declare.session.assemble := by
  have hdirectives : listing'.directives = listing.directives := h.directives
  have hbefore : listing'.linesBeforeCode = listing.linesBeforeCode := by
    rw [Listing.linesBeforeCode_eq, Listing.linesBeforeCode_eq, Listing.RespelledFrom.takeWhile h]
  have hdeclare : (Session.start listing).declare.Agrees (Session.start listing').declare :=
    Session.declare_agrees rfl hdirectives
  refine ⟨hdeclare, Session.assemble_agrees ?_⟩
  rw [hdeclare.assembly]
  show Assembly.assemble listing'.linesBeforeCode listing'.code listing.declared.assembly
    = Assembly.assemble listing.linesBeforeCode listing.code listing.declared.assembly
  have hrun : Assembly.assembleLines listing.linesBeforeCode listing'.code
      listing.declared.assembly Progress.initial
      = Assembly.assembleLines listing.linesBeforeCode listing.code listing.declared.assembly
        Progress.initial := by
    rw [Listing.code_eq_codeOf, Listing.code_eq_codeOf]
    exact h.run rfl
  simp only [Assembly.assemble, hbefore, hrun]

/-- Every line is chosen.  The first load makes its operand a constant, and so has no raw form; the
second has one. -/
theorem Session.respelled_agrees_everywhere :
    let listing : Listing :=
      { name := "chosen"
        lines := ["#const pi 3", "load 7", "#defvar x, y", "load 7 twice", "Load pi", "store x",
          "load y", "ADD", "not", "return 7"] }
    (listing.respell fun _ => true).lines
        = ["#const pi 3", "load 7", "#defvar x, y", "load_const 7", "load_const pi", "store_fast x",
          "load_fast y", "binary_ADD", "unary_not", "return 7"] ∧
      listing.declared.assemble.Agrees (listing.respell fun _ => true).declared.assemble := by
  refine ⟨by decide +kernel, ?_⟩
  exact (Session.respelled_agrees (Listing.respelled_respell _ fun _ => true)).2

end BytecodeAssembler
