import BytecodeAssembler.Proofs.DirectiveActions

/-!
# Independent directives

A directive is about one field: the one it sets by its word, the pool for a constant, the global or
the local names for a list of them.  The word of that field is its group, and the field with the
table beside it is the part of the state that the group works on.

Two facts about one directive carry the development.  It leaves the parts of the other groups as
they are (`DirectiveStep.frame`), and whether it succeeds and what it makes of its own part depend
on that part alone (`DirectiveStep.transfer`).  So a run of directives is, part by part, the run of
each group for itself (`declareLines_filter`), and it succeeds if all of these do
(`declareLines_of_groups`).  The order of directives matters within a group only.
-/

namespace BytecodeAssembler

theorem Field.eq_of_word_eq {field field' : Field} (h : field.word = field'.word) :
    field = field' := by
  have hword := (Field.ofWord?_eq_some_iff field.word field').mpr h
  rw [(Field.ofWord?_eq_some_iff field.word field).mpr rfl] at hword
  exact Option.some.inj hword

namespace Directive

/-- The word of the field that a directive is about.  A word that calls no field is a group too. -/
def group : Directive → String
  | .field word _ => word
  | .constant _ _ => Field.constants.word
  | .globals _ => Field.globalNames.word
  | .locals _ => Field.localNames.word

/-- Whether something on a line belongs to a group. -/
def inGroup (word line : String) : Bool :=
  (forms line).any fun directive => directive.group == word

theorem inGroup_of_some {line : String} {directive : Directive} (h : ofLine? line = some directive)
    (word : String) : inGroup word line = (directive.group == word) := by
  simp [inGroup, forms_eq, h]

theorem inGroup_of_none {line : String} (h : ofLine? line = none) (word : String) :
    inGroup word line = false := by
  simp [inGroup, forms_eq, h]

/-- All groups that occur on some lines are among those of the given words. -/
def groupsAmong (words lines : List String) : Bool :=
  lines.all fun line => (forms line).all fun directive => words.contains directive.group

theorem filter_inGroup_eq_nil {words lines : List String} {word : String}
    (hall : groupsAmong words lines = true) (hword : word ∉ words) :
    lines.filter (inGroup word) = [] := by
  rw [List.filter_eq_nil_iff]
  intro line hline hin
  obtain ⟨directive, hform, hgroup⟩ := List.any_eq_true.mp hin
  have hmem := List.all_eq_true.mp (List.all_eq_true.mp hall line hline) directive hform
  rw [beq_iff_eq.mp hgroup] at hmem
  exact hword (List.contains_iff_mem.mp hmem)

/-- Only groups that occur need to be compared. -/
theorem filter_inGroup_eq (words : List String) {lines lines' : List String}
    (hall : groupsAmong words lines = true) (hall' : groupsAmong words lines' = true)
    (heq : ∀ word ∈ words, lines'.filter (inGroup word) = lines.filter (inGroup word))
    (word : String) : lines'.filter (inGroup word) = lines.filter (inGroup word) := by
  by_cases hword : word ∈ words
  · exact heq word hword
  · rw [filter_inGroup_eq_nil hall hword, filter_inGroup_eq_nil hall' hword]

end Directive

namespace Assembly

open Directive

/-! ## Parts of the state -/

/-- The table that numbers what is in a field, if there is one. -/
def beside (a : Assembly) : Field → Option SymbolTable
  | .constants => some a.constantTable
  | .globalNames => some a.globalTable
  | .localNames => some a.localTable
  | _ => none

/-- The part of a state that belongs to a field. -/
def part (field : Field) (a : Assembly) : Value × Option SymbolTable :=
  (a.fields.get field, a.beside field)

/-- States that emitted the same code and have the same parts are equal. -/
theorem eq_of_parts {a b : Assembly} (hcode : a.code = b.code)
    (hparts : ∀ field, a.part field = b.part field) : a = b := by
  obtain ⟨fields, code, constantTable, globalTable, localTable⟩ := a
  obtain ⟨fields', code', constantTable', globalTable', localTable'⟩ := b
  have hfields : fields = fields' := by
    have hget : ∀ field, fields.get field = fields'.get field :=
      fun field => congrArg Prod.fst (hparts field)
    obtain ⟨⟩ := fields
    obtain ⟨⟩ := fields'
    simp only [Fields.mk.injEq]
    exact ⟨hget .argumentCount, hget .stackSize, hget .flags, hget .constants, hget .globalNames,
      hget .localNames, hget .name, hget .firstLine, hget .lineTable, hget .freeNames,
      hget .cellNames⟩
  have hbeside := fun field => congrArg Prod.snd (hparts field)
  simp only [mk.injEq]
  exact ⟨hfields, hcode, Option.some.inj (hbeside .constants),
    Option.some.inj (hbeside .globalNames), Option.some.inj (hbeside .localNames)⟩

/-- Two states have the same part for the group of a word; for a word that calls no field there is
nothing to compare. -/
def SameOn (word : String) (a b : Assembly) : Prop :=
  ∀ field : Field, field.word = word → a.part field = b.part field

theorem SameOn.refl (word : String) (a : Assembly) : SameOn word a a :=
  fun _ _ => rfl

theorem SameOn.symm {word : String} {a b : Assembly} (h : SameOn word a b) : SameOn word b a :=
  fun field hword => (h field hword).symm

theorem SameOn.trans {word : String} {a b c : Assembly} (h : SameOn word a b)
    (h' : SameOn word b c) : SameOn word a c :=
  fun field hword => (h field hword).trans (h' field hword)

theorem sameOn_word {field : Field} {a b : Assembly} (h : a.part field = b.part field) :
    SameOn field.word a b := by
  intro field' hword
  obtain rfl := Field.eq_of_word_eq hword
  exact h

/-! ## One directive -/

theorem declareLine_of_step {line : String} {a a' : Assembly} (h : DirectiveStep line a a') :
    a.declareLine line = .ok a' := by
  cases h with
  | skip hd => simp only [declareLine, hd]
  | @field field value v hd hv =>
    have hword := (Field.ofWord?_eq_some_iff _ field).mpr rfl
    simp only [declareLine, hd, declare, declareField, hword, hv]
  | constant hd hv hp => simp only [declareLine, hd, declare, declareConstant, hv, hp]
  | globals hd hn => simp only [declareLine, hd, declare, declareGlobals, hn]
  | locals hd hn => simp only [declareLine, hd, declare, declareLocals, hn]

/-- **A directive leaves the parts of the other groups as they are.** -/
theorem DirectiveStep.frame {line word : String} {a a' : Assembly} (h : DirectiveStep line a a')
    (hout : inGroup word line = false) : SameOn word a' a := by
  rintro other rfl
  cases h with
  | skip => rfl
  | @field field value v hd hv =>
    have hne : other ≠ field := by
      rintro rfl
      simp [inGroup_of_some hd, group] at hout
    have hget : (a.fields.set field v).get other = a.fields.get other := by
      rw [Fields.get_set, if_neg hne]
    exact Prod.ext hget rfl
  | constant hd hv hp =>
    rw [inGroup_of_some hd] at hout
    cases other with
    | constants => simp [group] at hout
    | _ => rfl
  | globals hd hn =>
    rw [inGroup_of_some hd] at hout
    cases other with
    | globalNames => simp [group] at hout
    | _ => rfl
  | locals hd hn =>
    rw [inGroup_of_some hd] at hout
    cases other with
    | localNames => simp [group] at hout
    | _ => rfl

/-- **A directive works on its own part alone**: it succeeds as well in any other state that has the
same part, and makes the same of it. -/
theorem DirectiveStep.transfer {line word : String} {a a' b : Assembly}
    (h : DirectiveStep line a a') (hin : inGroup word line = true) (hsame : SameOn word a b) :
    ∃ b', DirectiveStep line b b' ∧ SameOn word a' b' := by
  cases h with
  | skip hd => simp [inGroup_of_none hd] at hin
  | @field field value v hd hv =>
    obtain rfl : field.word = word := by simpa [inGroup_of_some hd, group] using hin
    have hget : (a.fields.set field v).get field = (b.fields.set field v).get field := by
      rw [Fields.get_set, Fields.get_set, if_pos rfl, if_pos rfl]
    have hbeside : a.beside field = b.beside field := congrArg Prod.snd (hsame field rfl)
    exact ⟨_, .field hd hv, sameOn_word (Prod.ext hget hbeside)⟩
  | @constant name value v pool index hd hv hp =>
    obtain rfl : Field.constants.word = word := by simpa [inGroup_of_some hd, group] using hin
    have hpart := hsame .constants rfl
    have hpool : a.fields.constants = b.fields.constants := congrArg Prod.fst hpart
    have htable : a.constantTable = b.constantTable := Option.some.inj (congrArg Prod.snd hpart)
    refine ⟨_, .constant hd hv (hpool ▸ hp), sameOn_word (Prod.ext rfl ?_)⟩
    show some (a.constantTable.insert _ index) = some (b.constantTable.insert _ index)
    rw [htable]
  | globals hd hn =>
    obtain rfl : Field.globalNames.word = word := by simpa [inGroup_of_some hd, group] using hin
    exact ⟨_, .globals hd hn, sameOn_word rfl⟩
  | locals hd hn =>
    obtain rfl : Field.localNames.word = word := by simpa [inGroup_of_some hd, group] using hin
    exact ⟨_, .locals hd hn, sameOn_word rfl⟩

/-! ## Runs of directives -/

theorem declareLines_cons_ok_iff {line : String} {rest : List String} {a c : Assembly} :
    declareLines (line :: rest) a = (c, none)
      ↔ ∃ b, DirectiveStep line a b ∧ declareLines rest b = (c, none) := by
  rw [declareLines]
  constructor
  · intro h
    cases hl : a.declareLine line with
    | error f => simp [hl] at h
    | ok b => exact ⟨b, declareLine_step hl, by simpa [hl] using h⟩
  · rintro ⟨b, hstep, hrest⟩
    rw [declareLine_of_step hstep]
    exact hrest

/-- **From a run to one of its groups.**  Where a run succeeds, so does that of the lines of one
group, and both leave the same part for it. -/
theorem declareLines_filter {lines : List String} {word : String} {a a' b : Assembly}
    (h : declareLines lines a = (a', none)) (hsame : SameOn word a b) :
    ∃ b', declareLines (lines.filter (inGroup word)) b = (b', none) ∧ SameOn word a' b' := by
  induction lines generalizing a b with
  | nil =>
    obtain ⟨rfl, -⟩ := Prod.mk.inj h
    exact ⟨b, rfl, hsame⟩
  | cons line rest ih =>
    obtain ⟨c, hstep, hrest⟩ := declareLines_cons_ok_iff.mp h
    cases hin : inGroup word line with
    | true =>
      obtain ⟨d, hstep', hsame'⟩ := hstep.transfer hin hsame
      obtain ⟨b', hrun, hresult⟩ := ih hrest hsame'
      rw [List.filter_cons_of_pos hin]
      exact ⟨b', declareLines_cons_ok_iff.mpr ⟨d, hstep', hrun⟩, hresult⟩
    | false =>
      rw [List.filter_cons_of_neg (by simp [hin])]
      exact ih hrest ((hstep.frame hin).trans hsame)

/-- **From the groups to the run.**  Where the lines of every group succeed for themselves, each
from a state that has the part of the group, the run over all lines succeeds. -/
theorem declareLines_of_groups {lines : List String} {a : Assembly} (starts : String → Assembly)
    (hsame : ∀ word, SameOn word (starts word) a)
    (hgroups : ∀ word, (declareLines (lines.filter (inGroup word)) (starts word)).2 = none) :
    (declareLines lines a).2 = none := by
  induction lines generalizing a starts with
  | nil => rfl
  | cons line rest ih =>
    cases hd : ofLine? line with
    | none =>
      -- The line is in no group.
      have hskip : declareLines (line :: rest) a = declareLines rest a := by
        simp [declareLines, declareLine, hd]
      rw [hskip]
      refine ih starts hsame fun word => ?_
      have hword := hgroups word
      rwa [List.filter_cons_of_neg (by simp [inGroup_of_none hd])] at hword
    | some directive =>
      -- The line is the first of its group, and of no other: only that group moves on.
      have hin := inGroup_of_some hd
      have hown := hgroups directive.group
      rw [List.filter_cons_of_pos (by simp [hin])] at hown
      obtain ⟨b, hstep, hrest⟩ := declareLines_cons_ok_iff.mp (Prod.ext rfl hown)
      obtain ⟨a', hstep', hsame'⟩ :=
        hstep.transfer (by simp [hin]) (hsame directive.group)
      rw [declareLines, declareLine_of_step hstep']
      refine ih (fun word => if word = directive.group then b else starts word) ?_ ?_
      · intro word
        by_cases hword : word = directive.group
        · subst hword
          simpa using hsame'
        · have hout : inGroup word line = false := by simpa [hin] using Ne.symm hword
          simpa [hword] using (hsame word).trans (hstep'.frame hout).symm
      · intro word
        by_cases hword : word = directive.group
        · subst hword
          simpa using congrArg Prod.snd hrest
        · have hother := hgroups word
          rw [List.filter_cons_of_neg (by simpa [hin] using Ne.symm hword)] at hother
          simpa [hword] using hother

/-- Runs over lines that are the same group by group succeed together. -/
theorem declareLines_ok_of_filter_eq {lines lines' : List String} {a : Assembly}
    (hgroups : ∀ word, lines'.filter (inGroup word) = lines.filter (inGroup word))
    (h : (declareLines lines a).2 = none) : (declareLines lines' a).2 = none := by
  refine declareLines_of_groups (fun _ => a) (fun word => SameOn.refl word a) fun word => ?_
  obtain ⟨b, hrun, -⟩ := declareLines_filter (Prod.ext rfl h) (SameOn.refl word a)
  rw [hgroups, hrun]

/-- Runs over lines that are the same group by group, and succeed, leave the same state. -/
theorem declareLines_eq_of_filter_eq {lines lines' : List String} {a b b' : Assembly}
    (hgroups : ∀ word, lines'.filter (inGroup word) = lines.filter (inGroup word))
    (h : declareLines lines a = (b, none)) (h' : declareLines lines' a = (b', none)) : b' = b := by
  apply eq_of_parts
  · have hcode := declareLines_code lines a
    have hcode' := declareLines_code lines' a
    rw [h] at hcode
    rw [h'] at hcode'
    exact hcode'.trans hcode.symm
  · intro field
    obtain ⟨c, hrun, hsame⟩ := declareLines_filter h (SameOn.refl field.word a)
    obtain ⟨c', hrun', hsame'⟩ := declareLines_filter h' (SameOn.refl field.word a)
    rw [hgroups, hrun] at hrun'
    obtain ⟨rfl, -⟩ := Prod.mk.inj hrun'
    exact (hsame' field rfl).trans (hsame field rfl).symm

end Assembly

/-- **Independent directives commute.**  If the directives of two listings are the same, in the same
order, within every group, then declaring succeeds for both or for neither, and where it succeeds it
leaves the same fields and tables.  Directive lines that match no form are in no group, and may
stand anywhere. -/
theorem Session.declare_regrouped (listing listing' : Listing)
    (hgroups : ∀ word, listing'.directives.filter (Directive.inGroup word)
      = listing.directives.filter (Directive.inGroup word)) :
    ((start listing').declare.fault = none ↔ (start listing).declare.fault = none) ∧
      ((start listing).declare.fault = none →
        (start listing').declare.session.assembly = (start listing).declare.session.assembly) := by
  have hok' := Assembly.declareLines_ok_of_filter_eq (a := Assembly.initial) hgroups
  have hok := Assembly.declareLines_ok_of_filter_eq (a := Assembly.initial)
    (fun word => (hgroups word).symm)
  refine ⟨⟨hok, hok'⟩, fun h => ?_⟩
  exact Assembly.declareLines_eq_of_filter_eq hgroups (Prod.ext rfl h) (Prod.ext rfl (hok' h))

/-- The names move across the constants, and lines of no form come and go.  The order within the
constants stays: it gives `two` its index. -/
theorem Session.declare_regrouped_interleaved :
    let listing : Listing :=
      ⟨"p", ["#define consts [None, 1]", "#defn f g", "#const two 2", "# no directive",
        "#const one 1", "#define names ('h',)", "#define flags 64"]⟩
    let listing' : Listing :=
      ⟨"q", ["#define flags 64", "#defn f g", "#define", "#define names ('h',)",
        "#define consts [None, 1]", "#const two 2", "#const one 1"]⟩
    (start listing).declare.fault = none ∧ (start listing').declare.fault = none ∧
      (start listing').declare.session.assembly = (start listing).declare.session.assembly := by
  intro listing listing'
  have hgroups : ∀ word, listing'.directives.filter (Directive.inGroup word)
      = listing.directives.filter (Directive.inGroup word) :=
    Directive.filter_inGroup_eq ["consts", "names", "flags"] (by decide +kernel)
      (by decide +kernel) (by decide +kernel)
  obtain ⟨hiff, hsame⟩ := declare_regrouped listing listing' hgroups
  have hok : (start listing).declare.fault = none := by decide +kernel
  exact ⟨hok, hiff.mpr hok, hsame hok⟩

end BytecodeAssembler
