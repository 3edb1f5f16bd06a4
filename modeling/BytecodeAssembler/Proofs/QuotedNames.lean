import BytecodeAssembler.Assembly.Declare

/-!
# What a list of names is read as

A directive that lists names puts each of them in double quotes and reads the whole as a literal.
The names themselves may hold quotes, brackets or anything but a comma, so the literal need not be a
list of the names, and it may be no literal at all.  But where it has a value, the value is a text or
a tuple of texts (`Literal.read_namesLiteral`), so whatever a directive lists are texts.

The reason is that every comma in the quoted list is followed by a blank and a quote (`CommasOpen`).
So every comma among the tokens that is reached past texts only is followed by a text again, or by a
text that cannot be read (`Row`).  An expression that begins with a text is that text, or one made by
an operator, a call or the like, which has no value (`Valueless`).
-/

namespace BytecodeAssembler.Literal

/-! ## Characters -/

/-- Every comma is followed by a blank and a quote. -/
def CommasOpen (cs : List Char) : Prop :=
  ∀ rest, ',' :: rest <:+ cs → ∃ more, rest = ' ' :: '"' :: more

theorem CommasOpen.suffix {cs rest : List Char} (h : CommasOpen cs) (hrest : rest <:+ cs) :
    CommasOpen rest :=
  fun more hmore => h more (hmore.trans hrest)

theorem CommasOpen.tail {c : Char} {cs : List Char} (h : CommasOpen (c :: cs)) : CommasOpen cs :=
  h.suffix (List.suffix_cons c cs)

theorem commasOpen_nil : CommasOpen [] := by
  intro rest h
  simp at h

theorem commasOpen_cons {c : Char} {cs : List Char} (hc : c ≠ ',') (h : CommasOpen cs) :
    CommasOpen (c :: cs) := by
  intro rest hrest
  rcases List.suffix_cons_iff.mp hrest with heq | hrest
  · exact absurd (List.cons.inj heq).1.symm hc
  · exact h rest hrest

theorem commasOpen_comma {more : List Char} (h : CommasOpen more) :
    CommasOpen (',' :: ' ' :: '"' :: more) := by
  intro rest hrest
  rcases List.suffix_cons_iff.mp hrest with heq | hrest
  · exact ⟨more, (List.cons.inj heq).2⟩
  · exact commasOpen_cons (by decide) (commasOpen_cons (by decide) h) rest hrest

theorem commasOpen_append {xs cs : List Char} (hxs : ',' ∉ xs) (h : CommasOpen cs) :
    CommasOpen (xs ++ cs) := by
  induction xs with
  | nil => exact h
  | cons x xs ih =>
    rw [List.mem_cons, not_or] at hxs
    exact commasOpen_cons (Ne.symm hxs.1) (ih hxs.2)

/-- The names in a list hold no comma. -/
theorem comma_not_mem_splitNames {name : List Char} (hname : ',' ∉ name) (afterComma : Bool)
    (cs : List Char) : ∀ n ∈ Directive.splitNames name afterComma cs, ',' ∉ n := by
  induction cs generalizing name afterComma with
  | nil => simpa [Directive.splitNames] using hname
  | cons c cs ih =>
    rw [Directive.splitNames]
    by_cases hc : c = ','
    · rw [if_pos (by simp [hc])]
      intro n hn
      rcases List.mem_cons.mp hn with rfl | hn
      · simpa using hname
      · exact ih (by simp) true n hn
    · rw [if_neg (by simp [hc])]
      split
      · exact ih hname true
      · exact ih (by simpa [Ne.symm hc] using hname) false

theorem splitNames_ne_nil (name : List Char) (afterComma : Bool) (cs : List Char) :
    Directive.splitNames name afterComma cs ≠ [] := by
  induction cs generalizing name afterComma with
  | nil => simp [Directive.splitNames]
  | cons c cs ih =>
    rw [Directive.splitNames]
    split
    · simp
    · split
      · exact ih _ _
      · exact ih _ _

/-- Names in quotes begin with a quote, and so does what follows every comma. -/
theorem quoteAll_open {names : List (List Char)} (hne : names ≠ []) (h : ∀ n ∈ names, ',' ∉ n) :
    ∃ more, Directive.quoteAll names = '"' :: more ∧ CommasOpen more := by
  induction names with
  | nil => exact absurd rfl hne
  | cons name names ih =>
    obtain ⟨hname, hnames⟩ := List.forall_mem_cons.mp h
    cases names with
    | nil =>
      refine ⟨name ++ ['"'], rfl, commasOpen_append hname ?_⟩
      exact commasOpen_cons (by decide) commasOpen_nil
    | cons other names =>
      obtain ⟨more, hmore, hopen⟩ := ih (by simp) hnames
      refine ⟨name ++ ('"' :: ',' :: ' ' :: '"' :: more), ?_, commasOpen_append hname ?_⟩
      · simp [Directive.quoteAll, hmore]
      · exact commasOpen_cons (by decide) (commasOpen_comma hopen)

theorem commasOpen_unifyBreaks {cs : List Char} (h : CommasOpen cs) :
    CommasOpen (unifyBreaks cs) := by
  induction cs using unifyBreaks.induct with
  | case1 => exact commasOpen_nil
  | case2 cs ih => exact commasOpen_cons (by decide) (ih h.tail.tail)
  | case3 c cs hbreak ih =>
    have htail := ih h.tail
    rw [unifyBreaks]
    · by_cases hc : c = ','
      · subst hc
        obtain ⟨more, rfl⟩ := h cs List.suffix_rfl
        have hmore : unifyBreaks (' ' :: '"' :: more) = ' ' :: '"' :: unifyBreaks more := by
          simp [unifyBreaks]
        rw [hmore] at htail ⊢
        exact commasOpen_comma htail.tail.tail
      · apply commasOpen_cons _ htail
        split
        · decide
        · exact hc
    · exact hbreak

/-! ## Tokens -/

/-- Tokens that begin with a text, or with none that an expression begins with. -/
def OpensText : List Token → Prop
  | [] | .text _ :: _ | .invalid :: _ => True
  | _ => False

/-- Texts with commas between them, as far as there are such: after a comma there comes a text, or no
expression at all. -/
def Row : List Token → Prop
  | .text _ :: ts => Row ts
  | .symbol .comma :: ts => OpensText ts ∧ Row ts
  | _ => True

theorem untilQuote_suffix {quote : Char} {cs body rest : List Char}
    (h : untilQuote quote cs = some (body, rest)) : rest <:+ cs := by
  fun_induction untilQuote quote cs generalizing body with
  | case1 => cases h
  | case2 c cs ih =>
    obtain ⟨⟨inner, rest'⟩, hr, heq⟩ := Option.map_eq_some_iff.mp h
    obtain ⟨-, rfl⟩ := Prod.mk.inj heq
    exact (ih hr).trans ((List.suffix_cons c cs).trans (List.suffix_cons _ _))
  | case3 c cs =>
    obtain ⟨-, rfl⟩ := Prod.mk.inj (Option.some.inj h)
    exact List.suffix_cons c _
  | case4 => cases h
  | case5 c cs _ _ _ ih =>
    obtain ⟨⟨inner, rest'⟩, hr, heq⟩ := Option.map_eq_some_iff.mp h
    obtain ⟨-, rfl⟩ := Prod.mk.inj heq
    exact (ih hr).trans (List.suffix_cons c cs)

theorem untilTripleQuote_suffix {quote : Char} {cs body rest : List Char}
    (h : untilTripleQuote quote cs = some (body, rest)) : rest <:+ cs := by
  fun_induction untilTripleQuote quote cs generalizing body with
  | case1 => cases h
  | case2 c cs ih =>
    obtain ⟨⟨inner, rest'⟩, hr, heq⟩ := Option.map_eq_some_iff.mp h
    obtain ⟨-, rfl⟩ := Prod.mk.inj heq
    exact (ih hr).trans ((List.suffix_cons c cs).trans (List.suffix_cons _ _))
  | case3 c cs =>
    obtain ⟨-, rfl⟩ := Prod.mk.inj (Option.some.inj h)
    exact (List.drop_suffix 2 cs).trans (List.suffix_cons c cs)
  | case4 => cases h
  | case5 c cs _ _ _ ih =>
    obtain ⟨⟨inner, rest'⟩, hr, heq⟩ := Option.map_eq_some_iff.mp h
    obtain ⟨-, rfl⟩ := Prod.mk.inj heq
    exact (ih hr).trans (List.suffix_cons c cs)

/-- A quoted token is that of its body, and ends within the text. -/
theorem quotedAt_eq_some {marks : QuoteMarks} {quote : Char} {cs rest : List Char} {token : Token}
    (h : quotedAt marks quote cs = some (token, rest)) :
    rest <:+ cs ∧ ∃ body, token = quotedToken marks body := by
  unfold quotedAt at h
  split at h
  · obtain ⟨⟨body, rest'⟩, hr, heq⟩ := Option.map_eq_some_iff.mp h
    obtain ⟨rfl, rfl⟩ := Prod.mk.inj heq
    exact ⟨(untilTripleQuote_suffix hr).trans (List.drop_suffix 2 cs), body, rfl⟩
  · obtain ⟨⟨body, rest'⟩, hr, heq⟩ := Option.map_eq_some_iff.mp h
    obtain ⟨rfl, rfl⟩ := Prod.mk.inj heq
    exact ⟨untilQuote_suffix hr, body, rfl⟩

/-- The token of a quoted body is no comma. -/
theorem quotedToken_ne_comma (marks : QuoteMarks) (body : List Char) :
    quotedToken marks body ≠ .symbol .comma := by
  unfold quotedToken
  repeat' split
  all_goals simp

/-- The token of a word is neither a text nor a comma. -/
theorem ofWord_ne (word : List Char) :
    (∀ t, Token.ofWord word ≠ .text t) ∧ Token.ofWord word ≠ .symbol .comma := by
  unfold Token.ofWord
  split <;> simp

theorem wordOrQuoted_eq_some {cs rest : List Char} {token : Token}
    (h : wordOrQuoted cs = some (token, rest)) :
    ((∀ t, token ≠ .text t) ∨ rest <:+ cs) ∧ token ≠ .symbol .comma := by
  have hword : ∀ {after : List Char}, (if isIdentifier (cs.takeWhile isWordLike) then
      some (Token.ofWord (cs.takeWhile isWordLike), after) else none) = some (token, rest) →
      (∀ t, token ≠ .text t) ∧ token ≠ .symbol .comma := by
    intro after hif
    split at hif
    · obtain ⟨rfl, -⟩ := Prod.mk.inj (Option.some.inj hif)
      exact ofWord_ne _
    · cases hif
  unfold wordOrQuoted at h
  cases hafter : cs.dropWhile isWordLike with
  | nil =>
    rw [hafter] at h
    obtain ⟨ht, hc⟩ := hword h
    exact ⟨.inl ht, hc⟩
  | cons q after =>
    have hsuffix : after <:+ cs := by
      have hdrop := List.dropWhile_suffix (l := cs) isWordLike
      rw [hafter] at hdrop
      exact (List.suffix_cons q after).trans hdrop
    simp only [hafter] at h
    split at h
    · split at h
      · obtain ⟨hrest, body, rfl⟩ := quotedAt_eq_some h
        exact ⟨.inr (hrest.trans hsuffix), quotedToken_ne_comma _ body⟩
      · obtain ⟨ht, hc⟩ := hword h
        exact ⟨.inl ht, hc⟩
    · obtain ⟨ht, hc⟩ := hword h
      exact ⟨.inl ht, hc⟩

/-- A symbol is no text, and a comma is read where there is one. -/
theorem symbolAt_eq_some {cs rest : List Char} {token : Token}
    (h : symbolAt cs = some (token, rest)) :
    (∀ t, token ≠ .text t) ∧ (token = .symbol .comma → cs = ',' :: rest) := by
  have hsingle : ∀ {c : Char} {after : List Char}, symbolAt.single c after = some (token, rest) →
      (∀ t, token ≠ .text t) ∧ (token = .symbol .comma → c :: after = ',' :: rest) := by
    intro c after hs
    unfold symbolAt.single at hs
    split at hs <;> cases hs <;> simp
  unfold symbolAt at h
  split at h
  case h_17 c after _ =>
    -- A symbol that takes an equals sign, or a single one before it.
    split at h
    · cases h
      simp
    · exact hsingle h
  case h_18 => exact hsingle h
  case h_19 => cases h
  all_goals
    cases h
    simp

/-- A token that is no bracket: a text ends within the characters, and a comma is read where there
is one. -/
theorem plainToken_eq_some {cs rest : List Char} {token : Token}
    (h : plainToken cs = some (token, rest)) :
    ((∀ t, token ≠ .text t) ∨ rest <:+ cs) ∧ (token = .symbol .comma → cs = ',' :: rest) := by
  cases cs with
  | nil => cases h
  | cons c after =>
    simp only [plainToken] at h
    split at h
    · obtain ⟨ht, hc⟩ := wordOrQuoted_eq_some h
      exact ⟨ht, fun heq => absurd heq hc⟩
    · split at h
      · obtain ⟨⟨v, rest'⟩, -, heq⟩ := Option.map_eq_some_iff.mp h
        obtain ⟨rfl, -⟩ := Prod.mk.inj heq
        simp
      · split at h
        · obtain ⟨hrest, body, rfl⟩ := quotedAt_eq_some h
          exact ⟨.inr (hrest.trans (List.suffix_cons c after)), fun heq =>
            absurd heq (quotedToken_ne_comma _ body)⟩
        · split at h
          · obtain ⟨⟨v, rest'⟩, -, heq⟩ := Option.map_eq_some_iff.mp h
            obtain ⟨rfl, -⟩ := Prod.mk.inj heq
            simp
          · obtain ⟨ht, hc⟩ := symbolAt_eq_some h
            exact ⟨.inl ht, hc⟩

/-- The symbol of a bracket is no comma. -/
theorem bracket_ne_comma {c : Char} {b : Bracket} {s : Symbol}
    (h : opening? c = some (b, s) ∨ closing? c = some (b, s)) : s ≠ .comma := by
  unfold opening? closing? at h
  rintro rfl
  rcases h with h | h
  · repeat' split at h
    all_goals simp at h
  · repeat' split at h
    all_goals simp at h

/-- **What one step of the reader of tokens can do**, of which only texts and commas matter here: end,
pass over some characters, or read a token and go on. -/
inductive TokenStep (fuel : Nat) (cs : List Char) : List Token → Prop
  | ends {ts : List Token} (h : ts = [] ∨ ts = [.indent] ∨ ts = [.invalid]) : TokenStep fuel cs ts
  | passes {place : Place} {brackets : List Bracket} {rest : List Char} (hrest : rest <:+ cs) :
      TokenStep fuel cs (tokensFrom fuel place brackets rest)
  | text {t : Text} {brackets : List Bracket} {rest : List Char} (hrest : rest <:+ cs) :
      TokenStep fuel cs (.text t :: tokensFrom fuel .within brackets rest)
  | comma {brackets : List Bracket} {rest : List Char} (hcs : cs = ',' :: rest) :
      TokenStep fuel cs (.symbol .comma :: tokensFrom fuel .within brackets rest)
  | other {token : Token} {ts : List Token} (ht : ∀ t, token ≠ .text t)
      (hc : token ≠ .symbol .comma) : TokenStep fuel cs (token :: ts)

theorem joinedLine?_suffix {cs after : List Char} (h : joinedLine? cs = some after) :
    after <:+ cs := by
  unfold joinedLine? at h
  split at h
  · obtain rfl := Option.some.inj h
    exact List.suffix_cons _ _
  · cases h

theorem tokensFrom_step (fuel : Nat) (place : Place) (brackets : List Bracket) (cs : List Char) :
    TokenStep fuel cs (tokensFrom (fuel + 1) place brackets cs) := by
  cases cs with
  | nil =>
    cases place with
    | lineStart joined indented =>
      simp only [tokensFrom]
      split <;> exact .ends (by simp)
    | within =>
      simp only [tokensFrom]
      split <;> exact .ends (by simp)
  | cons c after =>
    have htail : after <:+ c :: after := List.suffix_cons c after
    have hcomment : after.dropWhile (· != '\n') <:+ c :: after :=
      (List.dropWhile_suffix _).trans htail
    cases place with
    | lineStart joined indented =>
      simp only [tokensFrom]
      split
      · exact .passes htail
      split
      · exact .passes htail
      split
      · exact .passes htail
      split
      · exact .passes hcomment
      split
      · split
        · rename_i hjoined
          exact .passes ((joinedLine?_suffix hjoined).trans htail)
        · exact .ends (by simp)
      split
      · exact .other (by simp) (by simp)
      · exact .passes List.suffix_rfl
    | within =>
      simp only [tokensFrom]
      split
      · exact .passes htail
      split
      · split
        · exact .other (by simp) (by simp)
        · exact .passes htail
      split
      · exact .passes hcomment
      split
      · split
        · rename_i hjoined
          exact .passes ((joinedLine?_suffix hjoined).trans htail)
        · exact .ends (by simp)
      split
      · rename_i hopening
        split
        · exact .ends (by simp)
        · exact .other (by simp) (by simpa using bracket_ne_comma (.inl hopening))
      · rename_i hclosing
        split
        · split
          · exact .other (by simp) (by simpa using bracket_ne_comma (.inr hclosing))
          · exact .ends (by simp)
        · exact .ends (by simp)
      · split
        · exact .ends (by simp)
        · rename_i token rest _ hplain
          obtain ⟨htext, hcomma⟩ := plainToken_eq_some hplain
          by_cases hc : token = .symbol .comma
          · subst hc
            exact .comma (hcomma rfl)
          · by_cases ht : ∃ t, token = .text t
            · obtain ⟨t, rfl⟩ := ht
              exact .text (htext.resolve_left fun hne => hne t rfl)
            · exact .other (fun t heq => ht ⟨t, heq⟩) hc
        · exact .ends (by simp)

/-- A quote without marks opens a text, or none that can be read. -/
theorem opensText_quote (fuel : Nat) (brackets : List Bracket) (cs : List Char) :
    OpensText (tokensFrom fuel .within brackets ('"' :: cs)) := by
  cases fuel with
  | zero => trivial
  | succ fuel =>
    have hplain : plainToken ('"' :: cs) = quotedAt ⟨false, false, false⟩ '"' cs := by
      simp [plainToken, isWordStart]
    simp only [tokensFrom, hplain]
    cases hquoted : quotedAt ⟨false, false, false⟩ '"' cs with
    | none => trivial
    | some r =>
      obtain ⟨token, rest⟩ := r
      obtain ⟨-, body, rfl⟩ := quotedAt_eq_some hquoted
      have hbody : (∃ t, quotedToken ⟨false, false, false⟩ body = .text t) ∨
          quotedToken ⟨false, false, false⟩ body = .invalid := by
        simp only [quotedToken, Bool.false_eq_true, if_false]
        cases unescapeText body with
        | none => exact .inr rfl
        | some t => exact .inl ⟨t, rfl⟩
      rcases hbody with ⟨t, ht⟩ | hinvalid
      · rw [ht]
        trivial
      · rw [hinvalid]
        trivial

/-- A blank before it changes nothing. -/
theorem opensText_blank (fuel : Nat) (brackets : List Bracket) (cs : List Char) :
    OpensText (tokensFrom fuel .within brackets (' ' :: '"' :: cs)) := by
  cases fuel with
  | zero => trivial
  | succ fuel => exact opensText_quote fuel brackets cs

/-- **The tokens of a text in which every comma opens a quote.** -/
theorem row_tokensFrom (fuel : Nat) (place : Place) (brackets : List Bracket) {cs : List Char}
    (h : CommasOpen cs) : Row (tokensFrom fuel place brackets cs) := by
  induction fuel generalizing place brackets cs with
  | zero => trivial
  | succ fuel ih =>
    have hstep := tokensFrom_step fuel place brackets cs
    generalize tokensFrom (fuel + 1) place brackets cs = ts at hstep ⊢
    cases hstep with
    | ends hend => rcases hend with rfl | rfl | rfl <;> trivial
    | passes hrest => exact ih _ _ (h.suffix hrest)
    | text hrest => exact ih _ _ (h.suffix hrest)
    | @comma brackets' rest hcs =>
      subst hcs
      obtain ⟨more, rfl⟩ := h rest List.suffix_rfl
      exact ⟨opensText_blank fuel brackets' more, ih _ _ h.tail⟩
    | @other token ts ht hc =>
      unfold Row
      split
      · rename_i t ts' heq
        exact absurd (List.cons.inj heq).1 (ht t)
      · rename_i ts' heq
        exact absurd (List.cons.inj heq).1 hc
      · trivial

/-- **The tokens of quoted names** begin with a text, and so do those after every comma. -/
theorem row_tokens {cs : List Char} (h : CommasOpen cs) :
    OpensText (tokens ('"' :: cs)) ∧ Row (tokens ('"' :: cs)) := by
  have hunified : unifyBreaks ('"' :: cs) = '"' :: unifyBreaks cs := by simp [unifyBreaks]
  have hopen : CommasOpen ('"' :: unifyBreaks cs) :=
    commasOpen_cons (by decide) (commasOpen_unifyBreaks h)
  unfold tokens
  rw [hunified]
  exact ⟨opensText_quote _ [] _, row_tokensFrom _ _ _ hopen⟩

/-! ## Expressions that begin with a text -/

/-- Expressions that have no value: neither has an operation whose left side is no number. -/
inductive Valueless : Expr → Prop
  | other (height : Nat) : Valueless (.other height)
  | part (height : Nat) : Valueless (.part height)
  | sum (negative : Bool) (left right : Expr) (hl : left.signedNumber = .error .notLiteral) :
      Valueless (.sum negative left right)

theorem Valueless.value {e : Expr} (h : Valueless e) : e.value = .error .notLiteral := by
  cases h with
  | other => rfl
  | part => rfl
  | sum negative left right hl =>
    show Expr.sumValue negative left right = _
    simp only [Expr.sumValue, hl]
    rfl

theorem Valueless.signedNumber {e : Expr} (h : Valueless e) :
    e.signedNumber = .error .notLiteral := by
  cases h <;> rfl

/-- What is read where a text begins: a text with the rest of the row, or an expression without a
value. -/
def ReadsText (e : Expr) (rest : List Token) : Prop :=
  (∃ t, e = .constant (.str t)) ∧ Row rest ∨ Valueless e

/-- An operator makes an expression without a value of what is no number. -/
theorem valueless_apply (op : Operator) (continues : Bool) {left : Expr} (right : Expr)
    (h : left.signedNumber = .error .notLiteral) : Valueless (op.apply continues left right) := by
  cases op with
  | sum negative => exact .sum negative left right h
  | chain =>
    simp only [Operator.apply]
    split <;> exact .other _
  | other => exact .other _

/-- A result that succeeded was bound to one that did. -/
theorem bind_eq_ok {ε α β : Type} {x : Except ε α} {f : α → Except ε β} {b : β}
    (h : x >>= f = .ok b) : ∃ a, x = .ok a ∧ f a = .ok b := by
  cases x with
  | error e => cases h
  | ok a => exact ⟨a, rfl, h⟩

/-- What may follow a left side: nothing that belongs to it, or an operator and its right side. -/
theorem continued_cases {n : Nat} {d : Depth} {level last : Nat} {left e : Expr}
    {ts rest : List Token} (h : continued (n + 1) d level last left ts = .ok (e, rest)) :
    (e = left ∧ rest = ts) ∨ ∃ op continues right last' ts',
      continued n d level last' (Operator.apply continues op left right) ts' = .ok (e, rest) := by
  rw [continued] at h
  split at h
  · rename_i l op after _
    split at h
    · obtain ⟨⟨right, ts'⟩, -, h⟩ := bind_eq_ok h
      exact .inr ⟨op, l == last, right, l, ts', h⟩
    · obtain ⟨rfl, rfl⟩ := Prod.mk.inj (Except.ok.inj h)
      exact .inl ⟨rfl, rfl⟩
  · obtain ⟨rfl, rfl⟩ := Prod.mk.inj (Except.ok.inj h)
    exact .inl ⟨rfl, rfl⟩

theorem continued_valueless {n : Nat} {d : Depth} {level last : Nat} {left e : Expr}
    {ts rest : List Token} (hl : Valueless left)
    (h : continued n d level last left ts = .ok (e, rest)) : Valueless e := by
  induction n generalizing last left ts with
  | zero => simp [continued] at h
  | succ n ih =>
    rcases continued_cases h with ⟨rfl, -⟩ | ⟨op, continues, right, last', ts', hnext⟩
    · exact hl
    · exact ih (valueless_apply op continues right hl.signedNumber) hnext

theorem continued_text {n : Nat} {d : Depth} {level last : Nat} {left e : Expr}
    {ts rest : List Token} (hl : ReadsText left ts)
    (h : continued n d level last left ts = .ok (e, rest)) : ReadsText e rest := by
  cases n with
  | zero => simp [continued] at h
  | succ n =>
    rcases hl with ⟨⟨t, rfl⟩, hrow⟩ | hl
    · rcases continued_cases h with ⟨rfl, rfl⟩ | ⟨op, continues, right, last', ts', hnext⟩
      · exact .inl ⟨⟨t, rfl⟩, hrow⟩
      · exact .inr (continued_valueless (valueless_apply op continues right rfl) hnext)
    · exact .inr (continued_valueless hl h)

/-- What may follow an atom: nothing that belongs to it, or an attribute, a call or a subscript. -/
theorem trailers_cases {n : Nat} {d : Depth} {e e' : Expr} {ts rest : List Token}
    (h : trailers (n + 1) d e ts = .ok (e', rest)) :
    (e' = e ∧ rest = ts) ∨ ∃ e'' ts', trailers n d e'' ts' = .ok (e', rest) ∧
      (Valueless e'' ∨ e'' = e.callEmpty) := by
  rw [trailers.eq_def] at h
  split at h
  case h_1 => cases h
  case h_2 heq =>
    obtain rfl := Nat.succ.inj heq
    exact .inr ⟨_, _, h, .inl (.part _)⟩
  case h_3 => cases h
  case h_4 heq =>
    obtain rfl := Nat.succ.inj heq
    obtain ⟨-, -, h⟩ := bind_eq_ok h
    exact .inr ⟨_, _, h, .inr rfl⟩
  case h_5 heq =>
    obtain rfl := Nat.succ.inj heq
    obtain ⟨⟨height, ts'⟩, -, h⟩ := bind_eq_ok h
    exact .inr ⟨_, ts', h, .inl (.other _)⟩
  case h_6 heq =>
    obtain rfl := Nat.succ.inj heq
    obtain ⟨⟨height, ts'⟩, -, h⟩ := bind_eq_ok h
    exact .inr ⟨_, ts', h, .inl (.part _)⟩
  case h_7 =>
    obtain ⟨rfl, rfl⟩ := Prod.mk.inj (Except.ok.inj h)
    exact .inl ⟨rfl, rfl⟩

/-- A call of what has no value has none either. -/
theorem Valueless.callEmpty {e : Expr} (h : Valueless e) : Valueless e.callEmpty := by
  cases h <;> exact .other _

theorem trailers_valueless {n : Nat} {d : Depth} {e e' : Expr} {ts rest : List Token}
    (he : Valueless e) (h : trailers n d e ts = .ok (e', rest)) : Valueless e' := by
  induction n generalizing e ts with
  | zero => simp [trailers] at h
  | succ n ih =>
    rcases trailers_cases h with ⟨rfl, -⟩ | ⟨e'', ts', hnext, hvalueless | rfl⟩
    · exact he
    · exact ih hvalueless hnext
    · exact ih he.callEmpty hnext

theorem trailers_text {n : Nat} {d : Depth} {e e' : Expr} {ts rest : List Token}
    (he : ReadsText e ts) (h : trailers n d e ts = .ok (e', rest)) : ReadsText e' rest := by
  cases n with
  | zero => simp [trailers] at h
  | succ n =>
    rcases he with ⟨⟨t, rfl⟩, hrow⟩ | he
    · rcases trailers_cases h with ⟨rfl, rfl⟩ | ⟨e'', ts', hnext, hvalueless | rfl⟩
      · exact .inl ⟨⟨t, rfl⟩, hrow⟩
      · exact .inr (trailers_valueless hvalueless hnext)
      · exact .inr (trailers_valueless (.other _) hnext)
    · exact .inr (trailers_valueless he h)

/-- Quoted parts side by side of which one is a template. -/
theorem joined_template {n : Nat} {d : Depth} {height : Nat} {e : Expr} {ts rest : List Token}
    (h : joined n d (.template height) ts = .ok (e, rest)) : Valueless e := by
  induction n generalizing height ts with
  | zero => simp [joined] at h
  | succ n ih =>
    rw [joined.eq_def] at h
    split at h
    case h_1 => cases h
    case h_2 heq =>
      obtain rfl := Nat.succ.inj heq
      obtain ⟨-, -, h⟩ := bind_eq_ok h
      exact ih h
    case h_3 =>
      obtain ⟨-, -, h⟩ := bind_eq_ok h
      cases h
    case h_4 heq =>
      obtain rfl := Nat.succ.inj heq
      obtain ⟨-, -, h⟩ := bind_eq_ok h
      split at h
      · cases h
      · obtain ⟨heights, -, h⟩ := bind_eq_ok h
        exact ih h
    case h_5 =>
      obtain ⟨rfl, -⟩ := Prod.mk.inj (Except.ok.inj h)
      exact .other _

/-- Quoted parts side by side, the first of which is a text. -/
theorem joined_text {n : Nat} {d : Depth} {acc : Joined} {e : Expr} {ts rest : List Token}
    (hacc : acc = .nothing ∧ OpensText ts ∨ ∃ t, acc = .text t) (hrow : Row ts)
    (h : joined n d acc ts = .ok (e, rest)) : ReadsText e rest := by
  induction n generalizing acc ts with
  | zero => simp [joined] at h
  | succ n ih =>
    rw [joined.eq_def] at h
    split at h
    case h_1 => cases h
    case h_2 t ts heq =>
      obtain rfl := Nat.succ.inj heq
      obtain ⟨-, -, h⟩ := bind_eq_ok h
      have hrest : Row ts := hrow
      rcases hacc with ⟨rfl, -⟩ | ⟨s, rfl⟩
      · exact ih (.inr ⟨t, rfl⟩) hrest h
      · exact ih (.inr ⟨s ++ t, rfl⟩) hrest h
    case h_3 =>
      obtain ⟨-, -, h⟩ := bind_eq_ok h
      rcases hacc with ⟨-, hopens⟩ | ⟨s, rfl⟩
      · cases hopens
      · cases h
    case h_4 heq =>
      obtain rfl := Nat.succ.inj heq
      obtain ⟨-, -, h⟩ := bind_eq_ok h
      rcases hacc with ⟨-, hopens⟩ | ⟨s, rfl⟩
      · cases hopens
      · split at h
        · cases h
        · obtain ⟨heights, -, h⟩ := bind_eq_ok h
          exact .inr (joined_template h)
    case h_5 =>
      rcases hacc with ⟨rfl, -⟩ | ⟨s, rfl⟩
      · cases h
      · obtain ⟨rfl, rfl⟩ := Prod.mk.inj (Except.ok.inj h)
        exact .inl ⟨⟨s, rfl⟩, hrow⟩

section Opens

variable {n : Nat} {d : Depth} {e : Expr} {ts rest : List Token}

/-- No other token stands where a text begins. -/
theorem OpensText.ne {token : Token} (hopens : OpensText ts) (ht : ∀ t, token ≠ .text t)
    (hi : token ≠ .invalid) (more : List Token) : ts ≠ token :: more := by
  rintro rfl
  cases token with
  | text t => exact ht t rfl
  | invalid => exact hi rfl
  | _ => exact hopens

theorem atom_text (hopens : OpensText ts) (hrow : Row ts) (h : atom n d ts = .ok (e, rest)) :
    ReadsText e rest := by
  cases n with
  | zero => simp [atom] at h
  | succ n =>
    rw [atom] at h
    · obtain ⟨-, -, h⟩ := bind_eq_ok h
      exact joined_text (.inl ⟨rfl, hopens⟩) hrow h
    · exact fun _ => hopens.ne (by simp) (by simp)
    · exact fun _ => hopens.ne (by simp) (by simp)
    all_goals exact hopens.ne (by simp) (by simp)

theorem primary_text (hopens : OpensText ts) (hrow : Row ts)
    (h : primary n d ts = .ok (e, rest)) : ReadsText e rest := by
  cases n with
  | zero => simp [primary] at h
  | succ n =>
    rw [primary] at h
    obtain ⟨⟨e', ts'⟩, hatom, h⟩ := bind_eq_ok h
    exact trailers_text (atom_text hopens hrow hatom) h

theorem operand_text (hopens : OpensText ts) (hrow : Row ts)
    (h : operand n d ts = .ok (e, rest)) : ReadsText e rest := by
  cases n with
  | zero => simp [operand] at h
  | succ n =>
    rw [operand] at h
    · obtain ⟨⟨e', ts'⟩, hawaited, h⟩ := bind_eq_ok h
      have hprimary : ReadsText e' ts' := by
        cases n with
        | zero => simp [awaited] at hawaited
        | succ n =>
          rw [awaited] at hawaited
          · exact primary_text hopens hrow hawaited
          · exact hopens.ne (by simp) (by simp)
      dsimp only at h
      split at h
      · obtain ⟨⟨e'', ts''⟩, -, h⟩ := bind_eq_ok h
        obtain ⟨rfl, -⟩ := Prod.mk.inj (Except.ok.inj h)
        exact .inr (.other _)
      · obtain ⟨rfl, rfl⟩ := Prod.mk.inj (Except.ok.inj h)
        exact hprimary
    all_goals exact hopens.ne (by simp) (by simp)

theorem operation_text {level : Nat} (hopens : OpensText ts) (hrow : Row ts)
    (h : operation n d level ts = .ok (e, rest)) : ReadsText e rest := by
  cases n with
  | zero => simp [operation] at h
  | succ n =>
    rw [operation] at h
    · obtain ⟨⟨e', ts'⟩, hoperand, h⟩ := bind_eq_ok h
      exact continued_text (operand_text hopens hrow hoperand) h
    · exact hopens.ne (by simp) (by simp)

/-- **An expression that begins with a text** is that text, or has no value. -/
theorem expression_text (hopens : OpensText ts) (hrow : Row ts)
    (h : expression n d ts = .ok (e, rest)) : ReadsText e rest := by
  cases n with
  | zero => simp [expression] at h
  | succ n =>
    rw [expression] at h
    · obtain ⟨⟨e', ts'⟩, hoperation, h⟩ := bind_eq_ok h
      dsimp only at h
      split at h
      · obtain ⟨⟨c, ts''⟩, -, h⟩ := bind_eq_ok h
        dsimp only at h
        split at h
        · obtain ⟨⟨o, ts₃⟩, -, h⟩ := bind_eq_ok h
          obtain ⟨rfl, -⟩ := Prod.mk.inj (Except.ok.inj h)
          exact .inr (.other _)
        · cases h
      · obtain ⟨rfl, rfl⟩ := Prod.mk.inj (Except.ok.inj h)
        exact operation_text hopens hrow hoperation
    · exact hopens.ne (by simp) (by simp)

theorem spreadable_text (hopens : OpensText ts) (hrow : Row ts)
    (h : spreadable n d false ts = .ok (e, rest)) : ReadsText e rest := by
  cases n with
  | zero => simp [spreadable] at h
  | succ n =>
    simp only [spreadable] at h
    exact expression_text hopens hrow h

end Opens

/-! ## Lists of texts -/

/-- The value of what is read where a text begins is a text. -/
theorem ReadsText.value {e : Expr} {rest : List Token} {v : Value} (h : ReadsText e rest)
    (hv : e.value = .ok v) : (∃ t, v = .str t) ∧ Row rest := by
  rcases h with ⟨⟨t, rfl⟩, hrow⟩ | hvalueless
  · exact ⟨⟨t, (Except.ok.inj hv).symm⟩, hrow⟩
  · rw [hvalueless.value] at hv
    cases hv

theorem values_cons_eq_ok {e : Expr} {es : List Expr} {vs : List Value}
    (h : Expr.values (e :: es) = .ok vs) :
    ∃ v ws, e.value = .ok v ∧ Expr.values es = .ok ws ∧ vs = v :: ws := by
  rw [Expr.values] at h
  obtain ⟨v, hv, h⟩ := bind_eq_ok h
  obtain ⟨ws, hws, h⟩ := bind_eq_ok h
  exact ⟨v, ws, hv, hws, (Except.ok.inj h).symm⟩

/-- Texts after a comma. -/
theorem moreExpressions_texts {n : Nat} {d : Depth} {es : List Expr} {ts rest : List Token}
    {vs : List Value} (hopens : OpensText ts) (hrow : Row ts)
    (h : moreExpressions n d false ts = .ok (es, rest)) (hvs : Expr.values es = .ok vs) :
    ∀ v ∈ vs, ∃ t, v = .str t := by
  induction n generalizing es ts rest vs with
  | zero => simp [moreExpressions] at h
  | succ n ih =>
    rw [moreExpressions] at h
    split at h
    · obtain ⟨-, -, h⟩ := bind_eq_ok h
      obtain ⟨rfl, -⟩ := Prod.mk.inj (Except.ok.inj h)
      obtain rfl := Except.ok.inj hvs
      simp
    · obtain ⟨⟨e, ts'⟩, hspread, h⟩ := bind_eq_ok h
      have hreads := spreadable_text hopens hrow hspread
      dsimp only at h
      split at h
      · obtain ⟨⟨es', ts''⟩, hmore, h⟩ := bind_eq_ok h
        obtain ⟨rfl, -⟩ := Prod.mk.inj (Except.ok.inj h)
        obtain ⟨v, ws, hv, hws, rfl⟩ := values_cons_eq_ok hvs
        obtain ⟨htext, hopens', hrow'⟩ := hreads.value hv
        exact List.forall_mem_cons.mpr ⟨htext, ih hopens' hrow' hmore hws⟩
      · obtain ⟨rfl, -⟩ := Prod.mk.inj (Except.ok.inj h)
        obtain ⟨v, ws, hv, hws, rfl⟩ := values_cons_eq_ok hvs
        obtain rfl := Except.ok.inj hws
        simpa using (hreads.value hv).1

/-- A text, or a tuple of texts. -/
def IsTexts : Value → Prop
  | .str _ => True
  | .tuple vs => ∀ v ∈ vs, ∃ t, v = .str t
  | _ => False

/-- **A row of texts** has a text or a tuple of texts for a value, if it has one. -/
theorem expressions_texts {n : Nat} {d : Depth} {e : Expr} {ts rest : List Token} {v : Value}
    (hopens : OpensText ts) (hrow : Row ts) (h : expressions n d false ts = .ok (e, rest))
    (hv : e.value = .ok v) : IsTexts v := by
  cases n with
  | zero => simp [expressions] at h
  | succ n =>
    rw [expressions] at h
    obtain ⟨⟨e', ts'⟩, hspread, h⟩ := bind_eq_ok h
    have hreads := spreadable_text hopens hrow hspread
    dsimp only at h
    split at h
    · obtain ⟨⟨es, ts''⟩, hmore, h⟩ := bind_eq_ok h
      obtain ⟨rfl, -⟩ := Prod.mk.inj (Except.ok.inj h)
      rw [Expr.value] at hv
      obtain ⟨vs, hvs, hv⟩ := bind_eq_ok hv
      obtain rfl := Except.ok.inj hv
      obtain ⟨w, ws, hw, hws, rfl⟩ := values_cons_eq_ok hvs
      obtain ⟨htext, hopens', hrow'⟩ := hreads.value hw
      exact List.forall_mem_cons.mpr ⟨htext, moreExpressions_texts hopens' hrow' hmore hws⟩
    · obtain ⟨rfl, -⟩ := Prod.mk.inj (Except.ok.inj h)
      obtain ⟨⟨t, rfl⟩, -⟩ := hreads.value hv
      trivial

/-- All tokens make one expression. -/
theorem expressions_of_readAll {n detour : Nat} {ts : List Token} {e : Expr}
    (h : readAll n detour ts = .ok e) :
    ∃ rest, expressions n ⟨3, detour⟩ false ts = .ok (e, rest) := by
  unfold readAll at h
  split at h
  · cases h
  · split at h
    · cases h
    · cases h
    · rename_i e' rest hread
      split at h
      · obtain rfl := Except.ok.inj h
        exact ⟨rest, hread⟩
      · cases h
      · cases h

theorem readAll_of_parse {cs : List Char} {e : Expr} (h : parse cs = .ok e) :
    ∃ n, readAll n 0 (tokens cs) = .ok e := by
  refine ⟨16 * (cs.length + 1), ?_⟩
  unfold parse at h
  dsimp only at h
  split at h
  · rename_i e' hread
    split at h
    · obtain rfl := Except.ok.inj h
      exact hread
    · cases h
  · cases h
  · split at h
    · cases h
    · split at h <;> cases h

/-- **The value of a list of names** is a text or a tuple of texts. -/
theorem read_namesLiteral {names : String} {v : Value}
    (h : read (Directive.namesLiteral names) = .ok v) : IsTexts v := by
  obtain ⟨more, hquoted, hopen⟩ := quoteAll_open
    (splitNames_ne_nil [] false names.toList)
    (comma_not_mem_splitNames (by simp) false names.toList)
  have hchars : (Directive.namesLiteral names).toList.dropWhile (fun c => c == ' ' || c == '\t')
      = '"' :: more := by
    rw [Directive.namesLiteral, String.toList_ofList, hquoted]
    rfl
  unfold read at h
  rw [hchars] at h
  dsimp only at h
  split at h
  · cases h
  · obtain ⟨e, hparse, hvalue⟩ := bind_eq_ok h
    obtain ⟨n, hread⟩ := readAll_of_parse hparse
    obtain ⟨rest, hexpr⟩ := expressions_of_readAll hread
    obtain ⟨hopens, hrow⟩ := row_tokens hopen
    exact expressions_texts hopens hrow hexpr hvalue

end BytecodeAssembler.Literal

namespace BytecodeAssembler.Assembly

/-- **What a directive lists are texts.** -/
theorem texts_of_namesOf {names : String} {vs : List Value} (h : namesOf names = .ok vs) :
    ∀ v ∈ vs, ∃ t, v = .str t := by
  unfold namesOf at h
  split at h
  · cases h
  · rename_i v hread
    have htexts := Literal.read_namesLiteral hread
    unfold Value.items at h
    cases v with
    | str t =>
      obtain rfl := Except.ok.inj h
      intro w hw
      obtain ⟨p, -, rfl⟩ := List.mem_map.mp hw
      exact ⟨[p], rfl⟩
    | tuple ws =>
      obtain rfl := Except.ok.inj h
      exact htexts
    | _ => cases htexts

end BytecodeAssembler.Assembly
