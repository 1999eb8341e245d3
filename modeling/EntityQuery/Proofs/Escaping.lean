import Mathlib.Algebra.Ring.Parity
import Mathlib.Data.List.Infix
import EntityQuery.Query.Literal
/-!
# Escaped literals

A single-quoted literal is read with one rule: a backslash escapes the character after it, and
the first single quote that is not escaped closes the literal (`closingQuote?`); the value it
denotes is its body with every escaping backslash dropped (`unescape`).

Whether a character is escaped depends only on the run of backslashes right before it: it is
escaped exactly when that run is odd (`escapesNext_iff_odd`). In a value escaped by
`escapeLiteral` every single quote follows an odd run, and the text ends in an even one
(`quotesEscaped_escapeChars`, `escapesNext_escapeChars`). Any text with these two properties is the
body of a literal closed by the quote put after it (`closingQuote?_of_escaped`), so the main
statement, `escaped_literal_closes_and_reads_back`, follows: the escaped value closes exactly at
its closing quote, denotes the value, and different values are escaped differently.

The template splitter uses the same rule, stopping at a double quote as well: the part it scans
ends before the first quote that follows a text not ending in a backslash
(`splitAtLiteral_stops_by_quote`). It never counts a run of backslashes, yet it cuts exactly
before the first quote that follows an even run (`UnescapedQuoteAt`): each backslash it passes
over takes the character after it along, and a character that is not a backslash leaves the
escaping of the next one as it was (`splitAtLiteral_stops_at_unescaped_quote`). So the split is
the template cut at its first unescaped quote, or the whole template when it has none
(`splitAtLiteral_at_first_unescaped_quote`).
-/

set_option autoImplicit false

namespace EntityQuery.Query

/-! ## Escaped characters -/

/-- The character after a text is escaped: a backslash escapes the character after it unless it
is itself escaped. -/
def escapesNext (cs : List Char) : Bool := cs.foldl (fun esc c => !esc && c == '\\') false

/-- The number of backslashes a text ends with. -/
def trailingBackslashes (cs : List Char) : Nat := (cs.reverse.takeWhile (· == '\\')).length

/-- The place of the quote that closes a literal whose body starts the text: the first single
quote that is not escaped. -/
def closingQuote? : List Char → Option Nat
  | [] => none
  | [c] => if c == '\'' then some 0 else none
  | c :: e :: more =>
    if c == '\\' then (closingQuote? more).map (· + 2)
    else if c == '\'' then some 0
    else (closingQuote? (e :: more)).map (· + 1)

/-- The value a literal body denotes: every escaping backslash is dropped and the character after
it kept. -/
def unescape : List Char → List Char
  | [] => []
  | [c] => [c]
  | c :: e :: more => if c == '\\' then e :: unescape more else c :: unescape (e :: more)

@[simp] theorem closingQuote?_quote_cons (rest : List Char) : closingQuote? ('\'' :: rest) = some 0 := by
  cases rest <;> simp [closingQuote?]

@[simp] theorem closingQuote?_backslash_cons (e : Char) (more : List Char) :
    closingQuote? ('\\' :: e :: more) = (closingQuote? more).map (· + 2) := by
  simp [closingQuote?]

theorem closingQuote?_cons_of_ne {c : Char} (hc : c ≠ '\\') (hq : c ≠ '\'') (rest : List Char) :
    closingQuote? (c :: rest) = (closingQuote? rest).map (· + 1) := by
  cases rest <;> simp [closingQuote?, hc, hq]

@[simp] theorem unescape_backslash_cons (e : Char) (more : List Char) :
    unescape ('\\' :: e :: more) = e :: unescape more := by
  simp [unescape]

theorem unescape_cons_of_ne {c : Char} (hc : c ≠ '\\') (rest : List Char) :
    unescape (c :: rest) = c :: unescape rest := by
  cases rest <;> simp [unescape, hc]

theorem escapesNext_append_singleton (cs : List Char) (c : Char) :
    escapesNext (cs ++ [c]) = (!escapesNext cs && c == '\\') := by
  simp [escapesNext, List.foldl_append]

theorem trailingBackslashes_append_singleton (cs : List Char) (c : Char) :
    trailingBackslashes (cs ++ [c]) = if c = '\\' then trailingBackslashes cs + 1 else 0 := by
  by_cases hc : c = '\\' <;> simp [trailingBackslashes, hc]

/-- A character is escaped exactly when the run of backslashes before it is odd. -/
theorem escapesNext_iff_odd (cs : List Char) :
    escapesNext cs = true ↔ Odd (trailingBackslashes cs) := by
  induction cs using List.reverseRecOn with
  | nil => simp [escapesNext, trailingBackslashes]
  | append_singleton cs c ih =>
    rw [escapesNext_append_singleton, trailingBackslashes_append_singleton]
    by_cases hc : c = '\\'
    · simp [hc, Nat.odd_add_one, ← ih]
    · simp [hc, Nat.not_odd_zero]

/-- A character that is not a backslash leaves the next one unescaped. -/
theorem escapesNext_cons_of_ne {c : Char} (hc : c ≠ '\\') (cs : List Char) :
    escapesNext (c :: cs) = escapesNext cs := by
  have hc' : (c == '\\') = false := by simpa using hc
  simp [escapesNext, hc']

/-- A backslash and the character it escapes leave the next one unescaped. -/
theorem escapesNext_backslash_cons (e : Char) (cs : List Char) :
    escapesNext ('\\' :: e :: cs) = escapesNext cs := by
  simp [escapesNext]

/-- A text that leaves the next character unescaped is read on as if it were not there. -/
theorem escapesNext_append_of_false {xs : List Char} (h : escapesNext xs = false)
    (ys : List Char) : escapesNext (xs ++ ys) = escapesNext ys := by
  simp only [escapesNext, List.foldl_append] at h ⊢
  rw [h]

/-- Every single quote of the text is escaped. -/
def QuotesEscaped (cs : List Char) : Prop :=
  ∀ pre post, cs = pre ++ '\'' :: post → escapesNext pre = true

/-- Texts whose quotes are escaped, the first leaving the next character unescaped, put
together have their quotes escaped. -/
theorem QuotesEscaped.append {xs ys : List Char} (hxs : QuotesEscaped xs)
    (hend : escapesNext xs = false) (hys : QuotesEscaped ys) : QuotesEscaped (xs ++ ys) := by
  intro pre post h
  rcases List.append_eq_append_iff.mp h with ⟨as, rfl, hrest⟩ | ⟨bs, hxs', hbs⟩
  · -- the quote lies in the second text
    rw [escapesNext_append_of_false hend]
    exact hys as post hrest
  · cases bs with
    | nil =>
      -- the second text would start with an unescaped quote
      have := hys [] post (by simpa using hbs.symm)
      simp [escapesNext] at this
    | cons x bs =>
      obtain ⟨rfl, -⟩ := List.cons.inj hbs
      exact hxs pre bs hxs'

/-! ## Escaped values -/

theorem escapeChars_cons (c : Char) (cs : List Char) :
    escapeChars (c :: cs) = escapeChars [c] ++ escapeChars cs := by
  by_cases hc : c = '\\' ∨ c = '\''
  · simp [escapeChars, hc]
  · simp [escapeChars, hc]

/-- One escaped character leaves the next one unescaped. -/
theorem escapesNext_escapeChars_single (c : Char) : escapesNext (escapeChars [c]) = false := by
  by_cases hc : c = '\\'
  · simp [escapeChars, escapesNext, hc]
  · by_cases hq : c = '\''
    · simp [escapeChars, escapesNext, hq]
    · simp [escapeChars, escapesNext, hc, hq]

/-- The quote of one escaped character is escaped. -/
theorem quotesEscaped_escapeChars_single (c : Char) : QuotesEscaped (escapeChars [c]) := by
  intro pre post h
  -- the block is `\c` for a backslash or a quote and `c` otherwise: only `\'` holds a quote
  by_cases hc : c = '\\' ∨ c = '\''
  · have h' : ['\\', c] = pre ++ '\'' :: post := by simpa [escapeChars, hc] using h
    rcases pre with _ | ⟨a, _ | ⟨b, pre⟩⟩
    · simp at h'
    · obtain ⟨rfl, -⟩ := List.cons.inj h'
      rfl
    · simp at h'
  · have h' : [c] = pre ++ '\'' :: post := by simpa [escapeChars, hc] using h
    rcases pre with _ | ⟨a, pre⟩
    · exact absurd (List.cons.inj h').1 fun hq => hc (.inr hq)
    · simp at h'

/-- An escaped value leaves the character after it unescaped. -/
theorem escapesNext_escapeChars (s : List Char) : escapesNext (escapeChars s) = false := by
  induction s with
  | nil => rfl
  | cons c s ih =>
    rw [escapeChars_cons, escapesNext_append_of_false (escapesNext_escapeChars_single c), ih]

/-- Every single quote of an escaped value is escaped. -/
theorem quotesEscaped_escapeChars (s : List Char) : QuotesEscaped (escapeChars s) := by
  induction s with
  | nil => intro pre post h; simp [escapeChars] at h
  | cons c s ih =>
    rw [escapeChars_cons]
    exact (quotesEscaped_escapeChars_single c).append (escapesNext_escapeChars_single c) ih

/-! ## Reading a literal back -/

/-- A text whose quotes are all escaped and which leaves the next character unescaped is the body
of a literal closed by the quote put after it. -/
theorem closingQuote?_of_escaped (rest : List Char) :
    ∀ body : List Char, QuotesEscaped body → escapesNext body = false →
      closingQuote? (body ++ '\'' :: rest) = some body.length
  | [], _, _ => closingQuote?_quote_cons rest
  | c :: more, hq, hend => by
    by_cases hc : c = '\\'
    · subst hc
      cases more with
      | nil => simp [escapesNext] at hend
      | cons e more =>
        -- a backslash and the character it escapes are skipped together
        have hq' : QuotesEscaped more := fun pre post h => by
          rw [← escapesNext_backslash_cons e]
          exact hq ('\\' :: e :: pre) post (by simp [h])
        have hend' : escapesNext more = false := by rwa [escapesNext_backslash_cons] at hend
        simp [closingQuote?_of_escaped rest more hq' hend']
    · have hquote : c ≠ '\'' := by
        rintro rfl
        simpa [escapesNext] using hq [] more rfl
      have hq' : QuotesEscaped more := fun pre post h => by
        rw [← escapesNext_cons_of_ne hc]
        exact hq (c :: pre) post (by simp [h])
      have hend' : escapesNext more = false := by rwa [escapesNext_cons_of_ne hc] at hend
      rw [List.cons_append, closingQuote?_cons_of_ne hc hquote,
        closingQuote?_of_escaped rest more hq' hend']
      rfl

theorem unescape_escapeChars (s : List Char) : unescape (escapeChars s) = s := by
  induction s with
  | nil => rfl
  | cons c s ih =>
    by_cases hc : c = '\\' ∨ c = '\''
    · simp [escapeChars, hc, ih]
    · have hb : c ≠ '\\' := fun h => hc (.inl h)
      simp [escapeChars, hc, unescape_cons_of_ne hb, ih]

theorem escapeLiteral_toList (s : String) : (escapeLiteral s).toList = escapeChars s.toList := by
  simp [escapeLiteral]

/-- What a literal written with an escaped value holds. Every single quote of the escaped text
follows an odd run of backslashes and the text ends in an even one, so the first single quote
after it that is not escaped is the one put after it, whatever follows; dropping the escaping
backslashes gives the value back, so different values are never escaped alike. -/
theorem escaped_literal_closes_and_reads_back (s : String) :
    (∀ pre post, (escapeLiteral s).toList = pre ++ '\'' :: post →
      Odd (trailingBackslashes pre)) ∧
    ¬ Odd (trailingBackslashes (escapeLiteral s).toList) ∧
    (∀ rest, closingQuote? ((escapeLiteral s).toList ++ '\'' :: rest) =
      some (escapeLiteral s).toList.length) ∧
    unescape (escapeLiteral s).toList = s.toList ∧
    ∀ t, escapeLiteral t = escapeLiteral s → t = s := by
  rw [escapeLiteral_toList]
  refine ⟨fun pre post h => ?_, ?_, fun rest => ?_, unescape_escapeChars _, fun t h => ?_⟩
  · exact (escapesNext_iff_odd pre).mp (quotesEscaped_escapeChars _ pre post h)
  · rw [← escapesNext_iff_odd, escapesNext_escapeChars]
    simp
  · exact closingQuote?_of_escaped rest _ (quotesEscaped_escapeChars _) (escapesNext_escapeChars _)
  · have hlist := congrArg (fun l => unescape (String.toList l)) h
    simp only [escapeLiteral_toList, unescape_escapeChars] at hlist
    exact String.ext hlist

/-! ## The template splitter -/

@[simp] theorem splitAtLiteral_backslash_cons (e : Char) (more : List Char) :
    splitAtLiteral ('\\' :: e :: more) = (splitAtLiteral more).map ('\\' :: e :: ·) id := by
  simp [splitAtLiteral]

theorem splitAtLiteral_quote_cons {q : Char} (hq : q = '\'' ∨ q = '"') (rest : List Char) :
    splitAtLiteral (q :: rest) = ([], q :: rest) := by
  rcases hq with rfl | rfl <;> cases rest <;> simp [splitAtLiteral]

theorem splitAtLiteral_cons_of_plain {c : Char} (hc : c ≠ '\\' ∧ c ≠ '\'' ∧ c ≠ '"')
    (rest : List Char) : splitAtLiteral (c :: rest) = (splitAtLiteral rest).map (c :: ·) id := by
  obtain ⟨hb, hq, hd⟩ := hc
  cases rest <;> simp [splitAtLiteral, hb, hq, hd]

/-- Text without backslashes and quotes is scanned as it is. -/
theorem splitAtLiteral_plain_append {xs : List Char}
    (hxs : ∀ c ∈ xs, c ≠ '\\' ∧ c ≠ '\'' ∧ c ≠ '"') (ys : List Char) :
    splitAtLiteral (xs ++ ys) = (xs ++ (splitAtLiteral ys).1, (splitAtLiteral ys).2) := by
  induction xs with
  | nil => rfl
  | cons c xs ih =>
    rw [List.cons_append, splitAtLiteral_cons_of_plain (hxs c List.mem_cons_self),
      ih fun c' hc' => hxs c' (List.mem_cons_of_mem c hc')]
    rfl

/-- A quote after a text that does not end in a backslash ends the scanned part, if nothing
before it did. -/
theorem splitAtLiteral_stops_by_quote {q : Char} (hq : q = '\'' ∨ q = '"') (post : List Char) :
    ∀ pre : List Char, pre.getLast? ≠ some '\\' → (splitAtLiteral (pre ++ q :: post)).1 <+: pre
  | [], _ => by simp [splitAtLiteral_quote_cons hq]
  | c :: more, hlast => by
    by_cases hc : c = '\\'
    · subst hc
      cases more with
      | nil => simp at hlast
      | cons e more =>
        -- a backslash and the character it escapes are passed over together
        have hlast' : more.getLast? ≠ some '\\' := by
          cases more with
          | nil => simp
          | cons x xs => simpa [List.getLast?_cons_cons] using hlast
        simpa using (List.prefix_cons_inj '\\').mpr
          ((List.prefix_cons_inj e).mpr (splitAtLiteral_stops_by_quote hq post more hlast'))
    · by_cases hquote : c = '\'' ∨ c = '"'
      · simp [splitAtLiteral_quote_cons hquote]
      · have hplain : c ≠ '\\' ∧ c ≠ '\'' ∧ c ≠ '"' := ⟨hc, fun h => hquote (.inl h),
          fun h => hquote (.inr h)⟩
        have hlast' : more.getLast? ≠ some '\\' := by
          cases more with
          | nil => simp
          | cons x xs => simpa using hlast
        rw [List.cons_append, splitAtLiteral_cons_of_plain hplain]
        exact (List.prefix_cons_inj c).mpr (splitAtLiteral_stops_by_quote hq post more hlast')

/-! ## Where the splitter stops -/

/-- The character at `i` is a quote, single or double, that no backslash escapes: the run of
backslashes right before it has even length. -/
def UnescapedQuoteAt (cs : List Char) (i : Nat) : Prop :=
  (cs[i]? = some '\'' ∨ cs[i]? = some '"') ∧ Even (trailingBackslashes (cs.take i))

theorem UnescapedQuoteAt.lt_length {cs : List Char} {i : Nat} (h : UnescapedQuoteAt cs i) :
    i < cs.length := by
  rcases h.1 with hq | hq <;> exact (List.getElem?_eq_some_iff.mp hq).1

/-- The splitter's reading of escapes: a quote is unescaped when the text before it leaves the
next character unescaped. -/
theorem unescapedQuoteAt_iff {cs : List Char} {i : Nat} :
    UnescapedQuoteAt cs i ↔
      (cs[i]? = some '\'' ∨ cs[i]? = some '"') ∧ escapesNext (cs.take i) = false := by
  rw [UnescapedQuoteAt, ← Nat.not_odd_iff_even, ← escapesNext_iff_odd]
  simp

/-- A first character is unescaped. -/
theorem unescapedQuoteAt_zero_iff {c : Char} {cs : List Char} :
    UnescapedQuoteAt (c :: cs) 0 ↔ c = '\'' ∨ c = '"' := by
  simp [UnescapedQuoteAt, trailingBackslashes]

/-- A character after a lone backslash is escaped. -/
theorem not_unescapedQuoteAt_after_backslash (cs : List Char) :
    ¬ UnescapedQuoteAt ('\\' :: cs) 1 := by
  simp [unescapedQuoteAt_iff, escapesNext]

/-- A character that is no backslash changes nothing for the characters after it. -/
theorem unescapedQuoteAt_cons_succ {c : Char} (hc : c ≠ '\\') (cs : List Char) (i : Nat) :
    UnescapedQuoteAt (c :: cs) (i + 1) ↔ UnescapedQuoteAt cs i := by
  simp only [unescapedQuoteAt_iff, List.getElem?_cons_succ, List.take_succ_cons,
    escapesNext_cons_of_ne hc]

/-- Neither does a backslash with the character it escapes. -/
theorem unescapedQuoteAt_backslash_cons (e : Char) (cs : List Char) (i : Nat) :
    UnescapedQuoteAt ('\\' :: e :: cs) (i + 2) ↔ UnescapedQuoteAt cs i := by
  simp only [unescapedQuoteAt_iff, List.getElem?_cons_succ, List.take_succ_cons,
    escapesNext_backslash_cons]

/-- The scanned part holds no unescaped quote, and the rest is empty or starts with one. -/
theorem splitAtLiteral_stops_at_unescaped_quote (cs : List Char) :
    (∀ j < (splitAtLiteral cs).1.length, ¬ UnescapedQuoteAt cs j) ∧
    ((splitAtLiteral cs).2 = [] ∨ UnescapedQuoteAt cs (splitAtLiteral cs).1.length) := by
  fun_induction splitAtLiteral cs with
  | case1 => simp
  | case2 c hc =>
    -- a backslash at the end escapes nothing and is scanned
    refine ⟨fun j hj => ?_, .inl rfl⟩
    obtain rfl : j = 0 := by simpa using hj
    simp [unescapedQuoteAt_zero_iff, (beq_iff_eq.mp hc)]
  | case3 c hc e more ih =>
    obtain rfl : c = '\\' := beq_iff_eq.mp hc
    refine ⟨fun j hj => ?_, ?_⟩
    · -- the backslash, the character it escapes, then the rest as scanned on its own
      rcases j with _ | _ | k
      · simp [unescapedQuoteAt_zero_iff]
      · exact not_unescapedQuoteAt_after_backslash _
      · rw [unescapedQuoteAt_backslash_cons]
        exact ih.1 k (by simpa using hj)
    · simpa [unescapedQuoteAt_backslash_cons] using ih.2
  | case4 c more hc hq =>
    have hquote : c = '\'' ∨ c = '"' := by simpa using hq
    exact ⟨fun j hj => absurd hj (Nat.not_lt_zero j), .inr (unescapedQuoteAt_zero_iff.mpr hquote)⟩
  | case5 c more hc hq ih =>
    have hb : c ≠ '\\' := by simpa using hc
    have hquote : ¬ (c = '\'' ∨ c = '"') := by simpa using hq
    refine ⟨fun j hj => ?_, ?_⟩
    · cases j with
      | zero => exact fun h => hquote (unescapedQuoteAt_zero_iff.mp h)
      | succ k =>
        rw [unescapedQuoteAt_cons_succ hb]
        exact ih.1 k (by simpa using hj)
    · simpa [unescapedQuoteAt_cons_succ hb] using ih.2

/-- A split whose parts put together give the text is the text cut at the scanned length. -/
theorem splitAtLiteral_eq_take_drop (cs : List Char) :
    splitAtLiteral cs =
      (cs.take (splitAtLiteral cs).1.length, cs.drop (splitAtLiteral cs).1.length) := by
  have happend := splitAtLiteral_append cs
  generalize splitAtLiteral cs = parts at happend ⊢
  obtain ⟨scan, rest⟩ := parts
  subst happend
  simp

/-- The template splitter cuts a template right before its first quote, single or double, that
follows an even run of backslashes, and keeps the whole template when there is none: the two
parts put together give the template, and the second is empty or starts with that quote. -/
theorem splitAtLiteral_at_first_unescaped_quote (cs : List Char) :
    (∀ i, UnescapedQuoteAt cs i → (∀ j < i, ¬ UnescapedQuoteAt cs j) →
      splitAtLiteral cs = (cs.take i, cs.drop i)) ∧
    ((∀ i, ¬ UnescapedQuoteAt cs i) → splitAtLiteral cs = (cs, [])) ∧
    (splitAtLiteral cs).1 ++ (splitAtLiteral cs).2 = cs ∧
    ((splitAtLiteral cs).2 = [] ∨ UnescapedQuoteAt cs (splitAtLiteral cs).1.length) := by
  obtain ⟨hscan, hrest⟩ := splitAtLiteral_stops_at_unescaped_quote cs
  have happend := splitAtLiteral_append cs
  refine ⟨fun i hi hfirst => ?_, fun hnone => ?_, happend, hrest⟩
  · -- the first unescaped quote is neither inside the scanned part nor after its end
    have hle : (splitAtLiteral cs).1.length ≤ i := Nat.le_of_not_lt fun hlt => hscan i hlt hi
    have hquote : UnescapedQuoteAt cs (splitAtLiteral cs).1.length := by
      refine hrest.resolve_left fun hnil => ?_
      have hlen : (splitAtLiteral cs).1.length = cs.length := by
        simpa [hnil] using congrArg List.length happend
      exact absurd hi.lt_length (by omega)
    have hge : i ≤ (splitAtLiteral cs).1.length :=
      Nat.le_of_not_lt fun hlt => hfirst _ hlt hquote
    rw [splitAtLiteral_eq_take_drop cs, Nat.le_antisymm hle hge]
  · have hnil : (splitAtLiteral cs).2 = [] := hrest.resolve_right (hnone _)
    have hscanned : (splitAtLiteral cs).1 = cs :=
      calc (splitAtLiteral cs).1 = (splitAtLiteral cs).1 ++ (splitAtLiteral cs).2 := by
            rw [hnil, List.append_nil]
        _ = cs := happend
    exact Prod.ext hscanned hnil

end EntityQuery.Query
