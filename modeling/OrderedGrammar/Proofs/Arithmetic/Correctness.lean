import OrderedGrammar.Proofs.Arithmetic.Evaluation
import OrderedGrammar.Proofs.Arithmetic.Recognition
import OrderedGrammar.Proofs.Matching.Failures

/-!
# Texts are evaluated

From the text of an expression to its value: the text is split into the expression's lexemes, these
are matched, and the tree is evaluated (`evaluate_renders`), as far as the calls inside of calls and
the digits of the numbers are within the limits.  Texts that do not write an expression are not
parsed.
-/

namespace OrderedGrammar.Arithmetic

open Notation
open Walk (below below_below le_below)

/-- What an expression with the given value leaves on an empty stack. -/
def stackOf : Option ℤ → Except Error (List ℤ)
  | some v => .ok [v]
  | none => .error .divisionByZero

section Texts

variable {d : Dialect} {g : Grammar} (hg : d.grammar = .ok g) {text : String}
  {options : ParseOptions}

include hg

theorem hasRule_expression : g.hasRule "expression" := by
  rw [Grammar.hasRule_iff (Dialect.ofRules_of_grammar hg)]
  exact ⟨d.rowRule .sum, by cases d <;> decide, rfl⟩

theorem parse_of_scan {ts : List Token} (h : g.lexicon.scan text = .ok ts) :
    g.parse "expression" text options = g.parseTokens "expression" ts.toArray options := by
  rw [Grammar.parse, if_pos (hasRule_expression hg), Grammar.tokenize, h]

theorem parse_of_scan_error {fault : ScanError} (h : g.lexicon.scan text = .error fault) :
    g.parse "expression" text options = (.error (.scan fault), []) := by
  rw [Grammar.parse, if_pos (hasRule_expression hg), Grammar.tokenize, h]

theorem hasLexemes_of_scan {ts : List Token} (h : g.lexicon.scan text = .ok ts) :
    HasLexemes ts.toArray := (renders_of_scan hg h).2

/-- The tokens of a text in which an expression is written. -/
theorem exists_tokens {e : Expression} (h : Renders e.lexemes text.toList) :
    ∃ ts, g.lexicon.scan text = .ok ts ∧ lexemesFrom ts.toArray 0 = e.lexemes := by
  have hapart : Apart (e.lexemes ++ []) := e.apart .nil (by simp [headKind])
  rw [List.append_nil] at hapart
  exact scan_of_renders hg h e.isLexeme hapart

/-- A text in which an expression is written gives the expression's tree. -/
theorem parse_renders {e : Expression} (h : Renders e.lexemes text.toList)
    (hframes : e.frames ≤ options.budget) :
    ∃ n, (g.parse "expression" text options).1 = .ok n ∧ IsTree d e n := by
  obtain ⟨ts, hscan, hlexemes⟩ := exists_tokens hg h
  rw [parse_of_scan hg hscan]
  exact exists_tree hg (hasLexemes_of_scan hg hscan) hlexemes hframes

theorem parse_renders_tooDeep {e : Expression} (h : Renders e.lexemes text.toList)
    (hframes : options.budget < e.frames) :
    ∃ failure, failure.IsNesting ∧ (g.parse "expression" text options).1 = .error failure := by
  obtain ⟨ts, hscan, hlexemes⟩ := exists_tokens hg h
  rw [parse_of_scan hg hscan]
  exact tooDeep_of_lexemes hg (hasLexemes_of_scan hg hscan) hlexemes hframes

/-- A text that is parsed writes an expression, whose tree comes out. -/
theorem renders_of_parse {n : Node} (h : (g.parse "expression" text options).1 = .ok n) :
    ∃ e : Expression, Renders e.lexemes text.toList ∧ e.frames ≤ options.budget ∧
      IsTree d e n := by
  cases hscan : g.lexicon.scan text with
  | error fault =>
    rw [parse_of_scan_error hg hscan] at h
    cases h
  | ok ts =>
    rw [parse_of_scan hg hscan] at h
    obtain ⟨e, hlexemes, hframes, htree⟩ :=
      exists_expression hg (hasLexemes_of_scan hg hscan) h
    exact ⟨e, hlexemes ▸ (renders_of_scan hg hscan).1, hframes, htree⟩

end Texts

/-- Within the limits, the walk through an expression's tree leaves the expression's value. -/
theorem evaluate_of_fits {d : Dialect} {e : Expression} {n : Node} (h : IsTree d e n)
    {limits : Limits} (hfits : e.Fits d limits) :
    evaluate limits d.walker n.toTree = stackOf e.value := by
  rw [evaluate_eq h, e.outcome_eq_value (le_below hfits.calls_le) hfits.longest_le]
  cases e.value <;> rfl

/-- A walk that has room for its calls does not overflow, however many digits are read. -/
theorem evaluate_ne_overflow {d : Dialect} {e : Expression} {n : Node} (h : IsTree d e n)
    {limits : Limits} (hcalls : ∀ room ∈ limits.calls, e.calls d + walkCalls ≤ room) :
    evaluate limits d.walker n.toTree ≠ .error .overflow := by
  rw [evaluate_eq h]
  exact bind_ne_overflow (e.outcome_ne_overflow (le_below hcalls)) (f := fun v => .ok [v]) nofun

/-- **Texts of arithmetic are evaluated.**  The grammar with named tails compiles, and a text in
which an expression is written is parsed unless the expression nests deeper than is allowed; a walk
through the tree that keeps within its limits then leaves the expression's value alone on the stack,
or ends with a division by zero if it has none.  No other texts are parsed. -/
theorem evaluate_renders : ∃ g, namedGrammar = .ok g ∧ ∀ (text : String) (options : ParseOptions),
    (∀ e : Expression, Renders e.lexemes text.toList →
      (e.frames ≤ options.budget → ∃ n, (g.parse "expression" text options).1 = .ok n ∧
        ∀ limits, e.Fits .named limits →
          evaluate limits namedWalker n.toTree = stackOf e.value) ∧
      (options.budget < e.frames → ∃ failure, failure.IsNesting ∧
        (g.parse "expression" text options).1 = .error failure)) ∧
    ∀ n, (g.parse "expression" text options).1 = .ok n →
      ∃ e : Expression, Renders e.lexemes text.toList ∧ e.frames ≤ options.budget := by
  obtain ⟨g, hg⟩ := Dialect.exists_grammar .named
  refine ⟨g, hg, fun text options => ⟨fun e he => ⟨fun hframes => ?_, ?_⟩, fun n hn => ?_⟩⟩
  · obtain ⟨n, hn, htree⟩ := parse_renders hg he hframes
    exact ⟨n, hn, fun limits hfits => evaluate_of_fits htree hfits⟩
  · exact parse_renders_tooDeep hg he
  · obtain ⟨e, he, hframes, -⟩ := renders_of_parse hg hn
    exact ⟨e, he, hframes⟩

/-! ### Expressions -/

/-- A number of one digit. -/
def digit (c : Char) (h : Text.isDecimal c) : Phrase .primary :=
  .number ⟨[c], List.cons_ne_nil _ _, List.forall_mem_singleton.2 h⟩

/-- A product of one operand. -/
def single (p : Phrase .primary) : Phrase (.row .product) := .row (.factor none p) .nil

/-- A sum of one operand, which is a product of one operand. -/
def sole (p : Phrase .primary) : Expression := .row (single p) .nil

theorem lexemes_sole (p : Phrase .primary) : (sole p).lexemes = p.lexemes := by
  simp [sole, single, Phrase.lexemes, Rest.lexemes]

theorem frames_sole (p : Phrase .primary) : (sole p).frames = p.frames + 5 := by
  simp [sole, single, Phrase.frames, Rest.frames]

theorem value_sole (p : Phrase .primary) : (sole p).value = p.value := by
  simp [sole, single, Phrase.value, Rest.value, Option.bind_fun_some]

theorem calls_sole (d : Dialect) (p : Phrase .primary) :
    (sole p).calls d = p.calls d + innerCalls + d.rowCalls + d.rowCalls := by
  simp [sole, single, Phrase.calls, Rest.calls]

theorem outcome_sole (d : Dialect) (digits room : Option ℕ) (p : Phrase .primary) :
    (sole p).outcome d digits room =
      p.outcome d digits (below room (d.rowCalls + (d.rowCalls + innerCalls))) := by
  have hinner : (sole p).outcome d digits room =
      p.outcome d digits (below (below (below room d.rowCalls) d.rowCalls) innerCalls) := by
    simp only [sole, single, Phrase.outcome]
    cases p.outcome d digits (below (below (below room d.rowCalls) d.rowCalls) innerCalls) <;> rfl
  rw [hinner, below_below, below_below]

/-- The expression `7 - 2 - 8 / -3`. -/
def differences : Expression :=
  .row (single (digit '7' (by decide))) (.cons .minus (single (digit '2' (by decide)))
    (.cons .minus (.row (.factor none (digit '8' (by decide)))
      (.cons .divide (.factor (some .minus) (digit '3' (by decide))) .nil)) .nil))

theorem renders_differences : Renders differences.lexemes "7 - 2 - 8 / -3".toList := by
  have hlexemes : differences.lexemes = [("NUMBER_LITERAL", "7"), ("MINUS_OP", "-"),
      ("NUMBER_LITERAL", "2"), ("MINUS_OP", "-"), ("NUMBER_LITERAL", "8"), ("DIV_OP", "/"),
      ("MINUS_OP", "-"), ("NUMBER_LITERAL", "3")] := by decide +kernel
  have hspace : [' '].all Text.isSpace := by decide
  have hnone : ([] : List Char).all Text.isSpace := rfl
  rw [hlexemes]
  exact .lexeme hnone (.lexeme hspace (.lexeme hspace (.lexeme hspace (.lexeme hspace
    (.lexeme hspace (.lexeme hspace (.lexeme hnone (.done hnone))))))))

/-- Differences are taken from left to right, and the quotient of `8` and `-3` is rounded down. -/
theorem evaluate_differences : ∃ g n, namedGrammar = .ok g ∧
    (g.parse "expression" "7 - 2 - 8 / -3" {}).1 = .ok n ∧
    evaluate ⟨some 1000, some 4300⟩ namedWalker n.toTree = .ok [8] := by
  obtain ⟨g, hg, h⟩ := evaluate_renders
  have hvalue : differences.value = some 8 := by decide +kernel
  have hfits : differences.Fits .named ⟨some 1000, some 4300⟩ :=
    ⟨by simpa using (by decide : differences.calls .named + walkCalls ≤ 1000),
      by simpa using (by decide : differences.longest ≤ 4300)⟩
  obtain ⟨n, hn, hstack⟩ := ((h _ {}).1 differences renders_differences).1 (by decide +kernel)
  have heval := hstack _ hfits
  rw [hvalue] at heval
  exact ⟨g, n, hg, hn, heval⟩

/-- A number of as many ones as are given. -/
def ones (count : ℕ) (h : count ≠ 0) : Numeral where
  digits := List.replicate count '1'
  ne_nil := by simpa using h
  isDecimal c hc := by
    rw [List.eq_of_mem_replicate hc]
    decide

theorem renders_number (n : Numeral) :
    Renders (sole (.number n)).lexemes (String.ofList n.digits).toList := by
  rw [lexemes_sole, Phrase.lexemes]
  have hlexeme : Renders [("NUMBER_LITERAL", String.ofList n.digits)]
      ([] ++ (String.ofList n.digits).toList ++ []) := .lexeme rfl (.done rfl)
  rwa [List.append_nil] at hlexeme

theorem evaluate_number {n : Numeral} {m : Node} {d : Dialect} (h : IsTree d (sole (.number n)) m)
    (digits : Option ℕ) :
    evaluate ⟨none, digits⟩ d.walker m.toTree = (n.read digits).map ([·]) := by
  rw [evaluate_eq h, outcome_sole]
  rfl

/-- A number with more digits than are read. -/
def longNumber : Expression := sole (.number (ones 4301 (by decide)))

/-! ### Numbers in parentheses -/

/-- A one inside of a number of parentheses. -/
def nested : ℕ → Expression
  | 0 => sole (digit '1' (by decide))
  | n + 1 => sole (.group (nested n))

/-- Its text. -/
def nestedText (n : ℕ) : String :=
  String.ofList (List.replicate n '(') ++ "1" ++ String.ofList (List.replicate n ')')

theorem renders_nested (n : ℕ) : Renders (nested n).lexemes (nestedText n).toList := by
  have hnone : ([] : List Char).all Text.isSpace := rfl
  have hwritten (n : ℕ) (more : List Lexeme) (cs : List Char) (h : Renders more cs) :
      Renders ((nested n).lexemes ++ more)
        (List.replicate n '(' ++ '1' :: (List.replicate n ')' ++ cs)) := by
    induction n generalizing more cs with
    | zero => exact .lexeme hnone h
    | succ n ih =>
      rw [nested, lexemes_sole, Phrase.lexemes, List.replicate_succ, List.replicate_succ',
        List.append_assoc, List.singleton_append, List.cons_append, List.cons_append,
        List.append_assoc]
      exact .lexeme hnone (ih _ _ (.lexeme hnone h))
  have hall := hwritten n [] [] (.done hnone)
  simpa [nestedText] using hall

theorem frames_nested (n : ℕ) : (nested n).frames = 6 * n + 6 := by
  induction n with
  | zero => rfl
  | succ n ih =>
    rw [nested, frames_sole, Phrase.frames, ih]
    omega

theorem value_nested (n : ℕ) : (nested n).value = some 1 := by
  induction n with
  | zero => exact (value_sole _).trans (by decide +kernel)
  | succ n ih => rw [nested, value_sole, Phrase.value, ih]

theorem longest_nested (n : ℕ) : (nested n).longest = 1 := by
  induction n with
  | zero => rfl
  | succ n ih => simp [nested, sole, single, Phrase.longest, Rest.longest, ih]

theorem calls_nested_grouped (n : ℕ) : (nested n).calls .grouped = 14 * n + 16 := by
  induction n with
  | zero => rfl
  | succ n ih =>
    rw [nested, calls_sole, Phrase.calls, ih, innerCalls, Dialect.rowCalls]
    omega

theorem outcome_nested_named (n : ℕ) {digits : Option ℕ} {room : ℕ} (h : room < 18 * n + 5) :
    (nested n).outcome .named digits (some room) = .error .overflow := by
  induction n generalizing room with
  | zero => exact Phrase.outcome_of_lt _ h
  | succ n ih =>
    rw [nested, outcome_sole]
    have hlt : room - 15 - 3 < 18 * n + 5 := by omega
    exact ih hlt

/-- A number of 4301 digits and a one in sixty parentheses are expressions with values.  Both texts
are parsed, but the number is too long to be read, and a thousand calls are not enough to come to
the one. -/
theorem exists_unevaluated : ∃ g n m v, namedGrammar = .ok g ∧
    Renders longNumber.lexemes (String.ofList (List.replicate 4301 '1')).toList ∧
    longNumber.value = some v ∧
    (g.parse "expression" (String.ofList (List.replicate 4301 '1')) {}).1 = .ok n ∧
    evaluate ⟨none, some 4300⟩ namedWalker n.toTree = .error (.tooManyDigits 4300 4301) ∧
    Renders (nested 60).lexemes (nestedText 60).toList ∧ (nested 60).value = some 1 ∧
    (g.parse "expression" (nestedText 60) {}).1 = .ok m ∧
    evaluate ⟨some 1000, none⟩ namedWalker m.toTree = .error .overflow := by
  obtain ⟨g, hg⟩ := Dialect.exists_grammar .named
  have hrenders : Renders longNumber.lexemes (String.ofList (List.replicate 4301 '1')).toList :=
    renders_number _
  have hframes : longNumber.frames ≤ ParseOptions.budget {} := by
    rw [longNumber, frames_sole, Phrase.frames]
    decide
  have hframes' : (nested 60).frames ≤ ParseOptions.budget {} := by
    rw [frames_nested]
    decide
  obtain ⟨n, hn, htree⟩ := parse_renders hg hrenders hframes
  obtain ⟨m, hm, htree'⟩ := parse_renders hg (renders_nested 60) hframes'
  refine ⟨g, n, m, _, hg, hrenders, value_sole _, hn, ?_, renders_nested 60, value_nested 60, hm,
    ?_⟩
  · have hread : (ones 4301 (by decide)).read (some 4300) = .error (.tooManyDigits 4300 4301) := by
      rw [Numeral.read, ones, List.length_replicate]
      rfl
    have heval := evaluate_number htree (some 4300)
    rwa [hread] at heval
  · have hoverflow : (nested 60).outcome .named none (some 998) = .error .overflow :=
      outcome_nested_named 60 (by decide)
    exact (evaluate_eq htree' ⟨some 1000, none⟩).trans (congrArg _ hoverflow)

end OrderedGrammar.Arithmetic
