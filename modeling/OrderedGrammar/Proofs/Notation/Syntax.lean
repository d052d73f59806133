import Mathlib.Data.List.Nodup
import Mathlib.Data.List.Perm.Subperm
import Mathlib.Data.Nat.Find
import OrderedGrammar.Notation.Compile

/-!
# The abstract syntax of the notation

The notation as a context-free grammar, without a word on how it is matched:

    grammar      = rule+
    rule         = IDENTIFIER '=' (QUOTEDLITERAL | alternatives) ';'
    alternatives = sequence ('|' sequence)*
    sequence     = symbol (',' symbol)*
    symbol       = [[IDENTIFIER] ':'] (IDENTIFIER | '(' alternatives ')') [MODIFIER]

A tree of this grammar has a text of lexemes, nests as many alternatives of the notation's rules as
`frames` counts, and stands for the rules that `rulesOf` gives.

## Main definitions

* `Item`, `Series`, `Choice`, `Declaration` : the trees.
* `lexemesOf` : the lexemes of declarations.
* `framesOf` : how many alternatives are nested when they are matched.
* `rulesOf` : the rules that declarations stand for.
-/

namespace OrderedGrammar.Notation

/-- What is written in front of a symbol: nothing, a bare colon, or a name and a colon. -/
inductive Label where
  | absent
  | bare
  | named (name : String)

mutual

/-- A symbol: a name or a group of alternatives in parentheses. -/
inductive Item where
  | name (label : Label) (name : String) (modifier : Modifier)
  | group (label : Label) (body : Choice) (modifier : Modifier)

/-- Symbols with commas between them. -/
inductive Series where
  | one (item : Item)
  | more (item : Item) (rest : Series)

/-- Alternatives with bars between them. -/
inductive Choice where
  | one (series : Series)
  | more (series : Series) (rest : Choice)

end

/-- A rule of the notation: one with a pattern, or one with alternatives. -/
inductive Declaration where
  | lexer (name pattern : String)
  | parser (name : String) (body : Choice)

/-! ### Lexemes -/

/-- The kind and the text of a token. -/
abbrev Lexeme := String × String

namespace Label

/-- The lexemes of what is written in front of a symbol. -/
def lexemes : Label → List Lexeme
  | absent => []
  | bare => [("COLON", ":")]
  | named name => [("IDENTIFIER", name), ("COLON", ":")]

/-- The label of the symbol, if it is not the name. -/
def text? : Label → Option String
  | absent => none
  | bare => some ""
  | named name => some name

end Label

/-- The lexemes of a modifier. -/
def modifierLexemes (m : Modifier) : List Lexeme :=
  m.char?.toList.map fun c => ("MODIFIER", String.singleton c)

mutual

/-- The lexemes of a symbol. -/
def Item.lexemes : Item → List Lexeme
  | .name label name modifier =>
    label.lexemes ++ ("IDENTIFIER", name) :: modifierLexemes modifier
  | .group label body modifier =>
    label.lexemes ++
      ("LPAREN", "(") :: (body.lexemes ++ ("RPAREN", ")") :: modifierLexemes modifier)

/-- The lexemes of symbols. -/
def Series.lexemes : Series → List Lexeme
  | .one item => item.lexemes
  | .more item rest => item.lexemes ++ ("COMMA", ",") :: rest.lexemes

/-- The lexemes of alternatives. -/
def Choice.lexemes : Choice → List Lexeme
  | .one series => series.lexemes
  | .more series rest => series.lexemes ++ ("OR", "|") :: rest.lexemes

end

/-- The lexemes of a rule. -/
def Declaration.lexemes : Declaration → List Lexeme
  | .lexer name pattern => [("IDENTIFIER", name), ("EQ", "="),
      ("QUOTEDLITERAL", "\"" ++ pattern ++ "\""), ("SEMICOLON", ";")]
  | .parser name body =>
    ("IDENTIFIER", name) :: ("EQ", "=") :: (body.lexemes ++ [("SEMICOLON", ";")])

/-- A rule starts with a name. -/
theorem Declaration.exists_lexemes (d : Declaration) :
    ∃ name lexemes, d.lexemes = ("IDENTIFIER", name) :: lexemes := by
  cases d with
  | lexer name _ => exact ⟨name, _, rfl⟩
  | parser name _ => exact ⟨name, _, rfl⟩

/-- The lexemes of rules. -/
def lexemesOf (declarations : List Declaration) : List Lexeme :=
  declarations.flatMap Declaration.lexemes

theorem lexemesOf_ne_nil {declarations : List Declaration} (h : declarations ≠ []) :
    lexemesOf declarations ≠ [] := by
  obtain ⟨declaration, rest, rfl⟩ := List.exists_cons_of_ne_nil h
  obtain ⟨name, lexemes, hx⟩ := declaration.exists_lexemes
  rw [lexemesOf, List.flatMap_cons, hx]
  exact List.cons_ne_nil _ _

/-! ### Nesting -/

mutual

/-- How many alternatives are nested when a symbol is matched.  The alternative of a label is tried
inside of the symbol's even if no label is written. -/
def Item.frames : Item → ℕ
  | .name _ _ _ => 2
  | .group _ body _ => body.frames + 2

/-- How many alternatives are nested when symbols are matched: each symbol but the first is in one
of its own together with its comma. -/
def Series.frames : Series → ℕ
  | .one item => item.frames + 1
  | .more item rest => max item.frames rest.tailFrames + 1

/-- How many alternatives are nested when symbols behind a comma are matched. -/
def Series.tailFrames : Series → ℕ
  | .one item => item.frames + 1
  | .more item rest => max (item.frames + 1) rest.tailFrames

/-- How many alternatives are nested when alternatives of the notation are matched: each of them but
the first is in one of its own together with its bar. -/
def Choice.frames : Choice → ℕ
  | .one series => series.frames + 1
  | .more series rest => max series.frames rest.tailFrames + 1

/-- How many alternatives are nested when what stands behind a bar is matched. -/
def Choice.tailFrames : Choice → ℕ
  | .one series => series.frames + 1
  | .more series rest => max (series.frames + 1) rest.tailFrames

end

/-- How many alternatives are nested when a rule is matched. -/
def Declaration.frames : Declaration → ℕ
  | .lexer _ _ => 1
  | .parser _ body => body.frames + 1

/-- How many alternatives are nested when rules are matched. -/
def framesOf (declarations : List Declaration) : ℕ :=
  (declarations.map Declaration.frames).foldr max 1 + 1

theorem framesOf_le_iff {declarations : List Declaration} {n : ℕ} :
    framesOf declarations ≤ n + 1 ↔
      1 ≤ n ∧ ∀ declaration ∈ declarations, declaration.frames ≤ n := by
  rw [framesOf, Nat.add_le_add_iff_right]
  induction declarations with
  | nil => simp
  | cons declaration declarations ih =>
    rw [List.map_cons, List.foldr_cons, Nat.max_le, ih, List.forall_mem_cons]
    exact and_left_comm

/-! ### Flattening -/

/-- A rule that has not been checked. -/
structure Draft where
  name : String
  kind : RuleKind
  symbols : List Symbol

/-- The rule, if its symbols can make one. -/
def Draft.rule (d : Draft) : Except GrammarError Rule := Rule.ofSymbols d.name d.kind d.symbols

theorem groupName_injective : Function.Injective groupName := by
  intro m n h
  have hlist := congrArg String.toList h
  rw [groupName, groupName, String.toList_append, String.toList_append] at hlist
  have hdigits := List.append_cancel_left hlist
  rw [Nat.toString_eq_repr, Nat.toString_eq_repr, Nat.toList_repr, Nat.toList_repr] at hdigits
  rw [← Nat.ofDigitChars_ten_toDigits (n := m), hdigits, Nat.ofDigitChars_ten_toDigits]

/-- Not all of more names than are declared are declared. -/
theorem exists_free (declared : List String) (n : ℕ) :
    ∃ k ≤ declared.length, groupName (n + k) ∉ declared := by
  by_contra! hall
  have hinj : Function.Injective fun k => groupName (n + k) := fun i j h =>
    Nat.add_left_cancel (groupName_injective h)
  have hnd : ((List.range (declared.length + 1)).map fun k => groupName (n + k)).Nodup :=
    List.nodup_range.map hinj
  have hsub : ((List.range (declared.length + 1)).map fun k => groupName (n + k)) ⊆ declared := by
    intro name hname
    obtain ⟨k, hk, rfl⟩ := List.mem_map.1 hname
    exact hall k (Nat.lt_succ_iff.1 (List.mem_range.1 hk))
  have hlength := (hnd.subperm hsub).length_le
  simp only [List.length_map, List.length_range] at hlength
  omega

theorem exists_nextFree (declared : List String) (n : ℕ) :
    ∃ m, n ≤ m ∧ groupName m ∉ declared := by
  obtain ⟨k, -, hk⟩ := exists_free declared n
  exact ⟨n + k, by omega, hk⟩

/-- The first number from `n` on whose name is not declared. -/
def nextFree (declared : List String) (n : ℕ) : ℕ := Nat.find (exists_nextFree declared n)

section Flatten

variable (declared : List String)

mutual

/-- The symbol that an item stands for, the rules of the groups inside, and the number from which
the next group's number is looked for.  A group is numbered before the groups inside it. -/
def Item.flatten : Item → ℕ → Symbol × List Draft × ℕ
  | .name label name modifier, n => (.ofModifier name modifier label.text?, [], n)
  | .group label body modifier, n =>
    let k := nextFree declared n
    let (drafts, n') := Choice.flatten (groupName k) body (k + 1)
    (.ofModifier (groupName k) modifier label.text?, drafts, n')

/-- The symbols that stand for items, with the rules of the groups in their order. -/
def Series.flatten : Series → ℕ → List Symbol × List Draft × ℕ
  | .one item, n =>
    let (s, drafts, n') := Item.flatten item n
    ([s], drafts, n')
  | .more item rest, n =>
    let (s, drafts, n') := Item.flatten item n
    let (symbols, drafts', n'') := Series.flatten rest n'
    (s :: symbols, drafts ++ drafts', n'')

/-- The rules of alternatives: one for each of them, behind those of the groups inside. -/
def Choice.flatten (owner : String) : Choice → ℕ → List Draft × ℕ
  | .one series, n =>
    let (symbols, drafts, n') := Series.flatten series n
    (drafts ++ [⟨owner, .parser, symbols⟩], n')
  | .more series rest, n =>
    let (symbols, drafts, n') := Series.flatten series n
    let (drafts', n'') := Choice.flatten owner rest n'
    (drafts ++ ⟨owner, .parser, symbols⟩ :: drafts', n'')

end

/-- The rules of a rule of the notation. -/
def Declaration.flatten : Declaration → ℕ → List Draft × ℕ
  | .lexer name pattern, n => ([⟨name, .lexer, [.ofName pattern]⟩], n)
  | .parser name body, n => body.flatten declared name n

/-- The rules of several rules of the notation, in their order. -/
def flattenAll : List Declaration → ℕ → List Draft × ℕ
  | [], n => ([], n)
  | declaration :: rest, n =>
    let (drafts, n') := declaration.flatten declared n
    let (drafts', n'') := flattenAll rest n'
    (drafts ++ drafts', n'')

end Flatten

/-- The name that is declared. -/
def Declaration.name : Declaration → String
  | .lexer name _ => name
  | .parser name _ => name

/-- The rules that declarations stand for, or the fault of the first that is none. -/
def rulesOf (declarations : List Declaration) : Except GrammarError (List Rule) :=
  (flattenAll (declarations.map Declaration.name) declarations 0).1.mapM Draft.rule

end OrderedGrammar.Notation
