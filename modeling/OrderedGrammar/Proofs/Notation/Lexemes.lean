import OrderedGrammar.Proofs.Matching.Inversion
import OrderedGrammar.Proofs.Matching.Run
import OrderedGrammar.Proofs.Notation.Alternatives
import OrderedGrammar.Proofs.Notation.Syntax

/-!
# Tokens of the notation

What is left of tokens from an index on is a list of lexemes.  A name of a token takes the first
lexeme of its kind; a name with alternatives has no token of its own, so that its alternatives
decide.
-/

namespace OrderedGrammar.Notation

/-- The lexemes that are always written in the same way. -/
def punctuation : List Lexeme :=
  [("EQ", "="), ("COMMA", ","), ("COLON", ":"), ("SEMICOLON", ";"), ("OR", "|"), ("LPAREN", "("),
    ("RPAREN", ")")]

/-- The lexemes that the notation has: those that are always written in the same way, modifiers,
quoted patterns, and identifiers. -/
structure IsLexeme (x : Lexeme) : Prop where
  kind_mem : x.1 ∈ tokenKinds
  text_eq : ∀ text, (x.1, text) ∈ punctuation → x.2 = text
  modifier_eq : x.1 = "MODIFIER" → ∃ m : Modifier, modifierLexemes m = [x]
  literal_eq : x.1 = "QUOTEDLITERAL" → ∃ pattern, x.2 = "\"" ++ pattern ++ "\""

/-- What is left of tokens from an index on. -/
def lexemesFrom (tokens : Array Token) (i : ℕ) : List Lexeme :=
  (tokens.toList.drop i).map fun t => (t.kind, t.text)

/-- The kind of the first lexeme. -/
def headKind (lexemes : List Lexeme) : Option String := lexemes.head?.map (·.1)

@[simp] theorem headKind_cons (x : Lexeme) (rest : List Lexeme) :
    headKind (x :: rest) = some x.1 := rfl

section Lexemes

variable {tokens : Array Token} {i : ℕ} {x : Lexeme} {rest : List Lexeme}

theorem headKind_lexemesFrom : headKind (lexemesFrom tokens i) = (kindsOf tokens)[i]? := by
  simp [headKind, lexemesFrom, List.head?_drop, Function.comp_def]

theorem lexemesFrom_of_kind {kind : String} (h : (kindsOf tokens)[i]? = some kind) :
    lexemesFrom tokens i = (kind, (tokens.getD i default).text) :: lexemesFrom tokens (i + 1) := by
  obtain ⟨hi, hkind⟩ := Array.getElem?_eq_some_iff.1 h
  have hi' : i < tokens.size := by simpa using hi
  have hkind' : tokens[i].kind = kind := by simpa using hkind
  rw [lexemesFrom, List.drop_eq_getElem_cons (by simpa using hi'), List.map_cons]
  simp [lexemesFrom, hkind', Array.getD_eq_getD_getElem?, hi']

theorem of_lexemesFrom_cons (h : lexemesFrom tokens i = x :: rest) :
    (kindsOf tokens)[i]? = some x.1 ∧ (tokens.getD i default).kind = x.1 ∧
      (tokens.getD i default).text = x.2 ∧ lexemesFrom tokens (i + 1) = rest := by
  have hkind : (kindsOf tokens)[i]? = some x.1 := by
    rw [← headKind_lexemesFrom, h]
    rfl
  have heq := (lexemesFrom_of_kind hkind).symm.trans h
  obtain ⟨hx, hrest⟩ := List.cons.inj heq
  refine ⟨hkind, ?_, congrArg Prod.snd hx, hrest⟩
  obtain ⟨hi, hkind⟩ := Array.getElem?_eq_some_iff.1 hkind
  have hi' : i < tokens.size := by simpa using hi
  simpa [Array.getD_eq_getD_getElem?, hi'] using hkind

theorem lexemesFrom_eq_nil_iff : lexemesFrom tokens i = [] ↔ tokens.size ≤ i := by
  simp [lexemesFrom]

theorem of_mem_lexemesFrom {P : Lexeme → Prop} (h : ∀ x ∈ lexemesFrom tokens 0, P x)
    (hx : x ∈ lexemesFrom tokens i) : P x := by
  refine h x ?_
  rw [lexemesFrom, List.drop_zero]
  exact (((tokens.toList.drop_sublist i).map _).subset hx)

theorem isLexeme_of_mem (h : ∀ x ∈ lexemesFrom tokens 0, IsLexeme x)
    (hx : x ∈ lexemesFrom tokens i) : IsLexeme x :=
  of_mem_lexemesFrom h hx

end Lexemes

/-! ### Names without alternatives -/

section Terminals

variable {g : Grammar} {tokens : Array Token} {limit : ℕ∞} {i j : ℕ} {kind : String}
  {d : Derivation} (halts : g.alternativesOf kind = [])

include halts

/-- A kind of tokens takes the first lexeme, if it is of that kind. -/
theorem nameMatches_of_lexeme {text : String} {rest : List Lexeme}
    (h : lexemesFrom tokens i = (kind, text) :: rest) :
    g.NameMatches (kindsOf tokens) limit kind i (some (.leaf i, i + 1)) := by
  rw [Grammar.nameMatches_terminal halts, if_pos (of_lexemesFrom_cons h).1]

theorem not_nameMatches_of_headKind (h : headKind (lexemesFrom tokens i) ≠ some kind) :
    g.NameMatches (kindsOf tokens) limit kind i none := by
  rw [headKind_lexemesFrom] at h
  rw [Grammar.nameMatches_terminal halts, if_neg h]

theorem exists_text_of_nameMatches
    (h : g.NameMatches (kindsOf tokens) limit kind i (some (d, j))) :
    ∃ text, lexemesFrom tokens i = (kind, text) :: lexemesFrom tokens j := by
  rw [Grammar.nameMatches_terminal halts] at h
  split at h
  · next hk =>
    cases h
    exact ⟨_, lexemesFrom_of_kind hk⟩
  · cases h

end Terminals

/-! ### Names -/

section Names

variable {g : Grammar} (hg : grammar = .ok g) {tokens : Array Token} {limit : ℕ∞} {i j : ℕ}
  {kind : String} {d : Derivation}

theorem kind_ne (h : ∀ x ∈ lexemesFrom tokens 0, IsLexeme x) {name : String}
    (hname : name ∉ tokenKinds) (i : ℕ) : (kindsOf tokens)[i]? ≠ some name := by
  intro hkind
  have hmem : (name, (tokens.getD i default).text) ∈ lexemesFrom tokens i := by
    rw [lexemesFrom_of_kind hkind]
    exact List.mem_cons_self
  exact hname (isLexeme_of_mem h hmem).kind_mem

include hg

theorem nameMatches_kind (hkind : kind ∈ tokenKinds) {text : String} {rest : List Lexeme}
    (h : lexemesFrom tokens i = (kind, text) :: rest) :
    g.NameMatches (kindsOf tokens) limit kind i (some (.leaf i, i + 1)) :=
  nameMatches_of_lexeme (alternativesOf_tokenKind hg hkind) h

theorem not_nameMatches_kind (hkind : kind ∈ tokenKinds)
    (h : headKind (lexemesFrom tokens i) ≠ some kind) :
    g.NameMatches (kindsOf tokens) limit kind i none :=
  not_nameMatches_of_headKind (alternativesOf_tokenKind hg hkind) h

theorem of_nameMatches_kind (hkind : kind ∈ tokenKinds)
    (h : g.NameMatches (kindsOf tokens) limit kind i (some (d, j))) :
    ∃ text, lexemesFrom tokens i = (kind, text) :: lexemesFrom tokens j :=
  exists_text_of_nameMatches (alternativesOf_tokenKind hg hkind) h

end Names

end OrderedGrammar.Notation
