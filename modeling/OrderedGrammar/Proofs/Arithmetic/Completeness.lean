import OrderedGrammar.Proofs.Arithmetic.Lexing

/-!
# Expressions are matched

A phrase that is followed by nothing that it could have gone on with is matched within as many
frames as it counts, with a tree that shows its structure (`Phrase.complete`).  This holds of both
grammars; only the trees of rows differ.

## Main definitions

* `IsTree` : the trees of phrases.
-/

namespace OrderedGrammar.Arithmetic

open Notation

/-! ### Trees -/

/-- The name of a category. -/
def Category.name : Category → String
  | .row l => l.name
  | .factor => "factor"
  | .primary => "primary"

theorem name_operand (l : Level) : l.operand.name = l.operandName := by
  cases l <;> rfl

/-- The node of a row. -/
def Dialect.rowNode (d : Dialect) (l : Level) (operands : List Node) : Node :=
  match d with
  | named => ⟨l.name, [(named.inner l,
      .node (named.inner l) [(l.label, .list (operands.map Node.toTree))])]⟩
  | grouped => ⟨l.name, [(l.label, .list (operands.map Node.toTree))]⟩

mutual

/-- Whether a node shows the structure of a phrase. -/
inductive IsTree (d : Dialect) : {c : Category} → Phrase c → Node → Prop
  | number {n : Numeral} {t : Token} : t.text = String.ofList n.digits →
      IsTree d (.number n) ⟨"primary", [("NUMBER_LITERAL", .token t)]⟩
  | group {body : Expression} {m : Node} : IsTree d body m →
      IsTree d (.group body) ⟨"primary", [("expression", m.toTree)]⟩
  | unsigned {operand : Phrase .primary} {m : Node} : IsTree d operand m →
      IsTree d (.factor none operand) ⟨"factor", [("primary", m.toTree)]⟩
  | signed {sign : Operator .sum} {operand : Phrase .primary} {t : Token} {m : Node} :
      IsTree d operand m → IsTree d (.factor (some sign) operand)
        ⟨"factor", [(sign.lexeme.1, .token t), ("primary", m.toTree)]⟩
  | row {l : Level} {first : Phrase l.operand} {rest : Rest l} {m : Node} {ms : List Node} :
      IsTree d first m → AreTails d rest ms → IsTree d (.row first rest) (d.rowNode l (m :: ms))

/-- Whether nodes show the operands of a row behind the first one. -/
inductive AreTails (d : Dialect) : {l : Level} → Rest l → List Node → Prop
  | nil {l : Level} : AreTails d (.nil : Rest l) []
  | cons {l : Level} {op : Operator l} {operand : Phrase l.operand} {rest : Rest l} {t : Token}
      {m : Node} {ms : List Node} : t.text = op.lexeme.2 → IsTree d operand m →
      AreTails d rest ms → AreTails d (.cons op operand rest)
        (⟨d.tail l, [("OP", .token t), (l.operandName, m.toTree)]⟩ :: ms)

end

/-! ### What phrases are followed by -/

/-- The kinds of tokens with which a phrase can go on. -/
def Category.going : Category → List String
  | .row .sum => ["MINUS_OP", "PLUS_OP", "DIV_OP", "MUL_OP"]
  | .row .product => ["DIV_OP", "MUL_OP"]
  | .factor | .primary => []

theorem Rest.stops {l : Level} {more : List Lexeme} (h : Stops (Category.row l).going more)
    (rest : Rest l) : Stops l.operand.going (rest.lexemes ++ more) := by
  cases rest with
  | nil => exact h.mono (by cases l <;> simp [Level.operand, Category.going])
  | cons op operand rest => exact stops_cons _ (by cases op <;> decide)

theorem Phrase.frames_pos {c : Category} (p : Phrase c) : 0 < p.frames := by
  cases p <;> simp [Phrase.frames]

/-! ### Names -/

section

variable {tokens : Array Token}

/-- The kinds of a text's tokens are those of the grammar. -/
def HasLexemes (tokens : Array Token) : Prop := ∀ x ∈ lexemesFrom tokens 0, IsLexeme x

theorem HasLexemes.kind_ne (hlex : HasLexemes tokens) {name : String} (hname : name ∉ tokenKinds)
    (i : ℕ) : (kindsOf tokens)[i]? ≠ some name := by
  intro hkind
  have hmem : (name, (tokens.getD i default).text) ∈ lexemesFrom tokens i := by
    rw [lexemesFrom_of_kind hkind]
    exact List.mem_cons_self
  exact hname (of_mem_lexemesFrom hlex hmem).kind_mem

theorem Category.name_notMem (c : Category) : c.name ∉ tokenKinds := by
  rcases c with (_ | _) | _ | _ <;> decide

theorem Dialect.inner_notMem (d : Dialect) (l : Level) : d.inner l ∉ tokenKinds := by
  cases d <;> cases l <;> decide

theorem Dialect.tail_notMem (d : Dialect) (l : Level) : d.tail l ∉ tokenKinds := by
  cases d <;> cases l <;> decide

theorem Dialect.alternativesOf_first {g : Grammar} (d : Dialect) (hg : d.grammar = .ok g)
    (l : Level) : ∃ rules, g.alternativesOf l.name = d.rowRule l :: rules := by
  rw [Dialect.alternativesOf_row hg]
  cases d <;> exact ⟨_, rfl⟩

theorem Operator.kind_mem {l : Level} (op : Operator l) : op.lexeme.1 ∈ tokenKinds := by
  cases op <;> decide

theorem Operator.eq_first_or_second {l : Level} (op : Operator l) :
    op = l.first ∨ op = l.second := by
  cases op <;> simp [Level.first, Level.second]

end

/-! ### Trees of alternatives -/

section

variable (d : Dialect) (tokens : Array Token)

theorem tree_tailRule {l : Level} (op : Operator l) (i : ℕ) (dv : Derivation) :
    (Derivation.branch (d.tailRule op) [(⟨op.lexeme.1, "OP", false, false, false⟩, .leaf i),
      (.ofName l.operandName, dv)]).tree tokens =
      .node (d.tail l)
        [("OP", .token (tokens.getD i default)), (l.operandName, dv.tree tokens)] := by
  cases d <;> cases op <;> rfl

theorem tree_rowRule (l : Level) (dv : Derivation) :
    (Derivation.branch (d.rowRule l)
      [(⟨d.inner l, d.shown l, false, false, false⟩, dv)]).tree tokens =
      .node l.name [(d.shown l, dv.tree tokens)] := by
  cases d <;> cases l <;> rfl

/-- The operands of a row, which are a node or handed on as they are. -/
theorem tree_innerRule (l : Level) {dv : Derivation} {ds : List Derivation} {ms : List Node}
    (htrees : (dv :: ds).map (·.tree tokens) = ms.map Node.toTree) :
    Tree.node l.name [(d.shown l, (Derivation.branch (d.innerRule l)
      ((⟨l.operandName, d.kept l, false, false, false⟩, dv) ::
        (ds.map (⟨d.tail l, d.kept l, true, true, false⟩, ·) ++ []))).tree tokens)] =
      (d.rowNode l ms).toTree := by
  cases d with
  | named =>
    rw [tree_list (by simp) (by simp) (by rfl) (by cases l <;> decide) (by cases l <;> decide)
      htrees, htrees]
    rfl
  | grouped =>
    rw [tree_spliced (by simp) (by simp) (by rfl) (by rfl) (by cases l <;> decide) htrees, htrees]
    rfl

end

/-! ### Completeness -/

section

variable {d : Dialect} {g : Grammar} (hg : d.grammar = .ok g) {tokens : Array Token}
  (hlex : HasLexemes tokens) {i j n : ℕ} {limit : ℕ∞}

include hg hlex

/-- An operand with an operator in front. -/
theorem tail_match {l : Level} (op : Operator l) {more : List Lexeme} {dv : Derivation}
    (h : lexemesFrom tokens i = op.lexeme :: more)
    (hoperand : g.NameMatches (kindsOf tokens) n l.operandName (i + 1) (some (dv, j))) :
    ∃ dv', g.NameMatches (kindsOf tokens) (n + 1 : ℕ) (d.tail l) i (some (dv', j)) ∧
      dv'.tree tokens = .node (d.tail l)
        [("OP", .token (tokens.getD i default)), (l.operandName, dv.tree tokens)] := by
  have hrule := ruleMatches_matched (r := d.tailRule op)
    (symbolsMatch_lexeme (Dialect.alternativesOf_tokenKind hg op.kind_mem) (by simp) (by simp) h
      (symbolsMatch_required (s := .ofName l.operandName) (by simp [Symbol.ofName])
        (by simp [Symbol.ofName]) hoperand .nil))
  refine ⟨_, (Grammar.nameMatches_two (Dialect.alternativesOf_tail hg l)
    (hlex.kind_ne (d.tail_notMem l) i)).2 ?_, tree_tailRule d tokens op i dv⟩
  rcases op.eq_first_or_second with rfl | rfl
  · exact .inl ⟨hrule, by simp⟩
  · -- the other operator is tried first and is not there
    refine .inr ⟨ruleMatches_fail_headKind rfl
      (Dialect.alternativesOf_tokenKind hg l.first.kind_mem) (by simp) ?_, hrule⟩
    rw [h, headKind_cons]
    cases l <;> decide

theorem not_tail {l : Level} (h : Stops (Category.row l).going (lexemesFrom tokens i)) :
    g.NameMatches (kindsOf tokens) (n + 1 : ℕ) (d.tail l) i none := by
  have hop (op : Operator l) :
      g.RuleMatches (kindsOf tokens) (n + 1 : ℕ) (d.tailRule op) i none :=
    ruleMatches_fail_headKind rfl (Dialect.alternativesOf_tokenKind hg op.kind_mem) (by simp)
      (h _ (by cases op <;> simp [Category.going, Operator.lexeme]))
  exact (Grammar.nameMatches_two (Dialect.alternativesOf_tail hg l)
    (hlex.kind_ne (d.tail_notMem l) i)).2 (.inr ⟨hop _, hop _⟩)

/-- A row, given its first operand and the others. -/
theorem row_match {l : Level} {dv : Derivation} {ds : List Derivation} {k : ℕ} {ms : List Node}
    (hfirst : g.NameMatches (kindsOf tokens) n l.operandName i (some (dv, j)))
    (hrest : g.SymbolMatches (kindsOf tokens) n ⟨d.tail l, d.kept l, true, true, false⟩ j
      (some (ds, k)))
    (htrees : (dv :: ds).map (·.tree tokens) = ms.map Node.toTree) :
    ∃ dv', g.RuleMatches (kindsOf tokens) (n + 2 : ℕ) (d.rowRule l) i (some (dv', k)) ∧
      dv'.tree tokens = (d.rowNode l ms).toTree := by
  have hinner := ruleMatches_matched (r := d.innerRule l)
    (symbolsMatch_required (s := ⟨l.operandName, d.kept l, false, false, false⟩) (by simp)
      (by simp) hfirst (.cons hrest .nil))
  rw [← Grammar.nameMatches_one (Dialect.alternativesOf_inner hg l)
    (hlex.kind_ne (d.inner_notMem l) i)] at hinner
  refine ⟨_, ruleMatches_matched (r := d.rowRule l)
    (symbolsMatch_required (s := ⟨d.inner l, d.shown l, false, false, false⟩) (by simp)
      (by simp) hinner .nil), ?_⟩
  rw [tree_rowRule, tree_innerRule d tokens l htrees]

/-- What does not start with a number or a parenthesis is no primary. -/
theorem not_primary (h : Stops ["NUMBER_LITERAL", "LPAREN"] (lexemesFrom tokens i)) :
    g.NameMatches (kindsOf tokens) (n + 1 : ℕ) "primary" i none := by
  refine (Grammar.nameMatches_two (Dialect.alternativesOf_primary hg)
    (hlex.kind_ne (by decide) i)).2 (.inr ⟨?_, ?_⟩)
  · exact ruleMatches_fail_headKind rfl (Dialect.alternativesOf_tokenKind hg (by decide))
      (by decide) (h _ (by decide))
  · exact ruleMatches_fail_headKind rfl (Dialect.alternativesOf_tokenKind hg (by decide))
      (by decide) (h _ (by decide))

theorem number_match {digits : String} {more : List Lexeme}
    (h : lexemesFrom tokens i = ("NUMBER_LITERAL", digits) :: more) :
    ∃ dv, g.NameMatches (kindsOf tokens) (1 : ℕ) "primary" i (some (dv, i + 1)) ∧
      dv.tree tokens = .node "primary" [("NUMBER_LITERAL", .token (tokens.getD i default))] :=
  ⟨.branch numberRule [(.ofName "NUMBER_LITERAL", .leaf i)],
    Grammar.nameMatches_of_first (Dialect.alternativesOf_primary hg) (hlex.kind_ne (by decide) i)
      (ruleMatches_matched (symbolsMatch_lexeme
        (Dialect.alternativesOf_tokenKind hg (by decide)) (by decide) (by decide) h .nil)), rfl⟩

/-- An expression in parentheses. -/
theorem group_match {dv : Derivation} {more more' : List Lexeme}
    (hopen : lexemesFrom tokens i = ("LPAREN", "(") :: more)
    (hbody : g.NameMatches (kindsOf tokens) n "expression" (i + 1) (some (dv, j)))
    (hclose : lexemesFrom tokens j = ("RPAREN", ")") :: more') :
    ∃ dv', g.NameMatches (kindsOf tokens) (n + 1 : ℕ) "primary" i (some (dv', j + 1)) ∧
      dv'.tree tokens = .node "primary" [("expression", dv.tree tokens)] := by
  have hnumber : g.RuleMatches (kindsOf tokens) (n + 1 : ℕ) numberRule i none :=
    ruleMatches_fail_headKind rfl (Dialect.alternativesOf_tokenKind hg (by decide)) (by decide)
      (by rw [hopen, headKind_cons]; decide)
  have hgroup := ruleMatches_matched (r := groupRule)
    (symbolsMatch_lexeme (Dialect.alternativesOf_tokenKind hg (by decide)) (by decide) (by decide)
      hopen (symbolsMatch_required (by decide) (by decide) hbody
        (symbolsMatch_lexeme (Dialect.alternativesOf_tokenKind hg (by decide)) (by decide)
          (by decide) hclose .nil)))
  exact ⟨_, (Grammar.nameMatches_two (Dialect.alternativesOf_primary hg)
    (hlex.kind_ne (by decide) i)).2 (.inr ⟨hnumber, hgroup⟩), rfl⟩

theorem unsigned_match {dv : Derivation}
    (h : g.NameMatches (kindsOf tokens) n "primary" i (some (dv, j))) :
    ∃ dv', g.NameMatches (kindsOf tokens) (n + 1 : ℕ) "factor" i (some (dv', j)) ∧
      dv'.tree tokens = .node "factor" [("primary", dv.tree tokens)] :=
  ⟨_, Grammar.nameMatches_of_first (Dialect.alternativesOf_factor hg) (hlex.kind_ne (by decide) i)
    (ruleMatches_matched (r := factorRule none)
      (symbolsMatch_required (by decide) (by decide) h .nil)), rfl⟩

/-- A primary with a sign in front. -/
theorem signed_match {sign : Operator .sum} {dv : Derivation} {more : List Lexeme} (hn : 0 < n)
    (h : lexemesFrom tokens i = sign.lexeme :: more)
    (hoperand : g.NameMatches (kindsOf tokens) n "primary" (i + 1) (some (dv, j))) :
    ∃ dv', g.NameMatches (kindsOf tokens) (n + 1 : ℕ) "factor" i (some (dv', j)) ∧
      dv'.tree tokens = .node "factor"
        [(sign.lexeme.1, .token (tokens.getD i default)), ("primary", dv.tree tokens)] := by
  have hsigned := ruleMatches_matched (r := factorRule (some sign))
    (symbolsMatch_lexeme (s := .ofName sign.lexeme.1)
      (Dialect.alternativesOf_tokenKind hg sign.kind_mem) (by simp [Symbol.ofName])
      (by simp [Symbol.ofName]) h
      (symbolsMatch_required (s := .ofName "primary") (by decide) (by decide) hoperand .nil))
  -- a primary without a sign is tried first and is not there
  obtain ⟨m, rfl⟩ := Nat.exists_eq_succ_of_ne_zero hn.ne'
  have hunsigned : g.RuleMatches (kindsOf tokens) (m + 1 + 1 : ℕ) (factorRule none) i none := by
    refine ruleMatches_fail (symbolsMatch_failHead (by decide) (not_primary hg hlex ?_))
    rw [h]
    exact stops_cons _ (by cases sign <;> decide)
  have hne := hlex.kind_ne (Category.name_notMem .factor) i
  have halts := Dialect.alternativesOf_factor hg
  cases sign with
  | plus =>
    exact ⟨_, .rule hne (halts.trans (List.singleton_append).symm) (by simpa using hunsigned)
      hsigned, rfl⟩
  | minus =>
    have hplus : g.RuleMatches (kindsOf tokens) (m + 1 + 1 : ℕ) (factorRule (some .plus)) i none :=
      ruleMatches_fail_headKind rfl (Dialect.alternativesOf_tokenKind hg (by decide)) (by decide)
        (by rw [h, headKind_cons]; decide)
    have hsplit : g.alternativesOf "factor" =
        [factorRule none, factorRule (some .plus)] ++ [factorRule (some .minus)] := halts
    exact ⟨_, .rule hne hsplit (by simpa using ⟨hunsigned, hplus⟩) hsigned, rfl⟩

/-- Rounds of a tail are what the symbol for it matches, also at the end of the tokens. -/
theorem symbolMatches_tail {l : Level} {ds : List Derivation} {k : ℕ}
    (h : g.RoundsMatch (kindsOf tokens) (n + 1 : ℕ) (d.tail l) i ds k) :
    g.SymbolMatches (kindsOf tokens) (n + 1 : ℕ) ⟨d.tail l, d.kept l, true, true, false⟩ i
      (some (ds, k)) := by
  by_cases hi : lexemesFrom tokens i = []
  · have hnone : g.NameMatches (kindsOf tokens) (n + 1 : ℕ) (d.tail l) i none :=
      not_tail hg hlex (hi ▸ stops_nil _)
    obtain ⟨rfl, rfl⟩ := h.unique (.stop hnone)
    exact symbolMatches_none rfl rfl hnone
  · exact symbolMatches_rounds rfl rfl hi h

/-- A row, given how its operands are matched. -/
theorem Phrase.row_match {l : Level} {first : Phrase l.operand} {rest : Rest l} {k : ℕ}
    {dv : Derivation} {ds : List Derivation} {m : Node} {ms : List Node}
    (hfirst : g.NameMatches (kindsOf tokens) first.frames l.operand.name i (some (dv, j)))
    (hrest : g.RoundsMatch (kindsOf tokens) (max first.frames rest.frames : ℕ) (d.tail l) j ds k)
    (htree : dv.tree tokens = m.toTree) (htrees : ds.map (·.tree tokens) = ms.map Node.toTree)
    (hm : IsTree d first m) (hms : AreTails d rest ms) :
    ∃ dv' m', g.RuleMatches (kindsOf tokens) (Phrase.row first rest).frames (d.rowRule l) i
        (some (dv', k)) ∧
      dv'.tree tokens = m'.toTree ∧ IsTree d (Phrase.row first rest) m' := by
  have hpos : 0 < max first.frames rest.frames := lt_max_of_lt_left first.frames_pos
  obtain ⟨n, hn⟩ := Nat.exists_eq_succ_of_ne_zero hpos.ne'
  have hfirst := hfirst.mono (Nat.cast_le.2 (le_max_left first.frames rest.frames))
  rw [Phrase.frames]
  rw [hn] at hfirst hrest ⊢
  rw [name_operand] at hfirst
  have hall : (dv :: ds).map (·.tree tokens) = (m :: ms).map Node.toTree := by
    rw [List.map_cons, htree, htrees, List.map_cons]
  obtain ⟨dv', hrow, hrowTree⟩ := Arithmetic.row_match hg hlex hfirst
    (symbolMatches_tail hg hlex hrest) hall
  exact ⟨dv', _, hrow, hrowTree, .row hm hms⟩

mutual

/-- A phrase that is followed by nothing that it could have gone on with is matched. -/
theorem Phrase.complete : ∀ {c : Category} (p : Phrase c) {i : ℕ} {more : List Lexeme},
    lexemesFrom tokens i = p.lexemes ++ more → Stops c.going more →
    ∃ dv j m, g.NameMatches (kindsOf tokens) p.frames c.name i (some (dv, j)) ∧
      lexemesFrom tokens j = more ∧ dv.tree tokens = m.toTree ∧ IsTree d p m
  | _, .number n, i, more, h, _ => by
    obtain ⟨-, -, htext, hnext⟩ := of_lexemesFrom_cons h
    obtain ⟨dv, hmatch, htree⟩ := number_match hg hlex h
    exact ⟨dv, i + 1, ⟨"primary", _⟩, hmatch, hnext, htree, .number htext⟩
  | _, .group body, i, more, h, _ => by
    rw [Phrase.lexemes, List.cons_append, List.append_assoc] at h
    obtain ⟨-, -, -, hnext⟩ := of_lexemesFrom_cons h
    obtain ⟨dv, j, m, hbody, hj, htree, hm⟩ := Phrase.complete body hnext
      (stops_cons _ (by decide))
    obtain ⟨-, -, -, hclose⟩ := of_lexemesFrom_cons hj
    obtain ⟨dv', hmatch, htree'⟩ := group_match hg hlex h hbody hj
    exact ⟨dv', j + 1, ⟨"primary", _⟩, hmatch, hclose, htree'.trans (by rw [htree]; rfl),
      .group hm⟩
  | _, .factor none operand, i, more, h, hmore => by
    obtain ⟨dv, j, m, hoperand, hj, htree, hm⟩ := Phrase.complete operand h hmore
    obtain ⟨dv', hmatch, htree'⟩ := unsigned_match hg hlex hoperand
    exact ⟨dv', j, ⟨"factor", _⟩, hmatch, hj, htree'.trans (by rw [htree]; rfl), .unsigned hm⟩
  | _, .factor (some sign) operand, i, more, h, hmore => by
    obtain ⟨-, -, -, hnext⟩ := of_lexemesFrom_cons h
    obtain ⟨dv, j, m, hoperand, hj, htree, hm⟩ := Phrase.complete operand hnext hmore
    obtain ⟨dv', hmatch, htree'⟩ := signed_match hg hlex operand.frames_pos h hoperand
    exact ⟨dv', j, ⟨"factor", _⟩, hmatch, hj, htree'.trans (by rw [htree]; rfl), .signed hm⟩
  | .row l, .row first rest, i, more, h, hmore => by
    rw [Phrase.lexemes, List.append_assoc] at h
    -- what follows the first operand is an operator of this row, or what follows the row
    obtain ⟨dv, j, m, hfirst, hj, htree, hm⟩ := Phrase.complete first h (rest.stops hmore)
    obtain ⟨ds, k, ms, hrest, hk, htrees, hms⟩ := Rest.complete rest
      (le_max_right first.frames rest.frames) (lt_max_of_lt_left first.frames_pos) hj hmore
    obtain ⟨dv', m', hrow, htree', hm'⟩ := Phrase.row_match hg hlex hfirst hrest htree htrees hm hms
    obtain ⟨rules, halts⟩ := d.alternativesOf_first hg l
    exact ⟨dv', k, m', Grammar.nameMatches_of_first halts
      (hlex.kind_ne (Category.name_notMem (.row l)) i) hrow, hk, htree', hm'⟩

/-- So are operands with operators in front. -/
theorem Rest.complete : ∀ {l : Level} (rest : Rest l) {i n : ℕ} {more : List Lexeme},
    rest.frames ≤ n → 0 < n → lexemesFrom tokens i = rest.lexemes ++ more →
    Stops (Category.row l).going more →
    ∃ ds j ms, g.RoundsMatch (kindsOf tokens) n (d.tail l) i ds j ∧
      lexemesFrom tokens j = more ∧ ds.map (·.tree tokens) = ms.map Node.toTree ∧
      AreTails d rest ms
  | l, .nil, i, n + 1, more, _, _, h, hmore => by
    exact ⟨[], i, [], .stop (not_tail hg hlex (h ▸ hmore)), h, rfl, .nil⟩
  | l, .cons op operand rest, i, n, more, hn, hpos, h, hmore => by
    rw [Rest.lexemes, List.cons_append, List.append_assoc] at h
    obtain ⟨hoperand, hrest⟩ := max_le_iff.1 hn
    obtain ⟨-, -, htext, hnext⟩ := of_lexemesFrom_cons h
    obtain ⟨dv, j, m, hmatch, hj, htree, hm⟩ := Phrase.complete operand hnext (rest.stops hmore)
    rw [name_operand] at hmatch
    obtain ⟨dv', htail, htree'⟩ := tail_match hg hlex op h hmatch
    obtain ⟨ds, k, ms, hrounds, hk, htrees, hms⟩ := Rest.complete rest hrest hpos hj hmore
    refine ⟨dv' :: ds, k, _ :: ms, .more (htail.mono (Nat.cast_le.2 hoperand))
      (ne_of_lexemesFrom h hj) hrounds, hk, ?_, .cons htext hm hms⟩
    rw [List.map_cons, List.map_cons, htree', htree, htrees]
    rfl

end

end

end OrderedGrammar.Arithmetic
