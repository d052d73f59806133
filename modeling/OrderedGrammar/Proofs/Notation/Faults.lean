import OrderedGrammar.Proofs.Notation.RoundTrip
import OrderedGrammar.Proofs.Notation.Writing
import OrderedGrammar.Proofs.Passes

/-!
# How compiling fails

Whatever the text, compiling it gives rules or a fault of the text that is reported as one, unless
the groups of the text nest too deep for the stack on which its tree is walked through
(`compile_reports`).  Nothing else can happen on the way: the tokens of the notation all have a
group, the matcher keeps its stack, and each tree that the notation's grammar gives has the fields
that the visitor asks for, in the shape that it asks for (`IsGrammarNode`).  The stack is not
guarded, though: a text whose matching stays well within its limit can use it up
(`nestedText_overflow`).

The reader of patterns is taken for what it promises: the one fault that it does not report as a
fault of a pattern, a number that is too large to count with, is left out (`IsCountable`).

## Main definitions

* `GrammarError.isReported` : the faults that are reported as faults of a grammar.
* `FailsWith` : how compiling a text fails.
* `IsSymbolNode`, `IsSequenceNode`, `IsAlternativesNode`, `IsRuleNode`, `IsGrammarNode` : the nodes
  off which everything can be read that the visitor reads.
-/

namespace OrderedGrammar

/-- Whether a fault is reported as one of the grammar.  That a rule is no lexer rule is asserted,
and a number that is too large to count with is an overflow. -/
def GrammarError.isReported : GrammarError → Bool
  | .notLexer _ => false
  | .uncountable _ => false
  | _ => true

/-- Whether a pattern does not ask for more repetitions than can be counted. -/
def IsCountable (ignoreCase : Bool) (pattern : String) : Prop :=
  ∀ refusal, Pattern.read ignoreCase (Lexicon.enclose pattern) = .error refusal →
    refusal.fault ≠ .countTooLarge

/-! ### Faults of rules -/

theorem Rule.isReported_of_ofSymbols {name : String} {kind : RuleKind} {symbols : List Symbol}
    {e : GrammarError} (h : Rule.ofSymbols name kind symbols = .error e) : e.isReported := by
  unfold Rule.ofSymbols at h
  split_ifs at h <;> cases h <;> rfl

theorem Lexicon.isReported_of_entry {ignoreCase : Bool} {rule : Rule} {pattern : String}
    (hpattern : rule.pattern? = some pattern) (hcount : IsCountable ignoreCase pattern)
    {e : GrammarError} (h : Lexicon.entry ignoreCase rule = .error e) : e.isReported := by
  rw [Lexicon.entry, hpattern] at h
  cases hread : Pattern.read ignoreCase (Lexicon.enclose pattern) with
  | ok p => simp only [hread] at h; cases h
  | error refusal =>
    simp only [hread, if_neg (hcount refusal hread)] at h
    cases h
    rfl

theorem Rule.exists_pattern {rule : Rule} (h : rule.kind = .lexer) :
    ∃ pattern, rule.pattern? = some pattern := by
  rw [Rule.pattern?, h]
  exact ⟨_, rfl⟩

/-- A grammar is refused with a report. -/
theorem Grammar.isReported_of_ofRules {rules : List Rule} {ignored : List String}
    {ignoreCase : Bool} (hcount : ∀ rule ∈ rules, ∀ pattern, rule.pattern? = some pattern →
      IsCountable ignoreCase pattern)
    {e : GrammarError} (h : Grammar.ofRules rules ignored ignoreCase = .error e) :
    e.isReported := by
  rw [Grammar.ofRules] at h
  split at h
  · cases h; rfl
  · split at h
    · cases h; rfl
    · split at h
      · cases h; rfl
      · rw [Lexicon.ofRules] at h
        cases hentries : (Grammar.lexerRulesOf rules).mapM (Lexicon.entry ignoreCase) with
        | ok entries => rw [hentries] at h; cases h
        | error e' =>
          rw [hentries] at h
          cases h
          obtain ⟨rule, hrule, hentry⟩ := exists_error_of_mapM hentries
          obtain ⟨hmem, hkind⟩ := List.mem_filter.1 hrule
          obtain ⟨pattern, hpattern⟩ := Rule.exists_pattern (of_decide_eq_true hkind)
          exact Lexicon.isReported_of_entry hpattern (hcount rule hmem pattern hpattern) hentry

namespace Notation

/-! ### What can be read off a tree -/

/-- Whether the label of a symbol can be read, if there is one. -/
def HasLabel (node : Node) : Prop :=
  node.has "ALIAS" → ∃ tokens, node.getTokens "ALIAS" = .ok tokens

/-- Whether the modifier of a symbol can be read, if there is one, and is one. -/
def HasModifier (node : Node) : Prop :=
  node.has "MODIFIER" → ∃ m : Modifier, node.getText "MODIFIER" = .ok m.text

mutual

/-- The node of a symbol: it has a name or else a group. -/
inductive IsSymbolNode : Node → Prop
  | name {node : Node} {name : String} : node.name = "symbol" → node.has "IDENTIFIER" →
      node.getText "IDENTIFIER" = .ok name → HasLabel node → HasModifier node → IsSymbolNode node
  | group {node body : Node} : node.name = "symbol" → ¬node.has "IDENTIFIER" →
      node.getNode "SUBRULE" = .ok body → IsAlternativesNode body → HasLabel node →
      HasModifier node → IsSymbolNode node

/-- The node of a sequence. -/
inductive IsSequenceNode : Node → Prop
  | mk {node : Node} {symbols : List Node} : node.name = "sequence" →
      node.getNodes "SYMBOL" = .ok symbols → (∀ s ∈ symbols, IsSymbolNode s) → IsSequenceNode node

/-- The node of alternatives. -/
inductive IsAlternativesNode : Node → Prop
  | mk {node : Node} {sequences : List Node} : node.name = "alternatives" →
      node.getNodes "ALTERNATE" = .ok sequences → (∀ s ∈ sequences, IsSequenceNode s) →
      IsAlternativesNode node

end

/-- The node of a rule: it has a name, and a pattern or alternatives. -/
inductive IsRuleNode (node : Node) : Prop
  | lexer {name : String} {t : Token} : node.name = "rule" → node.getText "RULE" = .ok name →
      node.get "EXPANSION" = .ok (.token t) → IsRuleNode node
  | parser {name : String} {body : Node} : node.name = "rule" → node.getText "RULE" = .ok name →
      node.get "EXPANSION" = .ok body.toTree → IsAlternativesNode body → IsRuleNode node

/-- The node of a grammar. -/
inductive IsGrammarNode (node : Node) : Prop
  | mk {rules : List Node} : node.name = "grammar" → node.getNodes "RULES" = .ok rules →
      (∀ r ∈ rules, IsRuleNode r) → IsGrammarNode node

section Trees

variable {node : Node}

theorem hasLabel_of_isField {l : Label} (h : l.IsField (node.fields.lookup "ALIAS")) :
    HasLabel node := by
  intro hhas
  cases l with
  | absent =>
    have hnone : node.fields.lookup "ALIAS" = none := h
    rw [has_eq, hnone] at hhas
    cases hhas
  -- a list is kept though the label is not enumerated: a value that is handed on is one
  | bare =>
    obtain ⟨colon, hfield, -⟩ := h
    exact ⟨[colon], getTokens_eq hfield⟩
  | named name =>
    obtain ⟨t, colon, hfield, -⟩ := h
    exact ⟨[t, colon], getTokens_eq hfield⟩

theorem hasModifier_of_isField {m : Modifier}
    (h : IsModifierField m (node.fields.lookup "MODIFIER")) : HasModifier node := by
  intro hhas
  rw [IsModifierField] at h
  cases hm : m.char? with
  | none =>
    rw [hm] at h
    have hnone : node.fields.lookup "MODIFIER" = none := h
    rw [has_eq, hnone] at hhas
    cases hhas
  | some c =>
    rw [hm] at h
    obtain ⟨t, hfield, htext⟩ := h
    refine ⟨m, ?_⟩
    rw [getText_eq hfield, htext, Modifier.text, hm]
    rfl

theorem isAlternativesNode_of_sequences {nodes : List Node}
    (h : ∀ s ∈ nodes, IsSequenceNode s) :
    IsAlternativesNode ⟨"alternatives", [("ALTERNATE", .list (nodes.map Node.toTree))]⟩ :=
  .mk rfl (getNodes_eq rfl) h

theorem isSequenceNode_of_symbols {items : List Tree} {nodes : List Node}
    (hnode : node.toTree = sequenceNode items) (hitems : items = nodes.map Node.toTree)
    (h : ∀ s ∈ nodes, IsSymbolNode s) : IsSequenceNode node := by
  subst hitems
  rw [toTree_eq_sequenceNode hnode]
  exact .mk rfl (getNodes_eq rfl) h

mutual

/-- The tree of an item is the node of a symbol. -/
theorem Item.isSymbolNode : ∀ (item : Item) {node : Node}, item.IsTree node.toTree →
    IsSymbolNode node
  | .name label name m, node, h => by
    obtain ⟨fields, hnode, hlabel, ⟨t, hname, -⟩, hmodifier⟩ := h
    obtain ⟨hkind, rfl⟩ := Tree.node.inj hnode
    have hhas : node.has "IDENTIFIER" := by rw [has_eq, hname]; rfl
    exact .name hkind hhas (getText_eq hname) (hasLabel_of_isField hlabel)
      (hasModifier_of_isField hmodifier)
  | .group label body m, node, h => by
    obtain ⟨fields, hnode, hlabel, hname, ⟨ts, hgroup, hbody⟩, hmodifier⟩ := h
    obtain ⟨hkind, rfl⟩ := Tree.node.inj hnode
    obtain ⟨nodes, rfl⟩ := Choice.exists_nodes hbody
    have hhas : ¬node.has "IDENTIFIER" := by rw [has_eq, hname]; simp
    have hget : node.getNode "SUBRULE" =
        .ok ⟨"alternatives", [("ALTERNATE", .list (nodes.map Node.toTree))]⟩ := by
      rw [Node.getNode, get_eq hgroup]
      rfl
    exact .group hkind hhas hget (isAlternativesNode_of_sequences (body.isSequenceNode hbody))
      (hasLabel_of_isField hlabel) (hasModifier_of_isField hmodifier)

theorem Series.isSymbolNode : ∀ (series : Series) {nodes : List Node},
    series.AreTrees (nodes.map Node.toTree) → ∀ s ∈ nodes, IsSymbolNode s
  | .one item, nodes, h => by
    obtain ⟨t, hts, ht⟩ := h
    obtain ⟨node, rfl, rfl⟩ := List.map_eq_singleton_iff.1 hts
    exact List.forall_mem_singleton.2 (item.isSymbolNode ht)
  | .more item rest, nodes, h => by
    obtain ⟨t, ts, hts, ht, hrest⟩ := h
    obtain ⟨node, nodes, rfl, rfl, rfl⟩ := List.map_eq_cons_iff.1 hts
    exact List.forall_mem_cons.2 ⟨item.isSymbolNode ht, rest.isSymbolNode hrest⟩

theorem Choice.isSequenceNode : ∀ (body : Choice) {nodes : List Node},
    body.AreTrees (nodes.map Node.toTree) → ∀ s ∈ nodes, IsSequenceNode s
  | .one series, nodes, h => by
    obtain ⟨items, hts, hitems⟩ := h
    obtain ⟨node, rfl, hnode⟩ := List.map_eq_singleton_iff.1 hts
    obtain ⟨inner, rfl⟩ := Series.exists_nodes hitems
    exact List.forall_mem_singleton.2
      (isSequenceNode_of_symbols hnode rfl (series.isSymbolNode hitems))
  | .more series rest, nodes, h => by
    obtain ⟨items, ts, hts, hitems, hrest⟩ := h
    obtain ⟨node, nodes, rfl, hnode, rfl⟩ := List.map_eq_cons_iff.1 hts
    obtain ⟨inner, rfl⟩ := Series.exists_nodes hitems
    exact List.forall_mem_cons.2
      ⟨isSequenceNode_of_symbols hnode rfl (series.isSymbolNode hitems), rest.isSequenceNode hrest⟩

end

theorem Declaration.isRuleNode {d : Declaration} (h : d.IsTree node.toTree) : IsRuleNode node := by
  have hname := Declaration.getText_eq h
  cases d with
  | lexer name pattern =>
    obtain ⟨fields, u, v, hnode, -, -, hexpansion, -⟩ := h
    obtain ⟨hkind, rfl⟩ := Tree.node.inj hnode
    exact .lexer hkind hname (get_eq hexpansion)
  | parser name body =>
    obtain ⟨fields, u, ts, hnode, -, -, hexpansion, hbody⟩ := h
    obtain ⟨hkind, rfl⟩ := Tree.node.inj hnode
    obtain ⟨nodes, rfl⟩ := Choice.exists_nodes hbody
    have hget : node.get "EXPANSION" = .ok (Node.toTree
        ⟨"alternatives", [("ALTERNATE", .list (nodes.map Node.toTree))]⟩) := get_eq hexpansion
    exact .parser hkind hname hget
      (isAlternativesNode_of_sequences (body.isSequenceNode hbody))

theorem isGrammarNode_of_trees {declarations : List Declaration} {ts : List Tree}
    (h : List.Forall₂ Declaration.IsTree declarations ts) :
    IsGrammarNode ⟨"grammar", [("RULES", .list ts)]⟩ := by
  obtain ⟨nodes, rfl⟩ := Declaration.exists_nodes h
  have hrules : ∀ node ∈ nodes, IsRuleNode node := by
    rw [List.forall₂_map_right_iff] at h
    induction h with
    | nil => simp
    | cons hd _ ih => exact List.forall_mem_cons.2 ⟨Declaration.isRuleNode hd, ih⟩
  exact .mk rfl (getNodes_eq rfl) hrules

end Trees

/-! ### Faults of texts -/

/-- The rules that declarations stand for are refused with a report. -/
theorem isReported_of_rulesOf {declarations : List Declaration} {e : GrammarError}
    (h : rulesOf declarations = .error e) : e.isReported := by
  obtain ⟨d, -, hd⟩ := exists_error_of_mapM h
  exact Rule.isReported_of_ofSymbols hd

/-- The visitor gives rules, a fault that is reported, or the overflow of a stack that is too
small. -/
theorem FlattensWithin.cases {room : Option ℕ} {declarations : List Declaration}
    {result : Except CompileError (List Rule)} (h : FlattensWithin room declarations result) :
    (∃ rules, result = .ok rules ∧ rulesOf declarations = .ok rules) ∨
      (∃ e, result = .error (.grammar e) ∧ e.isReported) ∨
      result = .error .overflow ∧ ∃ calls ∈ room, calls < callsOf declarations := by
  by_cases hroom : ∀ calls ∈ room, callsOf declarations ≤ calls
  · rw [h.eq_rulesOf hroom]
    cases hrules : rulesOf declarations with
    | ok rules => exact .inl ⟨rules, rfl, rfl⟩
    | error e => exact .inr (.inl ⟨e, rfl, isReported_of_rulesOf hrules⟩)
  · rcases h.fails hroom with hoverflow | ⟨e, he, hresult⟩
    · exact .inr (.inr ⟨hoverflow, by simpa using hroom⟩)
    · exact .inr (.inl ⟨e, hresult, isReported_of_rulesOf he⟩)

/-- What compiling a text fails with, on a stack with room for a number of calls: a fault that is
reported, or an overflow if walking through what the text writes takes more calls than that. -/
inductive FailsWith (room : Option ℕ) (text : String) : CompileError → Prop
  | reported {e : GrammarError} : e.isReported → FailsWith room text (.grammar e)
  | overflow {declarations : List Declaration} {calls : ℕ} : Writes text declarations →
      calls ∈ room → calls < callsOf declarations → FailsWith room text .overflow

section Texts

variable {g : Grammar} (hg : grammar = .ok g)

include hg

/-- The tree of tokens of the notation can be read, and the visitor gives rules or a report. -/
theorem isGrammarNode_of_parse {tokens : Array Token} {options : ParseOptions}
    (hlex : ∀ x ∈ lexemesFrom tokens 0, IsLexeme x) {n : Node}
    (hn : (g.parseTokens "grammar" tokens options).1 = .ok n) :
    IsGrammarNode n ∧ ((∃ rules, rulesOfTree none n = .ok rules) ∨
      ∃ e, rulesOfTree none n = .error (.grammar e) ∧ e.isReported) := by
  obtain ⟨declarations, hne, hlexemes, -⟩ := (parse_iff hg hlex).1 ⟨n, hn⟩
  obtain ⟨ts, rfl, htrees⟩ := tree_of_parse hg hlex hn hne hlexemes
  refine ⟨isGrammarNode_of_trees htrees, ?_⟩
  rcases (rulesOfTree_eq htrees none).cases with ⟨rules, hok, -⟩ | hreported | ⟨-, _, hcalls, -⟩
  · exact .inl ⟨rules, hok⟩
  · exact .inr hreported
  · cases hcalls

/-- The tokens of the notation all have a group, and none stands in a condition. -/
theorem exists_lexError_of_scan {text : String} {fault : ScanError}
    (h : g.lexicon.scan text = .error fault) : ∃ e, fault = .lex e := by
  have hgroups : ∀ e ∈ g.lexicon.entries, e.pattern.keeps 1 ∧ ¬e.pattern.keepsAside 1 := by
    rw [(entries_eq hg).1]
    decide
  rcases Lexicon.scan_error_cases h with hlex | ⟨e, he, hkeeps, -⟩ | rfl
  · exact hlex
  · rw [(hgroups e he).1] at hkeeps
    cases hkeeps
  · obtain ⟨e, he, haside⟩ := Lexicon.exists_keepsAside_of_endless h
    exact absurd haside (hgroups e he).2

theorem compileRulesWithin_of_scan_error {text : String} {fault : ScanError}
    (h : g.lexicon.scan text = .error fault) (room : Option ℕ) :
    compileRulesWithin room text = .error (syntaxError (.scan fault)) := by
  rw [compileRulesWithin, hg]
  simp [Grammar.tokenize, Except.mapError, bind, Except.bind, h]

theorem compileRulesWithin_of_scan_nil {text : String} (h : g.lexicon.scan text = .ok [])
    (room : Option ℕ) : compileRulesWithin room text = .error (.grammar .noRules) := by
  rw [compileRulesWithin, hg]
  simp [Grammar.tokenize, Except.mapError, bind, Except.bind, h, throw, throwThe,
    MonadExceptOf.throw]

/-- A text is compiled to what it would be on a stack without an end, or the stack overflows. -/
theorem compileRulesWithin_cases (text : String) (room : Option ℕ) :
    (∃ rules, compileRulesWithin room text = .ok rules ∧ rules ≠ []) ∨
      ∃ e, compileRulesWithin room text = .error e ∧ FailsWith room text e := by
  cases hscan : g.lexicon.scan text with
  | error fault =>
    obtain ⟨e, rfl⟩ := exists_lexError_of_scan hg hscan
    exact .inr ⟨_, compileRulesWithin_of_scan_error hg hscan room, .reported rfl⟩
  | ok tokens =>
    by_cases hne : tokens = []
    · subst hne
      exact .inr ⟨_, compileRulesWithin_of_scan_nil hg hscan room, .reported rfl⟩
    · -- from here on the text is parsed, and only a tree comes before the visitor
      have hcompile := compileRulesWithin_of_scan hg hscan hne room
      by_cases hparse : ∃ n, (g.parseTokens "grammar" tokens.toArray {}).1 = .ok n
      · obtain ⟨n, hn⟩ := hparse
        have hlex := isLexeme_of_scan hg hscan
        obtain ⟨declarations, hsome, hlexemes, -⟩ := (parse_iff hg hlex).1 ⟨n, hn⟩
        have hwrites : Writes text declarations := ⟨hsome, g, tokens, hg, hscan, hlexemes⟩
        have hrules : compileRulesWithin room text = rulesOfTree room n := by
          rw [hcompile, hn]
          rfl
        rw [hrules]
        rcases (flattensWithin_of_parse hg hlex hn hsome hlexemes room).cases with
          ⟨rules, hok, hof⟩ | ⟨e, herror, hreported⟩ | ⟨herror, calls, hcalls, hlt⟩
        · exact .inl ⟨rules, hok, ne_nil_of_rulesOf hsome hof⟩
        · exact .inr ⟨_, herror, .reported hreported⟩
        · exact .inr ⟨_, herror, .overflow hwrites hcalls hlt⟩
      · obtain ⟨t, ht⟩ := exists_malformed hg hparse
        exact .inr ⟨_, by rw [hcompile, ht]; rfl, .reported rfl⟩

end Texts
/-- **Compiling reports its faults.**  Whatever the text, it gives some rules or a fault that is
reported; so does compiling it to a grammar, if the reader of patterns refuses them as such.  The
stack alone is not guarded: it overflows, where it has no room for a walk through what the text
writes.  Off every tree that the notation's grammar gives for tokens of the notation, the visitor
reads what it asks for. -/
theorem compile_reports (room : Option ℕ) (text : String) (ignored : List String)
    (ignoreCase : Bool) :
    ((∃ rules, ((Source.ofText text ignored).rulesWithin room).1 = .ok rules ∧ rules ≠ []) ∨
      ∃ e, ((Source.ofText text ignored).rulesWithin room).1 = .error e ∧
        FailsWith room text e) ∧
    ((∀ rules, compileRulesWithin room text = .ok rules → ∀ rule ∈ rules, ∀ pattern,
        rule.pattern? = some pattern → IsCountable ignoreCase pattern) →
      (∃ g, compileWithin room text ignored ignoreCase = .ok g) ∨
        ∃ e, compileWithin room text ignored ignoreCase = .error e ∧ FailsWith room text e) ∧
    ∀ g (tokens : Array Token) options n, grammar = .ok g → (∀ t ∈ tokens, g.lexicon.Produces t) →
      (g.parseTokens "grammar" tokens options).1 = .ok n →
      IsGrammarNode n ∧ ((∃ rules, rulesOfTree none n = .ok rules) ∨
        ∃ e, rulesOfTree none n = .error (.grammar e) ∧ e.isReported) := by
  obtain ⟨g, hg⟩ := exists_grammar
  have hcases := compileRulesWithin_cases hg text room
  have hanswer : ((Source.ofText text ignored).rulesWithin room).1 = compileRulesWithin room text :=
    Source.answer_of_not_compiled room rfl
  refine ⟨by rwa [hanswer], fun hcount => ?_, fun g tokens options n hg hproduced hn => ?_⟩
  · rw [compileWithin]
    rcases hcases with ⟨rules, hrules, -⟩ | ⟨e, herror, hfails⟩
    · rw [hrules]
      cases hof : Grammar.ofRules rules ignored ignoreCase with
      | ok c => exact .inl ⟨c, by simp [bind, Except.bind, Except.mapError, hof]⟩
      | error e =>
        have hreported := Grammar.isReported_of_ofRules (hcount rules hrules) hof
        exact .inr ⟨_, by simp [bind, Except.bind, Except.mapError, hof], .reported hreported⟩
    · exact .inr ⟨e, by rw [herror]; rfl, hfails⟩
  · refine isGrammarNode_of_parse hg ?_ hn
    intro x hx
    obtain ⟨t, ht, rfl⟩ := List.mem_map.1 hx
    exact (isSpelled_of_produces hg (hproduced t (Array.mem_toList_iff.1 ht))).toIsLexeme

/-- The tree of `a = (b);` can be read. -/
theorem grouped_isGrammarNode : ∃ g n, grammar = .ok g ∧
    (g.parseTokens "grammar" groupedTokens {}).1 = .ok n ∧ IsGrammarNode n := by
  obtain ⟨g, hg⟩ := exists_grammar
  have hscan := scan_grouped hg
  have hproduced : ∀ t ∈ groupedTokens, g.lexicon.Produces t := fun t ht =>
    Lexicon.produces_of_mem_scan hscan t (Array.mem_toList_iff.2 ht)
  have hparse : ∃ n, (g.parseTokens "grammar" groupedTokens {}).1 = .ok n :=
    (parse_iff hg (isLexeme_of_scan hg hscan)).2 ⟨_, by simp, lexemesFrom_grouped, by decide⟩
  obtain ⟨n, hn⟩ := hparse
  obtain ⟨-, -, htrees⟩ := compile_reports (some 1000) "a = (b);" [] true
  exact ⟨g, n, hg, hn, (htrees g groupedTokens {} n hg hproduced hn).1⟩

/-- The text of a rule whose only symbol is inside of a number of groups. -/
def nestedText (n : ℕ) : String :=
  "a = " ++ String.ofList (List.replicate n '(') ++ "b" ++ String.ofList (List.replicate n ')') ++
    ";"

theorem reads_nestedChoice (n : ℕ) {rest : List Char}
    (hrest : ∀ y ∈ rest.head?, ¬nameTail.holds y) :
    ReadsAs (List.replicate n '(' ++ 'b' :: (List.replicate n ')' ++ rest))
      (nestedChoice n).lexemes rest := by
  have hopen (cs : List Char) : ReadsAs ('(' :: cs) [("LPAREN", "(")] cs :=
    reads_punctuation (x := ("LPAREN", "(")) (by decide) cs
  have hclose (cs : List Char) : ReadsAs (')' :: cs) [("RPAREN", ")")] cs :=
    reads_punctuation (x := ("RPAREN", ")")) (by decide) cs
  induction n generalizing rest with
  | zero =>
    have hname : IsIdentifier "b" := isIdentifier_iff.2 ⟨'b', [], rfl, by decide +kernel, by simp⟩
    exact reads_identifier hname hrest
  | succ n ih =>
    rw [List.replicate_succ, List.cons_append, List.replicate_succ', List.append_assoc,
      List.singleton_append]
    exact (hopen _).append ((ih (by simpa using not_holds_nameTail ')' (by decide))).append
      (hclose rest))

theorem writes_nestedText (n : ℕ) : Writes (nestedText n) [nestedDeclaration n] := by
  obtain ⟨g, hg⟩ := exists_grammar
  have hsemicolon : ∀ y ∈ [';'].head?, ¬nameTail.holds y := by
    simpa using not_holds_nameTail ';' (by decide)
  have hname : IsIdentifier "a" := isIdentifier_iff.2 ⟨'a', [], rfl, by decide +kernel, by simp⟩
  have hread : ReadsAs (nestedText n).toList (lexemesOf [nestedDeclaration n]) [] := by
    have htext : (nestedText n).toList = "a".toList ++ ' ' :: '=' :: ' ' ::
        (List.replicate n '(' ++ 'b' :: (List.replicate n ')' ++ [';'])) := by
      simp [nestedText]
    rw [htext, lexemesOf, List.flatMap_singleton]
    exact (reads_head hname _).append
      ((reads_nestedChoice n hsemicolon).append (reads_stop []))
  obtain ⟨tokens, hscan, hlexemes⟩ := exists_tokens_of_reads hg hread
  exact ⟨by simp, g, tokens, hg, hscan, hlexemes⟩

/-- A thousand calls are not enough for two hundred groups, though the text is one of the
notation. -/
theorem nestedText_overflow : (∃ rules, compileRules (nestedText 200) = .ok rules) ∧
    (∀ ignored, ((Source.ofText (nestedText 200) ignored).rulesWithin (some 1000)).1 =
      .error .overflow) ∧
    ∀ ignored ignoreCase,
      compileWithin (some 1000) (nestedText 200) ignored ignoreCase = .error .overflow := by
  have hframes : framesOf [nestedDeclaration 200] ≤ 1000 := by
    rw [framesOf_nested]
    decide
  obtain ⟨rules, hrules⟩ := exists_rulesOf_nested 200
  have hroom : ¬∀ calls ∈ some 1000, callsOf [nestedDeclaration 200] ≤ calls := by
    simp [callsOf_nested]
  have hoverflow : compileRulesWithin (some 1000) (nestedText 200) = .error .overflow := by
    rcases ((writes_nestedText 200).flattensWithin hframes (some 1000)).fails hroom with
      hoverflow | ⟨e, he, -⟩
    · exact hoverflow
    · exact absurd (hrules.symm.trans he) nofun
  refine ⟨⟨rules, (writes_nestedText 200).compileRules_eq_ok hframes hrules⟩, fun ignored => ?_,
    fun ignored ignoreCase => ?_⟩
  · have hanswer : ((Source.ofText (nestedText 200) ignored).rulesWithin (some 1000)).1 =
        compileRulesWithin (some 1000) (nestedText 200) :=
      Source.answer_of_not_compiled (some 1000) rfl
    rw [hanswer, hoverflow]
  · rw [compileWithin, hoverflow]
    rfl

end Notation

end OrderedGrammar
