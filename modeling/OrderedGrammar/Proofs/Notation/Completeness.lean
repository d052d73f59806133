import OrderedGrammar.Proofs.Matching.Assembly
import OrderedGrammar.Proofs.Notation.Emission
import OrderedGrammar.Proofs.Notation.Lexemes

/-!
# The notation is matched

Whatever is in the notation is matched by the alternatives of its grammar within as many frames as
it counts, and the derivation has the tree that the visitor is written for (`Choice.complete`,
`Declaration.complete`).  A match is not tried in another way later on, so that each part is
followed by something that it could not have gone on with.
-/

namespace OrderedGrammar.Notation

/-! ### Steps -/

section Steps

variable {g : Grammar} {kinds : Array String} {limit : ℕ∞} {i j k n : ℕ} {d : Derivation}
  {s : Symbol} {symbols : List Symbol} {parts : List (Symbol × Derivation)}

theorem ruleMatches_matched {r : Rule} (h : g.SymbolsMatch kinds n r.symbols i (some (parts, j))) :
    g.RuleMatches kinds (n + 1 : ℕ) r i (some (.branch r parts, j)) :=
  Grammar.ruleMatches_natCast.2 ⟨n, rfl, _, h, rfl⟩

theorem ruleMatches_fail {r : Rule} (h : g.SymbolsMatch kinds n r.symbols i none) :
    g.RuleMatches kinds (n + 1 : ℕ) r i none :=
  Grammar.ruleMatches_natCast.2 ⟨n, rfl, _, h, rfl⟩

theorem symbolsMatch_required (ho : ¬ s.optional) (hr : ¬ s.repeatable)
    (h : g.NameMatches kinds limit s.name i (some (d, j)))
    (t : g.SymbolsMatch kinds limit symbols j (some (parts, k))) :
    g.SymbolsMatch kinds limit (s :: symbols) i (some ((s, d) :: parts, k)) :=
  .cons ((Grammar.symbolMatches_required ho hr).2 ⟨_, h, rfl⟩) t

theorem symbolsMatch_failHead (ho : ¬ s.optional) (h : g.NameMatches kinds limit s.name i none) :
    g.SymbolsMatch kinds limit (s :: symbols) i none :=
  .failHead (.fail ho h)

theorem symbolsMatch_failTail (ho : ¬ s.optional) (hr : ¬ s.repeatable)
    (h : g.NameMatches kinds limit s.name i (some (d, j)))
    (t : g.SymbolsMatch kinds limit symbols j none) :
    g.SymbolsMatch kinds limit (s :: symbols) i none :=
  .failTail ((Grammar.symbolMatches_required ho hr).2 ⟨_, h, rfl⟩) t

/-- A token that a symbol asks for is there. -/
theorem symbolsMatch_lexeme {tokens : Array Token} {text : String} {rest : List Lexeme}
    (halts : g.alternativesOf s.name = []) (ho : ¬ s.optional) (hr : ¬ s.repeatable)
    (h : lexemesFrom tokens i = (s.name, text) :: rest)
    (t : g.SymbolsMatch (kindsOf tokens) limit symbols (i + 1) (some (parts, j))) :
    g.SymbolsMatch (kindsOf tokens) limit (s :: symbols) i (some ((s, .leaf i) :: parts, j)) :=
  symbolsMatch_required ho hr (nameMatches_of_lexeme halts h) t

/-- An alternative that starts with a token of another kind fails. -/
theorem ruleMatches_fail_headKind {tokens : Array Token} {r : Rule}
    (hsymbols : r.symbols = s :: symbols) (halts : g.alternativesOf s.name = []) (ho : ¬ s.optional)
    (h : headKind (lexemesFrom tokens i) ≠ some s.name) :
    g.RuleMatches (kindsOf tokens) (n + 1 : ℕ) r i none := by
  refine ruleMatches_fail ?_
  rw [hsymbols]
  exact symbolsMatch_failHead ho (not_nameMatches_of_headKind halts h)

end Steps

/-! ### Labels and modifiers -/

section Complete

variable {g : Grammar} (hg : grammar = .ok g) {tokens : Array Token} {limit : ℕ∞} {i n : ℕ}
  {rest : List Lexeme}

include hg

theorem optional_taken {kind text : String} (hkind : kind ∈ tokenKinds) (label : String)
    (h : lexemesFrom tokens i = (kind, text) :: rest) :
    g.SymbolMatches (kindsOf tokens) limit ⟨kind, label, true, false, false⟩ i
      (some ([.leaf i], i + 1)) := by
  rw [Grammar.symbolMatches_optional_terminal (alternativesOf_tokenKind hg hkind) rfl (by simp)]
  rw [if_pos (of_lexemesFrom_cons h).1]

theorem optional_left {kind : String} (hkind : kind ∈ tokenKinds) (label : String)
    (h : headKind (lexemesFrom tokens i) ≠ some kind) :
    g.SymbolMatches (kindsOf tokens) limit ⟨kind, label, true, false, false⟩ i
      (some ([], i)) := by
  rw [headKind_lexemesFrom] at h
  rw [Grammar.symbolMatches_optional_terminal (alternativesOf_tokenKind hg hkind) rfl (by simp),
    if_neg h]

theorem symbolsMatch_token {s : Symbol} {symbols : List Symbol} {text : String} {j : ℕ}
    {parts : List (Symbol × Derivation)}
    (hs : ¬ s.optional ∧ ¬ s.repeatable ∧ s.name ∈ tokenKinds)
    (h : lexemesFrom tokens i = (s.name, text) :: rest)
    (t : g.SymbolsMatch (kindsOf tokens) limit symbols (i + 1) (some (parts, j))) :
    g.SymbolsMatch (kindsOf tokens) limit (s :: symbols) i (some ((s, .leaf i) :: parts, j)) :=
  symbolsMatch_lexeme (alternativesOf_tokenKind hg hs.2.2) hs.1 hs.2.1 h t

theorem modifier_complete (limit : ℕ∞) (m : Modifier)
    (h : lexemesFrom tokens i = modifierLexemes m ++ rest)
    (hrest : headKind rest ≠ some "MODIFIER") :
    ∃ (o : Option Derivation) (j : ℕ),
      g.SymbolMatches (kindsOf tokens) limit ⟨"MODIFIER", "MODIFIER", true, false, false⟩ i
        (some (o.toList, j)) ∧
      lexemesFrom tokens j = rest ∧ IsModifierField m (o.map (·.tree tokens)) := by
  rw [modifierLexemes] at h
  cases hm : m.char? with
  | none =>
    rw [hm] at h
    refine ⟨none, i, optional_left hg (by decide) _ (h ▸ hrest), h, ?_⟩
    rw [IsModifierField, hm]
    rfl
  | some c =>
    rw [hm] at h
    obtain ⟨-, -, htext, hnext⟩ := of_lexemesFrom_cons h
    refine ⟨some (.leaf i), i + 1, optional_taken hg (by decide) _ h, hnext, ?_⟩
    rw [IsModifierField, hm]
    exact ⟨_, rfl, htext⟩

/-- Whether what comes is not taken for a label. -/
structure NoLabel (rest : List Lexeme) : Prop where
  ne_nil : rest ≠ []
  not_colon : headKind rest ≠ some "COLON"
  not_named : headKind rest = some "IDENTIFIER" → headKind rest.tail ≠ some "COLON"

/-- What is not taken for a label does not start one. -/
theorem aliasRule_fails (h : lexemesFrom tokens i = rest) (hrest : NoLabel rest) :
    g.RuleMatches (kindsOf tokens) (n + 1 : ℕ) aliasRule i none := by
  refine ruleMatches_fail ?_
  by_cases hident : headKind rest = some "IDENTIFIER"
  · cases rest with
    | nil => exact absurd rfl hrest.ne_nil
    | cons x rest =>
      obtain ⟨kind, text⟩ := x
      obtain rfl : kind = "IDENTIFIER" := Option.some.inj hident
      obtain ⟨-, -, -, hnext⟩ := of_lexemesFrom_cons h
      -- the name is taken, and the colon behind it is missing
      refine .failTail (optional_taken hg (by decide) "" h) (symbolsMatch_failHead (by decide) ?_)
      exact not_nameMatches_kind hg (by decide) (hnext ▸ hrest.not_named rfl)
  · refine .failTail (optional_left hg (by decide) "" (h ▸ hident))
      (symbolsMatch_failHead (by decide) ?_)
    exact not_nameMatches_kind hg (by decide) (h ▸ hrest.not_colon)

theorem label_complete (hlex : ∀ x ∈ lexemesFrom tokens 0, IsLexeme x) (label : Label)
    (h : lexemesFrom tokens i = label.lexemes ++ rest) (hrest : NoLabel rest) :
    ∃ (o : Option Derivation) (j : ℕ),
      g.SymbolMatches (kindsOf tokens) (n + 1 : ℕ) ⟨"alias", "ALIAS", true, false, false⟩ i
        (some (o.toList, j)) ∧
      lexemesFrom tokens j = rest ∧ label.IsField (o.map (·.tree tokens)) := by
  have hi : i < (kindsOf tokens).size := by
    have hne : lexemesFrom tokens i ≠ [] := by
      rw [h]
      exact List.append_ne_nil_of_right_ne_nil _ hrest.ne_nil
    rw [Ne, lexemesFrom_eq_nil_iff] at hne
    rw [Array.size_map]
    omega
  have hname {o} : g.NameMatches (kindsOf tokens) (n + 1 : ℕ) "alias" i o ↔
      g.RuleMatches (kindsOf tokens) (n + 1 : ℕ) aliasRule i o :=
    Grammar.nameMatches_one (alternativesOf_eq hg "alias") (kind_ne hlex (by decide) i)
  cases label with
  | absent =>
    refine ⟨none, i, ?_, h, rfl⟩
    rw [Grammar.symbolMatches_optional rfl (by decide)]
    exact .inr ⟨hi, none, hname.2 (aliasRule_fails hg h hrest), rfl⟩
  | bare =>
    obtain ⟨-, hkind, -, hnext⟩ := of_lexemesFrom_cons h
    refine ⟨some (.branch aliasRule [(⟨"COLON", "", false, false, false⟩, .leaf i)]), i + 1, ?_,
      hnext, tokens.getD i default, rfl, hkind⟩
    rw [Grammar.symbolMatches_optional rfl (by decide)]
    refine .inr ⟨hi, some (_, _), hname.2 (ruleMatches_matched ?_), rfl⟩
    -- the name in front of the colon is optional, and there is none
    have hleft : headKind (lexemesFrom tokens i) ≠ some "IDENTIFIER" := by
      rw [h]
      exact fun heq => absurd (Option.some.inj heq) (by decide)
    exact .cons (optional_left hg (by decide) "" hleft) (symbolsMatch_token hg (by decide) h .nil)
  | named name =>
    obtain ⟨-, hkind, htext, hnext⟩ := of_lexemesFrom_cons h
    obtain ⟨-, hkind', -, hnext'⟩ := of_lexemesFrom_cons hnext
    refine ⟨some (.branch aliasRule [(⟨"IDENTIFIER", "", true, false, false⟩, .leaf i),
      (⟨"COLON", "", false, false, false⟩, .leaf (i + 1))]), i + 2, ?_, hnext',
      tokens.getD i default, tokens.getD (i + 1) default, rfl, hkind, htext, hkind'⟩
    rw [Grammar.symbolMatches_optional rfl (by decide)]
    refine .inr ⟨hi, some (_, _), hname.2 (ruleMatches_matched ?_), rfl⟩
    exact .cons (optional_taken hg (by decide) "" h) (symbolsMatch_token hg (by decide) hnext .nil)

end Complete

/-! ### Trees of parts -/

section Trees

variable {tokens : Array Token}

/-- The fields of a symbol's node. -/
def symbolFields (label : String) (alias? : Option Tree) (value : Tree) (modifier? : Option Tree) :
    Fields Tree :=
  alias?.toList.map ("ALIAS", ·) ++ (label, value) :: modifier?.toList.map ("MODIFIER", ·)

/-- The parts of a symbol, which are a label, what `s` stands for and a modifier. -/
def symbolParts (s : Symbol) (alias? : Option Derivation) (d : Derivation)
    (modifier? : Option Derivation) : List (Symbol × Derivation) :=
  alias?.toList.map (⟨"alias", "ALIAS", true, false, false⟩, ·) ++
    (s, d) :: (modifier?.toList.map (⟨"MODIFIER", "MODIFIER", true, false, false⟩, ·) ++ [])

theorem tree_nameRule (o o' : Option Derivation) (d : Derivation) :
    (Derivation.branch nameRule
      (symbolParts ⟨"IDENTIFIER", "IDENTIFIER", false, false, false⟩ o d o')).tree tokens =
      .node "symbol" (symbolFields "IDENTIFIER" (o.map (·.tree tokens)) (d.tree tokens)
        (o'.map (·.tree tokens))) := by
  cases o <;> cases o' <;> rfl

theorem tree_groupRule (o o' : Option Derivation) (d : Derivation) :
    (Derivation.branch groupRule
      (symbolParts ⟨"subrule", "SUBRULE", false, false, false⟩ o d o')).tree tokens =
      .node "symbol" (symbolFields "SUBRULE" (o.map (·.tree tokens)) (d.tree tokens)
        (o'.map (·.tree tokens))) := by
  cases o <;> cases o' <;> rfl

theorem lookup_symbolFields {label : String} (hlabel : label = "IDENTIFIER" ∨ label = "SUBRULE")
    (o o' : Option Tree) (t : Tree) :
    (symbolFields label o t o').lookup "ALIAS" = o ∧
      (symbolFields label o t o').lookup label = some t ∧
      (symbolFields label o t o').lookup "MODIFIER" = o' := by
  rcases hlabel with rfl | rfl <;> cases o <;> cases o' <;> exact ⟨rfl, rfl, rfl⟩

theorem lookup_identifier (o o' : Option Tree) (t : Tree) :
    (symbolFields "SUBRULE" o t o').lookup "IDENTIFIER" = none := by
  cases o <;> cases o' <;> rfl

theorem stored_list {s s' : Symbol} {d : Derivation} {ds : List Derivation} (hs : ¬ s.ignored)
    (hs' : ¬ s'.ignored) (hlabel : s'.label = s.label) :
    Derivation.stored tokens ((s, d) :: (ds.map (s', ·) ++ [])) =
      ((d :: ds).map (·.tree tokens)).map (s.label, ·) := by
  rw [Derivation.stored_cons, if_neg hs, List.append_nil, Derivation.stored_map, if_neg hs',
    hlabel, List.map_cons, List.map_cons, List.map_map]
  rfl

theorem flatMap_spliced {ts : List Tree} {nodes : List Node} (h : ts = nodes.map Node.toTree) :
    ts.flatMap Frame.spliced = ts := by
  rw [h, List.flatMap_map]
  exact List.map_eq_flatMap.symm

/-- The node of a first part and its repetitions. -/
theorem tree_list {r : Rule} {s s' : Symbol} {d : Derivation} {ds : List Derivation}
    (hs : ¬ s.ignored) (hs' : ¬ s'.ignored) (hlabel : s'.label = s.label) (hne : s.label ≠ "")
    (henum : r.enumerates s.label) {nodes : List Node}
    (hnodes : (d :: ds).map (·.tree tokens) = nodes.map Node.toTree) :
    (Derivation.branch r ((s, d) :: (ds.map (s', ·) ++ []))).tree tokens =
      .node r.name [(s.label, .list ((d :: ds).map (·.tree tokens)))] := by
  rw [Derivation.tree, stored_list hs hs' hlabel, Rule.assemble_map hne henum (by simp),
    flatMap_spliced hnodes]

/-- What stands for a first part and its repetitions without a label. -/
theorem tree_spliced {r : Rule} {s s' : Symbol} {d : Derivation} {ds : List Derivation}
    (hs : ¬ s.ignored) (hs' : ¬ s'.ignored) (hlabel : s'.label = s.label) (hempty : s.label = "")
    (henum : r.enumerates "") {nodes : List Node}
    (hnodes : (d :: ds).map (·.tree tokens) = nodes.map Node.toTree) :
    (Derivation.branch r ((s, d) :: (ds.map (s', ·) ++ []))).tree tokens =
      .list ((d :: ds).map (·.tree tokens)) := by
  rw [Derivation.tree, stored_list hs hs' hlabel, hempty, Rule.assemble_map_empty henum (by simp),
    flatMap_spliced hnodes]

end Trees

/-! ### Items, sequences and alternatives -/

/-- Whether lexemes do not start with one of the kinds. -/
def Stops (kinds : List String) (rest : List Lexeme) : Prop :=
  ∀ kind ∈ kinds, headKind rest ≠ some kind

theorem Stops.mono {kinds kinds' : List String} {rest : List Lexeme} (h : Stops kinds rest)
    (hsub : kinds' ⊆ kinds) : Stops kinds' rest := fun kind hkind => h kind (hsub hkind)

theorem stops_nil (kinds : List String) : Stops kinds [] := fun _ _ => by simp [headKind]

theorem stops_cons {kinds : List String} {x : Lexeme} (rest : List Lexeme) (h : x.1 ∉ kinds) :
    Stops kinds (x :: rest) := by
  intro kind hkind heq
  rw [headKind_cons] at heq
  exact h (Option.some.inj heq ▸ hkind)

theorem headKind_modifier {rest : List Lexeme} {m : Modifier} {kind : String}
    (hkind : kind ≠ "MODIFIER") (hrest : headKind rest ≠ some kind) :
    headKind (modifierLexemes m ++ rest) ≠ some kind := by
  rw [modifierLexemes]
  cases m.char? with
  | none => exact hrest
  | some c => exact fun h => hkind (Option.some.inj h).symm

theorem Item.frames_ne_zero (item : Item) : item.frames ≠ 0 := by
  cases item <;> simp [Item.frames]

theorem Series.frames_ne_zero (series : Series) : series.frames ≠ 0 := by
  cases series <;> simp [Series.frames]

/-- No alternatives start with a quoted text. -/
theorem Item.headKind_ne (item : Item) (rest : List Lexeme) :
    headKind (item.lexemes ++ rest) ≠ some "QUOTEDLITERAL" := by
  cases item with
  | name label _ _ => cases label <;> simp [Item.lexemes, Label.lexemes]
  | group label _ _ => cases label <;> simp [Item.lexemes, Label.lexemes]

theorem Series.headKind_ne (series : Series) (rest : List Lexeme) :
    headKind (series.lexemes ++ rest) ≠ some "QUOTEDLITERAL" := by
  cases series with
  | one item => exact item.headKind_ne rest
  | more item _ =>
    rw [Series.lexemes, List.append_assoc]
    exact item.headKind_ne _

theorem Choice.headKind_ne (body : Choice) (rest : List Lexeme) :
    headKind (body.lexemes ++ rest) ≠ some "QUOTEDLITERAL" := by
  cases body with
  | one series => exact series.headKind_ne rest
  | more series _ =>
    rw [Choice.lexemes, List.append_assoc]
    exact series.headKind_ne _

theorem symbolMatches_none {g : Grammar} {tokens : Array Token} {limit : ℕ∞}
    {s : Symbol} {j : ℕ} (ho : s.optional) (hr : s.repeatable)
    (h : g.NameMatches (kindsOf tokens) limit s.name j none) :
    g.SymbolMatches (kindsOf tokens) limit s j (some ([], j)) := by
  rw [Grammar.symbolMatches_zeroOrMore ho hr]
  by_cases hj : (kindsOf tokens).size ≤ j
  · exact .inl ⟨hj, rfl⟩
  · exact .inr ⟨by omega, [], j, .stop h, rfl⟩

theorem symbolMatches_rounds {g : Grammar} {tokens : Array Token} {limit : ℕ∞}
    {s : Symbol} {j k : ℕ} {ds : List Derivation}
    (ho : s.optional) (hr : s.repeatable) (hj : lexemesFrom tokens j ≠ [])
    (h : g.RoundsMatch (kindsOf tokens) limit s.name j ds k) :
    g.SymbolMatches (kindsOf tokens) limit s j (some (ds, k)) := by
  rw [Ne, lexemesFrom_eq_nil_iff] at hj
  rw [Grammar.symbolMatches_zeroOrMore ho hr]
  exact .inr ⟨by rw [Array.size_map]; omega, ds, k, h, rfl⟩

theorem ne_of_lexemesFrom {tokens : Array Token} {i j : ℕ} {x : Lexeme} {lexemes rest : List Lexeme}
    (h : lexemesFrom tokens i = x :: (lexemes ++ rest)) (hj : lexemesFrom tokens j = rest) :
    j ≠ i := by
  rintro rfl
  have hlength := congrArg List.length (hj.symm.trans h)
  simp only [List.length_cons, List.length_append] at hlength
  omega

section Complete

variable {g : Grammar} (hg : grammar = .ok g) {tokens : Array Token}
  (hlex : ∀ x ∈ lexemesFrom tokens 0, IsLexeme x)

include hg hlex

/-- A name whose only alternative starts with a token of another kind does not match. -/
theorem not_nameMatches_first {r : Rule} {name : String} {s : Symbol} {symbols : List Symbol}
    {i n : ℕ} (halts : g.alternativesOf name = [r]) (hname : name ∉ tokenKinds)
    (hsymbols : r.symbols = s :: symbols) (hs : ¬ s.optional) (hkind : s.name ∈ tokenKinds)
    (h : headKind (lexemesFrom tokens i) ≠ some s.name) :
    g.NameMatches (kindsOf tokens) (n + 1 : ℕ) name i none :=
  (Grammar.nameMatches_one halts (kind_ne hlex hname i)).2
    (ruleMatches_fail_headKind hsymbols (alternativesOf_tokenKind hg hkind) hs h)

/-- A name that stands for a separator and something behind it hands on the tree of the latter. -/
theorem nameMatches_tail {r : Rule} {name separator inner text : String} {i j n : ℕ}
    {rest : List Lexeme} {d : Derivation} (halts : g.alternativesOf name = [r])
    (hname : name ∉ tokenKinds) (hkind : separator ∈ tokenKinds)
    (hsymbols : r.symbols =
      [⟨separator, separator, false, false, true⟩, ⟨inner, "", false, false, false⟩])
    (henum : r.enumerates "" = false) (h : lexemesFrom tokens i = (separator, text) :: rest)
    (hinner : g.NameMatches (kindsOf tokens) n inner (i + 1) (some (d, j))) :
    ∃ d', g.NameMatches (kindsOf tokens) (n + 1 : ℕ) name i (some (d', j)) ∧
      d'.tree tokens = d.tree tokens := by
  have hparts : g.SymbolsMatch (kindsOf tokens) n
      [⟨separator, separator, false, false, true⟩, ⟨inner, "", false, false, false⟩] i
      (some ([(⟨separator, separator, false, false, true⟩, .leaf i),
        (⟨inner, "", false, false, false⟩, d)], j)) :=
    symbolsMatch_token hg ⟨by simp, by simp, hkind⟩ h
      (symbolsMatch_required (by simp) (by simp) hinner .nil)
  rw [← hsymbols] at hparts
  refine ⟨_, (Grammar.nameMatches_one halts (kind_ne hlex hname i)).2
    (ruleMatches_matched hparts), ?_⟩
  simp [Derivation.tree, Derivation.stored, Rule.assemble, Rule.fieldValue, henum,
    Rule.valuesUnder]

theorem Item.name_complete (label : Label) (name : String) (m : Modifier) {i : ℕ}
    {rest : List Lexeme}
    (h : lexemesFrom tokens i = (Item.name label name m).lexemes ++ rest)
    (hrest : Stops ["COLON", "MODIFIER"] rest) :
    ∃ d j, g.NameMatches (kindsOf tokens) (2 : ℕ) "symbol" i (some (d, j)) ∧
      lexemesFrom tokens j = rest ∧ (Item.name label name m).IsTree (d.tree tokens) := by
  rw [Item.lexemes, List.append_assoc, List.cons_append] at h
  have hclear : NoLabel (("IDENTIFIER", name) :: (modifierLexemes m ++ rest)) :=
    { ne_nil := by simp
      not_colon := by simp
      not_named := fun _ => headKind_modifier (by decide) (hrest _ (by simp)) }
  obtain ⟨o, j, halias, hj, hlabel⟩ := label_complete hg (n := 0) hlex label h hclear
  obtain ⟨-, -, htext, hnext⟩ := of_lexemesFrom_cons hj
  obtain ⟨o', k, hmodifier, hk, hfield⟩ := modifier_complete hg (1 : ℕ) m hnext
    (hrest _ (by simp))
  have hparts : g.SymbolsMatch (kindsOf tokens) (1 : ℕ) nameRule.symbols i
      (some (symbolParts ⟨"IDENTIFIER", "IDENTIFIER", false, false, false⟩ o (.leaf j) o', k)) :=
    .cons halias (symbolsMatch_token hg (by decide) hj (.cons hmodifier .nil))
  have hgroup : g.RuleMatches (kindsOf tokens) (2 : ℕ) groupRule i none :=
    ruleMatches_fail (.failTail halias (symbolsMatch_failHead (by decide)
      (not_nameMatches_first hg hlex (alternativesOf_eq hg "subrule") (by decide) rfl (by decide)
        (by decide) (hj ▸ by simp))))
  have hmatch := (Grammar.nameMatches_two (alternativesOf_eq hg "symbol")
    (kind_ne hlex (by decide) i)).2 (.inr ⟨hgroup, ruleMatches_matched hparts⟩)
  refine ⟨_, k, hmatch, hk, ?_⟩
  rw [tree_nameRule]
  obtain ⟨hl, hn, hm⟩ := lookup_symbolFields (.inl rfl) (o.map (·.tree tokens))
    (o'.map (·.tree tokens)) ((Derivation.leaf j).tree tokens)
  exact ⟨_, rfl, by rwa [hl], ⟨_, hn, htext⟩, by rwa [hm]⟩

/-- A sequence, given its first symbol and the others. -/
theorem sequence_match {i j k n : ℕ} {rest : List Lexeme} {d : Derivation} {ds : List Derivation}
    {series : Series} (hitem : g.NameMatches (kindsOf tokens) n "symbol" i (some (d, j)))
    (htail : g.SymbolMatches (kindsOf tokens) n ⟨"sequence_tail", "SYMBOL", true, true, false⟩ j
      (some (ds, k)))
    (hk : lexemesFrom tokens k = rest) (htrees : series.AreTrees ((d :: ds).map (·.tree tokens))) :
    ∃ d j, g.NameMatches (kindsOf tokens) (n + 1 : ℕ) "sequence" i (some (d, j)) ∧
      lexemesFrom tokens j = rest ∧
      ∃ items, d.tree tokens = sequenceNode items ∧ series.AreTrees items := by
  obtain ⟨nodes, hnodes⟩ := Series.exists_nodes htrees
  have hparts : g.SymbolsMatch (kindsOf tokens) n sequenceRule.symbols i
      (some ((⟨"symbol", "SYMBOL", false, false, false⟩, d) ::
        (ds.map (⟨"sequence_tail", "SYMBOL", true, true, false⟩, ·) ++ []), k)) :=
    symbolsMatch_required (by decide) (by decide) hitem (.cons htail .nil)
  refine ⟨_, k, (Grammar.nameMatches_one (alternativesOf_eq hg "sequence")
    (kind_ne hlex (by decide) i)).2 (ruleMatches_matched hparts), hk, _, ?_, htrees⟩
  exact tree_list (by decide) (by decide) rfl (by decide) (by decide) hnodes

/-- Alternatives, given the first of them and the others. -/
theorem alternatives_match {i j k n : ℕ} {rest : List Lexeme} {d : Derivation}
    {ds : List Derivation} {body : Choice}
    (hseries : g.NameMatches (kindsOf tokens) n "sequence" i (some (d, j)))
    (htail : g.SymbolMatches (kindsOf tokens) n
      ⟨"alternatives_tail", "ALTERNATE", true, true, false⟩ j (some (ds, k)))
    (hk : lexemesFrom tokens k = rest) (htrees : body.AreTrees ((d :: ds).map (·.tree tokens))) :
    ∃ d j, g.NameMatches (kindsOf tokens) (n + 1 : ℕ) "alternatives" i (some (d, j)) ∧
      lexemesFrom tokens j = rest ∧
      ∃ sequences, d.tree tokens = alternativesNode sequences ∧ body.AreTrees sequences := by
  obtain ⟨nodes, hnodes⟩ := Choice.exists_nodes htrees
  have hparts : g.SymbolsMatch (kindsOf tokens) n alternativesRule.symbols i
      (some ((⟨"sequence", "ALTERNATE", false, false, false⟩, d) ::
        (ds.map (⟨"alternatives_tail", "ALTERNATE", true, true, false⟩, ·) ++ []), k)) :=
    symbolsMatch_required (by decide) (by decide) hseries (.cons htail .nil)
  refine ⟨_, k, (Grammar.nameMatches_one (alternativesOf_eq hg "alternatives")
    (kind_ne hlex (by decide) i)).2 (ruleMatches_matched hparts), hk, _, ?_, htrees⟩
  exact tree_list (by decide) (by decide) rfl (by decide) (by decide) hnodes

mutual

theorem Item.complete : ∀ (item : Item) {i : ℕ} {rest : List Lexeme},
    lexemesFrom tokens i = item.lexemes ++ rest → Stops ["COLON", "MODIFIER"] rest →
    ∃ d j, g.NameMatches (kindsOf tokens) item.frames "symbol" i (some (d, j)) ∧
      lexemesFrom tokens j = rest ∧ item.IsTree (d.tree tokens)
  | .name label name m, _, _, h, hrest => Item.name_complete hg hlex label name m h hrest
  | .group label body m, i, rest, h, hrest => by
    simp only [Item.lexemes, List.append_assoc, List.cons_append] at h
    have hclear : NoLabel
        (("LPAREN", "(") :: (body.lexemes ++ ("RPAREN", ")") :: (modifierLexemes m ++ rest))) :=
      { ne_nil := by simp
        not_colon := by simp
        not_named := by simp }
    obtain ⟨o, j, halias, hj, hlabel⟩ := label_complete hg (n := body.frames) hlex label h hclear
    obtain ⟨-, -, -, hnext⟩ := of_lexemesFrom_cons hj
    obtain ⟨d, k, hbody, hk, sequences, htree, hsequences⟩ := Choice.complete body hnext
      (stops_cons _ (by decide))
    obtain ⟨-, -, -, hclose⟩ := of_lexemesFrom_cons hk
    have hsubrule := ruleMatches_matched (r := subruleRule)
      (symbolsMatch_token hg (by decide) hj
        (symbolsMatch_required (by decide) (by decide) hbody
          (symbolsMatch_token hg (by decide) hk .nil)))
    rw [← Grammar.nameMatches_one (alternativesOf_eq hg "subrule") (kind_ne hlex (by decide) j)]
      at hsubrule
    obtain ⟨o', l, hmodifier, hl, hfield⟩ := modifier_complete hg (body.frames + 1 : ℕ) m
      hclose (hrest _ (by simp))
    have hparts : g.SymbolsMatch (kindsOf tokens) (body.frames + 1 : ℕ) groupRule.symbols i
        (some (symbolParts ⟨"subrule", "SUBRULE", false, false, false⟩ o _ o', l)) :=
      .cons halias (symbolsMatch_required (by decide) (by decide) hsubrule (.cons hmodifier .nil))
    have hmatch := (Grammar.nameMatches_two (alternativesOf_eq hg "symbol")
      (kind_ne hlex (by decide) i)).2 (.inl ⟨ruleMatches_matched hparts, by simp⟩)
    refine ⟨_, l, hmatch, hl, ?_⟩
    rw [tree_groupRule]
    obtain ⟨hla, hls, hlm⟩ := lookup_symbolFields (.inr rfl) (o.map (·.tree tokens))
      (o'.map (·.tree tokens)) (d.tree tokens)
    exact ⟨_, rfl, by rwa [← hla] at hlabel, lookup_identifier _ _ _,
      ⟨sequences, by rw [← htree]; exact hls, hsequences⟩, by rwa [← hlm] at hfield⟩

theorem Series.complete : ∀ (series : Series) {i : ℕ} {rest : List Lexeme},
    lexemesFrom tokens i = series.lexemes ++ rest → Stops ["COMMA", "COLON", "MODIFIER"] rest →
    ∃ d j, g.NameMatches (kindsOf tokens) series.frames "sequence" i (some (d, j)) ∧
      lexemesFrom tokens j = rest ∧
      ∃ items, d.tree tokens = sequenceNode items ∧ series.AreTrees items
  | .one item, i, rest, h, hrest => by
    obtain ⟨d, j, hitem, hj, htree⟩ := Item.complete item h (hrest.mono (by simp))
    obtain ⟨n, hn⟩ := Nat.exists_eq_succ_of_ne_zero item.frames_ne_zero
    have hnone : g.NameMatches (kindsOf tokens) item.frames "sequence_tail" j none := by
      rw [hn]
      exact not_nameMatches_first hg hlex (alternativesOf_eq hg "sequence_tail") (by decide) rfl
        (by decide) (by decide) (hj ▸ hrest _ (by simp))
    exact sequence_match hg hlex hitem (symbolMatches_none rfl rfl hnone) hj ⟨_, rfl, htree⟩
  | .more item others, i, rest, h, hrest => by
    rw [Series.lexemes, List.append_assoc, List.cons_append] at h
    obtain ⟨d, j, hitem, hj, htree⟩ := Item.complete item h (stops_cons _ (by decide))
    obtain ⟨ds, k, htail, hk, htrees⟩ := Series.tail_complete others hj hrest
    have hitem := hitem.mono (Nat.cast_le.2 (le_max_left item.frames others.tailFrames))
    have htail := htail.mono (Nat.cast_le.2 (le_max_right item.frames others.tailFrames))
    exact sequence_match hg hlex hitem (symbolMatches_rounds rfl rfl (by simp [hj]) htail) hk
      ⟨_, _, rfl, htree, htrees⟩

theorem Series.tail_complete : ∀ (series : Series) {i : ℕ} {rest : List Lexeme},
    lexemesFrom tokens i = ("COMMA", ",") :: (series.lexemes ++ rest) →
    Stops ["COMMA", "COLON", "MODIFIER"] rest →
    ∃ ds j, g.RoundsMatch (kindsOf tokens) series.tailFrames "sequence_tail" i ds j ∧
      lexemesFrom tokens j = rest ∧ series.AreTrees (ds.map (·.tree tokens))
  | .one item, i, rest, h, hrest => by
    obtain ⟨-, -, -, hnext⟩ := of_lexemesFrom_cons h
    obtain ⟨d, j, hitem, hj, htree⟩ := Item.complete item hnext (hrest.mono (by simp))
    obtain ⟨d', hd', heq⟩ := nameMatches_tail hg hlex (alternativesOf_eq hg "sequence_tail")
      (by decide) (by decide) rfl (by decide) h hitem
    -- the rounds stop here, as no comma follows
    have hnone : g.NameMatches (kindsOf tokens) (item.frames + 1 : ℕ) "sequence_tail" j none :=
      not_nameMatches_first hg hlex (alternativesOf_eq hg "sequence_tail") (by decide) rfl
        (by decide) (by decide) (hj ▸ hrest _ (by simp))
    exact ⟨[d'], j, .more hd' (ne_of_lexemesFrom h hj) (.stop hnone), hj, _, rfl,
      by rwa [← heq] at htree⟩
  | .more item others, i, rest, h, hrest => by
    rw [Series.lexemes, List.append_assoc, List.cons_append] at h
    obtain ⟨-, -, -, hnext⟩ := of_lexemesFrom_cons h
    obtain ⟨d, j, hitem, hj, htree⟩ := Item.complete item hnext (stops_cons _ (by decide))
    obtain ⟨d', hd', heq⟩ := nameMatches_tail hg hlex (alternativesOf_eq hg "sequence_tail")
      (by decide) (by decide) rfl (by decide) h hitem
    obtain ⟨ds, k, htail, hk, htrees⟩ := Series.tail_complete others hj hrest
    have hd' := hd'.mono (Nat.cast_le.2 (le_max_left (item.frames + 1) others.tailFrames))
    have htail := htail.mono (Nat.cast_le.2 (le_max_right (item.frames + 1) others.tailFrames))
    exact ⟨d' :: ds, k, .more hd' (ne_of_lexemesFrom h hj) htail, hk, _, _, rfl,
      by rwa [← heq] at htree, htrees⟩

theorem Choice.complete : ∀ (body : Choice) {i : ℕ} {rest : List Lexeme},
    lexemesFrom tokens i = body.lexemes ++ rest → Stops ["OR", "COMMA", "COLON", "MODIFIER"] rest →
    ∃ d j, g.NameMatches (kindsOf tokens) body.frames "alternatives" i (some (d, j)) ∧
      lexemesFrom tokens j = rest ∧
      ∃ sequences, d.tree tokens = alternativesNode sequences ∧ body.AreTrees sequences
  | .one series, i, rest, h, hrest => by
    obtain ⟨d, j, hseries, hj, items, htree, hitems⟩ := Series.complete series h
      (hrest.mono (by simp))
    obtain ⟨n, hn⟩ := Nat.exists_eq_succ_of_ne_zero series.frames_ne_zero
    have hnone : g.NameMatches (kindsOf tokens) series.frames "alternatives_tail" j none := by
      rw [hn]
      exact not_nameMatches_first hg hlex (alternativesOf_eq hg "alternatives_tail") (by decide) rfl
        (by decide) (by decide) (hj ▸ hrest _ (by simp))
    exact alternatives_match hg hlex hseries (symbolMatches_none rfl rfl hnone) hj
      ⟨items, by simp [htree], hitems⟩
  | .more series others, i, rest, h, hrest => by
    rw [Choice.lexemes, List.append_assoc, List.cons_append] at h
    obtain ⟨d, j, hseries, hj, items, htree, hitems⟩ := Series.complete series h
      (stops_cons _ (by decide))
    obtain ⟨ds, k, htail, hk, htrees⟩ := Choice.tail_complete others hj hrest
    have hseries := hseries.mono (Nat.cast_le.2 (le_max_left series.frames others.tailFrames))
    have htail := htail.mono (Nat.cast_le.2 (le_max_right series.frames others.tailFrames))
    exact alternatives_match hg hlex hseries (symbolMatches_rounds rfl rfl (by simp [hj]) htail) hk
      ⟨items, _, by simp [htree], hitems, htrees⟩

theorem Choice.tail_complete : ∀ (body : Choice) {i : ℕ} {rest : List Lexeme},
    lexemesFrom tokens i = ("OR", "|") :: (body.lexemes ++ rest) →
    Stops ["OR", "COMMA", "COLON", "MODIFIER"] rest →
    ∃ ds j, g.RoundsMatch (kindsOf tokens) body.tailFrames "alternatives_tail" i ds j ∧
      lexemesFrom tokens j = rest ∧ body.AreTrees (ds.map (·.tree tokens))
  | .one series, i, rest, h, hrest => by
    obtain ⟨-, -, -, hnext⟩ := of_lexemesFrom_cons h
    obtain ⟨d, j, hseries, hj, items, htree, hitems⟩ := Series.complete series hnext
      (hrest.mono (by simp))
    obtain ⟨d', hd', heq⟩ := nameMatches_tail hg hlex (alternativesOf_eq hg "alternatives_tail")
      (by decide) (by decide) rfl (by decide) h hseries
    have hnone : g.NameMatches (kindsOf tokens) (series.frames + 1 : ℕ) "alternatives_tail" j
        none :=
      not_nameMatches_first hg hlex (alternativesOf_eq hg "alternatives_tail") (by decide) rfl
        (by decide) (by decide) (hj ▸ hrest _ (by simp))
    exact ⟨[d'], j, .more hd' (ne_of_lexemesFrom h hj) (.stop hnone), hj, items,
      by simp [heq, htree], hitems⟩
  | .more series others, i, rest, h, hrest => by
    rw [Choice.lexemes, List.append_assoc, List.cons_append] at h
    obtain ⟨-, -, -, hnext⟩ := of_lexemesFrom_cons h
    obtain ⟨d, j, hseries, hj, items, htree, hitems⟩ := Series.complete series hnext
      (stops_cons _ (by decide))
    obtain ⟨d', hd', heq⟩ := nameMatches_tail hg hlex (alternativesOf_eq hg "alternatives_tail")
      (by decide) (by decide) rfl (by decide) h hseries
    obtain ⟨ds, k, htail, hk, htrees⟩ := Choice.tail_complete others hj hrest
    have hd' := hd'.mono (Nat.cast_le.2 (le_max_left (series.frames + 1) others.tailFrames))
    have htail := htail.mono (Nat.cast_le.2 (le_max_right (series.frames + 1) others.tailFrames))
    exact ⟨d' :: ds, k, .more hd' (ne_of_lexemesFrom h hj) htail, hk, items, _,
      by simp [heq, htree], hitems, htrees⟩

end

/-! ### Rules -/

theorem Declaration.complete (declaration : Declaration) {i : ℕ} {rest : List Lexeme}
    (h : lexemesFrom tokens i = declaration.lexemes ++ rest) :
    ∃ d j, g.NameMatches (kindsOf tokens) declaration.frames "rule" i (some (d, j)) ∧
      lexemesFrom tokens j = rest ∧ declaration.IsTree (d.tree tokens) := by
  have hrule {n : ℕ} {o : Option (Derivation × ℕ)} :
      g.NameMatches (kindsOf tokens) n "rule" i o ↔
        (g.RuleMatches (kindsOf tokens) n patternRule i o ∧ o ≠ none) ∨
          (g.RuleMatches (kindsOf tokens) n patternRule i none ∧
            g.RuleMatches (kindsOf tokens) n choiceRule i o) :=
    Grammar.nameMatches_two (alternativesOf_eq hg "rule") (kind_ne hlex (by decide) i)
  cases declaration with
  | lexer name pattern =>
    obtain ⟨-, -, hname, h₁⟩ := of_lexemesFrom_cons h
    obtain ⟨-, -, -, h₂⟩ := of_lexemesFrom_cons h₁
    obtain ⟨-, -, hpattern, h₃⟩ := of_lexemesFrom_cons h₂
    obtain ⟨-, -, -, h₄⟩ := of_lexemesFrom_cons h₃
    have hmatch := ruleMatches_matched (n := 0) (r := patternRule)
      (symbolsMatch_token hg (by decide) h
        (symbolsMatch_token hg (by decide) h₁
          (symbolsMatch_token hg (by decide) h₂
            (symbolsMatch_token hg (by decide) h₃ .nil))))
    exact ⟨_, _, hrule.2 (.inl ⟨hmatch, by simp⟩), h₄, _, _, _, rfl, rfl, hname, rfl, hpattern⟩
  | parser name body =>
    simp only [Declaration.lexemes, List.cons_append, List.append_assoc, List.nil_append] at h
    obtain ⟨-, -, hname, h₁⟩ := of_lexemesFrom_cons h
    obtain ⟨-, -, -, h₂⟩ := of_lexemesFrom_cons h₁
    obtain ⟨d, j, hbody, hj, sequences, htree, hsequences⟩ :=
      Choice.complete hg hlex body h₂ (stops_cons _ (by decide))
    obtain ⟨-, -, -, h₄⟩ := of_lexemesFrom_cons hj
    have hmatch := ruleMatches_matched (r := choiceRule)
      (symbolsMatch_token hg (by decide) h
        (symbolsMatch_token hg (by decide) h₁
          (symbolsMatch_required (by decide) (by decide) hbody
            (symbolsMatch_token hg (by decide) hj .nil))))
    -- the alternative for patterns comes first and fails behind the sign
    have hfail := ruleMatches_fail (n := body.frames) (r := patternRule)
      (symbolsMatch_failTail (by decide) (by decide) (nameMatches_kind hg (by decide) h)
        (symbolsMatch_failTail (by decide) (by decide) (nameMatches_kind hg (by decide) h₁)
          (symbolsMatch_failHead (by decide)
            (not_nameMatches_kind hg (by decide) (by rw [h₂]; exact body.headKind_ne _)))))
    exact ⟨_, _, hrule.2 (.inr ⟨hfail, hmatch⟩), h₄, _, _, sequences, rfl, rfl, hname,
      by rw [← htree]; rfl, hsequences⟩

end Complete

end OrderedGrammar.Notation
