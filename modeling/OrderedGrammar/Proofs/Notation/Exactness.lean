import OrderedGrammar.Proofs.Construction
import OrderedGrammar.Proofs.Matching.Acceptance
import OrderedGrammar.Proofs.Notation.Completeness
import OrderedGrammar.Proofs.Notation.Soundness
import OrderedGrammar.Proofs.Notation.Tokens

/-!
# The compiler is exact

The tokens that the notation's grammar accepts are those that write rules of the notation, as long
as these do not nest too deep, and the rules that come out are those that the notation's abstract
syntax stands for.
-/

namespace OrderedGrammar.Notation

section Parse

variable {g : Grammar} (hg : grammar = .ok g) {tokens : Array Token} {options : ParseOptions}

include hg

/-- A parse that succeeds does so by a derivation from the only alternative of the root. -/
theorem parseTokens_grammar_iff {n : Node} :
    (g.parseTokens "grammar" tokens options).1 = .ok n ↔
      ∃ d, g.RuleMatches (kindsOf tokens) options.budget grammarRule 0 (some (d, tokens.size)) ∧
        n = Grammar.rootNode "grammar" (d.tree tokens) := by
  have halts : g.alternativesOf "grammar" = [grammarRule] := alternativesOf_eq hg "grammar"
  have hsize : (kindsOf tokens).size = tokens.size := Array.size_map
  rw [Grammar.parseTokens_eq_ok_iff (by simp [halts]), halts, ← hsize]
  constructor
  · rintro ⟨d, hd, rfl⟩
    cases hd with
    | here hd => exact ⟨d, hd, rfl⟩
    | later _ _ hd => cases hd
  · rintro ⟨d, hd, rfl⟩
    exact ⟨d, .here hd, rfl⟩

variable (hlex : ∀ x ∈ lexemesFrom tokens 0, IsLexeme x)

include hlex

theorem not_nameMatches_rule {i n : ℕ} (h : headKind (lexemesFrom tokens i) ≠ some "IDENTIFIER") :
    g.NameMatches (kindsOf tokens) (n + 1 : ℕ) "rule" i none := by
  have hfirst : g.NameMatches (kindsOf tokens) n "IDENTIFIER" i none :=
    not_nameMatches_kind hg (by decide) h
  exact (Grammar.nameMatches_two (alternativesOf_eq hg "rule") (kind_ne hlex (by decide) i)).2
    (.inr ⟨ruleMatches_fail (symbolsMatch_failHead (by decide) hfirst),
      ruleMatches_fail (symbolsMatch_failHead (by decide) hfirst)⟩)

theorem rounds_complete {n : ℕ} : ∀ {declarations : List Declaration} {i : ℕ},
    lexemesFrom tokens i = lexemesOf declarations →
    (∀ declaration ∈ declarations, declaration.frames ≤ n + 1) →
    ∃ ds j, g.RoundsMatch (kindsOf tokens) (n + 1 : ℕ) "rule" i ds j ∧
      lexemesFrom tokens j = [] ∧
      List.Forall₂ Declaration.IsTree declarations (ds.map (·.tree tokens))
  | [], i, h, _ =>
    ⟨[], i, .stop (not_nameMatches_rule hg hlex (by rw [h]; simp [lexemesOf, headKind])), h, .nil⟩
  | declaration :: declarations, i, h, hframes => by
    obtain ⟨hfirst, hframes⟩ := List.forall_mem_cons.1 hframes
    rw [lexemesOf, List.flatMap_cons] at h
    obtain ⟨d, j, hd, hj, htree⟩ := Declaration.complete hg hlex declaration h
    obtain ⟨ds, k, hds, hk, htrees⟩ := rounds_complete hj hframes
    refine ⟨d :: ds, k, .more (hd.mono (Nat.cast_le.2 hfirst)) ?_ hds, hk, .cons htree htrees⟩
    obtain ⟨name, lexemes, hx⟩ := declaration.exists_lexemes
    rw [hx, List.cons_append] at h
    exact ne_of_lexemesFrom h hj

theorem grammar_complete {declarations : List Declaration} (hne : declarations ≠ [])
    (h : lexemesFrom tokens 0 = lexemesOf declarations) :
    ∃ d ts, g.RuleMatches (kindsOf tokens) (framesOf declarations) grammarRule 0
        (some (d, tokens.size)) ∧
      d.tree tokens = .node "grammar" [("RULES", .list ts)] ∧
      List.Forall₂ Declaration.IsTree declarations ts := by
  obtain ⟨m, hm⟩ : ∃ m, framesOf declarations = m + 1 := ⟨_, rfl⟩
  obtain ⟨hone, hframes⟩ := framesOf_le_iff.1 hm.le
  obtain ⟨n, rfl⟩ := Nat.exists_eq_succ_of_ne_zero (Nat.one_le_iff_ne_zero.1 hone)
  obtain ⟨ds, j, hrounds, hj, htrees⟩ := rounds_complete hg hlex h hframes
  have hds : ds ≠ [] := by
    rintro rfl
    cases htrees
    exact hne rfl
  have hparts : g.SymbolsMatch (kindsOf tokens) (n + 1 : ℕ) grammarRule.symbols 0
      (some (ds.map (⟨"rule", "RULES", false, true, false⟩, ·) ++ [], j)) :=
    .cons ((Grammar.symbolMatches_oneOrMore (by decide) rfl).2 ⟨hds, hrounds⟩) .nil
  have hmatch := ruleMatches_matched (r := grammarRule) hparts
  obtain rfl : j = tokens.size := by
    obtain ⟨-, hle, -⟩ := hmatch.spans _ rfl
    have hge := lexemesFrom_eq_nil_iff.1 hj
    simp only [Array.size_map] at hle
    omega
  obtain ⟨nodes, hnodes⟩ := Declaration.exists_nodes htrees
  refine ⟨_, ds.map (·.tree tokens), hm ▸ hmatch, ?_, htrees⟩
  cases ds with
  | nil => exact absurd rfl hds
  | cons d ds => exact tree_list (by decide) (by decide) rfl (by decide) (by decide) hnodes

/-- The notation's grammar accepts just the notation, within the frames that it counts. -/
theorem parse_iff :
    (∃ n, (g.parseTokens "grammar" tokens options).1 = .ok n) ↔
      ∃ declarations, declarations ≠ [] ∧ lexemesFrom tokens 0 = lexemesOf declarations ∧
        framesOf declarations ≤ options.budget := by
  constructor
  · rintro ⟨n, hn⟩
    obtain ⟨d, hmatch, -⟩ := (parseTokens_grammar_iff hg).1 hn
    exact grammar_sound hg hlex hmatch
  · rintro ⟨declarations, hne, hlexemes, hframes⟩
    obtain ⟨d, ts, hmatch, -, -⟩ := grammar_complete hg hlex hne hlexemes
    exact ⟨_, (parseTokens_grammar_iff hg).2 ⟨d, hmatch.mono (Nat.cast_le.2 hframes), rfl⟩⟩

/-- The tree that comes out is the one of the declarations. -/
theorem tree_of_parse {n : Node} (hn : (g.parseTokens "grammar" tokens options).1 = .ok n)
    {declarations : List Declaration} (hne : declarations ≠ [])
    (hlexemes : lexemesFrom tokens 0 = lexemesOf declarations) :
    ∃ ts, n = ⟨"grammar", [("RULES", .list ts)]⟩ ∧
      List.Forall₂ Declaration.IsTree declarations ts := by
  obtain ⟨d, hmatch, rfl⟩ := (parseTokens_grammar_iff hg).1 hn
  obtain ⟨d', ts, hmatch', htree, htrees⟩ := grammar_complete hg hlex hne hlexemes
  -- there is one match only, whatever the bound
  cases hmatch.unique hmatch'
  rw [htree]
  exact ⟨ts, rfl, htrees⟩

/-- The tree that comes out writes the rules that the notation stands for. -/
theorem flattensWithin_of_parse {n : Node}
    (hn : (g.parseTokens "grammar" tokens options).1 = .ok n) {declarations : List Declaration}
    (hne : declarations ≠ []) (hlexemes : lexemesFrom tokens 0 = lexemesOf declarations)
    (room : Option ℕ) : FlattensWithin room declarations (rulesOfTree room n) := by
  obtain ⟨ts, rfl, htrees⟩ := tree_of_parse hg hlex hn hne hlexemes
  exact rulesOfTree_eq htrees room

theorem rulesOfTree_of_parse {n : Node} (hn : (g.parseTokens "grammar" tokens options).1 = .ok n)
    {declarations : List Declaration} (hne : declarations ≠ [])
    (hlexemes : lexemesFrom tokens 0 = lexemesOf declarations) :
    rulesOfTree none n = (rulesOf declarations).mapError .grammar :=
  (flattensWithin_of_parse hg hlex hn hne hlexemes none).eq_rulesOf nofun

end Parse

/-! ### Groups inside of groups -/

/-- The name `b` inside of a number of groups. -/
def nestedChoice : ℕ → Choice
  | 0 => .one (.one (.name .absent "b" .required))
  | n + 1 => .one (.one (.group .absent (nestedChoice n) .required))

/-- A rule whose only symbol is inside of a number of groups, as `a = ((b));` for two of them. -/
def nestedDeclaration (n : ℕ) : Declaration := .parser "a" (nestedChoice n)

/-- Its tokens, without their places. -/
def nestedTokens (n : ℕ) : List Token :=
  (lexemesOf [nestedDeclaration n]).map fun x => ⟨x.1, x.2, 0⟩

theorem lexemesFrom_nested (n : ℕ) :
    lexemesFrom (nestedTokens n).toArray 0 = lexemesOf [nestedDeclaration n] := by
  simp [lexemesFrom, nestedTokens, Function.comp_def]

theorem frames_nestedChoice (n : ℕ) : (nestedChoice n).frames = 4 * n + 4 := by
  induction n with
  | zero => rfl
  | succ n ih =>
    rw [nestedChoice, Choice.frames, Series.frames, Item.frames, ih]
    omega

theorem framesOf_nested (n : ℕ) : framesOf [nestedDeclaration n] = 4 * n + 6 := by
  simp [framesOf, nestedDeclaration, Declaration.frames, frames_nestedChoice]

theorem depth_nestedChoice (n : ℕ) : (nestedChoice n).depth = n := by
  induction n with
  | zero => rfl
  | succ n ih => rw [nestedChoice, Choice.depth, Series.depth, Item.depth, ih]

theorem callsOf_nested (n : ℕ) : callsOf [nestedDeclaration n] = 6 * n + 15 := by
  simp only [callsOf, nestedDeclaration, Declaration.levels, depth_nestedChoice, List.map_cons,
    List.map_nil, List.foldr_cons, List.foldr_nil, ruleCalls, entryCalls, levelCalls]
  omega

/-- Each of the groups gives a rule with one symbol. -/
theorem drafts_nestedChoice (declared : List String) (owner : String) (n k : ℕ) :
    ∀ d ∈ ((nestedChoice n).flatten declared owner k).1, ∃ name symbol,
      d = ⟨name, .parser, [symbol]⟩ := by
  induction n generalizing owner k with
  | zero =>
    intro d hd
    exact ⟨owner, _, List.mem_singleton.1 hd⟩
  | succ n ih =>
    intro d hd
    rw [nestedChoice, Choice.flatten, Series.flatten, Item.flatten] at hd
    rcases List.mem_append.1 hd with hd | hd
    · exact ih _ _ d hd
    · exact ⟨owner, _, List.mem_singleton.1 hd⟩

theorem exists_rulesOf_nested (n : ℕ) : ∃ rules, rulesOf [nestedDeclaration n] = .ok rules := by
  cases h : rulesOf [nestedDeclaration n] with
  | ok rules => exact ⟨rules, rfl⟩
  | error e =>
    obtain ⟨d, hd, hfault⟩ := exists_error_of_mapM h
    obtain ⟨name, symbol, rfl⟩ :=
      drafts_nestedChoice ["a"] "a" n 0 d ((List.mem_append.1 hd).resolve_right (by simp))
    obtain ⟨rule, hrule⟩ := exists_ofSymbols_singleton name .parser symbol
    exact absurd (hrule.symm.trans hfault) nofun

/-- The lexicon of the notation's grammar can be run. -/
theorem scan_of_toOption {g : Grammar} (hg : grammar = .ok g) {text : String}
    {tokens : List Token}
    (h : (Lexicon.scan ⟨Lexicon.entriesOf .full bodies, ignored⟩ text).toOption = some tokens) :
    g.lexicon.scan text = .ok tokens := by
  obtain ⟨hentries, hignored⟩ := entries_eq hg
  have hlexicon : g.lexicon = ⟨Lexicon.entriesOf .full bodies, ignored⟩ := by
    rw [← hentries, ← hignored]
  rw [hlexicon]
  exact eq_ok_of_toOption h

/-- The tokens are those that can be read off the text, which takes fewer steps than to run the
lexicon. -/
theorem exists_tokens_of_readAll? {g : Grammar} (hg : grammar = .ok g) {text : String}
    {lexemes : List Lexeme}
    (h : ((Lexicon.readAll? bodies text.toList text.toList).map fun found =>
      (found.filter fun x => !ignored.contains x.1).map fun x => (x.1, String.ofList x.2)) =
        some lexemes) :
    ∃ tokens, g.lexicon.scan text = .ok tokens ∧
      tokens.map (fun t => (t.kind, t.text)) = lexemes := by
  obtain ⟨found, hfound, rfl⟩ := Option.map_eq_some_iff.1 h
  obtain ⟨hentries, hignored⟩ := entries_eq hg
  rw [← hignored]
  exact Lexicon.scan_of_reads isBody_of_mem hentries (Lexicon.reads_of_readAll? hfound)

/-- The tokens of `a = (b);`. -/
def groupedTokens : Array Token :=
  #[⟨"IDENTIFIER", "a", 0⟩, ⟨"EQ", "=", 2⟩, ⟨"LPAREN", "(", 4⟩, ⟨"IDENTIFIER", "b", 5⟩,
    ⟨"RPAREN", ")", 6⟩, ⟨"SEMICOLON", ";", 7⟩]

/-- What they write. -/
def groupedDeclaration : Declaration := nestedDeclaration 1

theorem scan_grouped {g : Grammar} (hg : grammar = .ok g) :
    g.lexicon.scan "a = (b);" = .ok groupedTokens.toList :=
  scan_of_toOption hg (by decide +kernel)

theorem lexemesFrom_grouped : lexemesFrom groupedTokens 0 = lexemesOf [groupedDeclaration] := by
  decide +kernel

theorem rulesOf_grouped : ∃ rules, rulesOf [groupedDeclaration] = .ok rules ∧
    rules.map (·.text) = ["anonymous_0 = b;", "a = anonymous_0;"] := by
  have hfree : nextFree ["a"] 0 = 0 := nextFree_of_notMem (by decide)
  have htexts : (rulesOf [groupedDeclaration]).toOption.map (·.map (·.text)) =
      some ["anonymous_0 = b;", "a = anonymous_0;"] := by
    simp only [rulesOf, groupedDeclaration, nestedDeclaration, nestedChoice, flattenAll,
      Declaration.flatten, Declaration.name, Choice.flatten, Series.flatten, Item.flatten,
      List.map_cons, List.map_nil, hfree]
    decide +kernel
  exact exists_ok_of_toOption htexts

theorem mem_lexemes_nestedChoice (n : ℕ) : ∀ x ∈ (nestedChoice n).lexemes,
    x ∈ [("LPAREN", "("), ("IDENTIFIER", "b"), ("RPAREN", ")")] := by
  induction n with
  | zero => decide
  | succ n ih =>
    have hlexemes : (nestedChoice (n + 1)).lexemes =
        ("LPAREN", "(") :: ((nestedChoice n).lexemes ++ [("RPAREN", ")")]) := rfl
    rw [hlexemes, List.forall_mem_cons, List.forall_mem_append]
    exact ⟨by decide, ih, by decide⟩

/-- However many groups there are, the tokens are like those of one group. -/
theorem produces_nested {g : Grammar} (hg : grammar = .ok g) (n : ℕ) :
    ∀ t ∈ nestedTokens n, g.lexicon.Produces t := by
  have hlexemes : ∀ x ∈ lexemesOf [nestedDeclaration n],
      ∃ u ∈ groupedTokens.toList, (u.kind, u.text) = x := by
    have hsigns : ∀ x ∈ [("IDENTIFIER", "a"), ("EQ", "="), ("LPAREN", "("), ("IDENTIFIER", "b"),
        ("RPAREN", ")"), ("SEMICOLON", ";")],
        ∃ u ∈ groupedTokens.toList, (u.kind, u.text) = x := by decide
    intro x hx
    rw [lexemesOf, List.flatMap_singleton, nestedDeclaration, Declaration.lexemes, List.mem_cons,
      List.mem_cons, List.mem_append] at hx
    refine hsigns x ?_
    rcases hx with rfl | rfl | hx | hx
    · simp
    · simp
    · have hbody := mem_lexemes_nestedChoice n x hx
      simp only [List.mem_cons, List.not_mem_nil, or_false] at hbody ⊢
      tauto
    · rw [List.mem_singleton.1 hx]
      simp
  intro t ht
  obtain ⟨x, hx, rfl⟩ := List.mem_map.1 ht
  obtain ⟨u, hu, rfl⟩ := hlexemes x hx
  exact Lexicon.produces_of_mem_scan (scan_grouped hg) u hu

/-! ### Exactness -/

/-- **The compiler is exact on sequences of tokens.**  Tokens of the notation are parsed just if
they write rules of the notation that nest no deeper than a thousand frames, and the tree that comes
out then gives the rules that these stand for, if the stack has room for a walk through it. -/
theorem compile_exact {g : Grammar} (hg : grammar = .ok g) {tokens : Array Token}
    (hproduced : ∀ t ∈ tokens, g.lexicon.Produces t) :
    ((∃ n, (g.parseTokens "grammar" tokens {}).1 = .ok n) ↔
      ∃ declarations, declarations ≠ [] ∧ lexemesFrom tokens 0 = lexemesOf declarations ∧
        framesOf declarations ≤ 1000) ∧
    ∀ n, (g.parseTokens "grammar" tokens {}).1 = .ok n →
      ∀ declarations, declarations ≠ [] → lexemesFrom tokens 0 = lexemesOf declarations →
        ∀ room, FlattensWithin room declarations (rulesOfTree room n) := by
  have hlex : ∀ x ∈ lexemesFrom tokens 0, IsLexeme x := by
    intro x hx
    obtain ⟨t, ht, rfl⟩ := List.mem_map.1 hx
    exact (isSpelled_of_produces hg (hproduced t (Array.mem_toList_iff.1 ht))).toIsLexeme
  refine ⟨parse_iff hg hlex, fun n hn declarations hne hlexemes room => ?_⟩
  exact flattensWithin_of_parse hg hlex hn hne hlexemes room

theorem groupedTokens_compiled : ∃ g n rules, grammar = .ok g ∧
    (∀ t ∈ groupedTokens, g.lexicon.Produces t) ∧
    (g.parseTokens "grammar" groupedTokens {}).1 = .ok n ∧
    rulesOfTree (some 1000) n = .ok rules ∧
    rules.map (·.text) = ["anonymous_0 = b;", "a = anonymous_0;"] := by
  obtain ⟨g, hg⟩ := exists_grammar
  have hproduced : ∀ t ∈ groupedTokens, g.lexicon.Produces t := fun t ht =>
    Lexicon.produces_of_mem_scan (scan_grouped hg) t (Array.mem_toList_iff.2 ht)
  obtain ⟨hiff, hrules⟩ := compile_exact hg hproduced
  obtain ⟨n, hn⟩ := hiff.2 ⟨_, by simp, lexemesFrom_grouped, by decide⟩
  obtain ⟨rules, hof, htexts⟩ := rulesOf_grouped
  refine ⟨g, n, rules, hg, hproduced, hn, ?_, htexts⟩
  have hflattens := hrules n hn _ (by simp) lexemesFrom_grouped (some 1000)
  have hroom : callsOf [groupedDeclaration] ≤ 1000 := by decide
  rw [hflattens.eq_rulesOf (by simpa using hroom), hof]
  rfl

/-- A thousand calls are not enough for two hundred groups inside of each other, though matching
them takes no more than a thousand frames. -/
theorem nestedTokens_overflow : ∃ g n rules, grammar = .ok g ∧
    (∀ t ∈ nestedTokens 200, g.lexicon.Produces t) ∧
    lexemesFrom (nestedTokens 200).toArray 0 = lexemesOf [nestedDeclaration 200] ∧
    framesOf [nestedDeclaration 200] ≤ 1000 ∧
    (g.parseTokens "grammar" (nestedTokens 200).toArray {}).1 = .ok n ∧
    rulesOf [nestedDeclaration 200] = .ok rules ∧
    rulesOfTree (some 1000) n = .error .overflow := by
  obtain ⟨g, hg⟩ := exists_grammar
  have hlex : ∀ x ∈ lexemesFrom (nestedTokens 200).toArray 0, IsLexeme x := by
    intro x hx
    obtain ⟨t, ht, rfl⟩ := List.mem_map.1 hx
    exact (isSpelled_of_produces hg (produces_nested hg 200 t ht)).toIsLexeme
  have hframes : framesOf [nestedDeclaration 200] ≤ 1000 := by
    rw [framesOf_nested]
    decide
  have hparse : ∃ n, (g.parseTokens "grammar" (nestedTokens 200).toArray {}).1 = .ok n :=
    (parse_iff hg hlex).2 ⟨_, by simp, lexemesFrom_nested 200, hframes⟩
  obtain ⟨n, hn⟩ := hparse
  obtain ⟨rules, hrules⟩ := exists_rulesOf_nested 200
  refine ⟨g, n, rules, hg, produces_nested hg 200, lexemesFrom_nested 200, hframes, hn, hrules, ?_⟩
  have hflattens := flattensWithin_of_parse hg hlex hn (by simp) (lexemesFrom_nested 200)
    (some 1000)
  have hroom : ¬∀ calls ∈ some 1000, callsOf [nestedDeclaration 200] ≤ calls := by
    simp [callsOf_nested]
  -- the rules that they stand for are not refused
  rcases hflattens.fails hroom with hoverflow | ⟨e, he, -⟩
  · exact hoverflow
  · exact absurd (hrules.symm.trans he) nofun

end OrderedGrammar.Notation
