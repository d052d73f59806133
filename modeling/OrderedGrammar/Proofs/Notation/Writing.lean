import OrderedGrammar.Proofs.Construction
import OrderedGrammar.Proofs.Notation.Printing

/-!
# Texts and what they write

A text of the notation writes declarations, and it is compiled to the rules that these stand for,
as long as they do not nest too deep (`compileRules_eq_ok_iff_writes`).  Which declarations it
writes can be read off its characters (`Writes.of_readAll?`), and which rules they stand for off the
drafts that they are made into (`rulesOf_of_flattenAll`).  What a known text is compiled to is
proved by these two, without a run of the compiler.

## Main definitions

* `Writes` : a text is one of the notation, with certain declarations.
-/

namespace OrderedGrammar

namespace Notation

variable {text : String} {declarations : List Declaration} {rules : List Rule}

/-! ### Declarations -/

/-- Whether the text is one of the notation and writes the declarations. -/
structure Writes (text : String) (declarations : List Declaration) : Prop where
  ne_nil : declarations ≠ []
  exists_tokens : ∃ g tokens, grammar = .ok g ∧ g.lexicon.scan text = .ok tokens ∧
    tokens.map (fun t => (t.kind, t.text)) = lexemesOf declarations

/-- The declarations can be read off the text. -/
theorem Writes.of_readAll? (hne : declarations ≠ [])
    (h : ((Lexicon.readAll? bodies text.toList text.toList).map fun found =>
      (found.filter fun x => !ignored.contains x.1).map fun x => (x.1, String.ofList x.2)) =
        some (lexemesOf declarations)) : Writes text declarations := by
  obtain ⟨g, hg⟩ := exists_grammar
  obtain ⟨tokens, hscan, hlexemes⟩ := exists_tokens_of_readAll? hg h
  exact ⟨hne, g, tokens, hg, hscan, hlexemes⟩

/-- Rules are those that declarations stand for if the drafts are the same. -/
theorem rulesOf_of_flattenAll
    (h : (flattenAll (declarations.map Declaration.name) declarations 0).1 =
      rules.map Draft.ofRule) : rulesOf declarations = .ok rules := by
  rw [rulesOf, h]
  exact mapM_map_ok Draft.rule_ofRule rules

/-! ### Rules -/

/-- Tokens that the notation's grammar does not accept are reported as a fault of the text. -/
theorem exists_malformed {g : Grammar} (hg : grammar = .ok g) {tokens : Array Token}
    (h : ¬∃ n, (g.parseTokens "grammar" tokens {}).1 = .ok n) :
    ∃ t, (g.parseTokens "grammar" tokens {}).1.mapError syntaxError =
      .error (.grammar (.malformed t)) := by
  have halts : g.alternativesOf "grammar" = [grammarRule] := alternativesOf_eq hg "grammar"
  have hroot : g.alternativesOf "grammar" ≠ [] := by simp [halts]
  rcases Grammar.parseTokens_cases hroot tokens {} with
    ⟨d, -, hok⟩ | ⟨-, i, t, herr⟩ | ⟨-, e, he, herr⟩
  · exact absurd ⟨_, hok⟩ h
  · rw [herr]
    exact ⟨t, rfl⟩
  · rw [herr]
    match e, he with
    | .parse (.tooDeep _ _ t), _ => exact ⟨t, rfl⟩
    | .parse (.exhausted _ t), _ => exact ⟨t, rfl⟩

namespace Writes

/-- A text of the notation is compiled to the rules that its declarations stand for, as far as the
stack has room for them, or it nests too deep. -/
theorem compileRulesWithin_eq (h : Writes text declarations) (room : Option ℕ) :
    FlattensWithin room declarations (compileRulesWithin room text) ∨
      ∃ t, compileRulesWithin room text = .error (.grammar (.malformed t)) := by
  obtain ⟨hne, g, tokens, hg, hscan, hlexemes⟩ := h
  have hlex := isLexeme_of_scan hg hscan
  have htokens : tokens ≠ [] := by
    rintro rfl
    exact lexemesOf_ne_nil hne hlexemes.symm
  rw [compileRulesWithin_of_scan hg hscan htokens]
  by_cases hparse : ∃ n, (g.parseTokens "grammar" tokens.toArray {}).1 = .ok n
  · obtain ⟨n, hn⟩ := hparse
    rw [hn]
    exact .inl (flattensWithin_of_parse hg hlex hn hne hlexemes room)
  · obtain ⟨t, ht⟩ := exists_malformed hg hparse
    rw [ht]
    exact .inr ⟨t, rfl⟩

/-- If they do not nest too deep for the matcher, only the stack stands in between. -/
theorem flattensWithin (h : Writes text declarations) (hframes : framesOf declarations ≤ 1000)
    (room : Option ℕ) : FlattensWithin room declarations (compileRulesWithin room text) := by
  obtain ⟨hne, g, tokens, hg, hscan, hlexemes⟩ := h
  have hlex := isLexeme_of_scan hg hscan
  have htokens : tokens ≠ [] := by
    rintro rfl
    exact lexemesOf_ne_nil hne hlexemes.symm
  have hparse : ∃ n, (g.parseTokens "grammar" tokens.toArray {}).1 = .ok n :=
    (parse_iff hg hlex).2 ⟨declarations, hne, hlexemes, hframes⟩
  obtain ⟨n, hn⟩ := hparse
  rw [compileRulesWithin_of_scan hg hscan htokens, hn]
  exact flattensWithin_of_parse hg hlex hn hne hlexemes room

theorem compileRules_eq (h : Writes text declarations) :
    compileRules text = (rulesOf declarations).mapError .grammar ∨
      ∃ t, compileRules text = .error (.grammar (.malformed t)) :=
  (h.compileRulesWithin_eq none).imp_left fun hflattens => hflattens.eq_rulesOf nofun

/-- What a text is compiled to does not depend on how its declarations are found. -/
theorem rulesOf_eq (hwrites : Writes text declarations) (h : compileRules text = .ok rules) :
    rulesOf declarations = .ok rules := by
  rcases hwrites.compileRules_eq with hcompile | ⟨t, hcompile⟩
  · rw [h] at hcompile
    cases hof : rulesOf declarations with
    | error e => rw [hof] at hcompile; cases hcompile
    | ok rules' => rw [hof] at hcompile; cases hcompile; rfl
  · rw [h] at hcompile
    cases hcompile

end Writes

/-- A text is compiled if it writes declarations that do not nest too deep, to the rules of
these. -/
theorem compileRules_eq_ok_iff_writes : compileRules text = .ok rules ↔
    ∃ declarations, Writes text declarations ∧ framesOf declarations ≤ 1000 ∧
      rulesOf declarations = .ok rules := by
  obtain ⟨g, hg⟩ := exists_grammar
  rw [compileRules_eq_ok_iff hg]
  constructor
  · rintro ⟨tokens, hscan, declarations, hne, hlexemes, hframes, hrules⟩
    exact ⟨declarations, ⟨hne, g, tokens, hg, hscan, hlexemes⟩, hframes, hrules⟩
  · rintro ⟨declarations, ⟨hne, g', tokens, hg', hscan, hlexemes⟩, hframes, hrules⟩
    obtain rfl : g = g' := Except.ok.inj (hg.symm.trans hg')
    exact ⟨tokens, hscan, declarations, hne, hlexemes, hframes, hrules⟩

theorem Writes.compileRules_eq_ok (h : Writes text declarations)
    (hframes : framesOf declarations ≤ 1000) (hrules : rulesOf declarations = .ok rules) :
    compileRules text = .ok rules :=
  compileRules_eq_ok_iff_writes.2 ⟨declarations, h, hframes, hrules⟩

/-! ### Grammars -/

theorem compile_of_compileRules (h : compileRules text = .ok rules)
    (ignored : List String) (ignoreCase : Bool) : compile text ignored ignoreCase =
      (Grammar.ofRules rules ignored ignoreCase).mapError .grammar := by
  rw [compile, compileWithin, ← compileRules, h]
  rfl

theorem compile_of_compileRules_error {e : CompileError} (h : compileRules text = .error e)
    (ignored : List String) (ignoreCase : Bool) : compile text ignored ignoreCase = .error e := by
  rw [compile, compileWithin, ← compileRules, h]
  rfl

/-- A text is compiled to the grammar of the rules that it is read as. -/
theorem compile_eq_ok_iff (h : compileRules text = .ok rules)
    {ignored : List String} {ignoreCase : Bool} {g : Grammar} :
    compile text ignored ignoreCase = .ok g ↔ Grammar.ofRules rules ignored ignoreCase = .ok g := by
  rw [compile_of_compileRules h]
  cases Grammar.ofRules rules ignored ignoreCase with
  | error e => exact ⟨nofun, nofun⟩
  | ok g' => exact ⟨fun h => congrArg Except.ok (Except.ok.inj h), congrArg (Except.mapError _)⟩

/-- Rules that are accepted make a text compile. -/
theorem exists_compile (h : compileRules text = .ok rules) {ignored : List String}
    {ignoreCase : Bool} (hok : (Grammar.ofRules rules ignored ignoreCase).isOk) :
    ∃ g, compile text ignored ignoreCase = .ok g := by
  obtain ⟨g, hg⟩ := exists_ok_of_isOk hok
  exact ⟨g, (compile_eq_ok_iff h).2 hg⟩

end Notation

end OrderedGrammar
