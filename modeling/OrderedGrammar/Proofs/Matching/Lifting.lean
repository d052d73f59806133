import OrderedGrammar.Proofs.Matching.Endings
import OrderedGrammar.Proofs.Matching.Failures

/-!
# Symbols that become a rule of their own

A run of symbols can be lifted out of an alternative: the run becomes the only alternative of a new
name, and a symbol of that name, which is neither left out nor repeated, takes its place
(`Lifting`).  The rules make a grammar again (`Lifting.Yields.exists_ofRules`), and tokens are
accepted and rejected as before (`Grammar.parseTokens_lifted`).

The new rule opens a frame of its own, so an attempt may be given up only because of it.  Any other
attempt ends like the original one (`Lifting.ruleEnd_kept`), although the cursor goes back in two
steps where the run fails: to the start of the run, and from there to that of the alternative.

## Main definitions

* `Lifting` : a run of symbols, and the symbol that takes its place.
* `Lifting.Yields` : the rules with the run lifted out.
-/

namespace OrderedGrammar

/-- A run of symbols in one of a number of rules, and a symbol with a new name that is to take its
place. -/
structure Lifting where
  before : List Rule
  rule : Rule
  behind : List Rule
  kind_eq : rule.kind = .parser
  first : List Symbol
  run : List Symbol
  last : List Symbol
  symbols_eq : rule.symbols = first ++ (run ++ last)
  run_ne_nil : run ≠ []
  symbol : Symbol
  optional_eq : symbol.optional = false
  repeatable_eq : symbol.repeatable = false
  fresh : ∀ r ∈ before ++ rule :: behind, r.name ≠ symbol.name
  shortened : Rule
  shortened_eq : Rule.ofSymbols rule.name .parser (first ++ symbol :: last) = .ok shortened

namespace Lifting

variable (l : Lifting)

/-- The rules as they are. -/
def rules : List Rule := l.before ++ l.rule :: l.behind

theorem mixesLabels_run : mixesLabels l.run = false := by
  have hmixes := l.rule.mixesLabels_eq_false
  rw [l.symbols_eq] at hmixes
  simp only [mixesLabels, storedLabels, List.filter_append, List.map_append, List.contains_append,
    List.any_append, Bool.and_eq_false_iff, Bool.or_eq_false_iff] at hmixes ⊢
  tauto

/-- The new rule. -/
def lifted : Rule where
  name := l.symbol.name
  kind := .parser
  symbols := l.run
  enumerated := enumeratedLabels l.run
  enumerated_eq := rfl
  symbols_ne_nil := l.run_ne_nil
  length_of_lexer := by simp
  mixesLabels_eq_false := l.mixesLabels_run

/-- The rules with the run lifted out, wherever the new rule stands among them. -/
def Yields (rules' : List Rule) : Prop :=
  ∃ front back, l.before ++ l.shortened :: l.behind = front ++ back ∧
    rules' = front ++ l.lifted :: back

variable {l}

theorem shortened_name : l.shortened.name = l.rule.name := (of_ofSymbols l.shortened_eq).1

theorem shortened_kind : l.shortened.kind = .parser := (of_ofSymbols l.shortened_eq).2.1

theorem shortened_symbols : l.shortened.symbols = l.first ++ l.symbol :: l.last :=
  (of_ofSymbols l.shortened_eq).2.2

theorem mem_rules_iff {r : Rule} : r ∈ l.rules ↔ r = l.rule ∨ r ∈ l.before ∨ r ∈ l.behind := by
  rw [rules, List.mem_append, List.mem_cons]
  tauto

theorem rule_mem_rules : l.rule ∈ l.rules := mem_rules_iff.2 (.inl rfl)

/-! ### The grammar -/

section Yields

variable {rules' : List Rule} (h : l.Yields rules')

include h

theorem Yields.mem_iff {r : Rule} :
    r ∈ rules' ↔ r = l.lifted ∨ r = l.shortened ∨ r ∈ l.before ∨ r ∈ l.behind := by
  obtain ⟨front, back, heq, rfl⟩ := h
  have hmem : r ∈ l.before ++ l.shortened :: l.behind ↔ r ∈ front ++ back := by rw [heq]
  simp only [List.mem_append, List.mem_cons] at hmem ⊢
  tauto

/-- What is picked out of the rules, but not the new one, is picked out of those around it and the
shortened one. -/
theorem Yields.filter_eq {p : Rule → Bool} (hp : p l.lifted = false) :
    rules'.filter p =
      l.before.filter p ++ ([l.shortened].filter p ++ l.behind.filter p) := by
  obtain ⟨front, back, heq, rfl⟩ := h
  rw [← List.filter_append, List.singleton_append, ← List.filter_append, heq, List.filter_append,
    List.filter_append, List.filter_cons_of_neg (by simp [hp])]

/-- Rules of kinds of tokens are as before. -/
theorem Yields.lexerRulesOf_eq : Grammar.lexerRulesOf rules' = Grammar.lexerRulesOf l.rules := by
  rw [Grammar.lexerRulesOf, h.filter_eq rfl]
  simp [Grammar.lexerRulesOf, rules, l.kind_eq, shortened_kind]

/-- No name is lost. -/
theorem Yields.exists_name {r : Rule} (hr : r ∈ l.rules) : ∃ r' ∈ rules', r'.name = r.name := by
  rcases mem_rules_iff.1 hr with rfl | hr
  · exact ⟨l.shortened, h.mem_iff.2 (.inr (.inl rfl)), shortened_name⟩
  · exact ⟨r, h.mem_iff.2 (.inr (.inr hr)), rfl⟩

end Yields

section Grammar

variable {rules' : List Rule} {ignored : List String} {ignoreCase : Bool} {g g' : Grammar}
  (hg : Grammar.ofRules l.rules ignored ignoreCase = .ok g)

include hg

/-- **The rules with a run lifted out make a grammar.** -/
theorem Yields.exists_ofRules (h : l.Yields rules') :
    ∃ g', Grammar.ofRules rules' ignored ignoreCase = .ok g' := by
  obtain ⟨-, hclash, hdefined, hlexicon⟩ := Grammar.exists_ofRules_iff.1 ⟨g, hg⟩
  have hother {r : Rule} (hr : r ∈ l.before ∨ r ∈ l.behind) : r ∈ l.rules :=
    mem_rules_iff.2 (.inr hr)
  refine Grammar.exists_ofRules_iff.2 ⟨List.ne_nil_of_mem (h.mem_iff.2 (.inl rfl)), ?_, ?_, ?_⟩
  · intro r hr r' hr' hlexer hparser
    have hmem : r ∈ Grammar.lexerRulesOf rules' := List.mem_filter.2 ⟨hr, decide_eq_true hlexer⟩
    rw [h.lexerRulesOf_eq] at hmem
    have hmem : r ∈ l.rules := (List.mem_filter.1 hmem).1
    rcases h.mem_iff.1 hr' with rfl | rfl | hr'
    · exact l.fresh r hmem
    · rw [shortened_name]
      exact hclash r hmem l.rule rule_mem_rules hlexer l.kind_eq
    · exact hclash r hmem r' (hother hr') hlexer hparser
  · -- what was named is still defined, and the only new name is that of the new rule
    have hdefined' {r : Rule} (hr : r ∈ l.rules) (hparser : r.kind = .parser) {s : Symbol}
        (hs : s ∈ r.symbols) : ∃ r' ∈ rules', r'.name = s.name := by
      obtain ⟨r₀, hr₀, hname⟩ := hdefined r hr hparser s hs
      exact hname ▸ h.exists_name hr₀
    intro r hr hparser s hs
    rcases h.mem_iff.1 hr with rfl | rfl | hr
    · have hs : s ∈ l.run := hs
      exact hdefined' rule_mem_rules l.kind_eq (by simp [l.symbols_eq, hs])
    · rw [shortened_symbols, List.mem_append, List.mem_cons] at hs
      rcases hs with hs | rfl | hs
      · exact hdefined' rule_mem_rules l.kind_eq (by simp [l.symbols_eq, hs])
      · exact ⟨l.lifted, h.mem_iff.2 (.inl rfl), rfl⟩
      · exact hdefined' rule_mem_rules l.kind_eq (by simp [l.symbols_eq, hs])
    · exact hdefined' (hother hr) hparser hs
  · rwa [h.lexerRulesOf_eq]

/-- No symbol of the rules has the new name. -/
theorem name_ne {r : Rule} (hr : r ∈ l.rules) (hparser : r.kind = .parser) :
    ∀ s ∈ r.symbols, s.name ≠ l.symbol.name := by
  intro s hs hname
  obtain ⟨-, -, hdefined, -⟩ := Grammar.exists_ofRules_iff.1 ⟨g, hg⟩
  obtain ⟨r', hr', heq⟩ := hdefined r hr hparser s hs
  exact l.fresh r' hr' (heq.trans hname)

end Grammar

/-- Whether an alternative of the new grammar stands for one of the original grammar, which does not
use the new name. -/
inductive StandsFor (l : Lifting) : Rule → Rule → Prop
  | same {r : Rule} : (∀ s ∈ r.symbols, s.name ≠ l.symbol.name) → StandsFor l r r
  | shortened : (∀ s ∈ l.rule.symbols, s.name ≠ l.symbol.name) → StandsFor l l.shortened l.rule

section Alternatives

variable {rules' : List Rule} {ignored : List String} {ignoreCase : Bool} {g g' : Grammar}
  (hg : Grammar.ofRules l.rules ignored ignoreCase = .ok g) (h : l.Yields rules')
  (hg' : Grammar.ofRules rules' ignored ignoreCase = .ok g')

include h hg'

include hg in
/-- The alternatives of other names stand for the original ones. -/
theorem Yields.alternatives {name : String} (hname : name ≠ l.symbol.name) :
    List.Forall₂ l.StandsFor (g'.alternativesOf name) (g.alternativesOf name) := by
  have hother {rules : List Rule} (hrules : ∀ r ∈ rules, r ∈ l.rules) :
      List.Forall₂ l.StandsFor (Grammar.parserRules rules name)
        (Grammar.parserRules rules name) := by
    refine List.forall₂_same.2 fun r hr => .same ?_
    obtain ⟨hr, hparser⟩ := List.mem_filter.1 hr
    exact name_ne hg (hrules r hr) (of_decide_eq_true hparser).1
  rw [Grammar.alternativesOf_of_ofRules hg, Grammar.alternativesOf_of_ofRules hg',
    Grammar.parserRules, h.filter_eq (by simp [lifted, hname.symm]), Grammar.parserRules, rules,
    ← List.singleton_append (x := l.rule), List.filter_append, List.filter_append]
  refine List.rel_append (hother fun r hr => mem_rules_iff.2 (.inr (.inl hr)))
    (List.rel_append ?_ (hother fun r hr => mem_rules_iff.2 (.inr (.inr hr))))
  by_cases hrule : l.rule.name = name
  · simpa [shortened_kind, shortened_name, l.kind_eq, hrule] using
      StandsFor.shortened (name_ne hg rule_mem_rules l.kind_eq)
  · simp [shortened_name, hrule]

/-- The run is the only alternative of the new name. -/
theorem Yields.alternatives_symbol : g'.alternativesOf l.symbol.name = [l.lifted] := by
  have hnone {rules : List Rule} (hrules : ∀ r ∈ rules, r.name ≠ l.symbol.name) :
      rules.filter (fun r => r.kind = .parser ∧ r.name = l.symbol.name) = [] :=
    List.filter_eq_nil_iff.2 fun r hr => by simp [hrules r hr]
  obtain ⟨front, back, heq, rfl⟩ := h
  have hfresh : ∀ r ∈ front ++ back, r.name ≠ l.symbol.name := by
    intro r hr
    rw [← heq, List.mem_append, List.mem_cons] at hr
    rcases hr with hr | rfl | hr
    · exact l.fresh r (by simp [hr])
    · rw [shortened_name]
      exact l.fresh l.rule (by simp)
    · exact l.fresh r (by simp [hr])
  rw [Grammar.alternativesOf_of_ofRules hg', Grammar.parserRules, List.filter_append,
    hnone fun r hr => hfresh r (List.mem_append_left _ hr), List.filter_cons_of_pos
      (by simp [lifted]), hnone fun r hr => hfresh r (List.mem_append_right _ hr)]
  rfl

end Alternatives

/-! ### Attempts -/

section Attempts

variable {rules' : List Rule} {ignored : List String} {ignoreCase : Bool} {g g' : Grammar}
  {kinds : Array String}

/-- The new symbol ends like the run, if it is not given up. -/
theorem symbolEnd_kept (hrun : g'.alternativesOf l.symbol.name = [l.lifted])
    (hkinds : ∀ i : ℕ, kinds[i]? ≠ some l.symbol.name) {name : String → ℕ → Ending}
    (hfrom : ∀ x i, (name x i).From i) {budget : ℕ}
    (h : ∀ b, budget = b + 1 → ∀ s ∈ l.run, ∀ i,
      (nameEnd g' kinds (ruleEnd g' kinds b) s.name i).Kept (name s.name i)) (i : ℕ) :
    (symbolEnd kinds.size (nameEnd g' kinds (ruleEnd g' kinds budget)) l.symbol i).Kept
      (symbolsEnd kinds.size name l.run i) := by
  rw [symbolEnd_required l.optional_eq l.repeatable_eq, nameEnd_of_ne (hkinds i), hrun, firstEnd,
    firstEnd, Ending.orElse_failed_zero]
  cases budget with
  | zero => exact .tooDeep
  | succ b =>
    -- the frame of the new rule goes back once more, to where the run starts
    rw [ruleEnd, Ending.back_back, ← symbolsEnd_back hfrom]
    exact (symbolsEnd_kept (h b rfl) i).back

variable (hg : Grammar.ofRules l.rules ignored ignoreCase = .ok g) (h : l.Yields rules')
  (hg' : Grammar.ofRules rules' ignored ignoreCase = .ok g')
  (hkinds : ∀ i : ℕ, kinds[i]? ≠ some l.symbol.name)

include hg h hg' hkinds

/-- **An attempt that is not given up ends like the original one**, for which no fewer frames may be
opened. -/
theorem ruleEnd_kept (budget' : ℕ) : ∀ budget, budget' ≤ budget → ∀ {rule' rule : Rule},
    l.StandsFor rule' rule → ∀ i,
    (ruleEnd g' kinds budget' rule' i).Kept (ruleEnd g kinds budget rule i) := by
  -- the run is matched within one frame less than the symbols around it
  induction budget' using Nat.strong_induction_on with
  | _ budget' ih =>
    intro budget hle rule' rule hrule i
    have hname {b b' : ℕ} (hb' : b' < budget') (hb : b' ≤ b) {x : String}
        (hx : x ≠ l.symbol.name) (j : ℕ) :
        (nameEnd g' kinds (ruleEnd g' kinds b') x j).Kept
          (nameEnd g kinds (ruleEnd g kinds b) x j) :=
      nameEnd_kept ((h.alternatives hg hg' hx).imp fun _ _ hstands => ih b' hb' b hb hstands j)
    cases budget' with
    | zero => exact .tooDeep
    | succ b' =>
      obtain ⟨b, rfl⟩ : ∃ b, budget = b + 1 := ⟨budget - 1, by omega⟩
      have hb : b' ≤ b := by omega
      rw [ruleEnd, ruleEnd]
      cases hrule with
      | same hne => exact (symbolsEnd_kept (fun s hs => hname b'.lt_succ_self hb (hne s hs)) i).back
      | shortened hne =>
        rw [l.symbols_eq] at hne ⊢
        rw [shortened_symbols, symbolsEnd_append, symbolsEnd_append]
        refine (Ending.Kept.andThen ?_ fun j => ?_).back
        · exact symbolsEnd_kept (fun s hs => hname b'.lt_succ_self hb (hne s (by simp [hs]))) i
        · rw [symbolsEnd, symbolsEnd_append]
          refine (symbolEnd_kept (h.alternatives_symbol hg') hkinds
            (nameEnd_from (ruleEnd_from g kinds b)) ?_ j).andThen ?_
          · rintro b'' rfl s hs
            exact hname (by omega) (by omega) (hne s (by simp [hs]))
          · exact symbolsEnd_kept fun s hs => hname b'.lt_succ_self hb (hne s (by simp [hs]))

end Attempts

end Lifting

namespace Grammar

/-- **A run of symbols can be lifted out into a rule of its own.**  The rules make a grammar then,
and from any root of the original one, tokens without the new name for their kind are accepted and
rejected as before unless rules nest too deep. -/
theorem parseTokens_lifted {l : Lifting} {rules' : List Rule} {ignored : List String}
    {ignoreCase : Bool} {g : Grammar} (hg : Grammar.ofRules l.rules ignored ignoreCase = .ok g)
    (hrules' : l.Yields rules') :
    ∃ g', Grammar.ofRules rules' ignored ignoreCase = .ok g' ∧
      ∀ (root : String) (tokens : Array Token) (options : ParseOptions), g.hasRule root →
        (∀ t ∈ tokens, t.kind ≠ l.symbol.name) →
        (∀ e, (g'.parseTokens root tokens options).1 = .error e → ¬e.IsNesting) →
        ((∃ n, (g.parseTokens root tokens options).1 = .ok n) ↔
          ∃ n, (g'.parseTokens root tokens options).1 = .ok n) ∧
        ∀ e, (g.parseTokens root tokens options).1 = .error e →
          (g'.parseTokens root tokens options).1 = .error e ∧
            ∃ i t, e = .parse (.rejected i t) := by
  obtain ⟨g', hg'⟩ := hrules'.exists_ofRules hg
  refine ⟨g', hg', ?_⟩
  intro root tokens options hroot hfresh hdepth
  have hne : root ≠ l.symbol.name := by
    obtain ⟨r, hr, rfl⟩ := (hasRule_iff hg).1 hroot
    exact l.fresh r hr
  have halts := hrules'.alternatives hg hg' hne
  cases hcase : g.alternativesOf root with
  | nil =>
    -- a kind of tokens is matched without a rule
    rw [hcase, List.forall₂_nil_right_iff] at halts
    have hkind := isTokenKind_of_hasRule hg hroot hcase
    have hkind' : g'.isTokenKind root := by
      rw [isTokenKind, (of_ofRules hg').2.1, hrules'.lexerRulesOf_eq, ← (of_ofRules hg).2.1]
      exact hkind
    rw [parseTokens, parseTokens, hcase, halts]
    simp only [hkind, hkind', ↓reduceIte]
    refine ⟨trivial, fun e he => ⟨he, ?_⟩⟩
    cases hmatch : matchToken root (.start tokens) with
    | ok n => rw [hmatch] at he; cases he
    | error e' =>
      obtain ⟨i, -, rfl⟩ := matchToken_place hmatch
      rw [hmatch] at he
      cases he
      exact ⟨i, _, rfl⟩
  | cons rule rules =>
    have hkinds (i : ℕ) : (kindsOf tokens)[i]? ≠ some l.symbol.name := by
      rw [kindsOf, Array.getElem?_map]
      intro hi
      obtain ⟨t, ht, hname⟩ := Option.map_eq_some_iff.1 hi
      exact hfresh t (Array.mem_of_getElem? ht) hname
    have hroot₀ : g.alternativesOf root ≠ [] := by simp [hcase]
    have hroot' : g'.alternativesOf root ≠ [] := by
      intro hnil
      rw [hnil, List.forall₂_nil_left_iff] at halts
      exact hroot₀ halts
    refine parseTokens_kept hroot₀ hroot' (rootEnd_kept (halts.imp fun _ _ hstands => ?_)) hdepth
    exact Lifting.ruleEnd_kept hg hrules' hg' hkinds _ _ le_rfl hstands 0

/-- Pairs inside of each other, of which all but the opening token is to become a rule. -/
def restOfPair : Lifting where
  before := [.lexer "A" "a", .lexer "B" "b"]
  rule := ⟨"pair", .parser, [.ofName "A", ⟨"pair", "within", true, false, false⟩, .ofName "B"], _,
    rfl, by simp, by simp, by decide⟩
  behind := []
  kind_eq := rfl
  first := [.ofName "A"]
  run := [⟨"pair", "within", true, false, false⟩, .ofName "B"]
  last := []
  symbols_eq := rfl
  run_ne_nil := by simp
  symbol := .ofModifier "rest" .ignored none
  optional_eq := rfl
  repeatable_eq := rfl
  fresh := by decide
  shortened := ⟨"pair", .parser, [.ofName "A", .ofModifier "rest" .ignored none], _, rfl, by simp,
    by simp, by decide⟩
  shortened_eq := rfl

/-- One pair inside of another: a third one is attempted where the inner one is closed, and
fails. -/
theorem restOfPair_accepts : ∃ g g', Grammar.ofRules restOfPair.rules [] false = .ok g ∧
    Grammar.ofRules (restOfPair.lifted :: restOfPair.before ++ [restOfPair.shortened]) [] false =
      .ok g' ∧
    (∃ n', (g'.parseTokens "pair"
      #[⟨"A", "a", 0⟩, ⟨"A", "a", 1⟩, ⟨"B", "b", 2⟩, ⟨"B", "b", 3⟩] ⟨6, true⟩).1 = .ok n') ∧
    ∃ n, (g.parseTokens "pair"
      #[⟨"A", "a", 0⟩, ⟨"A", "a", 1⟩, ⟨"B", "b", 2⟩, ⟨"B", "b", 3⟩] ⟨6, true⟩).1 = .ok n := by
  have hroot : ((Grammar.ofRules restOfPair.rules [] false).toOption.map fun g =>
      g.hasRule "pair") = some true := by decide +kernel
  have haccepts : ((Grammar.ofRules
      (restOfPair.lifted :: restOfPair.before ++ [restOfPair.shortened]) [] false).toOption.map
      fun g' => (g'.parseTokens "pair"
        #[⟨"A", "a", 0⟩, ⟨"A", "a", 1⟩, ⟨"B", "b", 2⟩, ⟨"B", "b", 3⟩] ⟨6, true⟩).1.isOk) =
      some true := by decide +kernel
  obtain ⟨g, hg, hroot⟩ := exists_ok_of_toOption hroot
  have hyields : restOfPair.Yields
      (restOfPair.lifted :: restOfPair.before ++ [restOfPair.shortened]) := ⟨[], _, rfl, rfl⟩
  obtain ⟨g', hg', hlifted⟩ := parseTokens_lifted hg hyields
  rw [hg'] at haccepts
  obtain ⟨n', hn'⟩ := exists_ok_of_isOk (Option.some.inj haccepts)
  refine ⟨g, g', hg, hg', ⟨n', hn'⟩, ?_⟩
  refine (hlifted "pair" _ ⟨6, true⟩ hroot (by decide) ?_).1.2 ⟨n', hn'⟩
  rw [hn']
  rintro e ⟨⟩

end Grammar

end OrderedGrammar
