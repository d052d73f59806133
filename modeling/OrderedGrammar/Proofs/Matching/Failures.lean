import OrderedGrammar.Proofs.Matching.Acceptance
import OrderedGrammar.Proofs.Matching.Restoration
import OrderedGrammar.Proofs.Construction
import OrderedGrammar.Proofs.Passes

/-!
# How a parse fails

A parse of a text fails in three ways (`Grammar.parse_errors`): nothing is defined for the root, the
text cannot be split into tokens, or the tokens cannot be parsed.  The last error names a place
within the tokens or right behind them, and the token there.  No parse closes a frame or keeps a
match where it has no place for it.

A text is not split where no pattern matches, and otherwise only because of a pattern that starts
with a question mark: it has no group to be the token, as `?:x` (`Grammar.letterRules_noGroup`), or
it keeps the token in a condition and leads nowhere, so that the scan does not end
(`Lexicon.scan_eq_endless_iff`).  Between the parentheses of a lexer rule any other pattern has a
group, and goes forward (`Pattern.keeps_of_read_enclose`).

Where the ceiling ends a parse, the place is that of the ceiling here.  A ceiling that is elsewhere
would end it at another moment, and at each moment the cursor is within the tokens.

## Main definitions

* `Grammar.FailsAt` : the place that an error of a parse names.
-/

namespace OrderedGrammar

namespace Context

variable {c c' : Context} {moments : List Context} {tokens : Array Token}

/-- The furthest index stays within the tokens as the cursor does. -/
theorem Path.best_within (h : c.Path moments c') (hc : c.Within) (hindex : c.index ≤ c.best)
    (hbest : c.best ≤ c.tokens.size) : c'.best ≤ c'.tokens.size := by
  induction h with
  | nil => exact hbest
  | cons hstep _ ih =>
    have heq := hstep.best_eq hindex
    have hwithin := hstep.within hc
    refine ih hwithin (by omega) ?_
    rw [heq]
    exact max_le hwithin (hstep.tokens_eq ▸ hbest)

/-- What a parse comes to is within its tokens. -/
theorem Path.of_start (h : (start tokens).Path moments c) :
    c.tokens = tokens ∧ c.index ≤ tokens.size ∧ c.best ≤ tokens.size := by
  have hwithin : (start tokens).Within := Nat.zero_le _
  have htokens : c.tokens = tokens := h.tokens_eq
  refine ⟨htokens, htokens ▸ h.within hwithin, ?_⟩
  rw [← htokens]
  exact h.best_within hwithin le_rfl (Nat.zero_le _)

end Context

namespace Grammar

/-- Whether an error of a parse names a place and the token there. -/
inductive FailsAt (maxDepth : ℤ) (i : ℕ) (t : Option Token) : ParseError → Prop
  | rejected : FailsAt maxDepth i t (.rejected i t)
  | tooDeep : FailsAt maxDepth i t (.tooDeep maxDepth i t)
  | exhausted : depthCeiling < maxDepth → FailsAt maxDepth i t (.exhausted i t)

variable {g : Grammar} {root : String} {tokens : Array Token} {options : ParseOptions} {c : Context}

theorem matchToken_place {e : ParseError}
    (h : matchToken root (.start tokens) = .error e) :
    ∃ i ≤ tokens.size, e = .rejected i tokens[i]? := by
  rw [matchToken] at h
  cases htry : (Context.start tokens).tryToken root with
  | none =>
    rw [htry] at h
    cases h
    exact ⟨0, Nat.zero_le _, rfl⟩
  | some taken =>
    obtain ⟨t, c⟩ := taken
    obtain ⟨htokens, -, hbest⟩ :=
      (Context.Path.cons (Context.step_of_tryToken htry) .nil).of_start
    rw [htry] at h
    dsimp only at h
    split at h
    · cases h
    · cases h
      exact ⟨c.best, hbest, by rw [rejection, Context.tokenAt, htokens]⟩

/-- When no alternative of the root matches all tokens, the place is that of the last state. -/
theorem matchRoot_place {abort : Option Abort} {r : Run}
    (h : g.matchRoot options.verbose options.budget root (g.alternativesOf root) (.start tokens) =
      (.error abort, r)) :
    ∃ i ≤ tokens.size, FailsAt options.maxDepth i tokens[i]?
      (match abort with
        | none => rejection r.context
        | some abort => abortError options.maxDepth r.context abort) := by
  have hpath := matchRoot_path g options.verbose options.budget root (g.alternativesOf root)
    (r := .start tokens) (Nat.zero_le _)
  have hfollows := matchRoot_follows g options.verbose options.budget root (g.alternativesOf root)
    (start_at tokens)
  rw [h] at hpath hfollows
  obtain ⟨htokens, hindex, hbest⟩ := hpath.of_start
  cases abort with
  | none =>
    refine ⟨r.context.best, hbest, ?_⟩
    rw [rejection, Context.tokenAt, htokens]
    exact .rejected
  | some abort =>
    -- a parse is given up only for its depth
    obtain ⟨rfl, -⟩ := hfollows
    have hpeek : r.context.peek = tokens[r.context.index]? := by
      rw [Context.peek, Context.tokenAt, htokens]
    refine ⟨r.context.index, hindex, ?_⟩
    dsimp only
    rw [abortError, hpeek]
    split
    · exact .tooDeep
    · next hlt => exact .exhausted (not_le.1 hlt)

/-- Tokens fail to parse because nothing is defined for the root, or with an error at a place within
the tokens or right behind them. -/
theorem parseTokens_error_cases {failure : ParseFailure}
    (h : (g.parseTokens root tokens options).1 = .error failure) :
    (g.alternativesOf root = [] ∧ ¬g.isTokenKind root) ∨
    ∃ e, failure = .parse e ∧ ∃ i ≤ tokens.size, FailsAt options.maxDepth i tokens[i]? e := by
  rw [parseTokens] at h
  cases halts : g.alternativesOf root with
  | nil =>
    rw [halts] at h
    dsimp only at h
    split at h
    · cases hmatch : matchToken root (.start tokens) with
      | ok n => rw [hmatch] at h; cases h
      | error e =>
        rw [hmatch] at h
        cases h
        obtain ⟨i, hi, rfl⟩ := matchToken_place hmatch
        exact .inr ⟨_, rfl, i, hi, .rejected⟩
    · next hkind => exact .inl ⟨rfl, hkind⟩
  | cons rule rules =>
    rw [halts] at h
    dsimp only at h
    rw [← ParseOptions.budget] at h
    cases hrun : g.matchRoot options.verbose options.budget root (rule :: rules)
      (.start tokens) with
    | mk result r =>
      rw [hrun] at h
      cases result with
      | ok n => cases h
      | error abort =>
        have hplace := matchRoot_place (halts ▸ hrun)
        cases abort with
        | none => cases h; exact .inr ⟨_, rfl, hplace⟩
        | some abort => cases h; exact .inr ⟨_, rfl, hplace⟩

variable {rules : List Rule} {ignored : List String} {ignoreCase : Bool}

/-- What is defined in an accepted grammar is what some rule has as its name. -/
theorem hasRule_iff (hg : Grammar.ofRules rules ignored ignoreCase = .ok g) :
    g.hasRule root ↔ ∃ rule ∈ rules, rule.name = root := by
  obtain ⟨-, hlexer, halts, -⟩ := of_ofRules hg
  rw [hasRule, isTokenKind, hlexer, halts, Bool.or_eq_true, List.any_eq_true, isSome_lookup_group]
  constructor
  · rintro (⟨rule, hrule, hname⟩ | ⟨rule, hrule, -, hname⟩)
    · exact ⟨rule, (List.mem_filter.1 hrule).1, of_decide_eq_true hname⟩
    · exact ⟨rule, hrule, hname⟩
  · rintro ⟨rule, hrule, hname⟩
    cases hkind : rule.kind with
    | lexer => exact .inl ⟨rule, List.mem_filter.2 ⟨hrule, by simp [hkind]⟩, by simp [hname]⟩
    | parser => exact .inr ⟨rule, hrule, hkind, hname⟩

/-- A root that has a rule is a kind of token or has alternatives. -/
theorem isTokenKind_of_hasRule (hg : Grammar.ofRules rules ignored ignoreCase = .ok g)
    (hroot : g.hasRule root) (halts : g.alternativesOf root = []) : g.isTokenKind root := by
  obtain ⟨-, -, hgroup, -⟩ := of_ofRules hg
  rw [alternativesOf_of_ofRules hg] at halts
  rw [hasRule, hgroup, lookup_group, if_pos halts] at hroot
  simpa using hroot

/-- A text is split into tokens, or no pattern matches somewhere, or one does that starts with a
question mark, and has no group or leads nowhere. -/
theorem tokenize_error_cases (hg : Grammar.ofRules rules ignored ignoreCase = .ok g) {text : String}
    {fault : ScanError} (h : g.tokenize text = .error fault) : (∃ e, fault = .lex e) ∨
      (∃ rule ∈ rules, ∃ pattern, rule.pattern? = some pattern ∧
        pattern.toList.head? = some '?' ∧ fault = .noGroup rule.name) ∨
      fault = .endless ∧ (∃ rule ∈ rules, rule.TakesAside ignoreCase) ∧
        ∃ ts d t, g.lexicon.Passes (.start text.toList) ts d ∧
          g.lexicon.pass? d = .ok (some (t, d)) := by
  obtain ⟨-, -, -, hlexicon⟩ := of_ofRules hg
  rcases Lexicon.scan_error_cases h with hlex | ⟨e, he, hkeeps, rfl⟩ | rfl
  · exact .inl hlex
  · obtain ⟨rule, hrule, pattern, hpattern, hkind, hread⟩ := Lexicon.exists_rule_of_mem hlexicon he
    refine .inr (.inl ⟨rule, (List.mem_filter.1 hrule).1, pattern, hpattern, ?_, by rw [hkind]⟩)
    by_contra hhead
    simp [Pattern.keeps_of_read_enclose hhead hread] at hkeeps
  · refine .inr (.inr ⟨rfl, ?_, Lexicon.scan_eq_endless_iff.1 h⟩)
    by_contra hnone
    refine Lexicon.scan_ne_endless hlexicon (fun rule hrule haside => hnone ?_) text h
    exact ⟨rule, (List.mem_filter.1 hrule).1, haside⟩

/-- The tokens of a text have the names of lexer rules for their kinds. -/
theorem exists_rule_of_tokenize (hg : Grammar.ofRules rules ignored ignoreCase = .ok g)
    {text : String} {ts : List Token} (h : g.tokenize text = .ok ts) :
    ∀ t ∈ ts, ∃ rule ∈ lexerRulesOf rules, rule.name = t.kind := by
  intro t ht
  obtain ⟨e, he, hkind⟩ := (Lexicon.produces_of_mem_scan h t ht).exists_entry
  obtain ⟨-, -, -, hlexicon⟩ := of_ofRules hg
  obtain ⟨rule, hrule, -, -, hname, -⟩ := Lexicon.exists_rule_of_mem hlexicon he
  exact ⟨rule, hrule, hname.symm.trans hkind⟩

theorem kind_mem_of_tokenize {kinds : List String}
    (hg : Grammar.ofRules rules ignored ignoreCase = .ok g)
    (hkinds : ∀ rule ∈ lexerRulesOf rules, rule.name ∈ kinds) {text : String} {ts : List Token}
    (h : g.tokenize text = .ok ts) : ∀ t ∈ ts, t.kind ∈ kinds := by
  intro t ht
  obtain ⟨rule, hrule, hkind⟩ := exists_rule_of_tokenize hg h t ht
  exact hkind ▸ hkinds rule hrule

/-- A text is parsed by way of its tokens. -/
theorem parse_eq_ok_iff {text : String} {n : Node} : (g.parse root text options).1 = .ok n ↔
    g.hasRule root ∧ ∃ ts, g.tokenize text = .ok ts ∧
      (g.parseTokens root ts.toArray options).1 = .ok n := by
  rw [parse]
  by_cases hroot : g.hasRule root
  · rw [if_pos hroot]
    cases g.tokenize text with
    | error fault => simp
    | ok ts => simp [hroot]
  · simp [hroot]

/-- How a parse of a text comes to its error. -/
theorem parse_error_cases (hg : Grammar.ofRules rules ignored ignoreCase = .ok g) {text : String}
    {failure : ParseFailure} (h : (g.parse root text options).1 = .error failure) :
    (¬g.hasRule root ∧ failure = .grammar (.unknownRoot root)) ∨
    (g.hasRule root ∧ ∃ fault, g.tokenize text = .error fault ∧ failure = .scan fault) ∨
    ∃ tokens e, g.tokenize text = .ok tokens ∧ failure = .parse e ∧
      ∃ i ≤ tokens.length, FailsAt options.maxDepth i tokens[i]? e := by
  rw [parse] at h
  split at h
  · next hroot =>
    cases htokens : g.tokenize text with
    | error fault =>
      rw [htokens] at h
      cases h
      exact .inr (.inl ⟨hroot, fault, rfl, rfl⟩)
    | ok tokens =>
      rw [htokens] at h
      rcases parseTokens_error_cases h with ⟨halts, hkind⟩ | ⟨e, rfl, i, hi, hfails⟩
      · exact absurd (isTokenKind_of_hasRule hg hroot halts) hkind
      · rw [List.getElem?_toArray] at hfails
        exact .inr (.inr ⟨tokens, e, rfl, rfl, i, hi, hfails⟩)
  · next hroot =>
    cases h
    exact .inl ⟨hroot, rfl⟩

/-- Nothing is defined for the root exactly if no rule has its name. -/
theorem parse_eq_grammar_iff (hg : Grammar.ofRules rules ignored ignoreCase = .ok g) {text : String}
    {e : GrammarError} : (g.parse root text options).1 = .error (.grammar e) ↔
      e = .unknownRoot root ∧ ∀ rule ∈ rules, rule.name ≠ root := by
  have hdefined : g.hasRule root ↔ ∃ rule ∈ rules, rule.name = root := hasRule_iff hg
  constructor
  · intro h
    obtain ⟨hroot, heq⟩ | ⟨-, fault, -, heq⟩ | ⟨tokens, e', -, heq, -⟩ := parse_error_cases hg h
    · cases heq
      refine ⟨rfl, ?_⟩
      intro rule hrule hname
      exact hroot (hdefined.2 ⟨rule, hrule, hname⟩)
    · cases heq
    · cases heq
  · rintro ⟨rfl, hnone⟩
    have hroot : ¬g.hasRule root := by
      intro hroot
      obtain ⟨rule, hrule, hname⟩ := hdefined.1 hroot
      exact hnone rule hrule hname
    rw [parse, if_neg hroot]

/-- Once a rule has the root's name, a parse cannot split the text exactly if it is not split. -/
theorem parse_eq_scan_iff (hg : Grammar.ofRules rules ignored ignoreCase = .ok g) {text : String}
    {fault : ScanError} : (g.parse root text options).1 = .error (.scan fault) ↔
      (∃ rule ∈ rules, rule.name = root) ∧ g.tokenize text = .error fault := by
  have hdefined : g.hasRule root ↔ ∃ rule ∈ rules, rule.name = root := hasRule_iff hg
  constructor
  · intro h
    obtain ⟨-, heq⟩ | ⟨hroot, fault', hfault, heq⟩ | ⟨tokens, e', -, heq, -⟩ :=
      parse_error_cases hg h
    · cases heq
    · cases heq
      exact ⟨hdefined.1 hroot, hfault⟩
    · cases heq
  · rintro ⟨hroot, hfault⟩
    rw [parse, if_pos (hdefined.2 hroot), hfault]

/-- An error of the tokens is raised at a place, which is behind them if there is no token there. -/
theorem exists_place_of_parse (hg : Grammar.ofRules rules ignored ignoreCase = .ok g)
    {text : String} {e : ParseError} (h : (g.parse root text options).1 = .error (.parse e)) :
    ∃ tokens i t, g.tokenize text = .ok tokens ∧ FailsAt options.maxDepth i t e ∧
      i ≤ tokens.length ∧ t = tokens[i]? ∧ (t = none ↔ i = tokens.length) := by
  obtain ⟨-, heq⟩ | ⟨-, fault, -, heq⟩ | ⟨tokens, e', htokens, heq, i, hi, hfails⟩ :=
    parse_error_cases hg h
  · cases heq
  · cases heq
  · cases heq
    have hnone : tokens[i]? = none ↔ i = tokens.length := by
      rw [List.getElem?_eq_none_iff]
      exact ⟨hi.antisymm, ge_of_eq⟩
    exact ⟨tokens, i, tokens[i]?, htokens, hfails, hi, rfl, hnone⟩

theorem peek_of_mem_moments (hc : c ∈ g.moments root tokens options) :
    c.index ≤ tokens.size ∧ c.peek = tokens[c.index]? := by
  obtain ⟨before, after, hmoments⟩ := List.append_of_mem hc
  have hprefix : before ++ [c] <+: g.moments root tokens options :=
    ⟨after, by rw [hmoments, List.append_assoc, List.singleton_append]⟩
  obtain ⟨htokens, hwithin, -⟩ := of_moment hprefix
  rw [Context.Within, htokens] at hwithin
  exact ⟨hwithin, by rw [Context.peek, Context.tokenAt, htokens]⟩

/-- **A parse fails in three ways.**  In a grammar that has been accepted, a parse has nothing
defined for its root exactly if no rule has that name, whatever the text.  Otherwise it cannot split
the text exactly if the text cannot be split, because no pattern matches somewhere or one does that
starts with a question mark, and has no group or keeps its token in a condition and leads nowhere.
Otherwise it gives a tree or an error at a place within the tokens or right behind them, with the
token there, of which there is none behind them only. -/
theorem parse_errors (hg : Grammar.ofRules rules ignored ignoreCase = .ok g) (root text : String)
    (options : ParseOptions) :
    (∀ e, (g.parse root text options).1 = .error (.grammar e) ↔
      e = .unknownRoot root ∧ ∀ rule ∈ rules, rule.name ≠ root) ∧
    (∀ fault, (g.parse root text options).1 = .error (.scan fault) ↔
      (∃ rule ∈ rules, rule.name = root) ∧ g.tokenize text = .error fault) ∧
    (∀ fault, g.tokenize text = .error fault → (∃ e, fault = .lex e) ∨
      (∃ rule ∈ rules, ∃ pattern, rule.pattern? = some pattern ∧
        pattern.toList.head? = some '?' ∧ fault = .noGroup rule.name) ∨
      fault = .endless ∧ (∃ rule ∈ rules, rule.TakesAside ignoreCase) ∧
        ∃ ts d t, g.lexicon.Passes (.start text.toList) ts d ∧
          g.lexicon.pass? d = .ok (some (t, d))) ∧
    (∀ e, (g.parse root text options).1 = .error (.parse e) →
      ∃ tokens i t, g.tokenize text = .ok tokens ∧ FailsAt options.maxDepth i t e ∧
        i ≤ tokens.length ∧ t = tokens[i]? ∧ (t = none ↔ i = tokens.length)) ∧
    ∀ tokens, g.tokenize text = .ok tokens → ∀ c ∈ g.moments root tokens.toArray options,
      c.index ≤ tokens.length ∧ c.peek = tokens[c.index]? := by
  refine ⟨fun _ => parse_eq_grammar_iff hg, fun _ => parse_eq_scan_iff hg,
    fun _ => tokenize_error_cases hg, fun _ => exists_place_of_parse hg, ?_⟩
  intro tokens _ c hc
  have hpeek := peek_of_mem_moments hc
  rwa [List.size_toArray, List.getElem?_toArray] at hpeek

/-- The rules of one letter with the given pattern. -/
def letterRules (pattern : String) : List Rule :=
  [.lexer "LETTER" pattern,
    ⟨"letter", .parser, [.ofName "LETTER"], _, rfl, by simp, by simp, by decide⟩]

/-- The three ways in a grammar of one letter: a root without a rule, a text that is not split, and
two letters in place of one. -/
theorem letterRules_errors : ∃ g, Grammar.ofRules (letterRules "x") [] true = .ok g ∧
    (g.parse "word" "x" {}).1 = .error (.grammar (.unknownRoot "word")) ∧
    (g.parse "letter" "y" {}).1 = .error (.scan (.lex ⟨0, "y"⟩)) ∧
    ∃ e, (g.parse "letter" "xx" {}).1 = .error (.parse e) ∧ ∃ tokens i t,
      g.tokenize "xx" = .ok tokens ∧ FailsAt 1000 i t e ∧
      i ≤ tokens.length ∧ t = tokens[i]? ∧ (t = none ↔ i = tokens.length) := by
  have hruns : ((Grammar.ofRules (letterRules "x") [] true).toOption.map fun g =>
      (g.tokenize "y", (g.tokenize "xx").isOk, (g.parse "letter" "xx" {}).1.isOk)) =
      some (.error (.lex ⟨0, "y"⟩), true, false) := by
    decide +kernel
  have hroot : ∃ rule ∈ letterRules "x", rule.name = "letter" := by decide
  obtain ⟨g, hg, hruns⟩ := exists_ok_of_toOption hruns
  obtain ⟨hscan, hruns⟩ := Prod.mk.inj hruns
  obtain ⟨htokens, hfails⟩ := Prod.mk.inj hruns
  refine ⟨g, hg, ((parse_errors hg "word" "x" {}).1 _).2 ⟨rfl, by decide⟩,
    ((parse_errors hg "letter" "y" {}).2.1 _).2 ⟨hroot, hscan⟩, ?_⟩
  obtain ⟨hunknown, hunsplit, -, hplace, -⟩ := parse_errors hg "letter" "xx" {}
  cases hparse : (g.parse "letter" "xx" {}).1 with
  | ok n => rw [hparse] at hfails; cases hfails
  | error failure => cases failure with
    | grammar e =>
      obtain ⟨rule, hrule, hname⟩ := hroot
      exact absurd hname (((hunknown e).1 hparse).2 rule hrule)
    | scan fault => rw [((hunsplit fault).1 hparse).2] at htokens; cases htokens
    | parse e => exact ⟨e, rfl, hplace e hparse⟩

/-- The pattern `?:x` is accepted, and there is no way to take the `x` in a text as a token. -/
theorem letterRules_noGroup : ∃ g, Grammar.ofRules (letterRules "?:x") [] true = .ok g ∧
    (g.parse "letter" "x" {}).1 = .error (.scan (.noGroup "LETTER")) := by
  have hscan : ((Grammar.ofRules (letterRules "?:x") [] true).toOption.map fun g =>
      (g.hasRule "letter", g.tokenize "x")) = some (true, .error (.noGroup "LETTER")) := by
    decide +kernel
  obtain ⟨g, hg, hscan⟩ := exists_ok_of_toOption hscan
  obtain ⟨hroot, hscan⟩ := Prod.mk.inj hscan
  exact ⟨g, hg, by rw [parse, if_pos hroot, hscan]⟩

end Grammar

end OrderedGrammar
