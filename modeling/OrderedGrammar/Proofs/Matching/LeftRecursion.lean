import Mathlib.Logic.Relation
import OrderedGrammar.Proofs.Matching.Inversion
import OrderedGrammar.Proofs.Matching.Nesting

/-!
# Left recursion

The first thing that is done for a name is an attempt at the first symbol of its first alternative.
If this leads from name to name without end, and the first token is of none of the kinds on the way,
one frame is opened after the other while the cursor stays at the first token.  Such a parse is
given up at the limit, whatever other alternatives there are (`Grammar.leftRecursion_caught`).

## Main definitions

* `Grammar.BeginsWith` : the first alternative of a name begins with a symbol.
* `Grammar.Next` : the first alternative of a name begins with another name.
* `Grammar.Endless` : attempts at the first token lead from name to name.
-/

namespace OrderedGrammar

namespace Grammar

open Relation

/-- The first alternative of the name begins with the symbol. -/
def BeginsWith (g : Grammar) (name : String) (s : Symbol) : Prop :=
  ∃ rule, (g.alternativesOf name).head? = some rule ∧ rule.symbols.head? = some s

/-- The first alternative of the name begins with the other name. -/
def Next (g : Grammar) (name name' : String) : Prop := ∃ s, g.BeginsWith name s ∧ s.name = name'

variable {g : Grammar} {root name : String} {tokens : Array Token} {options : ParseOptions}

theorem exists_beginsWith (h : g.alternativesOf name ≠ []) :
    ∃ rule rules s symbols, g.alternativesOf name = rule :: rules ∧ rule.symbols = s :: symbols ∧
      g.BeginsWith name s := by
  obtain ⟨rule, rules, halts⟩ := List.exists_cons_of_ne_nil h
  obtain ⟨s, symbols, hsymbols⟩ := List.exists_cons_of_ne_nil rule.symbols_ne_nil
  exact ⟨rule, rules, s, symbols, halts, hsymbols, rule, by rw [halts]; rfl,
    by rw [hsymbols]; rfl⟩

/-- Attempts at the first token lead from one of the names to another one.  Neither is the token
taken for the symbol that a name begins with, nor is the symbol left out because there is none. -/
structure Endless (g : Grammar) (tokens : Array Token) (names : String → Prop) : Prop where
  alternatives_ne_nil : ∀ name, names name → g.alternativesOf name ≠ []
  next : ∀ name s, names name → g.BeginsWith name s → names s.name
  kind_ne : ∀ name s, names name → g.BeginsWith name s →
    ∀ t, tokens[0]? = some t → t.kind ≠ s.name
  required : ∀ name s, names name → g.BeginsWith name s → tokens = #[] → ¬s.optional

variable {names : String → Prop} {s : Symbol} {frames : List Frame} {r : Run}

theorem Endless.tryToken_eq_none (h : g.Endless tokens names) (hname : names name)
    (hbegins : g.BeginsWith name s) (hr : r.At tokens frames 0) :
    r.context.tryToken s.name = none := by
  rw [Context.tryToken, Context.peek, Context.tokenAt, hr.tokens_eq, hr.index_eq]
  cases hfirst : tokens[0]? with
  | none => rfl
  | some t => exact if_neg (h.kind_ne name s hname hbegins t hfirst)

theorem Endless.not_skipped (h : g.Endless tokens names) (hname : names name)
    (hbegins : g.BeginsWith name s) (hr : r.At tokens frames 0) :
    ¬(s.optional && r.context.atEnd) := by
  intro hskipped
  obtain ⟨hoptional, hend⟩ := Bool.and_eq_true_iff.1 hskipped
  have hempty : tokens = #[] :=
    Array.eq_empty_of_size_eq_zero (Nat.le_zero.1 (hr.atEnd_iff.1 hend))
  exact h.required name s hname hbegins hempty hoptional

/-- Whatever the number of frames that may still be opened, they are all opened at the first
token. -/
theorem Endless.matchRule_aborted (h : g.Endless tokens names) (verbose : Bool) (budget : ℕ) :
    ∀ {name rule rules frames} {r : Run}, names name → g.alternativesOf name = rule :: rules →
      r.At tokens frames 0 → ∃ r' frames',
        matchRule g verbose budget rule r = .aborted .tooDeep r' ∧ r'.At tokens frames' 0 := by
  induction budget with
  | zero =>
    intro name rule rules frames r _ _ hr
    exact ⟨r, frames, rfl, hr⟩
  | succ budget ih =>
    intro name rule rules frames r hname halts hr
    obtain ⟨rule₁, rules₁, s, symbols, halts₁, hsymbols, hbegins⟩ :=
      exists_beginsWith (h.alternatives_ne_nil name hname)
    obtain ⟨rfl, -⟩ := List.cons_eq_cons.1 (halts.symm.trans halts₁)
    have hentered := (hr.push rule).note verbose (.enter rule)
    set entered := (r.push rule).note verbose (.enter rule) with hdef
    -- what the symbol names is tried at the first token, by its own first alternative
    obtain ⟨rule', rules', -, -, halts', -, -⟩ :=
      exists_beginsWith (h.alternatives_ne_nil _ (h.next name s hname hbegins))
    obtain ⟨r', frames', haborted, hr'⟩ := ih (h.next name s hname hbegins) halts' hentered
    have hattempt : attempt g (matchRule g verbose budget) s.name entered =
        .aborted .tooDeep r' := by
      rw [attempt, h.tryToken_eq_none hname hbegins hentered]
      dsimp only
      rw [halts', firstMatch, haborted]
    have hsymbol : matchSymbol (attempt g (matchRule g verbose budget)) s entered =
        .aborted .tooDeep r' := by
      rw [matchSymbol, if_neg (h.not_skipped hname hbegins hentered), hattempt]
    refine ⟨r', frames', ?_, hr'⟩
    rw [matchRule, ← hdef, hsymbols, matchSymbols, hsymbol]

/-- A parse that begins with such a name is given up at the first token. -/
theorem Endless.parseWithin_eq (h : g.Endless tokens names) (hroot : names root) :
    g.parseWithin root tokens options = .error (.tooDeep options.maxDepth 0 tokens[0]?) := by
  obtain ⟨rule, rules, halts⟩ := List.exists_cons_of_ne_nil (h.alternatives_ne_nil root hroot)
  obtain ⟨r, frames, haborted, hr⟩ := h.matchRule_aborted options.verbose options.maxDepth.toNat
    hroot halts ((start_at tokens).seek 0)
  rw [parseWithin, halts, matchRoot, haborted]
  dsimp only [Except.mapError]
  rw [hr.index_eq, Context.peek, Context.tokenAt, hr.tokens_eq, hr.index_eq]

/-- Under a limit above the ceiling, it is given up there. -/
theorem Endless.parseTokens_eq (h : g.Endless tokens names) (hroot : names root)
    (hdepth : depthCeiling < options.maxDepth) :
    (g.parseTokens root tokens options).1 = .error (.parse (.exhausted 0 tokens[0]?)) := by
  obtain ⟨rule, rules, halts⟩ := List.exists_cons_of_ne_nil (h.alternatives_ne_nil root hroot)
  obtain ⟨r, frames, haborted, hr⟩ := h.matchRule_aborted options.verbose depthCeiling hroot halts
    ((start_at tokens).seek 0)
  have hbudget : min options.maxDepth.toNat depthCeiling = depthCeiling := min_eq_right (by omega)
  rw [parseTokens, halts]
  dsimp only
  rw [hbudget, matchRoot, haborted]
  dsimp only [Except.mapError]
  rw [abortError, if_neg (not_le_of_gt hdepth), hr.index_eq, Context.peek, Context.tokenAt,
    hr.tokens_eq, hr.index_eq]

/-- The names that a name leads to are endless if no kind of tokens is among them. -/
theorem endless_of_next {rules : List Rule} {ignored : List String} {ignoreCase : Bool}
    (hg : Grammar.ofRules rules ignored ignoreCase = .ok g) (hroot : g.alternativesOf root ≠ [])
    (hnext : ∀ name, TransGen g.Next root name → ¬g.isTokenKind name)
    (hfirst : ∀ t, tokens[0]? = some t → ¬TransGen g.Next root t.kind)
    (hempty : tokens = #[] → ∀ name s, ReflTransGen g.Next root name → g.BeginsWith name s →
      ¬s.optional) :
    g.Endless tokens (ReflTransGen g.Next root) where
  alternatives_ne_nil := by
    intro name hname
    rcases ReflTransGen.cases_tail hname with rfl | ⟨earlier, hearlier, s, hbegins, rfl⟩
    · exact hroot
    · obtain ⟨rule, hrule, hs⟩ := hbegins
      have hreached : TransGen g.Next root s.name :=
        TransGen.tail' hearlier ⟨s, ⟨rule, hrule, hs⟩, rfl⟩
      exact (isTokenKind_or_of_mem_symbols hg (List.mem_of_head? hrule)
        (List.mem_of_head? hs)).resolve_left (hnext _ hreached)
  next name s hname hbegins := hname.tail ⟨s, hbegins, rfl⟩
  kind_ne := by
    intro name s hname hbegins t ht hkind
    exact hfirst t ht (hkind ▸ TransGen.tail' hname ⟨s, hbegins, rfl⟩)
  required name s hname hbegins hnil := hempty hnil name s hname hbegins

/-- **Left recursion is always caught.**  Let the first symbols of first alternatives lead from the
root on to names that are no kinds of tokens, and let the first token be of none of these kinds; if
there is no token, let these symbols not be optional.  Then a parse is given up because rules nest
too deep, at the first token, even if another alternative would match. -/
theorem leftRecursion_caught {rules : List Rule} {ignored : List String} {ignoreCase : Bool}
    (hg : Grammar.ofRules rules ignored ignoreCase = .ok g) (hroot : g.alternativesOf root ≠ [])
    (hnext : ∀ name, TransGen g.Next root name → ¬g.isTokenKind name)
    (hfirst : ∀ t, tokens[0]? = some t → ¬TransGen g.Next root t.kind)
    (hempty : tokens = #[] → ∀ name s, ReflTransGen g.Next root name → g.BeginsWith name s →
      ¬s.optional) :
    g.parseWithin root tokens options = .error (.tooDeep options.maxDepth 0 tokens[0]?) ∧
      (options.maxDepth ≤ depthCeiling → (g.parseTokens root tokens options).1 =
        .error (.parse (.tooDeep options.maxDepth 0 tokens[0]?))) := by
  have hwithin : g.parseWithin root tokens options =
      .error (.tooDeep options.maxDepth 0 tokens[0]?) :=
    (endless_of_next hg hroot hnext hfirst hempty).parseWithin_eq .refl
  refine ⟨hwithin, fun hle => ?_⟩
  rcases parseTokens_eq_parseWithin hroot with heq | ⟨hlt, -⟩
  · rw [heq, hwithin]
    rfl
  · exact absurd hlt (not_lt_of_ge hle)

/-- The rules for sums that begin with sums, by way of another name. -/
def sumRules : List Rule :=
  [.lexer "NUMBER" "[0-9]+", .lexer "PLUS" "\\+",
    ⟨"expr", .parser, [.ofModifier "sum" .required ""], _, rfl, by simp, by simp, by decide⟩,
    ⟨"expr", .parser, [.ofName "NUMBER"], _, rfl, by simp, by simp, by decide⟩,
    ⟨"sum", .parser, [.ofName "expr", .ofName "PLUS", .ofName "NUMBER"], _, rfl, by simp, by simp,
      by decide⟩]

/-- Here the second alternative of the root would match the token. -/
theorem sumRules_caught : ∃ g, Grammar.ofRules sumRules [] false = .ok g ∧
    (∀ name, TransGen g.Next "expr" name → name = "expr" ∨ name = "sum") ∧
    (∃ rule ∈ g.alternativesOf "expr", ∃ d, g.RuleMatches #["NUMBER"] ⊤ rule 0 (some (d, 1))) ∧
    (g.parseTokens "expr" #[⟨"NUMBER", "1", 0⟩] {}).1 =
      .error (.parse (.tooDeep 1000 0 (some ⟨"NUMBER", "1", 0⟩))) := by
  obtain ⟨g, hg⟩ : ∃ g, Grammar.ofRules sumRules [] false = .ok g :=
    exists_ok_of_isOk (by decide +kernel)
  have hnext : ∀ {name name'}, name = "expr" ∨ name = "sum" → g.Next name name' →
      name' = "expr" ∨ name' = "sum" := by
    rintro name name' hname ⟨s, ⟨rule, hrule, hs⟩, rfl⟩
    rw [alternativesOf_of_ofRules hg] at hrule
    rcases hname with rfl | rfl
    · obtain rfl := Option.some.inj hrule
      obtain rfl := Option.some.inj hs
      exact .inr rfl
    · obtain rfl := Option.some.inj hrule
      obtain rfl := Option.some.inj hs
      exact .inl rfl
  have hreached : ∀ name, TransGen g.Next "expr" name → name = "expr" ∨ name = "sum" := by
    intro name hname
    induction hname with
    | single h => exact hnext (.inl rfl) h
    | tail _ h ih => exact hnext ih h
  have hkind {name : String} (hname : name = "expr" ∨ name = "sum") : ¬g.isTokenKind name := by
    rw [isTokenKind, (of_ofRules hg).2.1]
    rcases hname with rfl | rfl <;> decide
  have halts : g.alternativesOf "expr" ≠ [] := by
    rw [alternativesOf_of_ofRules hg]
    decide
  refine ⟨g, hg, hreached, ?_, ?_⟩
  · -- the token alone is the second alternative of the root
    obtain ⟨rule, hrule, hsymbols⟩ : ∃ rule ∈ g.alternativesOf "expr",
        rule.symbols = [.ofName "NUMBER"] := by
      rw [alternativesOf_of_ofRules hg]
      exact ⟨_, List.mem_cons_of_mem _ List.mem_cons_self, rfl⟩
    refine ⟨rule, hrule, _, ruleMatches_iff.2 ⟨⊤, rfl, some ([(.ofName "NUMBER", .leaf 0)], 1),
      ?_, rfl⟩⟩
    rw [hsymbols]
    exact symbolsMatch_cons_some.2 ⟨[.leaf 0], 1, [],
      .single (by simp) (by decide) (.token rfl), .nil, rfl⟩
  · refine (leftRecursion_caught hg halts (fun name hname => hkind (hreached name hname))
      (fun t ht hname => ?_) (by simp)).2 (by decide)
    obtain rfl := Option.some.inj ht
    exact absurd (hreached _ hname) (by decide)

end Grammar

end OrderedGrammar
