import OrderedGrammar.Proofs.Matching.Inversion
import OrderedGrammar.Proofs.Matching.Machine
import OrderedGrammar.Proofs.Construction

/-!
# Optional symbols behind the last token

A symbol that may be left out is left out at the end of the tokens without an attempt
(`matchSymbol_eq`).  The matcher could as well attempt it there (`matchSymbolAnywhere`): unless
rules nest too deep then, tokens are accepted and rejected alike, with the same errors
(`Grammar.parseTokens_anywhere`).  What matches there takes no token, so it can only add to the
tree, and where none of these symbols can match nothing, even the trees are the same.

The functions of the matcher are given with the way of matching a symbol as a parameter, and one way
covers another if it does the same unless that one is given up (`Outcome.Covered`).

## Main definitions

* `matchSymbolAnywhere` : matches a symbol, with an attempt also at the end of the tokens.
* `Grammar.parseTokensBy` : parses tokens with a given way of matching symbols.
* `Grammar.NoEmptyOptional` : no symbol that may be left out can match nothing at the end.
-/

namespace OrderedGrammar

/-! ### Other ways of matching a symbol -/

/-- A way of matching a symbol, over that of attempting a name. -/
abbrev SymbolMatcher : Type := (String → Run → Outcome Tree) → Symbol → Run → Outcome Unit

/-- Matches a symbol as often as it asks for, even if it may be left out and no token is left. -/
def matchSymbolAnywhere : SymbolMatcher := fun attempt s r =>
  match attempt s.name r with
  | .matched value r' =>
    r'.store s value fun r'' =>
      if s.repeatable && r''.index ≠ r.index then
        furtherRounds (attempt s.name) s (r.context.tokens.size - r.index) r''
      else .matched () r''
  | .failed r' =>
    if s.optional then .matched () (r'.seek r.index) else .failed (r'.seek r.index)
  | .aborted e r' => .aborted e r'

/-- Matches symbols one after the other, each in the given way. -/
def matchSymbolsBy (one : Symbol → Run → Outcome Unit) : List Symbol → Run → Outcome Unit
  | [], r => .matched () r
  | s :: rest, r =>
    match one s r with
    | .matched () r' => matchSymbolsBy one rest r'
    | other => other

/-- Matches one alternative, each symbol in the given way. -/
def matchRuleBy (way : SymbolMatcher) (g : Grammar) (verbose : Bool) :
    ℕ → Rule → Run → Outcome Tree
  | 0, _, r => .aborted .tooDeep r
  | budget + 1, rule, r =>
    let entered := (r.push rule).note verbose (.enter rule)
    match matchSymbolsBy (way (attempt g (matchRuleBy way g verbose budget))) rule.symbols
      entered with
    | .matched () r' =>
      r'.pop fun frame r'' => .matched frame.result (r''.note verbose (.succeed rule.name))
    | .failed r' =>
      ((r'.seek r.index).note verbose (.fail rule.name)).pop fun _ r'' => .failed r''
    | .aborted e r' => .aborted e r'

namespace Grammar

/-- Matches all tokens, each symbol in the given way. -/
def matchRootBy (way : SymbolMatcher) (g : Grammar) (verbose : Bool) (budget : ℕ) (root : String) :
    List Rule → Run → Except (Option Abort) Node × Run
  | [], r => (.error none, r)
  | rule :: rest, r =>
    match matchRuleBy way g verbose budget rule (r.seek 0) with
    | .matched value r' =>
      if r'.context.atEnd then (.ok (rootNode root value), r'.note verbose (.accept rule))
      else matchRootBy way g verbose budget root rest r'
    | .failed r' => matchRootBy way g verbose budget root rest r'
    | .aborted e r' => (.error (some e), r')

/-- Parses tokens, each symbol in the given way. -/
def parseTokensBy (way : SymbolMatcher) (g : Grammar) (root : String) (tokens : Array Token)
    (options : ParseOptions) : Except ParseFailure Node × List TraceLine :=
  match g.alternativesOf root with
  | [] =>
    if g.isTokenKind root then
      ((matchToken root (.start tokens)).mapError .parse, [])
    else (.error (.grammar (.unknownRoot root)), [])
  | rules =>
    let budget := min options.maxDepth.toNat depthCeiling
    let (result, r) := g.matchRootBy way options.verbose budget root rules (.start tokens)
    let result := result.mapError fun
      | none => .parse (rejection r.context)
      | some abort => .parse (abortError options.maxDepth r.context abort)
    (result, r.trace.reverse)

end Grammar

/-! ### The way of the matcher -/

theorem matchSymbol_eq (attempt : String → Run → Outcome Tree) (s : Symbol) (r : Run) :
    matchSymbol attempt s r =
      if s.optional && r.context.atEnd then .matched () r else matchSymbolAnywhere attempt s r :=
  rfl

theorem matchSymbolsBy_matchSymbol (attempt : String → Run → Outcome Tree) (symbols : List Symbol) :
    ∀ r, matchSymbolsBy (matchSymbol attempt) symbols r = matchSymbols attempt symbols r := by
  induction symbols with
  | nil => intro r; rfl
  | cons s symbols ih =>
    intro r
    rw [matchSymbolsBy, matchSymbols]
    cases matchSymbol attempt s r with
    | matched _ r' => exact ih r'
    | failed r' => rfl
    | aborted e r' => rfl

theorem matchRuleBy_matchSymbol (g : Grammar) (verbose : Bool) (budget : ℕ) :
    matchRuleBy matchSymbol g verbose budget = matchRule g verbose budget := by
  induction budget with
  | zero => funext rule r; rfl
  | succ budget ih =>
    funext rule r
    rw [matchRuleBy, ih, matchSymbolsBy_matchSymbol]
    rfl

namespace Grammar

theorem matchRootBy_matchSymbol (g : Grammar) (verbose : Bool) (budget : ℕ) (root : String)
    (rules : List Rule) : ∀ r, g.matchRootBy matchSymbol verbose budget root rules r =
      g.matchRoot verbose budget root rules r := by
  induction rules with
  | nil => intro r; rfl
  | cons rule rules ih =>
    intro r
    rw [matchRootBy, matchRoot, matchRuleBy_matchSymbol]
    cases matchRule g verbose budget rule (r.seek 0) with
    | matched value r' =>
      dsimp only
      rw [ih r']
    | failed r' => exact ih r'
    | aborted e r' => rfl

/-- The matcher is the one that matches each symbol in its own way. -/
theorem parseTokensBy_matchSymbol (g : Grammar) (root : String) (tokens : Array Token)
    (options : ParseOptions) :
    g.parseTokensBy matchSymbol root tokens options = g.parseTokens root tokens options := by
  rw [parseTokensBy]
  simp only [matchRootBy_matchSymbol]
  rfl

end Grammar

/-! ### Runs that keep more or less -/

attribute [ext] Context

/-- Two runs have come equally far, and if `same` holds, they keep the same. -/
structure Run.Beside (same : Prop) (tokens : Array Token) (depth i : ℕ) (r r' : Run) : Prop where
  left : r.AtDepth tokens depth i
  right : r'.AtDepth tokens depth i
  le_best : i ≤ r.context.best
  best_le : r.context.best ≤ tokens.size
  best_eq : r'.context.best = r.context.best
  context_eq : same → r'.context = r.context

/-- An attempt made at the index `i` with a number of frames open does what another one does, unless
that is given up for want of frames.  If `same` holds, the values are the same. -/
inductive Outcome.Covered {α : Type} (same : Prop) (tokens : Array Token) (depth i : ℕ) :
    Outcome α → Outcome α → Prop
  | matched {a a' : α} {r r' : Run} {j : ℕ} : i ≤ j → (same → a' = a) →
      r.Beside same tokens depth j r' →
      Covered same tokens depth i (.matched a r) (.matched a' r')
  | failed {r r' : Run} {j : ℕ} : i ≤ j → r.Beside same tokens depth j r' →
      Covered same tokens depth i (.failed r) (.failed r')
  | tooDeep {o : Outcome α} {r' : Run} :
      Covered same tokens depth i o (.aborted .tooDeep r')

variable {same : Prop} {tokens : Array Token} {depth i j : ℕ} {r r' : Run}

theorem Outcome.Covered.of_le {α : Type} {o o' : Outcome α} (hij : i ≤ j)
    (h : o.Covered same tokens depth j o') : o.Covered same tokens depth i o' := by
  cases h with
  | matched hjk ha hr => exact .matched (hij.trans hjk) ha hr
  | failed hjk hr => exact .failed (hij.trans hjk) hr
  | tooDeep => exact .tooDeep

namespace Run.Beside

theorem seek (h : r.Beside same tokens depth i r') (hj : j ≤ tokens.size) :
    (r.seek j).Beside same tokens depth j (r'.seek j) where
  left := h.left.seek hj
  right := h.right.seek hj
  le_best := le_max_right _ _
  best_le := max_le h.best_le hj
  best_eq := congrArg (max · j) h.best_eq
  context_eq hsame := congrArg (Context.seek · j) (h.context_eq hsame)

theorem note (h : r.Beside same tokens depth i r') (verbose : Bool) (event : TraceEvent) :
    (r.note verbose event).Beside same tokens depth i (r'.note verbose event) where
  left := h.left.note verbose event
  right := h.right.note verbose event
  le_best := by simpa using h.le_best
  best_le := by simpa using h.best_le
  best_eq := by simpa using h.best_eq
  context_eq hsame := by simpa using h.context_eq hsame

theorem push (h : r.Beside same tokens depth i r') (rule : Rule) :
    (r.push rule).Beside same tokens (depth + 1) i (r'.push rule) where
  left := h.left.push rule
  right := h.right.push rule
  le_best := h.le_best
  best_le := h.best_le
  best_eq := h.best_eq
  context_eq hsame := congrArg (Context.push · rule) (h.context_eq hsame)

/-- Both runs close their frames. -/
theorem pop (h : r.Beside same tokens (depth + 1) i r') :
    ∃ f f' r₁ r₁', (same → f' = f) ∧ r₁.Beside same tokens depth i r₁' ∧
      (∀ {α : Type} (next : Frame → Run → Outcome α), r.pop next = next f r₁) ∧
      ∀ {α : Type} (next : Frame → Run → Outcome α), r'.pop next = next f' r₁' := by
  obtain ⟨f, c, hpop, hr, hnext⟩ := h.left.exists_pop
  obtain ⟨f', c', hpop', hr', hnext'⟩ := h.right.exists_pop
  have hbest : c.best = r.context.best := by
    obtain ⟨rest, -, rfl⟩ := Context.exists_of_pop hpop
    rfl
  have hbest' : c'.best = r'.context.best := by
    obtain ⟨rest, -, rfl⟩ := Context.exists_of_pop hpop'
    rfl
  have hsame (hs : same) : f' = f ∧ c' = c := by
    rw [h.context_eq hs, hpop] at hpop'
    cases hpop'
    exact ⟨rfl, rfl⟩
  refine ⟨f, f', ⟨c, r.trace⟩, ⟨c', r'.trace⟩, fun hs => (hsame hs).1, ?_, hnext, hnext'⟩
  exact ⟨hr, hr', hbest ▸ h.le_best, hbest ▸ h.best_le, by rw [hbest, hbest', h.best_eq],
    fun hs => (hsame hs).2⟩

/-- Both runs keep their matches. -/
theorem store (h : r.Beside same tokens (depth + 1) i r') (s : Symbol) {value value' : Tree}
    (hvalue : same → value' = value) :
    ∃ r₁ r₁', r₁.Beside same tokens (depth + 1) i r₁' ∧
      (∀ {α : Type} (next : Run → Outcome α), r.store s value next = next r₁) ∧
      ∀ {α : Type} (next : Run → Outcome α), r'.store s value' next = next r₁' := by
  obtain ⟨c, hkeep, hr, hnext⟩ := h.left.exists_keep s value
  obtain ⟨c', hkeep', hr', hnext'⟩ := h.right.exists_keep s value'
  have hbest : c.best = r.context.best := Context.best_of_keep hkeep
  have hbest' : c'.best = r'.context.best := Context.best_of_keep hkeep'
  refine ⟨⟨c, r.trace⟩, ⟨c', r'.trace⟩, ?_, hnext, hnext'⟩
  refine ⟨hr, hr', hbest ▸ h.le_best, hbest ▸ h.best_le, by rw [hbest, hbest', h.best_eq], ?_⟩
  intro hs
  rw [h.context_eq hs, hvalue hs, hkeep] at hkeep'
  exact (Except.ok.inj hkeep').symm

/-- Where no token is left, both runs have come as far as they can. -/
theorem best_at_end (h : r.Beside same tokens depth tokens.size r') :
    r.context.best = tokens.size ∧ r'.context.best = tokens.size := by
  have hbest : r.context.best = tokens.size := le_antisymm h.best_le h.le_best
  exact ⟨hbest, h.best_eq.trans hbest⟩

theorem atEnd_eq (h : r.Beside same tokens depth i r') :
    r'.context.atEnd = r.context.atEnd := by
  simp only [Context.atEnd, h.left.tokens_eq, h.right.tokens_eq, h.left.index_eq, h.right.index_eq]

/-- Both runs take the next token, or none does. -/
theorem tryToken (h : r.Beside same tokens depth i r') (kind : String) :
    r.context.tryToken kind = none ∧ r'.context.tryToken kind = none ∨
    ∃ t, i < tokens.size ∧ r.context.tryToken kind = some (t, (r.seek (i + 1)).context) ∧
      r'.context.tryToken kind = some (t, (r'.seek (i + 1)).context) := by
  simp only [Context.tryToken, Context.peek, Context.tokenAt, h.left.tokens_eq, h.right.tokens_eq,
    h.left.index_eq, h.right.index_eq]
  cases ht : tokens[i]? with
  | none => exact .inl ⟨rfl, rfl⟩
  | some t =>
    obtain ⟨hlt, -⟩ := Array.getElem?_eq_some_iff.1 ht
    by_cases hkind : t.kind = kind
    · exact .inr ⟨t, hlt, if_pos hkind, if_pos hkind⟩
    · exact .inl ⟨if_neg hkind, if_neg hkind⟩

end Run.Beside

/-! ### The matcher -/

/-- Attempts at each name cover those of another kind. -/
def AttemptsCovered (same : Prop) (tokens : Array Token)
    (attempt attempt' : String → Run → Outcome Tree) : Prop :=
  ∀ name {depth i : ℕ} {r r' : Run}, r.Beside same tokens depth i r' →
    (attempt name r).Covered same tokens depth i (attempt' name r')

/-- A symbol matched in one way covers the symbol matched in another way. -/
def SymbolCovered (same : Prop) (tokens : Array Token) (one one' : Symbol → Run → Outcome Unit)
    (s : Symbol) : Prop :=
  ∀ {depth i : ℕ} {r r' : Run}, r.Beside same tokens (depth + 1) i r' →
    (one s r).Covered same tokens (depth + 1) i (one' s r')

/-- An alternative matched in one way covers the alternative matched in another way. -/
def RuleCovered (same : Prop) (tokens : Array Token)
    (matchOne matchOne' : Rule → Run → Outcome Tree) (rule : Rule) : Prop :=
  ∀ {depth i : ℕ} {r r' : Run}, r.Beside same tokens depth i r' →
    (matchOne rule r).Covered same tokens depth i (matchOne' rule r')

section Functions

variable {attempt attempt' : String → Run → Outcome Tree} {s : Symbol}

theorem furtherRounds_covered (h : AttemptsCovered same tokens attempt attempt') (s : Symbol)
    (fuel : ℕ) : ∀ {i : ℕ} {r r' : Run}, r.Beside same tokens (depth + 1) i r' →
    (furtherRounds (attempt s.name) s fuel r).Covered same tokens (depth + 1) i
      (furtherRounds (attempt' s.name) s fuel r') := by
  induction fuel with
  | zero => intro i r r' hr; exact .matched le_rfl (fun _ => rfl) hr
  | succ fuel ih =>
    intro i r r' hr
    have hatt := h s.name hr
    rw [furtherRounds, furtherRounds]
    generalize attempt s.name r = o at hatt ⊢
    generalize attempt' s.name r' = o' at hatt ⊢
    cases hatt with
    | matched hij hvalue hr₁ =>
      obtain ⟨r₂, r₂', hr₂, hstore, hstore'⟩ := hr₁.store s hvalue
      dsimp only
      rw [hstore, hstore', hr₂.left.index, hr₂.right.index, hr.left.index, hr.right.index]
      split
      · exact .matched hij (fun _ => rfl) hr₂
      · exact (ih hr₂).of_le hij
    | failed hij hr₁ => exact .matched hij (fun _ => rfl) hr₁
    | tooDeep => exact .tooDeep

theorem matchSymbolAnywhere_covered (h : AttemptsCovered same tokens attempt attempt')
    (s : Symbol) :
    SymbolCovered same tokens (matchSymbolAnywhere attempt) (matchSymbolAnywhere attempt') s := by
  intro depth i r r' hr
  have hatt := h s.name hr
  rw [matchSymbolAnywhere, matchSymbolAnywhere]
  generalize attempt s.name r = o at hatt ⊢
  generalize attempt' s.name r' = o' at hatt ⊢
  cases hatt with
  | matched hij hvalue hr₁ =>
    obtain ⟨r₂, r₂', hr₂, hstore, hstore'⟩ := hr₁.store s hvalue
    dsimp only
    rw [hstore, hstore', hr₂.left.index, hr₂.right.index, hr.left.index, hr.right.index,
      hr.left.tokens_eq, hr.right.tokens_eq]
    split
    · exact (furtherRounds_covered h s _ hr₂).of_le hij
    · exact .matched hij (fun _ => rfl) hr₂
  | failed _ hr₁ =>
    have hback := hr₁.seek hr.left.index_le
    dsimp only
    rw [hr.left.index, hr.right.index]
    split
    · exact .matched le_rfl (fun _ => rfl) hback
    · exact .failed le_rfl hback
  | tooDeep => exact .tooDeep

/-- What is attempted at the end of the tokens leads nowhere.  Only the tree can tell that a symbol
has matched there. -/
theorem matchSymbol_covered {g : Grammar} {limit : ℕ∞}
    (hfollows : AttemptsFollow g tokens limit attempt)
    (h : AttemptsCovered same tokens attempt attempt')
    (hs : same → s.optional → ∀ d,
      ¬g.NameMatches (kindsOf tokens) limit s.name tokens.size (some (d, tokens.size))) :
    SymbolCovered same tokens (matchSymbol attempt) (matchSymbolAnywhere attempt') s := by
  intro depth i r r' hr
  rw [matchSymbol_eq]
  split
  · next hend =>
    obtain ⟨hoptional, hend⟩ := Bool.and_eq_true_iff.1 hend
    obtain rfl : i = tokens.size := by
      have hle := hr.left.index_le
      have hge : r.context.tokens.size ≤ r.context.index := of_decide_eq_true hend
      rw [hr.left.tokens_eq, hr.left.index_eq] at hge
      omega
    -- the other run goes through the attempt, which this one can make just as well
    have hatt := h s.name hr
    have hfollow := hfollows s.name r r.context.frames _
      ⟨hr.left.tokens_eq, rfl, hr.left.index_eq⟩ le_rfl
    rw [matchSymbolAnywhere]
    generalize attempt s.name r = o at hatt hfollow
    generalize attempt' s.name r' = o' at hatt ⊢
    cases hatt with
    | @matched _ _ r₁ r₁' j hij hvalue hr₁ =>
      obtain ⟨d, k, hd, -, hr₁k⟩ := hfollow
      obtain rfl : j = tokens.size := le_antisymm hr₁.left.index_le hij
      obtain rfl : k = tokens.size := hr₁k.index.symm.trans hr₁.left.index
      -- it has matched without a token, and keeps a value that this one has not
      have hno : ¬same := fun hsame => hs hsame hoptional d hd
      obtain ⟨r₂, r₂', hr₂, -, hstore'⟩ := hr₁.store s hvalue
      dsimp only
      rw [hstore', hr₂.right.index, hr.right.index, if_neg (by simp)]
      exact .matched le_rfl (fun _ => rfl) ⟨hr.left, hr₂.right, hr.le_best, hr.best_le,
        hr₂.best_at_end.2.trans hr.best_at_end.1.symm, fun hsame => absurd hsame hno⟩
    | @failed r₁ r₁' j hij hr₁ =>
      obtain ⟨-, hr₁i⟩ := hfollow
      have hback := hr₁.seek (j := tokens.size) le_rfl
      dsimp only
      rw [if_pos hoptional, hr.right.index]
      refine .matched le_rfl (fun _ => rfl) ⟨hr.left, hback.right, hr.le_best, hr.best_le,
        hback.best_at_end.2.trans hr.best_at_end.1.symm, fun hsame => ?_⟩
      rw [hback.context_eq hsame]
      apply Context.ext
      · exact hr₁i.tokens_eq.trans hr.left.tokens_eq.symm
      · exact hr.left.index_eq.symm
      · exact hback.best_at_end.1.trans hr.best_at_end.1.symm
      · exact hr₁i.frames_eq
    | tooDeep => exact .tooDeep
  · exact matchSymbolAnywhere_covered h s hr

theorem matchSymbolsBy_covered {one one' : Symbol → Run → Outcome Unit} {symbols : List Symbol}
    (h : ∀ s ∈ symbols, SymbolCovered same tokens one one' s) : ∀ {i : ℕ} {r r' : Run},
    r.Beside same tokens (depth + 1) i r' →
    (matchSymbolsBy one symbols r).Covered same tokens (depth + 1) i
      (matchSymbolsBy one' symbols r') := by
  induction symbols with
  | nil => intro i r r' hr; exact .matched le_rfl (fun _ => rfl) hr
  | cons s symbols ih =>
    intro i r r' hr
    obtain ⟨hs, hsymbols⟩ := List.forall_mem_cons.1 h
    have hsym := hs hr
    rw [matchSymbolsBy, matchSymbolsBy]
    generalize one s r = o at hsym ⊢
    generalize one' s r' = o' at hsym ⊢
    cases hsym with
    | matched hij _ hr₁ => exact (ih hsymbols hr₁).of_le hij
    | failed hij hr₁ => exact .failed hij hr₁
    | tooDeep => exact .tooDeep

variable {matchOne matchOne' : Rule → Run → Outcome Tree}

theorem firstMatch_covered {rules : List Rule}
    (h : ∀ rule ∈ rules, RuleCovered same tokens matchOne matchOne' rule) : ∀ {i : ℕ} {r r' : Run},
    r.Beside same tokens depth i r' →
    (firstMatch matchOne rules r).Covered same tokens depth i (firstMatch matchOne' rules r') := by
  induction rules with
  | nil => intro i r r' hr; exact .failed le_rfl hr
  | cons rule rules ih =>
    intro i r r' hr
    obtain ⟨hrule, hrules⟩ := List.forall_mem_cons.1 h
    have hone := hrule hr
    rw [firstMatch, firstMatch]
    generalize matchOne rule r = o at hone ⊢
    generalize matchOne' rule r' = o' at hone ⊢
    cases hone with
    | matched hij hvalue hr₁ => exact .matched hij hvalue hr₁
    | failed hij hr₁ => exact (ih hrules hr₁).of_le hij
    | tooDeep => exact .tooDeep

theorem attempt_covered {g : Grammar}
    (h : ∀ name, ∀ rule ∈ g.alternativesOf name, RuleCovered same tokens matchOne matchOne' rule) :
    AttemptsCovered same tokens (OrderedGrammar.attempt g matchOne)
      (OrderedGrammar.attempt g matchOne') := by
  intro name depth i r r' hr
  rw [OrderedGrammar.attempt, OrderedGrammar.attempt]
  rcases hr.tryToken name with ⟨hnone, hnone'⟩ | ⟨t, hlt, hsome, hsome'⟩
  · rw [hnone, hnone']
    exact firstMatch_covered (h name) hr
  · rw [hsome, hsome']
    exact .matched (Nat.le_succ i) (fun _ => rfl) (hr.seek hlt)

end Functions

/-- No symbol that may be left out names something that can match nothing at the end of the
tokens. -/
def Grammar.NoEmptyOptional (g : Grammar) (tokens : Array Token) : Prop :=
  ∀ name, ∀ rule ∈ g.alternativesOf name, ∀ s ∈ rule.symbols, s.optional → ∀ d,
    ¬g.NameMatches (kindsOf tokens) ⊤ s.name tokens.size (some (d, tokens.size))

/-- **An attempt that leaves symbols out at the end of the tokens covers one that does not.** -/
theorem matchRuleBy_covered (g : Grammar) (tokens : Array Token) (verbose : Bool) (budget : ℕ) :
    ∀ name, ∀ rule ∈ g.alternativesOf name, RuleCovered (g.NoEmptyOptional tokens) tokens
      (matchRuleBy matchSymbol g verbose budget) (matchRuleBy matchSymbolAnywhere g verbose budget)
      rule := by
  induction budget with
  | zero => intro name rule hrule depth i r r' hr; exact .tooDeep
  | succ budget ih =>
    intro name rule hrule depth i r r' hr
    have hfollows : AttemptsFollow g tokens budget
        (attempt g (matchRuleBy matchSymbol g verbose budget)) := by
      rw [matchRuleBy_matchSymbol]
      exact attempt_follows (matchRule_follows g tokens verbose budget)
    have hsyms := matchSymbolsBy_covered
      (fun s hs => matchSymbol_covered hfollows (attempt_covered ih) fun hsame hoptional d hd =>
        hsame name rule hrule s hs hoptional d (hd.mono le_top))
      ((hr.push rule).note verbose (.enter rule))
    rw [matchRuleBy, matchRuleBy]
    generalize matchSymbolsBy _ rule.symbols _ = o at hsyms ⊢
    generalize matchSymbolsBy _ rule.symbols _ = o' at hsyms ⊢
    cases hsyms with
    | matched hij _ hr₁ =>
      obtain ⟨f, f', r₂, r₂', hf, hr₂, hpop, hpop'⟩ := hr₁.pop
      dsimp only
      rw [hpop, hpop']
      exact .matched hij (fun hsame => congrArg Frame.result (hf hsame)) (hr₂.note _ _)
    | failed _ hr₁ =>
      have hback := (hr₁.seek hr.left.index_le).note verbose (.fail rule.name)
      obtain ⟨f, f', r₂, r₂', -, hr₂, hpop, hpop'⟩ := hback.pop
      dsimp only
      rw [hr.left.index, hr.right.index, hpop, hpop']
      exact .failed le_rfl hr₂
    | tooDeep => exact .tooDeep

/-! ### Parses -/

namespace Grammar

variable {g : Grammar} {root : String} {options : ParseOptions}

/-- The search through the alternatives of a root does what another one does, unless that is given
up for want of frames. -/
inductive RootCovered (same : Prop) (tokens : Array Token) :
    Except (Option Abort) Node × Run → Except (Option Abort) Node × Run → Prop
  | ok {n n' : Node} {r r' : Run} : (same → n' = n) →
      RootCovered same tokens (.ok n, r) (.ok n', r')
  | failed {r r' : Run} : r'.context.tokens = r.context.tokens → r'.context.best = r.context.best →
      RootCovered same tokens (.error none, r) (.error none, r')
  | tooDeep {result : Except (Option Abort) Node × Run} {r' : Run} :
      RootCovered same tokens result (.error (some .tooDeep), r')

theorem matchRootBy_covered (g : Grammar) (tokens : Array Token) (verbose : Bool) (budget : ℕ)
    (root : String) {rules : List Rule} (hrules : ∀ rule ∈ rules, rule ∈ g.alternativesOf root) :
    ∀ {i : ℕ} {r r' : Run}, r.Beside (g.NoEmptyOptional tokens) tokens 0 i r' →
    RootCovered (g.NoEmptyOptional tokens) tokens
      (g.matchRootBy matchSymbol verbose budget root rules r)
      (g.matchRootBy matchSymbolAnywhere verbose budget root rules r') := by
  induction rules with
  | nil =>
    intro i r r' hr
    exact .failed (hr.right.tokens_eq.trans hr.left.tokens_eq.symm) hr.best_eq
  | cons rule rules ih =>
    intro i r r' hr
    obtain ⟨hrule, hrules⟩ := List.forall_mem_cons.1 hrules
    have hone := matchRuleBy_covered g tokens verbose budget root rule hrule
      (hr.seek (Nat.zero_le _))
    rw [matchRootBy, matchRootBy]
    generalize matchRuleBy matchSymbol g verbose budget rule (r.seek 0) = o at hone ⊢
    generalize matchRuleBy matchSymbolAnywhere g verbose budget rule (r'.seek 0) = o' at hone ⊢
    cases hone with
    | matched _ hvalue hr₁ =>
      dsimp only
      rw [hr₁.atEnd_eq]
      split
      · exact .ok fun hsame => congrArg _ (hvalue hsame)
      · exact ih hrules hr₁
    | failed _ hr₁ => exact ih hrules hr₁
    | tooDeep => exact .tooDeep

/-- A parse has the result of another one that is not given up, if need be with another tree. -/
theorem parseTokensBy_covered {tokens : Array Token}
    (hdepth : ∀ e, (g.parseTokensBy matchSymbolAnywhere root tokens options).1 = .error e →
      ¬e.IsNesting) :
    ((g.parseTokensBy matchSymbol root tokens options).1.map fun _ => ()) =
      ((g.parseTokensBy matchSymbolAnywhere root tokens options).1.map fun _ => ()) ∧
    (g.NoEmptyOptional tokens → (g.parseTokensBy matchSymbol root tokens options).1 =
      (g.parseTokensBy matchSymbolAnywhere root tokens options).1) := by
  have hstart : (Run.start tokens).AtDepth tokens 0 0 :=
    ⟨rfl, rfl, Nat.zero_le _, rfl, by rintro f ⟨⟩⟩
  have hall : ∀ rule ∈ g.alternativesOf root, rule ∈ g.alternativesOf root := fun _ h => h
  have hroot := matchRootBy_covered g tokens options.verbose
    (min options.maxDepth.toNat depthCeiling) root hall
    ⟨hstart, hstart, le_rfl, Nat.zero_le _, rfl, fun _ => rfl⟩
  rw [parseTokensBy] at hdepth
  rw [parseTokensBy, parseTokensBy]
  cases halts : g.alternativesOf root with
  | nil => exact ⟨rfl, fun _ => rfl⟩
  | cons rule rules =>
    rw [halts] at hroot hdepth
    dsimp only at hdepth ⊢
    generalize g.matchRootBy matchSymbol _ _ root (rule :: rules) _ = result at hroot ⊢
    generalize g.matchRootBy matchSymbolAnywhere _ _ root (rule :: rules) _ = result'
      at hroot hdepth ⊢
    cases hroot with
    | ok hn => exact ⟨rfl, fun hsame => congrArg Except.ok (hn hsame).symm⟩
    | failed htokens hbest =>
      simp [Except.mapError, rejection, Context.tokenAt, htokens, hbest]
    | tooDeep =>
      refine absurd ?_ (hdepth _ rfl)
      dsimp only [abortError]
      split <;> trivial

/-- **Optional symbols need not be attempted at the end of the tokens.**  Unless rules nest too deep
with these attempts, they do not without them, and tokens are accepted or rejected with the same
error.  The trees are the same if none of the attempts can match nothing. -/
theorem parseTokens_anywhere (g : Grammar) (root : String) (tokens : Array Token)
    (options : ParseOptions)
    (hdepth : ∀ e, (g.parseTokensBy matchSymbolAnywhere root tokens options).1 = .error e →
      ¬e.IsNesting) :
    (∀ e, (g.parseTokens root tokens options).1 = .error e → ¬e.IsNesting) ∧
    ((∃ n, (g.parseTokens root tokens options).1 = .ok n) ↔
      ∃ n, (g.parseTokensBy matchSymbolAnywhere root tokens options).1 = .ok n) ∧
    (∀ e, (g.parseTokens root tokens options).1 = .error e ↔
      (g.parseTokensBy matchSymbolAnywhere root tokens options).1 = .error e) ∧
    (g.NoEmptyOptional tokens → (g.parseTokens root tokens options).1 =
      (g.parseTokensBy matchSymbolAnywhere root tokens options).1) := by
  rw [← parseTokensBy_matchSymbol]
  obtain ⟨hresult, hsame⟩ := parseTokensBy_covered hdepth
  obtain ⟨hok, herror⟩ := map_const_eq_iff.1 hresult
  exact ⟨fun e he => hdepth e ((herror e).1 he), hok, herror, hsame⟩

/-- The rule for lists: a token, and the rest of the list behind it. -/
def listRule : Rule :=
  ⟨"list", .parser, [.ofName "A", ⟨"list", "rest", true, false, false⟩], _, rfl, by simp, by simp,
    by decide⟩

/-- A grammar of lists. -/
def lists : Grammar := ⟨[listRule], [], false, [], group [listRule], ⟨[], []⟩⟩

/-- The rest of a list has a token, so there is none at the end. -/
theorem lists_noEmptyOptional (tokens : Array Token) : lists.NoEmptyOptional tokens := by
  have hend (kind : String) : (kindsOf tokens)[tokens.size]? ≠ some kind := by simp
  intro name rule hrule s hs hoptional d hd
  obtain rfl : rule = listRule := by
    have hmem : rule ∈ parserRules [listRule] name := by
      have hgroup : lists.alternatives = group [listRule] := rfl
      rw [alternativesOf, hgroup, lookup_group] at hrule
      split at hrule
      · cases hrule
      · exact hrule
    exact List.mem_singleton.1 (List.mem_filter.1 hmem).1
  obtain rfl | rfl : s = .ofName "A" ∨ s = ⟨"list", "rest", true, false, false⟩ := by
    simpa [listRule] using hs
  · cases hoptional
  · obtain ⟨rule, hrule, hmatch⟩ := exists_rule_of_nameMatches (hend _) hd
    obtain rfl : rule = listRule := List.mem_singleton.1 hrule
    obtain ⟨limit, -, o, hsymbols, ho⟩ := ruleMatches_iff.1 hmatch
    cases o with
    | none => cases ho
    | some x =>
      obtain ⟨ds, j, parts, hfirst, -, -⟩ := symbolsMatch_cons_some.1 hsymbols
      obtain ⟨o, hname, ho⟩ := (symbolMatches_required (by simp [Symbol.ofName])
        (by simp [Symbol.ofName])).1 hfirst
      rw [nameMatches_terminal rfl, if_neg (hend _)] at hname
      subst hname
      cases ho

/-- Behind the second of two tokens there is no rest, whether it is looked for or not. -/
theorem lists_accepts : ∃ n,
    (lists.parseTokensBy matchSymbolAnywhere "list" #[⟨"A", "a", 0⟩, ⟨"A", "a", 1⟩] ⟨3, false⟩).1 =
      .ok n ∧
    lists.NoEmptyOptional #[⟨"A", "a", 0⟩, ⟨"A", "a", 1⟩] ∧
    (lists.parseTokens "list" #[⟨"A", "a", 0⟩, ⟨"A", "a", 1⟩] ⟨3, false⟩).1 = .ok n := by
  have hok : ∃ n, (lists.parseTokensBy matchSymbolAnywhere "list"
      #[⟨"A", "a", 0⟩, ⟨"A", "a", 1⟩] ⟨3, false⟩).1 = .ok n := ⟨_, rfl⟩
  obtain ⟨n, hn⟩ := hok
  have hempty := lists_noEmptyOptional #[⟨"A", "a", 0⟩, ⟨"A", "a", 1⟩]
  refine ⟨n, hn, hempty, ?_⟩
  rw [(parseTokens_anywhere lists "list" _ ⟨3, false⟩ ?_).2.2.2 hempty, hn]
  rw [hn]
  rintro e ⟨⟩

end Grammar

end OrderedGrammar
