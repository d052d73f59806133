import OrderedGrammar.Proofs.Arithmetic.Correctness
import OrderedGrammar.Proofs.Matching.Endings

/-!
# The two grammars agree

Under names that correspond to each other, attempts of both grammars end alike at every index and
within every number of frames (`agree`).  The second alternative that one of the grammars has for
rows makes no difference, as it asks for less than the first one with a frame to spare
(`row_covers`).  So texts that are refused are refused for the same reason at the same place; and as
to texts that are parsed, both trees are those of the same expression, and are evaluated alike, as
long as the walk through the taller tree finds room for its calls (`outcome_eq`).  There are texts
for whose taller tree it does not, while it does for the other one (`outcome_nested`).
-/

namespace OrderedGrammar.Arithmetic

open Notation
open Walk (below)

/-! ### The second alternative for rows -/

/-- Whether one attempt can be left out behind another one: it ends at the same place or before, and
comes no further. -/
inductive Covers : Ending → Ending → Prop
  | matched {stop stop' reach reach' : ℕ} : stop' ≤ stop → reach' ≤ reach →
      Covers (.matched stop reach) (.matched stop' reach')
  | failed {reach reach' : ℕ} : reach' ≤ reach → Covers (.failed reach) (.failed reach')
  | tooDeep {i : ℕ} {e : Ending} : Covers (.tooDeep i) e

/-- Symbols behind the first may fail to be left out, but not to match. -/
theorem covers_of_kept {e e' : Ending} {rest : ℕ → Ending} (h : e.Kept e')
    (hfrom : ∀ j, (rest j).From j) (hne : ∀ j reach, rest j ≠ .failed reach) (i : ℕ) :
    Covers (((((((e.back i).andThen rest).back i).orElse (.failed 0)).back i).andThen
        fun j => .matched j 0).back i)
      (((e'.back i).andThen fun j => .matched j 0).back i) := by
  cases h with
  | tooDeep => exact .tooDeep
  | same => cases e with
    | tooDeep k => exact .tooDeep
    | failed reach => exact .failed (by simp)
    | matched j reach =>
      -- only here are the other symbols attempted, and they match from `j` on
      have hj := hfrom j
      have hnever := hne j
      simp only [Ending.back, Ending.andThen]
      generalize rest j = e at hj hnever ⊢
      cases e with
      | failed reach' => exact absurd rfl (hnever reach')
      | tooDeep k => exact .tooDeep
      | matched j' reach' => exact .matched hj (by simp)

section Covers

variable {g : Grammar} (hg : Dialect.named.grammar = .ok g) {tokens : Array Token}
  (hlex : HasLexemes tokens)

include hg hlex

/-- A single operand ends as a row does, or stops before it. -/
theorem row_covers (l : Level) (budget i : ℕ) :
    Covers (ruleEnd g (kindsOf tokens) budget (Dialect.named.rowRule l) i)
      (ruleEnd g (kindsOf tokens) budget (singleRule l) i) := by
  have hinner (b : ℕ) : nameEnd g (kindsOf tokens) (ruleEnd g (kindsOf tokens) b)
      (Dialect.named.inner l) i =
        (ruleEnd g (kindsOf tokens) b (Dialect.named.innerRule l) i).orElse (.failed 0) := by
    rw [nameEnd_of_ne (hlex.kind_ne (Dialect.inner_notMem _ l) i), Dialect.alternativesOf_inner hg]
    rfl
  -- a row opens two frames before its operand, where the single operand opens one
  match budget with
  | 0 => exact .tooDeep
  | 1 =>
    rw [ruleEnd_required rfl rfl rfl, hinner]
    exact .tooDeep
  | b + 2 =>
    rw [ruleEnd_required rfl rfl rfl, hinner, ruleEnd_required rfl rfl rfl,
      ruleEnd_required (rfl : (singleRule l).symbols = [_]) rfl rfl]
    exact covers_of_kept
      (nameEnd_kept (List.forall₂_same.2 fun rule _ => ruleEnd_kept g _ b rule i))
      (symbolsEnd_from (nameEnd_from (ruleEnd_from g _ b)) _)
      (fun j reach => symbolsEnd_ne_failed rfl j reach) i

theorem firstEnd_rowRules (l : Level) (budget i : ℕ) :
    firstEnd (ruleEnd g (kindsOf tokens) budget) (Dialect.named.rowRules l) i =
      (ruleEnd g (kindsOf tokens) budget (Dialect.named.rowRule l) i).orElse (.failed 0) := by
  have hcovers := row_covers hg hlex l budget i
  rw [Dialect.rowRules, firstEnd, firstEnd, firstEnd]
  generalize ruleEnd g (kindsOf tokens) budget (Dialect.named.rowRule l) i = e at hcovers ⊢
  generalize ruleEnd g (kindsOf tokens) budget (singleRule l) i = e' at hcovers ⊢
  cases hcovers with
  | matched _ _ => rfl
  | failed hle => simp [Ending.orElse, Ending.reaching, hle]
  | tooDeep => rfl

theorem rootEnd_rowRules (budget : ℕ) :
    g.rootEnd (kindsOf tokens) budget (Dialect.named.rowRules .sum) =
      g.rootEnd (kindsOf tokens) budget [Dialect.named.rowRule .sum] := by
  have hcovers := row_covers hg hlex .sum budget 0
  simp only [Dialect.rowRules, Grammar.rootEnd]
  generalize ruleEnd g (kindsOf tokens) budget (Dialect.named.rowRule .sum) 0 = e at hcovers ⊢
  generalize ruleEnd g (kindsOf tokens) budget (singleRule .sum) 0 = e' at hcovers ⊢
  cases hcovers with
  | @matched stop stop' reach reach' hstop hreach =>
    dsimp only
    by_cases hend : (kindsOf tokens).size ≤ stop
    · rw [if_pos hend, if_pos hend]
    · rw [if_neg hend, if_neg hend, if_neg (fun h => hend (h.trans hstop))]
      simp [Ending.reaching, hreach]
  | failed hle => simp [Ending.reaching, hle]
  | tooDeep => rfl

end Covers

/-! ### Names that correspond to each other -/

section Agree

variable {g g' : Grammar} {tokens : Array Token}

/-- Whether attempts at names that correspond to each other end alike within a number of frames. -/
structure Agree (g g' : Grammar) (kinds : Array String) (budget : ℕ) : Prop where
  category : ∀ (c : Category) i, nameEnd g' kinds (ruleEnd g' kinds budget) c.name i =
    nameEnd g kinds (ruleEnd g kinds budget) c.name i
  inner : ∀ l i, nameEnd g' kinds (ruleEnd g' kinds budget) (Dialect.grouped.inner l) i =
    nameEnd g kinds (ruleEnd g kinds budget) (Dialect.named.inner l) i
  tail : ∀ l i, nameEnd g' kinds (ruleEnd g' kinds budget) (Dialect.grouped.tail l) i =
    nameEnd g kinds (ruleEnd g kinds budget) (Dialect.named.tail l) i

variable (hg : Dialect.named.grammar = .ok g) (hg' : Dialect.grouped.grammar = .ok g')
  (hlex : HasLexemes tokens)

include hg hg' in
/-- Tokens are taken alike. -/
theorem alike_kind {kinds : Array String} {one one' : Rule → ℕ → Ending}
    {kind label label' : String} {ignored ignored' : Bool} (hkind : kind ∈ tokenKinds) :
    Symbol.Alike (nameEnd g kinds one) (nameEnd g' kinds one')
      ⟨kind, label, false, false, ignored⟩ ⟨kind, label', false, false, ignored'⟩ :=
  ⟨rfl, rfl, fun i => by
    rw [nameEnd, nameEnd, Dialect.alternativesOf_tokenKind hg hkind,
      Dialect.alternativesOf_tokenKind hg' hkind]
    rfl⟩

theorem Agree.alike_category {kinds : Array String} {budget : ℕ} (h : Agree g g' kinds budget)
    (c : Category) {label label' : String} {ignored ignored' : Bool} :
    Symbol.Alike (nameEnd g kinds (ruleEnd g kinds budget))
      (nameEnd g' kinds (ruleEnd g' kinds budget)) ⟨c.name, label, false, false, ignored⟩
      ⟨c.name, label', false, false, ignored'⟩ :=
  ⟨rfl, rfl, h.category c⟩

theorem Agree.alike_operand {kinds : Array String} {budget : ℕ} (h : Agree g g' kinds budget)
    (l : Level) {label label' : String} {ignored ignored' : Bool} :
    Symbol.Alike (nameEnd g kinds (ruleEnd g kinds budget))
      (nameEnd g' kinds (ruleEnd g' kinds budget)) ⟨l.operandName, label, false, false, ignored⟩
      ⟨l.operandName, label', false, false, ignored'⟩ := by
  rw [← name_operand]
  exact h.alike_category l.operand

theorem Agree.alike_tail {kinds : Array String} {budget : ℕ} (h : Agree g g' kinds budget)
    (l : Level) {label label' : String} :
    Symbol.Alike (nameEnd g kinds (ruleEnd g kinds budget))
      (nameEnd g' kinds (ruleEnd g' kinds budget))
      ⟨Dialect.named.tail l, label, true, true, false⟩
      ⟨Dialect.grouped.tail l, label', true, true, false⟩ :=
  ⟨rfl, rfl, h.tail l⟩

section Rules

variable {kinds : Array String} {budget : ℕ} (h : ∀ b, budget = b + 1 → Agree g g' kinds b)

include h

theorem rowRule_agrees (l : Level) (i : ℕ) :
    ruleEnd g' kinds budget (Dialect.grouped.rowRule l) i =
      ruleEnd g kinds budget (Dialect.named.rowRule l) i :=
  ruleEnd_congr (fun b hb => .cons ⟨rfl, rfl, (h b hb).inner l⟩ .nil) i

theorem innerRule_agrees (l : Level) (i : ℕ) :
    ruleEnd g' kinds budget (Dialect.grouped.innerRule l) i =
      ruleEnd g kinds budget (Dialect.named.innerRule l) i :=
  ruleEnd_congr (fun b hb =>
    .cons ((h b hb).alike_operand l) (.cons ((h b hb).alike_tail l) .nil)) i

include hg hg'

theorem tailRule_agrees {l : Level} (op : Operator l) (i : ℕ) :
    ruleEnd g' kinds budget (Dialect.grouped.tailRule op) i =
      ruleEnd g kinds budget (Dialect.named.tailRule op) i :=
  ruleEnd_congr (fun b hb =>
    .cons (alike_kind hg hg' op.kind_mem) (.cons ((h b hb).alike_operand l) .nil)) i

theorem factorRule_agrees (sign : Option (Operator .sum)) (i : ℕ) :
    ruleEnd g' kinds budget (factorRule sign) i = ruleEnd g kinds budget (factorRule sign) i := by
  refine ruleEnd_congr (fun b hb => ?_) i
  cases sign with
  | none => exact .cons ((h b hb).alike_category .primary) .nil
  | some sign =>
    exact .cons (alike_kind hg hg' sign.kind_mem) (.cons ((h b hb).alike_category .primary) .nil)

theorem primaryRule_agrees {rule : Rule} (hrule : rule ∈ [numberRule, groupRule]) (i : ℕ) :
    ruleEnd g' kinds budget rule i = ruleEnd g kinds budget rule i := by
  have hkind {kind label : String} {ignored : Bool} {b : ℕ} (hk : kind ∈ tokenKinds) :
      Symbol.Alike (nameEnd g kinds (ruleEnd g kinds b)) (nameEnd g' kinds (ruleEnd g' kinds b))
        ⟨kind, label, false, false, ignored⟩ ⟨kind, label, false, false, ignored⟩ :=
    alike_kind hg hg' hk
  refine ruleEnd_congr (fun b hb => ?_) i
  simp only [List.mem_cons, List.not_mem_nil, or_false] at hrule
  obtain rfl | rfl := hrule
  · exact .cons (hkind (by decide)) .nil
  · exact .cons (hkind (by decide)) (.cons ((h b hb).alike_category (.row .sum))
      (.cons (hkind (by decide)) .nil))

end Rules

include hg hg' hlex

theorem row_agrees {budget : ℕ} (h : ∀ b, budget = b + 1 → Agree g g' (kindsOf tokens) b)
    (l : Level) (i : ℕ) :
    nameEnd g' (kindsOf tokens) (ruleEnd g' (kindsOf tokens) budget) l.name i =
      nameEnd g (kindsOf tokens) (ruleEnd g (kindsOf tokens) budget) l.name i := by
  have hne : (kindsOf tokens)[i]? ≠ some l.name :=
    hlex.kind_ne (Category.name_notMem (.row l)) i
  have hrow := rowRule_agrees h l i
  rw [nameEnd_of_ne hne, nameEnd_of_ne hne, Dialect.alternativesOf_row hg,
    Dialect.alternativesOf_row hg', firstEnd_rowRules hg hlex, ← hrow]
  rfl

/-- **The grammars agree** within every number of frames. -/
theorem agree (budget : ℕ) : Agree g g' (kindsOf tokens) budget := by
  -- what an alternative is made of is attempted with one frame less
  induction budget using Nat.strong_induction_on with
  | _ budget ih =>
    have h : ∀ b, budget = b + 1 → Agree g g' (kindsOf tokens) b := fun b hb => ih b (by omega)
    refine ⟨fun c i => ?_, fun l i => ?_, fun l i => ?_⟩
    · have hne := hlex.kind_ne c.name_notMem i
      match c with
      | .row l => exact row_agrees hg hg' hlex h l i
      | .factor =>
        rw [nameEnd_of_ne hne, nameEnd_of_ne hne, Category.name, Dialect.alternativesOf_factor hg,
          Dialect.alternativesOf_factor hg']
        exact firstEnd_congr (.cons (factorRule_agrees hg hg' h _ i)
          (.cons (factorRule_agrees hg hg' h _ i) (.cons (factorRule_agrees hg hg' h _ i) .nil)))
      | .primary =>
        rw [nameEnd_of_ne hne, nameEnd_of_ne hne, Category.name, Dialect.alternativesOf_primary hg,
          Dialect.alternativesOf_primary hg']
        exact firstEnd_congr (List.forall₂_same.2 fun rule hrule =>
          primaryRule_agrees hg hg' h hrule i)
    · rw [nameEnd_of_ne (hlex.kind_ne (Dialect.inner_notMem _ l) i),
        nameEnd_of_ne (hlex.kind_ne (Dialect.inner_notMem _ l) i), Dialect.alternativesOf_inner hg,
        Dialect.alternativesOf_inner hg']
      exact firstEnd_congr (.cons (innerRule_agrees h l i) .nil)
    · rw [nameEnd_of_ne (hlex.kind_ne (Dialect.tail_notMem _ l) i),
        nameEnd_of_ne (hlex.kind_ne (Dialect.tail_notMem _ l) i), Dialect.alternativesOf_tail hg,
        Dialect.alternativesOf_tail hg']
      exact firstEnd_congr (.cons (tailRule_agrees hg hg' h _ i)
        (.cons (tailRule_agrees hg hg' h _ i) .nil))

/-- Parses of both grammars end alike. -/
theorem rootEnd_eq (budget : ℕ) :
    g'.rootEnd (kindsOf tokens) budget (g'.alternativesOf "expression") =
      g.rootEnd (kindsOf tokens) budget (g.alternativesOf "expression") := by
  have halts : g.alternativesOf "expression" = Dialect.named.rowRules .sum :=
    Dialect.alternativesOf_row hg .sum
  have halts' : g'.alternativesOf "expression" = [Dialect.grouped.rowRule .sum] :=
    Dialect.alternativesOf_row hg' .sum
  have hrow := rowRule_agrees (fun b (_ : budget = b + 1) => agree hg hg' hlex b) .sum 0
  rw [halts, halts', rootEnd_rowRules hg hlex, Grammar.rootEnd, Grammar.rootEnd, hrow]
  rfl

end Agree

/-! ### Outcomes -/

/-- What comes of a text within limits: a stack, or why it is refused or its tree cannot be
evaluated. -/
def outcome (limits : Limits) (walker : Walker Handler (List ℤ)) :
    Except ParseFailure Node → Except (ParseFailure ⊕ Error) (List ℤ)
  | .error failure => .error (.inl failure)
  | .ok n => (evaluate limits walker n.toTree).mapError .inr

section Outcomes

variable {g g' : Grammar} (hg : Dialect.named.grammar = .ok g)
  (hg' : Dialect.grouped.grammar = .ok g')

include hg hg'

/-- Tokens are refused for the same reason. -/
theorem parseTokens_agrees {tokens : Array Token} (hlex : HasLexemes tokens)
    {options : ParseOptions} {failure : ParseFailure}
    (h : (g.parseTokens "expression" tokens options).1 = .error failure) :
    (g'.parseTokens "expression" tokens options).1 = .error failure := by
  have hends := Grammar.parseTokens_ends (alternativesOf_expression_ne_nil hg) tokens options
  have hends' := Grammar.parseTokens_ends (alternativesOf_expression_ne_nil hg') tokens options
  rw [rootEnd_eq hg hg' hlex] at hends'
  generalize g.rootEnd (kindsOf tokens) options.budget _ = e at hends hends'
  cases e with
  | matched j reach =>
    obtain ⟨n, hn⟩ := hends
    cases h.symm.trans hn
  | failed reach => exact hends'.trans (hends.symm.trans h)
  | tooDeep i => exact hends'.trans (hends.symm.trans h)

/-- Trees are those of the same expression. -/
theorem outcome_of_parse {text : String} {options : ParseOptions} {n : Node}
    (h : (g.parse "expression" text options).1 = .ok n) (limits : Limits) :
    ∃ n', (g'.parse "expression" text options).1 = .ok n' ∧
      (evaluate limits namedWalker n.toTree = .error .overflow ∨
        evaluate limits groupedWalker n'.toTree = evaluate limits namedWalker n.toTree) := by
  obtain ⟨e, hrenders, hframes, htree⟩ := renders_of_parse hg h
  obtain ⟨n', hn', htree'⟩ := parse_renders hg' hrenders hframes
  have hvalue := evaluate_eq htree limits
  have hvalue' := evaluate_eq htree' limits
  have hroom : HasRoomOf (below limits.calls walkCalls) (below limits.calls walkCalls) :=
    fun r hr => ⟨r, hr, le_rfl⟩
  refine ⟨n', hn', ?_⟩
  rcases e.outcome_grouped hroom with hoverflow | heq
  · rw [hoverflow] at hvalue
    exact .inl hvalue
  · rw [heq] at hvalue'
    exact .inr (hvalue'.trans hvalue.symm)

omit hg' in
/-- A walk that overflows is one through the tree of an expression with more calls than there is
room for. -/
theorem exists_of_overflow {text : String} {options : ParseOptions} {limits : Limits} {n : Node}
    (h : (g.parse "expression" text options).1 = .ok n)
    (hoverflow : evaluate limits namedWalker n.toTree = .error .overflow) :
    ∃ e : Expression, ∃ room, Renders e.lexemes text.toList ∧ limits.calls = some room ∧
      room < e.calls .named + walkCalls := by
  obtain ⟨e, hrenders, -, htree⟩ := renders_of_parse hg h
  by_contra hnone
  refine evaluate_ne_overflow htree (fun room hroom => ?_) hoverflow
  by_contra hlt
  exact hnone ⟨e, room, hrenders, hroom, Nat.not_le.1 hlt⟩

theorem parse_agrees {text : String} {options : ParseOptions} {failure : ParseFailure}
    (h : (g.parse "expression" text options).1 = .error failure) :
    (g'.parse "expression" text options).1 = .error failure := by
  have hlexicon : g'.lexicon = g.lexicon := by rw [lexicon_eq hg, lexicon_eq hg']
  cases hscan : g.lexicon.scan text with
  | error fault =>
    rw [parse_of_scan_error hg hscan] at h
    rw [parse_of_scan_error hg' (hlexicon ▸ hscan)]
    exact h
  | ok ts =>
    rw [parse_of_scan hg hscan] at h
    rw [parse_of_scan hg' (hlexicon ▸ hscan)]
    exact parseTokens_agrees hg hg' (hasLexemes_of_scan hg hscan) h

end Outcomes

/-- **The two grammars of arithmetic agree.**  Whatever the text and the limits, the outcome is the
same: the same stack, or the same error of the scanner, of the parse or of the evaluation; unless
the walk through the tree with named tails overflows, which it does only if an expression is written
that takes more calls to walk through than there is room for. -/
theorem outcome_eq (text : String) (options : ParseOptions) (limits : Limits) :
    ∃ g g', namedGrammar = .ok g ∧ groupedGrammar = .ok g' ∧
      (outcome limits namedWalker (g.parse "expression" text options).1 = .error (.inr .overflow) ∨
        outcome limits groupedWalker (g'.parse "expression" text options).1 =
          outcome limits namedWalker (g.parse "expression" text options).1) ∧
      (outcome limits namedWalker (g.parse "expression" text options).1 = .error (.inr .overflow) →
        ∃ e : Expression, ∃ room, Renders e.lexemes text.toList ∧ limits.calls = some room ∧
          room < e.calls .named + walkCalls) := by
  obtain ⟨g, hg⟩ := Dialect.exists_grammar .named
  obtain ⟨g', hg'⟩ := Dialect.exists_grammar .grouped
  refine ⟨g, g', hg, hg', ?_⟩
  cases h : (g.parse "expression" text options).1 with
  | error failure =>
    rw [parse_agrees hg hg' h]
    exact ⟨.inr rfl, nofun⟩
  | ok n =>
    obtain ⟨n', hn', hvalue⟩ := outcome_of_parse hg hg' h limits
    rw [hn', outcome, outcome]
    constructor
    · rcases hvalue with hoverflow | heq
      · exact .inl (by rw [hoverflow]; rfl)
      · exact .inr (by rw [heq])
    · intro houtcome
      cases hstack : evaluate limits namedWalker n.toTree with
      | error e =>
        rw [hstack] at houtcome
        obtain rfl : e = .overflow := Sum.inr.inj (Except.error.inj houtcome)
        exact exists_of_overflow hg h hstack
      | ok stack =>
        rw [hstack] at houtcome
        cases houtcome

/-- A thousand calls are enough to walk through one of the trees of a one in sixty parentheses, and
not enough for the other. -/
theorem outcome_nested : ∃ g g', namedGrammar = .ok g ∧ groupedGrammar = .ok g' ∧
    outcome ⟨some 1000, some 4300⟩ namedWalker (g.parse "expression" (nestedText 60) {}).1 =
      .error (.inr .overflow) ∧
    outcome ⟨some 1000, some 4300⟩ groupedWalker (g'.parse "expression" (nestedText 60) {}).1 =
      .ok [1] := by
  obtain ⟨g, hg⟩ := Dialect.exists_grammar .named
  obtain ⟨g', hg'⟩ := Dialect.exists_grammar .grouped
  have hframes : (nested 60).frames ≤ ParseOptions.budget {} := by
    rw [frames_nested]
    decide
  obtain ⟨n, hn, htree⟩ := parse_renders hg (renders_nested 60) hframes
  obtain ⟨n', hn', htree'⟩ := parse_renders hg' (renders_nested 60) hframes
  have hoverflow : (nested 60).outcome .named (some 4300) (some 998) = .error .overflow :=
    outcome_nested_named 60 (by decide)
  have hfits : (nested 60).Fits .grouped ⟨some 1000, some 4300⟩ :=
    ⟨by simp [calls_nested_grouped, walkCalls], by simp [longest_nested]⟩
  have heval := evaluate_eq htree ⟨some 1000, some 4300⟩
  have heval' := evaluate_of_fits htree' hfits
  refine ⟨g, g', hg, hg', ?_, ?_⟩
  · rw [hn, outcome]
    exact congrArg _ (heval.trans (congrArg _ hoverflow))
  · rw [value_nested] at heval'
    rw [hn', outcome]
    exact congrArg _ heval'

end OrderedGrammar.Arithmetic
