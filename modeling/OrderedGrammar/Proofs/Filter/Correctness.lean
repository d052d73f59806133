import OrderedGrammar.Proofs.Filter.Evaluation
import OrderedGrammar.Proofs.Filter.Nesting
import OrderedGrammar.Proofs.Filter.Unambiguity
import OrderedGrammar.Proofs.Matching.Acceptance
import OrderedGrammar.Proofs.Matching.Failures
import OrderedGrammar.Proofs.Scanning

/-!
# Filters are evaluated

From tokens to the answer: tokens that are accepted are those of exactly one condition, the walk
through the tree leaves that condition's answer as the only predicate, and the query asks the
customers one after the other (`conditions_evaluated`).
-/

namespace OrderedGrammar.Filter

open Notation

/-! ### Queries -/

section Select

variable {p : Predicate} {records : List Record}

theorem filterAuxM_ok (h : ∀ r ∈ records, ∃ answer, p r = .ok answer) (acc : List Record) :
    List.filterAuxM p records acc =
      .ok ((records.filter fun r => (p r).toOption = some true).reverse ++ acc) := by
  induction records generalizing acc with
  | nil => rfl
  | cons r records ih =>
    obtain ⟨⟨answer, hr⟩, hrecords⟩ := List.forall_mem_cons.1 h
    rw [List.filterAuxM, hr]
    cases answer with
    | false => simpa [hr, bind, Except.bind, Except.toOption] using ih hrecords acc
    | true => simpa [hr, bind, Except.bind, Except.toOption] using ih hrecords (r :: acc)

/-- The records that are selected if the predicate has an answer for all of them. -/
theorem select_ok (h : ∀ r ∈ records, ∃ answer, p r = .ok answer) :
    select p records = .ok (records.filter fun r => (p r).toOption = some true) := by
  rw [select, List.filterM, filterAuxM_ok h]
  simp [bind, Except.bind, pure, Except.pure]

theorem filterAuxM_append_error {r : Record} {behind : List Record} {e : Error}
    (h : ∀ r ∈ records, ∃ answer, p r = .ok answer) (hr : p r = .error e) (acc : List Record) :
    List.filterAuxM p (records ++ r :: behind) acc = .error e := by
  induction records generalizing acc with
  | nil =>
    rw [List.nil_append, List.filterAuxM, hr]
    rfl
  | cons r' records ih =>
    obtain ⟨⟨answer, hr'⟩, hrecords⟩ := List.forall_mem_cons.1 h
    rw [List.cons_append, List.filterAuxM, hr']
    exact ih hrecords _

/-- The first error ends the selection. -/
theorem select_append_error {r : Record} {behind : List Record} {e : Error}
    (h : ∀ r ∈ records, ∃ answer, p r = .ok answer) (hr : p r = .error e) :
    select p (records ++ r :: behind) = .error e := by
  rw [select, List.filterM, filterAuxM_append_error h hr]
  rfl

end Select

theorem query_of_build {limits : Limits} {t : Tree} {p : Predicate}
    (h : buildWithin limits t = .ok [p]) :
    queryWithin limits t = (select p customers).map (project "name") := by
  cases hselect : select p customers with
  | error e => simp [queryWithin, h, bind, Except.bind, hselect, Except.map]
  | ok records =>
    simp [queryWithin, h, bind, Except.bind, hselect, Except.map, pure, Except.pure]

/-! ### Tokens -/

section Tokens

variable {g : Grammar} (hg : grammar = .ok g)
include hg

/-- Tokens that are accepted are those of a condition, and the tree is the condition's. -/
theorem exists_condition {tokens : Array Token} (hr : Readable g tokens) {options : ParseOptions}
    {n : Node} (hn : (g.parseTokens "search_condition" tokens options).1 = .ok n) :
    ∃ f : Condition, tokens.toList.map lexemeOf = f.lexemes ∧ IsTree f n := by
  have halts : g.alternativesOf "search_condition" = [rowRule .disjunction] :=
    alternativesOf_row hg .disjunction
  obtain ⟨d, hd, rfl⟩ := (Grammar.parseTokens_eq_ok_iff (by simp [halts]) n).1 hn
  rw [halts, Grammar.firstWhole_singleton] at hd
  obtain ⟨f, hf, m, htree, hm⟩ := exists_of_rowRule hg hr (fun m _ => phrase_reads hg hr m _) hd
  rw [writtenFrom_size, List.append_nil] at hf
  refine ⟨f, hf, ?_⟩
  rw [htree]
  exact hm

/-- The tokens of a text are of kinds that no rule for trees is named like. -/
theorem alternativesOf_kind {text : String} {ts : List Token} (h : g.tokenize text = .ok ts) :
    ∀ t ∈ ts, g.alternativesOf t.kind = [] := by
  have hkinds : ∀ rule ∈ Grammar.lexerRulesOf rules, rule.name ∈ tokenKinds := by decide
  exact fun t ht => alternativesOf_tokenKind hg
    (Grammar.kind_mem_of_tokenize (ofRules_of_grammar hg) hkinds h t ht)

end Tokens

/-- **Filters are evaluated.**  The grammar of filters compiles, and tokens that are accepted as a
condition, none of which is named like a rule for trees and all of whose number literals are
integers, are those of exactly one condition.  A walk through the tree that keeps within its limits
leaves exactly one predicate, which has for every record the condition's answer or fails with the
same error.  The query then gives the names of the customers for which the condition is true, in
their order, or the first error.  A walk that has no room for its calls overflows.  The tokens of a
text are never named like a rule for trees, and a text is parsed as its tokens are. -/
theorem conditions_evaluated : ∃ g, grammar = .ok g ∧
    (∀ (tokens : Array Token) (options : ParseOptions) (n : Node), Readable g tokens →
      (g.parseTokens "search_condition" tokens options).1 = .ok n →
      ∃ f : Condition, (∀ f' : Condition, tokens.toList.map lexemeOf = f'.lexemes ↔ f' = f) ∧
        ∀ limits,
          (f.Fits limits →
            (∃ p, buildWithin limits n.toTree = .ok [p] ∧ ∀ record, p record = f.eval record) ∧
            ((∀ c ∈ customers, ∃ answer, f.eval c = .ok answer) →
              queryWithin limits n.toTree = .ok
                ((customers.filter fun c => (f.eval c).toOption = some true).filterMap
                  fun c => c.lookup "name")) ∧
            ∀ before c behind e, customers = before ++ c :: behind →
              (∀ c ∈ before, ∃ answer, f.eval c = .ok answer) → f.eval c = .error e →
                queryWithin limits n.toTree = .error e) ∧
          ((∀ o ∈ f.compared, o.IsShort limits.digits) → ¬f.Fits limits →
            buildWithin limits n.toTree = .error .overflow)) ∧
    ∀ (text : String) (options : ParseOptions) (n : Node),
      (g.parse "search_condition" text options).1 = .ok n →
      ∃ ts, g.tokenize text = .ok ts ∧ (∀ t ∈ ts, g.alternativesOf t.kind = []) ∧
        (g.parseTokens "search_condition" ts.toArray options).1 = .ok n := by
  obtain ⟨g, hg⟩ := exists_grammar
  refine ⟨g, hg, fun tokens options n hr hn => ?_, fun text options n hn => ?_⟩
  · obtain ⟨f, hf, htree⟩ := exists_condition hg hr hn
    refine ⟨f, fun f' => ⟨fun h => Condition.eq_of_lexemes (h.symm.trans hf), fun h => h ▸ hf⟩,
      fun limits => ⟨fun hfits => ?_, buildWithin_overflows htree⟩⟩
    have hbuild := buildWithin_eq htree hfits
    have hquery := query_of_build hbuild
    refine ⟨⟨_, hbuild, fun _ => rfl⟩, fun h => ?_, ?_⟩
    · rw [hquery, select_ok h]
      rfl
    · intro before c behind e hcustomers hbefore hc
      rw [hquery, hcustomers, select_append_error hbefore hc]
      rfl
  · obtain ⟨-, ts, hts, hparse⟩ := Grammar.parse_eq_ok_iff.1 hn
    exact ⟨ts, hts, alternativesOf_kind hg hts, hparse⟩

/-! ### Filters that are not built -/

section Nested

variable {g : Grammar} (hg : grammar = .ok g)
include hg

/-- A comparison in parentheses is accepted within three frames for each pair of them. -/
theorem exists_nested (depth : ℕ) {options : ParseOptions} (h : 3 * depth + 6 ≤ options.budget) :
    ∃ n, (g.parseTokens "search_condition" (nestedTokens depth).toArray options).1 = .ok n ∧
      IsTree (nested depth) n := by
  have hr := readable_nested hg depth
  have halts : g.alternativesOf "search_condition" = [rowRule .disjunction] :=
    alternativesOf_row hg .disjunction
  have hne : g.alternativesOf "search_condition" ≠ [] := by simp [halts]
  obtain ⟨d, j, hd, hj⟩ := nested_match hg hr depth
    ((lexemesFrom_nestedTokens depth).trans (List.append_nil _).symm)
    fun l => by simp [headKind]
  have hsize : j = (kindsOf (nestedTokens depth).toArray).size := by
    have hle : (nestedTokens depth).toArray.size ≤ j := lexemesFrom_eq_nil_iff.1 hj
    have hspans : j ≤ max 0 (kindsOf (nestedTokens depth).toArray).size :=
      (hd.spans _ rfl).le_size
    rw [Array.size_map] at hspans ⊢
    omega
  have hrule : g.RuleMatches (kindsOf (nestedTokens depth).toArray) options.budget
      (rowRule .disjunction) 0 (some (d, j)) :=
    ((Grammar.nameMatches_one halts (hr.kind_ne hne 0)).1 hd).mono (Nat.cast_le.2 h)
  obtain ⟨n, hn⟩ : ∃ n, (g.parseTokens "search_condition" (nestedTokens depth).toArray
      options).1 = .ok n := by
    refine ⟨_, (Grammar.parseTokens_eq_ok_iff hne _).2 ⟨d, ?_, rfl⟩⟩
    rw [halts, Grammar.firstWhole_singleton, ← hsize]
    exact hrule
  obtain ⟨f, hf, htree⟩ := exists_condition hg hr hn
  have hlexemes : f.lexemes = (nested depth).lexemes := hf.symm.trans (lexemes_nested depth)
  exact ⟨n, hn, Condition.eq_of_lexemes hlexemes ▸ htree⟩

/-- A token that is named like a rule for trees stands for what the rule matches. -/
theorem parseTokens_term :
    (g.parseTokens "search_condition" #[⟨"boolean_term", "x", 0⟩] {}).1 =
      .ok ⟨"search_condition", [("OR", .list [.token ⟨"boolean_term", "x", 0⟩])]⟩ := by
  have halts : g.alternativesOf "search_condition" = [rowRule .disjunction] :=
    alternativesOf_row hg .disjunction
  refine (Grammar.parseTokens_eq_ok_iff (by simp [halts]) _).2
    ⟨.branch (rowRule .disjunction) [(kept "OR" "boolean_term", .leaf 0)], ?_, rfl⟩
  have hkinds : kindsOf #[⟨"boolean_term", "x", 0⟩] = #["boolean_term"] := by simp [kindsOf]
  have hend : g.SymbolMatches #["boolean_term"] (999 : ℕ) (repeated "OR" "search_factor") 1
      (some ([], 1)) := .atEnd rfl le_rfl
  rw [halts, Grammar.firstWhole_singleton, hkinds]
  exact ruleMatches_matched (symbolsMatch_required (by decide) (by decide) (.token rfl)
    (.cons hend .nil))

end Nested

theorem calls_nested (depth : ℕ) : (nested depth).calls = 9 * depth + 10 := by
  induction depth with
  | zero => rfl
  | succ depth ih =>
    rw [nested]
    simp only [Phrase.calls, Rest.calls, Nat.max_zero, ih, innerCalls]
    omega

theorem compared_nested (depth : ℕ) :
    (nested depth).compared = [⟨.string, "'M'", nofun⟩] := by
  induction depth with
  | zero => rfl
  | succ depth ih => simp [nested, Phrase.compared, Rest.compared, ih]

/-- A token that is named like a rule for trees is accepted, and so is a comparison in a hundred and
ten pairs of parentheses.  Neither of the trees is built on the stack of the interpreter. -/
theorem exists_unbuildable : ∃ g n m, grammar = .ok g ∧
    (g.parseTokens "search_condition" #[⟨"boolean_term", "x", 0⟩] {}).1 = .ok n ∧
    buildWithin ⟨some 1000, some 4300⟩ n.toTree =
      .error (.access (.notNodes "search_condition" "OR" (.token ⟨"boolean_term", "x", 0⟩))) ∧
    Readable g (nestedTokens 110).toArray ∧
    (g.parseTokens "search_condition" (nestedTokens 110).toArray {}).1 = .ok m ∧
    buildWithin ⟨some 1000, some 4300⟩ m.toTree = .error .overflow := by
  obtain ⟨g, hg⟩ := exists_grammar
  have hbudget : 3 * 110 + 6 ≤ ParseOptions.budget {} := by decide
  obtain ⟨m, hm, htree⟩ := exists_nested hg 110 hbudget
  refine ⟨g, _, m, hg, parseTokens_term hg, rfl, readable_nested hg 110, hm,
    buildWithin_overflows htree ?_ fun hfits => ?_⟩
  · rw [compared_nested, List.forall_mem_singleton]
    exact fun most _ => Nat.zero_le most
  · have hle := hfits.calls_le 1000 rfl
    rw [calls_nested] at hle
    exact absurd hle (by decide)

/-! ### A filter -/

/-- The tokens of a filter with a column that no customer has.  The pattern for numbers asks for a
space in front of the digits. -/
def seniorTokens : List Token :=
  [⟨"LEFT_PAREN", "(", 0⟩, ⟨"IDENTIFIER", "sex", 1⟩, ⟨"NE_OP", "NE", 5⟩,
    ⟨"LITERAL_STRING", "'x'", 8⟩, ⟨"OR", "OR", 12⟩, ⟨"IDENTIFIER", "height", 15⟩,
    ⟨"GT_OP", "GT", 22⟩, ⟨"LITERAL_NUMBER", " 5", 24⟩, ⟨"RIGHT_PAREN", ")", 26⟩, ⟨"AND", "AND", 28⟩,
    ⟨"IDENTIFIER", "age", 32⟩, ⟨"BETWEEN", "BETWEEN", 36⟩, ⟨"LITERAL_NUMBER", " 60", 43⟩,
    ⟨"AND", "AND", 47⟩, ⟨"LITERAL_NUMBER", " 75", 50⟩]

/-- The condition of the filter. -/
def seniors : Condition :=
  let column (name : String) : Operand := ⟨.identifier, name, nofun⟩
  let sex : Test := .comparison (column "sex") .notEqual ⟨.string, "'x'", nofun⟩
  let height : Test :=
    .comparison (column "height") (.order .greater) ⟨.number, " 5", fun _ => by decide⟩
  let age : Test := .relation (column "age") false
    (.between ⟨.number, " 60", fun _ => by decide⟩ ⟨.number, " 75", fun _ => by decide⟩)
  .row (.row (.group (.row (.row (.test sex) .nil) (.cons (.row (.test height) .nil) .nil)))
    (.cons (.test age) .nil)) .nil

/-- The second `AND` belongs to the bounds, and as everybody passes the first comparison, nobody is
asked for the height. -/
theorem seniors_selected : ∃ g n, grammar = .ok g ∧
    (g.parse "search_condition" "(sex NE 'x' OR height GT 5) AND age BETWEEN 60 AND 75" {}).1 =
      .ok n ∧ queryWithin ⟨some 1000, some 4300⟩ n.toTree = .ok [.text "ian", .text "sue"] := by
  obtain ⟨g, hg, htokens, htexts⟩ := conditions_evaluated
  have hparses : (match Grammar.ofRules rules [] true with
      | .ok g => ((g.tokenize "(sex NE 'x' OR height GT 5) AND age BETWEEN 60 AND 75").toOption,
          (g.parse "search_condition" "(sex NE 'x' OR height GT 5) AND age BETWEEN 60 AND 75"
            {}).1.isOk)
      | .error _ => (none, false)) = (some seniorTokens, true) := by decide +kernel
  rw [ofRules_of_grammar hg] at hparses
  obtain ⟨hscan, hok⟩ := Prod.mk.inj hparses
  obtain ⟨n, hn⟩ := exists_ok_of_isOk hok
  obtain ⟨ts, hts, hkinds, hparse⟩ := htexts _ _ n hn
  obtain rfl : ts = seniorTokens := by
    rw [hts] at hscan
    exact Option.some.inj hscan
  have hr : Readable g seniorTokens.toArray := {
    kind := fun t ht => hkinds t (by simpa using ht)
    number := by
      have hall : ∀ t ∈ seniorTokens, t.kind = "LITERAL_NUMBER" → (integerOf? t.text).isSome := by
        decide
      exact fun t ht => hall t (by simpa using ht) }
  obtain ⟨f, hunique, hlimits⟩ := htokens _ _ n hr hparse
  obtain rfl : seniors = f := (hunique seniors).1 (by decide)
  have hfits : seniors.Fits ⟨some 1000, some 4300⟩ := by
    have hcalls : seniors.calls + walkCalls ≤ 1000 := by decide
    have hdigits : ∀ o ∈ seniors.compared, o.digits ≤ 4300 := by decide
    exact ⟨by simpa using hcalls, fun o ho most hmost => Option.some.inj hmost ▸ hdigits o ho⟩
  obtain ⟨-, hquery, -⟩ := (hlimits _).1 hfits
  have hanswers : ∀ c ∈ customers, (seniors.eval c).isOk := by decide +kernel
  refine ⟨g, n, hg, hn, (hquery fun c hc => exists_ok_of_isOk (hanswers c hc)).trans ?_⟩
  exact congrArg Except.ok (by decide +kernel)

end OrderedGrammar.Filter
