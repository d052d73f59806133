import OrderedGrammar.Proofs.Filter.Soundness

/-!
# Nested filters

A comparison in any number of parentheses is matched as a condition within three frames for each
pair of them (`nested_match`), while a walk through its tree takes nine calls for each
(`calls_nested`).

## Main definitions

* `nested` : a comparison in a number of parentheses.
* `nestedTokens` : its tokens.
-/

namespace OrderedGrammar.Filter

open Notation

/-! ### Conditions in parentheses -/

/-- The comparison of a column with a text. -/
def isMale : Test :=
  .comparison ⟨.identifier, "sex", nofun⟩ .equal ⟨.string, "'M'", nofun⟩

/-- A comparison in a number of parentheses. -/
def nested : ℕ → Condition
  | 0 => .row (.row (.test isMale) .nil) .nil
  | n + 1 => .row (.row (.group (nested n)) .nil) .nil

/-- The kinds of its tokens with their texts. -/
def nestedLexemes : ℕ → List Lexeme
  | 0 => [("IDENTIFIER", "sex"), ("EQ_OP", "EQ"), ("LITERAL_STRING", "'M'")]
  | n + 1 => ("LEFT_PAREN", "(") :: (nestedLexemes n ++ [("RIGHT_PAREN", ")")])

/-- Its tokens. -/
def nestedTokens (n : ℕ) : List Token := (nestedLexemes n).map fun x => ⟨x.1, x.2, 0⟩

theorem lexemesFrom_nestedTokens (n : ℕ) :
    lexemesFrom (nestedTokens n).toArray 0 = nestedLexemes n := by
  simp [lexemesFrom, nestedTokens, Function.comp_def]

theorem lexemes_nested (n : ℕ) : (nestedTokens n).map lexemeOf = (nested n).lexemes := by
  induction n with
  | zero => decide
  | succ n ih =>
    rw [nestedTokens, nestedLexemes, List.map_cons, List.map_append, List.map_cons, List.map_append,
      ← nestedTokens, ih]
    simp [nested, Phrase.lexemes, Rest.lexemes, lexemeOf, sign, operandKinds]

theorem kind_of_mem_nestedLexemes {n : ℕ} {x : Lexeme} (h : x ∈ nestedLexemes n) :
    x.1 ∈ tokenKinds ∧ x.1 ≠ "LITERAL_NUMBER" := by
  induction n with
  | zero =>
    have hall : ∀ x ∈ nestedLexemes 0, x.1 ∈ tokenKinds ∧ x.1 ≠ "LITERAL_NUMBER" := by decide
    exact hall x h
  | succ n ih =>
    rw [nestedLexemes, List.mem_cons, List.mem_append, List.mem_singleton] at h
    obtain rfl | h | rfl := h
    · decide
    · exact ih h
    · decide

/-! ### Matching -/

section

variable {g : Grammar} (hg : grammar = .ok g) {tokens : Array Token} (hr : Readable g tokens)
  {i j n : ℕ} {d : Derivation} {kinds : List String} {kind name : String} {rest : List Lexeme}

/-- A name is what its first alternative matches. -/
theorem first_match {r : Rule} {rs : List Rule} {limit : ℕ∞}
    (halts : g.alternativesOf name = r :: rs)
    (hne : (kindsOf tokens)[i]? ≠ some name)
    (h : g.RuleMatches (kindsOf tokens) limit r i (some (d, j))) :
    g.NameMatches (kindsOf tokens) limit name i (some (d, j)) :=
  have hsplit : g.alternativesOf name = [] ++ r :: rs := halts
  .rule hne hsplit nofun h

include hg

theorem readable_nested (n : ℕ) : Readable g (nestedTokens n).toArray := by
  have hkinds : ∀ t ∈ (nestedTokens n).toArray,
      t.kind ∈ tokenKinds ∧ t.kind ≠ "LITERAL_NUMBER" := by
    intro t ht
    obtain ⟨x, hx, rfl⟩ := List.mem_map.1 (List.mem_toArray.1 ht)
    exact kind_of_mem_nestedLexemes hx
  exact {
    kind := fun t ht => alternativesOf_tokenKind hg (hkinds t ht).1
    number := fun t ht hkind => absurd hkind (hkinds t ht).2 }

theorem symbolsMatch_kind {s : Symbol} {symbols : List Symbol} {text : String}
    {parts : List (Symbol × Derivation)}
    (hs : ¬s.optional ∧ ¬s.repeatable ∧ s.name ∈ tokenKinds)
    (h : lexemesFrom tokens i = (s.name, text) :: rest)
    (t : g.SymbolsMatch (kindsOf tokens) n symbols (i + 1) (some (parts, j))) :
    g.SymbolsMatch (kindsOf tokens) n (s :: symbols) i (some ((s, .leaf i) :: parts, j)) :=
  symbolsMatch_lexeme (alternativesOf_tokenKind hg hs.2.2) hs.1 hs.2.1 h t

theorem passRule_fails (hkind : kind ∈ tokenKinds)
    (h : headKind (lexemesFrom tokens i) ≠ some kind) :
    g.RuleMatches (kindsOf tokens) (n + 1 : ℕ) (passRule name kind) i none :=
  ruleMatches_fail_headKind rfl (alternativesOf_tokenKind hg hkind) (by simp [kept]) h

include hr

/-- A token of one of several kinds is matched by its alternative, as those before it are for other
kinds. -/
theorem choice_match (halts : g.alternativesOf name = kinds.map (passRule name))
    (hkinds : kinds ⊆ tokenKinds) {text : String} (hmem : kind ∈ kinds)
    (h : lexemesFrom tokens i = (kind, text) :: rest) :
    ∃ d, g.NameMatches (kindsOf tokens) (n + 1 : ℕ) name i (some (d, i + 1)) := by
  obtain ⟨before, behind, rfl, hbefore⟩ := List.eq_append_cons_of_mem hmem
  have hne : (kindsOf tokens)[i]? ≠ some name := hr.kind_ne (by simp [halts]) i
  rw [List.map_append, List.map_cons] at halts
  refine ⟨_, .rule hne halts ?_ (ruleMatches_matched (symbolsMatch_kind hg
    ⟨by simp [kept], by simp [kept], hkinds hmem⟩ h .nil))⟩
  rw [List.forall_mem_map]
  intro kind' hkind'
  refine passRule_fails hg (hkinds (List.mem_append_left _ hkind')) ?_
  rw [h, headKind_cons]
  intro heq
  have heq : kind = kind' := Option.some.inj heq
  exact hbefore (heq ▸ hkind')

theorem comparison_match (h : lexemesFrom tokens i = nestedLexemes 0 ++ rest) :
    ∃ d, g.NameMatches (kindsOf tokens) (n + 2 : ℕ) "comparison_predicate" i (some (d, i + 3)) := by
  have halts : g.alternativesOf "comparison_operand" =
      operandKinds.map (passRule "comparison_operand") := alternativesOf_eq hg _
  have halts' : g.alternativesOf "comparison_operator" =
      comparisonKinds.map (passRule "comparison_operator") := alternativesOf_eq hg _
  have halts'' : g.alternativesOf "comparison_predicate" = [comparisonRule] :=
    alternativesOf_eq hg _
  obtain ⟨-, -, -, h'⟩ := of_lexemesFrom_cons h
  obtain ⟨-, -, -, h''⟩ := of_lexemesFrom_cons h'
  obtain ⟨d, hd⟩ := choice_match hg hr (n := n) halts (by decide) (by decide) h
  obtain ⟨d', hd'⟩ := choice_match hg hr (n := n) halts' (by decide) (by decide) h'
  obtain ⟨d'', hd''⟩ := choice_match hg hr (n := n) halts (by decide) (by decide) h''
  have hne : (kindsOf tokens)[i]? ≠ some "comparison_predicate" :=
    hr.kind_ne (by simp [halts'']) i
  exact ⟨_, (Grammar.nameMatches_one halts'' hne).2 (ruleMatches_matched
    (symbolsMatch_required (by decide) (by decide) hd
      (symbolsMatch_required (by decide) (by decide) hd'
        (symbolsMatch_required (by decide) (by decide) hd'' .nil))))⟩

/-- No test begins with a parenthesis. -/
theorem no_test_match (h : headKind (lexemesFrom tokens i) = some "LEFT_PAREN") :
    g.NameMatches (kindsOf tokens) (n + 3 : ℕ) "predicate" i none := by
  have hoperand : g.NameMatches (kindsOf tokens) (n + 1 : ℕ) "comparison_operand" i none := by
    have halts : g.alternativesOf "comparison_operand" =
        operandKinds.map (passRule "comparison_operand") := alternativesOf_eq hg _
    refine .fail (hr.kind_ne (by simp [halts, operandKinds]) i) ?_
    rw [halts, List.forall_mem_map]
    intro kind hkind
    have hother : ∀ kind ∈ operandKinds, kind ∈ tokenKinds ∧ some "LEFT_PAREN" ≠ some kind := by
      decide
    exact passRule_fails hg (hother kind hkind).1 (h ▸ (hother kind hkind).2)
  have hbegins {r : Rule} {symbols : List Symbol}
      (halts : g.alternativesOf r.name = [r])
      (hr' : r.symbols = kept "LHV" "comparison_operand" :: symbols) :
      g.NameMatches (kindsOf tokens) (n + 2 : ℕ) r.name i none := by
    refine (Grammar.nameMatches_one halts (hr.kind_ne (by simp [halts]) i)).2
      (ruleMatches_fail ?_)
    rw [hr']
    exact symbolsMatch_failHead (by decide) hoperand
  have halts : g.alternativesOf "predicate" = testNames.map (passRule "predicate") :=
    alternativesOf_eq hg _
  refine .fail (hr.kind_ne (by simp [halts, testNames]) i) ?_
  rw [halts, List.forall_mem_map]
  intro name hname
  refine ruleMatches_fail (symbolsMatch_failHead (by simp [kept]) ?_)
  simp only [testNames, List.mem_cons, List.not_mem_nil, or_false] at hname
  obtain rfl | rfl | rfl | rfl | rfl := hname
  · exact hbegins (r := comparisonRule) (alternativesOf_eq hg _) rfl
  · exact hbegins (r := relationRule .membership) (alternativesOf_relation hg .membership) rfl
  · exact hbegins (r := relationRule .between) (alternativesOf_relation hg .between) rfl
  · exact hbegins (r := relationRule .containment) (alternativesOf_relation hg .containment) rfl
  · exact hbegins (r := relationRule .blank) (alternativesOf_relation hg .blank) rfl

/-- A row of one operand, behind which its connective does not come. -/
theorem row_match (l : Level)
    (h : g.NameMatches (kindsOf tokens) (n + 1 : ℕ) l.operandName i (some (d, j)))
    (hend : headKind (lexemesFrom tokens j) ≠ some l.connective) :
    ∃ d', g.NameMatches (kindsOf tokens) (n + 2 : ℕ) l.name i (some (d', j)) := by
  have hconnective : l.connective ∈ tokenKinds := by cases l <;> decide
  have halts := alternativesOf_row hg l
  have halts' : g.alternativesOf l.tail = [behindRule l.tail l.connective l.operandName] := by
    rw [alternativesOf_eq hg]
    cases l <;> rfl
  have htail : g.NameMatches (kindsOf tokens) (n + 1 : ℕ) l.tail j none :=
    (Grammar.nameMatches_one halts' (hr.kind_ne (by simp [halts']) j)).2
      (ruleMatches_fail_headKind rfl (alternativesOf_tokenKind hg hconnective)
        (by simp [skipped]) hend)
  have hrounds : g.SymbolMatches (kindsOf tokens) (n + 1 : ℕ) (repeated l.connective l.tail) j
      (some ([], j)) := by
    refine (Grammar.symbolMatches_zeroOrMore rfl rfl).2 ?_
    obtain hle | hlt := le_or_gt (kindsOf tokens).size j
    · exact .inl ⟨hle, rfl⟩
    · exact .inr ⟨hlt, [], j, .stop htail, rfl⟩
  exact ⟨_, (Grammar.nameMatches_one halts (hr.kind_ne (by simp [halts]) i)).2
    (ruleMatches_matched (r := rowRule l) (symbolsMatch_required (by simp [kept]) (by simp [kept]) h
      (.cons hrounds .nil)))⟩

/-- A primary alone, behind which no connective comes. -/
theorem condition_match
    (h : g.NameMatches (kindsOf tokens) (n + 1 : ℕ) "boolean_primary" i (some (d, j)))
    (hend : ∀ l : Level, headKind (lexemesFrom tokens j) ≠ some l.connective) :
    ∃ d', g.NameMatches (kindsOf tokens) (n + 3 : ℕ) "search_condition" i (some (d', j)) := by
  obtain ⟨d', hd'⟩ := row_match hg hr .conjunction h (hend _)
  exact row_match hg hr .disjunction hd' (hend _)

/-- A comparison is a primary. -/
theorem comparison_primary_match (h : lexemesFrom tokens i = nestedLexemes 0 ++ rest) :
    ∃ d, g.NameMatches (kindsOf tokens) (4 : ℕ) "boolean_primary" i (some (d, i + 3)) := by
  have halts : g.alternativesOf "predicate" = testNames.map (passRule "predicate") :=
    alternativesOf_eq hg _
  have halts' : g.alternativesOf "boolean_primary" =
      [passRule "boolean_primary" "predicate", groupRule] := alternativesOf_eq hg _
  obtain ⟨d, hd⟩ := comparison_match hg hr (n := 0) h
  have hpredicate : g.NameMatches (kindsOf tokens) (3 : ℕ) "predicate" i (some (_, i + 3)) :=
    first_match halts (hr.kind_ne (by simp [halts, testNames]) i)
      (ruleMatches_matched (symbolsMatch_required (by simp [kept]) (by simp [kept]) hd .nil))
  exact ⟨_, first_match halts' (hr.kind_ne (by simp [halts']) i)
    (ruleMatches_matched (symbolsMatch_required (by simp [kept]) (by simp [kept]) hpredicate
      .nil))⟩

/-- A condition in parentheses is a primary, as it is no test. -/
theorem group_primary_match {more : List Lexeme}
    (h : lexemesFrom tokens i = ("LEFT_PAREN", "(") :: more)
    (hbody : g.NameMatches (kindsOf tokens) (n + 3 : ℕ) "search_condition" (i + 1) (some (d, j)))
    (hj : lexemesFrom tokens j = ("RIGHT_PAREN", ")") :: rest) :
    ∃ d', g.NameMatches (kindsOf tokens) (n + 4 : ℕ) "boolean_primary" i (some (d', j + 1)) := by
  have halts : g.alternativesOf "boolean_primary" =
      [passRule "boolean_primary" "predicate"] ++ [groupRule] := alternativesOf_eq hg _
  have hpass : g.RuleMatches (kindsOf tokens) (n + 4 : ℕ) (passRule "boolean_primary" "predicate")
      i none :=
    ruleMatches_fail (symbolsMatch_failHead (by simp [kept])
      (no_test_match hg hr (by rw [h, headKind_cons])))
  have hgroup : g.RuleMatches (kindsOf tokens) (n + 4 : ℕ) groupRule i (some (_, j + 1)) :=
    ruleMatches_matched (symbolsMatch_kind hg (by decide) h
      (symbolsMatch_required (by decide) (by decide) hbody
        (symbolsMatch_kind hg (by decide) hj .nil)))
  exact ⟨_, .rule (hr.kind_ne (by simp [halts]) i) halts (List.forall_mem_singleton.2 hpass) hgroup⟩

/-- **Conditions in parentheses are matched**, however many there are of these. -/
theorem nested_match (depth : ℕ) : ∀ {i : ℕ} {rest : List Lexeme},
    lexemesFrom tokens i = nestedLexemes depth ++ rest →
    (∀ l : Level, headKind rest ≠ some l.connective) →
    ∃ d j, g.NameMatches (kindsOf tokens) (3 * depth + 6 : ℕ) "search_condition" i (some (d, j)) ∧
      lexemesFrom tokens j = rest := by
  induction depth with
  | zero =>
    intro i rest h hend
    obtain ⟨-, -, -, h'⟩ := of_lexemesFrom_cons h
    obtain ⟨-, -, -, h''⟩ := of_lexemesFrom_cons h'
    obtain ⟨-, -, -, hrest⟩ := of_lexemesFrom_cons h''
    have hrest : lexemesFrom tokens (i + 3) = rest := hrest
    obtain ⟨d, hd⟩ := comparison_primary_match hg hr h
    obtain ⟨d', hd'⟩ := condition_match hg hr hd (hrest ▸ hend)
    exact ⟨d', i + 3, hd', hrest⟩
  | succ depth ih =>
    intro i rest h hend
    rw [nestedLexemes, List.cons_append, List.append_assoc, List.singleton_append] at h
    obtain ⟨-, -, -, hbody⟩ := of_lexemesFrom_cons h
    have hclose (l : Level) : some "RIGHT_PAREN" ≠ some l.connective := by cases l <;> decide
    obtain ⟨d, j, hd, hj⟩ := ih hbody hclose
    obtain ⟨-, -, -, hrest⟩ := of_lexemesFrom_cons hj
    obtain ⟨d', hd'⟩ := group_primary_match hg hr (n := 3 * depth + 3) h hd hj
    obtain ⟨d'', hd''⟩ := condition_match hg hr hd' (hrest ▸ hend)
    exact ⟨d'', j + 1, hd'', hrest⟩

end

end OrderedGrammar.Filter
