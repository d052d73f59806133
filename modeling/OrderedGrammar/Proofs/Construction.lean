import Mathlib.Data.List.Induction
import OrderedGrammar.Fields
import OrderedGrammar.Grammar

/-!
# How a grammar is put together

Rules are grouped one after the other (`Grammar.lookup_group`), and a grammar that has been
accepted keeps them as they were given: its alternatives for a name are the parser rules of that
name in their order (`Grammar.alternativesOf_of_ofRules`), and each entry of its lexicon is what the
pattern of a rule is read as (`Lexicon.exists_rule_of_mem`).
-/

namespace OrderedGrammar

/-! ### Results that are computed -/

section

variable {α β ε : Type} {f : α → Except ε β} {as : List α} {x : Except ε α}

theorem eq_ok_of_toOption {a : α} (h : x.toOption = some a) : x = .ok a := by
  cases x with
  | error e => cases h
  | ok b => rw [← Option.some.inj h]

theorem exists_ok_of_toOption {φ : α → β} {b : β} (h : x.toOption.map φ = some b) :
    ∃ a, x = .ok a ∧ φ a = b := by
  obtain ⟨a, ha, hb⟩ := Option.map_eq_some_iff.1 h
  exact ⟨a, eq_ok_of_toOption ha, hb⟩

theorem eq_error_of_map {φ : α → β} {e : ε} (h : x.map φ = .error e) : x = .error e := by
  cases x with
  | error e' => exact congrArg Except.error (Except.error.inj h)
  | ok a => cases h

theorem exists_ok_of_isOk (h : x.isOk) : ∃ a, x = .ok a := by
  cases x with
  | error e => cases h
  | ok a => exact ⟨a, rfl⟩

theorem exists_ok_of_bind {γ : Type} {φ : α → Except ε γ} {b : γ} (h : x >>= φ = .ok b) :
    ∃ a, x = .ok a ∧ φ a = .ok b := by
  cases x with
  | error e => cases h
  | ok a => exact ⟨a, rfl, h⟩

/-- Each of the results is one for some member. -/
theorem of_mapM {bs : List β} (h : as.mapM f = .ok bs) :
    as.length = bs.length ∧ ∀ b ∈ bs, ∃ a ∈ as, f a = .ok b := by
  induction as generalizing bs with
  | nil =>
    cases h
    exact ⟨rfl, by simp⟩
  | cons a as ih =>
    rw [List.mapM_cons] at h
    cases ha : f a with
    | error e => rw [ha] at h; cases h
    | ok b =>
      cases has : as.mapM f with
      | error e => rw [ha, has] at h; cases h
      | ok rest =>
        rw [ha, has] at h
        cases h
        obtain ⟨hlength, hrest⟩ := ih has
        refine ⟨congrArg (· + 1) hlength, List.forall_mem_cons.2 ⟨⟨a, by simp, ha⟩, ?_⟩⟩
        intro c hc
        obtain ⟨a', ha', hc⟩ := hrest c hc
        exact ⟨a', List.mem_cons_of_mem a ha', hc⟩

/-- An error is that of the first member that has one. -/
theorem mapM_eq_error_iff {e : ε} : as.mapM f = .error e ↔
    ∃ before a after, as = before ++ a :: after ∧ (∀ b ∈ before, ∃ c, f b = .ok c) ∧
      f a = .error e := by
  induction as with
  | nil =>
    refine ⟨nofun, fun ⟨before, a, after, hsplit, _⟩ => ?_⟩
    exact absurd hsplit.symm (by simp)
  | cons a as ih =>
    rw [List.mapM_cons]
    cases ha : f a with
    | error e' =>
      constructor
      · intro h
        cases h
        exact ⟨[], a, as, rfl, by simp, ha⟩
      · rintro ⟨before, a', after, hsplit, hbefore, he⟩
        cases before with
        | nil =>
          cases hsplit
          cases ha.symm.trans he
          rfl
        | cons b before =>
          cases hsplit
          obtain ⟨c, hc⟩ := hbefore a List.mem_cons_self
          cases ha.symm.trans hc
    | ok b =>
      -- the first member has a result, so that the error comes from the others
      have hrest : (Except.ok b >>= fun b => as.mapM f >>= fun bs => pure (b :: bs)) = .error e ↔
          as.mapM f = .error e := by
        cases as.mapM f with
        | error e' => exact Iff.rfl
        | ok bs => exact ⟨nofun, nofun⟩
      rw [hrest, ih]
      constructor
      · rintro ⟨before, a', after, rfl, hbefore, he⟩
        exact ⟨a :: before, a', after, rfl, List.forall_mem_cons.2 ⟨⟨b, ha⟩, hbefore⟩, he⟩
      · rintro ⟨before, a', after, hsplit, hbefore, he⟩
        cases before with
        | nil =>
          cases hsplit
          cases ha.symm.trans he
        | cons b' before =>
          cases hsplit
          exact ⟨before, a', after, rfl, (List.forall_mem_cons.1 hbefore).2, he⟩

/-- An error is one for some member. -/
theorem exists_error_of_mapM {e : ε} (h : as.mapM f = .error e) : ∃ a ∈ as, f a = .error e := by
  obtain ⟨before, a, after, rfl, -, ha⟩ := mapM_eq_error_iff.1 h
  exact ⟨a, by simp, ha⟩

/-- Results that are the same but for their values. -/
theorem map_const_eq_iff {y : Except ε β} :
    (x.map fun _ => ()) = (y.map fun _ => ()) ↔
      ((∃ a, x = .ok a) ↔ ∃ b, y = .ok b) ∧ ∀ e, x = .error e ↔ y = .error e := by
  cases x with
  | ok a => cases y <;> simp [Except.map]
  | error e => cases y with
    | ok b => simp [Except.map]
    | error e' =>
      simp only [Except.map, Except.error.injEq, reduceCtorEq, exists_false, true_and]
      exact ⟨fun h => by simp [h], fun h => ((h e).1 rfl).symm⟩

end

/-! ### Rules, lexicons and grammars -/

theorem of_ofSymbols {name : String} {kind : RuleKind} {symbols : List Symbol} {r : Rule}
    (h : Rule.ofSymbols name kind symbols = .ok r) :
    r.name = name ∧ r.kind = kind ∧ r.symbols = symbols := by
  unfold Rule.ofSymbols at h
  split_ifs at h
  cases h
  exact ⟨rfl, rfl, rfl⟩

/-- Each entry of a lexicon is what a rule's pattern is read as. -/
theorem Lexicon.exists_rule_of_mem {rules : List Rule} {ignored : List String} {ignoreCase : Bool}
    {l : Lexicon} (h : Lexicon.ofRules rules ignored ignoreCase = .ok l) {e : LexEntry}
    (he : e ∈ l.entries) : ∃ rule ∈ rules, ∃ pattern, rule.pattern? = some pattern ∧
      e.kind = rule.name ∧ Pattern.read ignoreCase (enclose pattern) = .ok e.pattern := by
  rw [ofRules] at h
  cases hentries : rules.mapM (entry ignoreCase) with
  | error fault => rw [hentries] at h; cases h
  | ok entries =>
    rw [hentries] at h
    cases h
    obtain ⟨rule, hrule, hentry⟩ := (of_mapM hentries).2 e he
    rw [entry] at hentry
    cases hpattern : rule.pattern? with
    | none => rw [hpattern] at hentry; cases hentry
    | some pattern =>
      rw [hpattern] at hentry
      dsimp only at hentry
      cases hread : Pattern.read ignoreCase (enclose pattern) with
      | ok p =>
        rw [hread] at hentry
        cases hentry
        exact ⟨rule, hrule, pattern, hpattern, rfl, hread⟩
      | error refusal =>
        rw [hread] at hentry
        dsimp only at hentry
        split at hentry <;> cases hentry

namespace Grammar

/-- The parser rules of a name, in order. -/
def parserRules (rules : List Rule) (name : String) : List Rule :=
  rules.filter fun rule => rule.kind = .parser ∧ rule.name = name

theorem lookup_addAlternative (rule : Rule) (groups : List (String × List Rule)) (name : String) :
    (addAlternative rule groups).lookup name =
      if name = rule.name then some ((groups.lookup name).getD [] ++ [rule])
      else groups.lookup name := by
  induction groups with
  | nil =>
    simp only [addAlternative, Fields.lookup_cons]
    split <;> rfl
  | cons entry groups ih =>
    obtain ⟨a, rules⟩ := entry
    rw [addAlternative]
    by_cases ha : a = rule.name
    · subst ha
      simp only [↓reduceIte, Fields.lookup_cons]
      split <;> rfl
    · simp only [ha, ↓reduceIte, Fields.lookup_cons, ih]
      by_cases hn : name = a
      · simp [hn, ha]
      · simp [hn]

theorem group_append_singleton (rules : List Rule) (rule : Rule) :
    group (rules ++ [rule]) =
      if rule.kind = .parser then addAlternative rule (group rules) else group rules := by
  by_cases h : rule.kind = .parser <;> simp [group, h]

/-- Grouping leaves out no parser rule and keeps the order of those with the same name. -/
theorem lookup_group (rules : List Rule) (name : String) :
    (group rules).lookup name =
      if parserRules rules name = [] then none else some (parserRules rules name) := by
  induction rules using List.reverseRecOn with
  | nil => rfl
  | append_singleton rules rule ih =>
    have hfilter : parserRules (rules ++ [rule]) name = parserRules rules name ++
        if rule.kind = .parser ∧ rule.name = name then [rule] else [] := by
      by_cases h : rule.kind = .parser ∧ rule.name = name <;> simp [parserRules, h]
    rw [group_append_singleton, hfilter]
    by_cases hkind : rule.kind = .parser
    · rw [if_pos hkind, lookup_addAlternative, ih]
      by_cases hname : name = rule.name
      · subst hname
        by_cases hnil : parserRules rules rule.name = [] <;> simp [hkind, hnil]
      · simp [hkind, hname, Ne.symm hname]
    · simp [hkind, ih]

/-- There are alternatives for the names of parser rules. -/
theorem isSome_lookup_group {rules : List Rule} {name : String} :
    ((group rules).lookup name).isSome ↔
      ∃ rule ∈ rules, rule.kind = .parser ∧ rule.name = name := by
  rw [lookup_group]
  by_cases h : parserRules rules name = []
  · rw [if_pos h]
    simpa [parserRules] using h
  · rw [if_neg h]
    simpa [parserRules] using h

variable {rules : List Rule} {ignored : List String} {ignoreCase : Bool} {g : Grammar}

/-- A grammar that has been accepted keeps its rules. -/
theorem of_ofRules (h : Grammar.ofRules rules ignored ignoreCase = .ok g) :
    g.rules = rules ∧ g.lexerRules = lexerRulesOf rules ∧ g.alternatives = group rules ∧
      Lexicon.ofRules (lexerRulesOf rules) ignored ignoreCase = .ok g.lexicon := by
  rw [ofRules] at h
  split at h
  · cases h
  · split at h
    · cases h
    · split at h
      · cases h
      · cases hlex : Lexicon.ofRules (lexerRulesOf rules) ignored ignoreCase with
        | error e => rw [hlex] at h; cases h
        | ok lexicon => rw [hlex] at h; cases h; exact ⟨rfl, rfl, rfl, rfl⟩

/-- The lexicon of a grammar has the entries that its lexer rules are read as. -/
theorem lexicon_of_ofRules (h : Grammar.ofRules rules ignored ignoreCase = .ok g)
    {entries : List LexEntry}
    (hread : ((lexerRulesOf rules).mapM (Lexicon.entry ignoreCase)).toOption = some entries) :
    g.lexicon = ⟨entries, ignored⟩ := by
  obtain ⟨-, -, -, hlexicon⟩ := of_ofRules h
  rw [Lexicon.ofRules, eq_ok_of_toOption hread] at hlexicon
  exact (Except.ok.inj hlexicon).symm

/-- The alternatives of a name are the parser rules of that name, in their order. -/
theorem alternativesOf_of_ofRules (h : Grammar.ofRules rules ignored ignoreCase = .ok g)
    (name : String) : g.alternativesOf name = parserRules rules name := by
  obtain ⟨-, -, halts, -⟩ := of_ofRules h
  rw [alternativesOf, halts, lookup_group]
  split
  · next hnil => rw [hnil]; rfl
  · rfl

/-- Lexer rules in front make no difference to the alternatives. -/
theorem alternativesOf_of_append {before after : List Rule}
    (h : Grammar.ofRules (before ++ after) ignored ignoreCase = .ok g)
    (hbefore : ∀ rule ∈ before, rule.kind = .lexer) (hafter : ∀ rule ∈ after, rule.kind = .parser)
    (name : String) : g.alternativesOf name = after.filter (·.name = name) := by
  have hlexer : parserRules before name = [] := by
    refine List.filter_eq_nil_iff.2 fun rule hrule => ?_
    simp [hbefore rule hrule]
  have hparser : parserRules after name = after.filter (·.name = name) :=
    List.filter_congr fun rule hrule => by simp [hafter rule hrule]
  rw [alternativesOf_of_ofRules h, ← hparser, parserRules, List.filter_append]
  exact (congrArg (· ++ parserRules after name) hlexer).trans (List.nil_append _)

/-- No rule has a name that is kept for others. -/
theorem filter_name_eq_nil {kinds : List String} (h : ∀ rule ∈ rules, rule.name ∉ kinds)
    {name : String} (hname : name ∈ kinds) : rules.filter (·.name = name) = [] := by
  refine List.filter_eq_nil_iff.2 fun rule hrule heq => h rule hrule ?_
  rwa [of_decide_eq_true heq]

/-- The undefined names are those that parser rules use and no rule has. -/
theorem mem_undefinedNames {name : String} :
    name ∈ undefinedNames ((lexerRulesOf rules).map (·.name)) (group rules) rules ↔
      (∃ rule ∈ rules, rule.kind = .parser ∧ ∃ s ∈ rule.symbols, s.name = name) ∧
        ∀ rule ∈ rules, rule.name ≠ name := by
  have hlexer : ((lexerRulesOf rules).map (·.name)).contains name = false ↔
      ∀ rule ∈ rules, rule.kind = .lexer → rule.name ≠ name := by
    simp [lexerRulesOf]
  have hparser : ((group rules).lookup name).isNone ↔
      ∀ rule ∈ rules, rule.kind = .parser → rule.name ≠ name := by
    rw [← Option.not_isSome, Bool.not_eq_true', ← Bool.not_eq_true, isSome_lookup_group]
    simp
  have hall : (∀ rule ∈ rules, rule.name ≠ name) ↔
      (∀ rule ∈ rules, rule.kind = .lexer → rule.name ≠ name) ∧
        ∀ rule ∈ rules, rule.kind = .parser → rule.name ≠ name := by
    refine ⟨fun h => ⟨fun rule hr _ => h rule hr, fun rule hr _ => h rule hr⟩, fun h rule hr => ?_⟩
    cases hkind : rule.kind with
    | lexer => exact h.1 rule hr hkind
    | parser => exact h.2 rule hr hkind
  rw [undefinedNames, Names.mem_sorted, List.mem_filter, Bool.and_eq_true, Bool.not_eq_true',
    hlexer, hparser, ← hall]
  simp [and_assoc]

/-- Rules with an undefined name are refused, and if it is for undefined names, that one is
reported. -/
theorem exists_error_of_mem_undefinedNames {name : String}
    (h : name ∈ undefinedNames ((lexerRulesOf rules).map (·.name)) (group rules) rules) :
    ∃ e, Grammar.ofRules rules ignored ignoreCase = .error e ∧
      ∀ names, e = .undefinedNames names → name ∈ names := by
  rw [ofRules]
  split
  · exact ⟨_, rfl, by rintro names ⟨⟩⟩
  · split
    · exact ⟨_, rfl, by rintro names ⟨⟩⟩
    · rw [if_pos (List.ne_nil_of_mem h)]
      exact ⟨_, rfl, by rintro names ⟨⟩; exact h⟩

/-- The names that clash are those of lexer rules and of parser rules at once. -/
theorem mem_clashes {name : String} :
    name ∈ clashes ((lexerRulesOf rules).map (·.name)) (group rules) ↔
      (∃ rule ∈ rules, rule.kind = .lexer ∧ rule.name = name) ∧
        ∃ rule ∈ rules, rule.kind = .parser ∧ rule.name = name := by
  rw [clashes, Names.mem_sorted, List.mem_filter, isSome_lookup_group]
  simp [lexerRulesOf, and_assoc]

/-- What makes rules a grammar: there are some, no name is used for tokens and for alternatives,
what parser rules name is defined, and the patterns can be read. -/
theorem exists_ofRules_iff :
    (∃ g, Grammar.ofRules rules ignored ignoreCase = .ok g) ↔
      rules ≠ [] ∧
      (∀ rule ∈ rules, ∀ rule' ∈ rules, rule.kind = .lexer → rule'.kind = .parser →
        rule.name ≠ rule'.name) ∧
      (∀ rule ∈ rules, rule.kind = .parser → ∀ s ∈ rule.symbols,
        ∃ rule' ∈ rules, rule'.name = s.name) ∧
      ∃ lexicon, Lexicon.ofRules (lexerRulesOf rules) ignored ignoreCase = .ok lexicon := by
  have hclash : clashes ((lexerRulesOf rules).map (·.name)) (group rules) = [] ↔
      ∀ rule ∈ rules, ∀ rule' ∈ rules, rule.kind = .lexer → rule'.kind = .parser →
        rule.name ≠ rule'.name := by
    rw [List.eq_nil_iff_forall_not_mem]
    constructor
    · intro h rule hrule rule' hrule' hlexer hparser hname
      exact h _ (mem_clashes.2 ⟨⟨rule, hrule, hlexer, hname⟩, rule', hrule', hparser, rfl⟩)
    · intro h name hname
      obtain ⟨⟨rule, hrule, hlexer, rfl⟩, rule', hrule', hparser, heq⟩ := mem_clashes.1 hname
      exact h rule hrule rule' hrule' hlexer hparser heq.symm
  have hundefined :
      undefinedNames ((lexerRulesOf rules).map (·.name)) (group rules) rules = [] ↔
        ∀ rule ∈ rules, rule.kind = .parser → ∀ s ∈ rule.symbols,
          ∃ rule' ∈ rules, rule'.name = s.name := by
    rw [List.eq_nil_iff_forall_not_mem]
    constructor
    · intro h rule hrule hparser s hs
      by_contra hno
      simp only [not_exists, not_and] at hno
      exact h _ (mem_undefinedNames.2 ⟨⟨rule, hrule, hparser, s, hs, rfl⟩, hno⟩)
    · intro h name hname
      obtain ⟨⟨rule, hrule, hparser, s, hs, rfl⟩, hno⟩ := mem_undefinedNames.1 hname
      obtain ⟨rule', hrule', heq⟩ := h rule hrule hparser s hs
      exact hno rule' hrule' heq
  -- the checks are made one after the other, and the patterns are read only if all of them pass
  rw [← hclash, ← hundefined, ofRules]
  by_cases hnil : rules = []
  · simp [hnil]
  by_cases hno : clashes ((lexerRulesOf rules).map (·.name)) (group rules) = []
  · by_cases hall : undefinedNames ((lexerRulesOf rules).map (·.name)) (group rules) rules = []
    · cases hlex : Lexicon.ofRules (lexerRulesOf rules) ignored ignoreCase <;>
        simp [hnil, hno, hall, bind, Except.bind, pure, Except.pure]
    · simp [hnil, hno, hall]
  · simp [hnil, hno]

/-- Every alternative of an accepted grammar is one of its rules. -/
theorem mem_rules_of_mem_alternativesOf (h : Grammar.ofRules rules ignored ignoreCase = .ok g)
    {name : String} {rule : Rule} (hrule : rule ∈ g.alternativesOf name) : rule ∈ g.rules := by
  obtain ⟨hrules, -, -, -⟩ := of_ofRules h
  rw [alternativesOf_of_ofRules h] at hrule
  rw [hrules]
  exact (List.mem_filter.1 hrule).1

/-- What a symbol names is a kind of tokens or has alternatives. -/
theorem isTokenKind_or_of_mem_symbols (h : Grammar.ofRules rules ignored ignoreCase = .ok g)
    {name : String} {rule : Rule} (hrule : rule ∈ g.alternativesOf name) {s : Symbol}
    (hs : s ∈ rule.symbols) : g.isTokenKind s.name ∨ g.alternativesOf s.name ≠ [] := by
  obtain ⟨-, hlexer, -, -⟩ := of_ofRules h
  rw [alternativesOf_of_ofRules h] at hrule ⊢
  obtain ⟨hmem, hparser⟩ := List.mem_filter.1 hrule
  rw [decide_eq_true_eq] at hparser
  by_contra hno
  obtain ⟨hkind, halts⟩ := not_or.1 hno
  have hundefined : s.name ∈
      undefinedNames ((lexerRulesOf rules).map (·.name)) (group rules) rules := by
    refine mem_undefinedNames.2 ⟨⟨rule, hmem, hparser.1, s, hs, rfl⟩, fun rule' hrule' hname => ?_⟩
    cases hsort : rule'.kind with
    | lexer =>
      refine hkind (List.any_eq_true.2 ⟨rule', ?_, decide_eq_true hname⟩)
      rw [hlexer]
      exact List.mem_filter.2 ⟨hrule', decide_eq_true hsort⟩
    | parser =>
      exact halts (List.ne_nil_of_mem
        (List.mem_filter.2 ⟨hrule', decide_eq_true ⟨hsort, hname⟩⟩))
  obtain ⟨e, he, -⟩ := exists_error_of_mem_undefinedNames hundefined
  rw [h] at he
  cases he

end Grammar

end OrderedGrammar
