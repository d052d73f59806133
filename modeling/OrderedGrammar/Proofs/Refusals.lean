import Mathlib.Data.List.Sort
import OrderedGrammar.Proofs.Notation.Faults

/-!
# What a grammar is refused for

Rules make no grammar if there are none, if a name has rules of both kinds, if a parser rule uses a
name without rules, or if the pattern of a lexer rule cannot be read, and **the first of these
faults is the one that is told** (`Grammar.ofRules_refuses`): with all the names that it is about,
in order and each of them once, or with the first rule whose pattern cannot be read.  Otherwise they
do, and what a parser rule uses is either a kind of tokens or has alternatives.

All of these are reported as faults of the grammar but for one.  A pattern that asks for more
repetitions than can be counted is refused with an overflow, though it comes first and others behind
it would be reported (`Grammar.exists_overflow`).

## Main definitions

* `Names.Lists` : a list of the names with some property, in order.
* `Rule.IsRefused` : the pattern of a lexer rule cannot be read.
* `FirstRefused` : a rule is the first of several to have a pattern that cannot be read.
* `Grammar.Refuses` : rules are refused for a fault, and for no other before it.
-/

namespace OrderedGrammar

/-! ### Names in order -/

/-- The names that have a property, in order and each of them once. -/
structure Names.Lists (φ : String → Prop) (names : List String) : Prop where
  pairwise : names.Pairwise (· < ·)
  mem_iff : ∀ name, name ∈ names ↔ φ name

namespace Names

variable {φ : String → Prop} {names names' : List String}

/-- There is one such list at most. -/
theorem Lists.eq (h : Lists φ names) (h' : Lists φ names') : names = names' :=
  h.pairwise.eq_of_mem_iff h'.pairwise fun name => (h.mem_iff name).trans (h'.mem_iff name).symm

theorem lists_sorted (h : ∀ name, name ∈ sorted names ↔ φ name) : Lists φ (sorted names) :=
  ⟨pairwise_sorted names, h⟩

theorem Lists.eq_nil_iff (h : Lists φ names) : names = [] ↔ ∀ name, ¬φ name := by
  rw [List.eq_nil_iff_forall_not_mem]
  exact forall_congr' fun name => not_congr (h.mem_iff name)

end Names

/-! ### Patterns that cannot be read -/

/-- Whether a lexer rule has a pattern that cannot be read in parentheses. -/
def Rule.IsRefused (ignoreCase : Bool) (rule : Rule) (refusal : Pattern.Refusal) : Prop :=
  ∃ pattern, rule.pattern? = some pattern ∧
    Pattern.read ignoreCase (Lexicon.enclose pattern) = .error refusal

/-- How it is told that the pattern of a rule cannot be read. -/
def Rule.refusalError (rule : Rule) (refusal : Pattern.Refusal) : GrammarError :=
  if refusal.fault = .countTooLarge then .uncountable rule.name
  else .invalidPattern rule.name refusal

/-- A pattern that cannot be read is reported as a fault of the grammar but for an overflow. -/
theorem Rule.isReported_refusalError {rule : Rule} {refusal : Pattern.Refusal} :
    (rule.refusalError refusal).isReported ↔ refusal.fault ≠ .countTooLarge := by
  rw [refusalError]
  split
  · next h => exact ⟨nofun, absurd h⟩
  · next h => exact ⟨fun _ => h, fun _ => rfl⟩

/-- A rule is the first of several to have a pattern that cannot be read. -/
def FirstRefused (ignoreCase : Bool) (rules : List Rule) (rule : Rule)
    (refusal : Pattern.Refusal) : Prop :=
  ∃ before after, rules = before ++ rule :: after ∧ rule.IsRefused ignoreCase refusal ∧
    ∀ earlier ∈ before, ∀ refusal, ¬earlier.IsRefused ignoreCase refusal

namespace Lexicon

variable {ignoreCase : Bool} {rules : List Rule} {rule : Rule} {ignored : List String}
  {e : GrammarError}

/-- A lexer rule has an entry unless its pattern cannot be read. -/
theorem entry_eq_error_iff (hrule : rule.kind = .lexer) :
    entry ignoreCase rule = .error e ↔
      ∃ refusal, rule.IsRefused ignoreCase refusal ∧ e = rule.refusalError refusal := by
  obtain ⟨pattern, hpattern⟩ := Rule.exists_pattern hrule
  rw [entry, hpattern]
  dsimp only
  constructor
  · intro h
    split at h
    · cases h
    · next refusal hread =>
      refine ⟨refusal, ⟨pattern, hpattern, hread⟩, ?_⟩
      rw [Rule.refusalError]
      split at h <;> cases h <;> simp [*]
  · rintro ⟨refusal, ⟨pattern', hpattern', hread⟩, rfl⟩
    cases hpattern.symm.trans hpattern'
    rw [hread, Rule.refusalError]
    dsimp only
    split <;> rfl

/-- Lexer rules make a lexicon unless a pattern cannot be read, and the first of these is told. -/
theorem ofRules_eq_error_iff (hlexer : ∀ rule ∈ rules, rule.kind = .lexer) :
    ofRules rules ignored ignoreCase = .error e ↔
      ∃ rule refusal, FirstRefused ignoreCase rules rule refusal ∧
        e = rule.refusalError refusal := by
  have hmap : ofRules rules ignored ignoreCase = .error e ↔
      rules.mapM (entry ignoreCase) = .error e := by
    rw [ofRules]
    cases rules.mapM (entry ignoreCase) with
    | error e' => exact ⟨fun h => by cases h; rfl, fun h => by cases h; rfl⟩
    | ok entries => constructor <;> (intro h; cases h)
  have hread {rule : Rule} (hrule : rule ∈ rules) :
      (∃ entry', entry ignoreCase rule = .ok entry') ↔
        ∀ refusal, ¬rule.IsRefused ignoreCase refusal := by
    have herror := @entry_eq_error_iff ignoreCase rule
    cases hentry : entry ignoreCase rule with
    | ok entry' =>
      refine ⟨fun _ refusal hrefused => ?_, fun _ => ⟨entry', rfl⟩⟩
      cases hentry.symm.trans ((herror (hlexer rule hrule)).2 ⟨refusal, hrefused, rfl⟩)
    | error e' =>
      obtain ⟨refusal, hrefused, -⟩ := (herror (hlexer rule hrule)).1 hentry
      refine ⟨?_, fun h => absurd hrefused (h refusal)⟩
      rintro ⟨entry', h⟩
      cases h
  rw [hmap, mapM_eq_error_iff]
  constructor
  · rintro ⟨before, rule, after, rfl, hbefore, hentry⟩
    obtain ⟨refusal, hrefused, rfl⟩ := (entry_eq_error_iff (hlexer rule (by simp))).1 hentry
    exact ⟨rule, refusal, ⟨before, after, rfl, hrefused, fun earlier hearlier =>
      (hread (by simp [hearlier])).1 (hbefore earlier hearlier)⟩, rfl⟩
  · rintro ⟨rule, refusal, ⟨before, after, rfl, hrefused, hbefore⟩, rfl⟩
    exact ⟨before, rule, after, rfl, fun earlier hearlier =>
      (hread (by simp [hearlier])).2 (hbefore earlier hearlier),
      (entry_eq_error_iff (hlexer rule (by simp))).2 ⟨refusal, hrefused, rfl⟩⟩

end Lexicon

namespace Grammar

/-! ### The faults of a grammar -/

/-- Whether a name is used for lexer rules and for parser rules. -/
def Clashes (rules : List Rule) (name : String) : Prop :=
  (∃ rule ∈ rules, rule.kind = .lexer ∧ rule.name = name) ∧
    ∃ rule ∈ rules, rule.kind = .parser ∧ rule.name = name

/-- Whether a parser rule uses a name that no rule has. -/
def IsUndefined (rules : List Rule) (name : String) : Prop :=
  (∃ rule ∈ rules, rule.kind = .parser ∧ ∃ s ∈ rule.symbols, s.name = name) ∧
    ∀ rule ∈ rules, rule.name ≠ name

/-- Rules are refused for the first of their faults. -/
inductive Refuses (ignoreCase : Bool) (rules : List Rule) : GrammarError → Prop
  | noRules : rules = [] → Refuses ignoreCase rules .noRules
  | nameClash {names : List String} : names ≠ [] → Names.Lists (Clashes rules) names →
      Refuses ignoreCase rules (.nameClash names)
  | undefinedNames {names : List String} : (∀ name, ¬Clashes rules name) →
      names ≠ [] → Names.Lists (IsUndefined rules) names →
      Refuses ignoreCase rules (.undefinedNames names)
  | pattern {rule : Rule} {refusal : Pattern.Refusal} : (∀ name, ¬Clashes rules name) →
      (∀ name, ¬IsUndefined rules name) →
      FirstRefused ignoreCase (lexerRulesOf rules) rule refusal →
      Refuses ignoreCase rules (rule.refusalError refusal)

variable {rules : List Rule} {ignored : List String} {ignoreCase : Bool} {e : GrammarError}

theorem kind_of_mem_lexerRulesOf {rule : Rule} (h : rule ∈ lexerRulesOf rules) :
    rule.kind = .lexer := of_decide_eq_true (List.mem_filter.1 h).2

theorem lists_clashes (rules : List Rule) :
    Names.Lists (Clashes rules) (clashes ((lexerRulesOf rules).map (·.name)) (group rules)) :=
  Names.lists_sorted fun _ => mem_clashes

theorem lists_undefinedNames (rules : List Rule) :
    Names.Lists (IsUndefined rules)
      (undefinedNames ((lexerRulesOf rules).map (·.name)) (group rules) rules) :=
  Names.lists_sorted fun _ => mem_undefinedNames

theorem refuses_of_ofRules (h : Grammar.ofRules rules ignored ignoreCase = .error e) :
    Refuses ignoreCase rules e := by
  have hclashes := lists_clashes rules
  have hundefined := lists_undefinedNames rules
  rw [ofRules] at h
  split at h
  · next hnil =>
    cases h
    exact .noRules (List.isEmpty_iff.1 hnil)
  split at h
  · next hne =>
    cases h
    exact .nameClash hne hclashes
  next hno =>
  replace hno := hclashes.eq_nil_iff.1 (not_not.1 hno)
  split at h
  · next hne =>
    cases h
    exact .undefinedNames hno hne hundefined
  next hall =>
  replace hall := hundefined.eq_nil_iff.1 (not_not.1 hall)
  cases hlex : Lexicon.ofRules (lexerRulesOf rules) ignored ignoreCase with
  | ok l =>
    rw [hlex] at h
    cases h
  | error e' =>
    rw [hlex] at h
    cases h
    obtain ⟨rule, refusal, hfirst, rfl⟩ :=
      (Lexicon.ofRules_eq_error_iff fun _ => kind_of_mem_lexerRulesOf).1 hlex
    exact .pattern hno hall hfirst

theorem ofRules_of_refuses (h : Refuses ignoreCase rules e) :
    Grammar.ofRules rules ignored ignoreCase = .error e := by
  have hclashes := lists_clashes rules
  have hundefined := lists_undefinedNames rules
  -- where there is something to name, there are rules
  have hempty {α : Type} {as : List α} (f : List Rule → List α) (has : as ≠ [])
      (heq : as = f rules) (hf : f [] = []) : ¬rules.isEmpty := by
    rintro hnil
    rw [heq, List.isEmpty_iff.1 hnil] at has
    exact has hf
  cases h with
  | noRules hnil =>
    subst hnil
    rfl
  | nameClash hne hnames =>
    have heq := hnames.eq hclashes
    rw [ofRules, if_neg (hempty (fun rules => clashes ((lexerRulesOf rules).map (·.name))
      (group rules)) hne heq rfl), if_pos (heq ▸ hne), heq]
  | undefinedNames hno hne hnames =>
    have heq := hnames.eq hundefined
    rw [ofRules, if_neg (hempty (fun rules => Grammar.undefinedNames
      ((lexerRulesOf rules).map (·.name)) (group rules) rules) hne heq rfl),
      if_neg (not_not.2 (hclashes.eq_nil_iff.2 hno)), if_pos (heq ▸ hne), heq]
  | pattern hno hall hfirst =>
    have hne : lexerRulesOf rules ≠ [] := by
      obtain ⟨before, after, hsplit, -⟩ := hfirst
      simp [hsplit]
    have hlexicon : Lexicon.ofRules (lexerRulesOf rules) ignored ignoreCase = .error _ :=
      (Lexicon.ofRules_eq_error_iff fun _ => kind_of_mem_lexerRulesOf).2 ⟨_, _, hfirst, rfl⟩
    rw [ofRules, if_neg (hempty lexerRulesOf hne rfl rfl),
      if_neg (not_not.2 (hclashes.eq_nil_iff.2 hno)),
      if_neg (not_not.2 (hundefined.eq_nil_iff.2 hall)), hlexicon]
    rfl

/-- Rules make a grammar unless there is something to refuse them for. -/
theorem ofRules_eq_error_iff : Grammar.ofRules rules ignored ignoreCase = .error e ↔
    Refuses ignoreCase rules e :=
  ⟨refuses_of_ofRules, ofRules_of_refuses⟩

/-- A property that errors about names have is one of the error that rules are refused with if there
is a fault about names, or the first of the patterns that cannot be read is told so. -/
theorem exists_error_iff {P : GrammarError → Prop} (hnone : P .noRules)
    (hclash : ∀ names, P (.nameClash names)) (hnames : ∀ names, P (.undefinedNames names)) :
    (∃ e, Grammar.ofRules rules ignored ignoreCase = .error e ∧ P e) ↔
      rules = [] ∨ (∃ name, Clashes rules name) ∨ (∃ name, IsUndefined rules name) ∨
        ∃ rule refusal, FirstRefused ignoreCase (lexerRulesOf rules) rule refusal ∧
          P (rule.refusalError refusal) := by
  have hclashes := lists_clashes rules
  have hundefined := lists_undefinedNames rules
  simp only [ofRules_eq_error_iff]
  constructor
  · rintro ⟨e, hrefuses, he⟩
    cases hrefuses with
    | noRules hnil => exact .inl hnil
    | nameClash hne hnames =>
      obtain ⟨name, hname⟩ := List.exists_mem_of_ne_nil _ hne
      exact .inr (.inl ⟨name, (hnames.mem_iff name).1 hname⟩)
    | undefinedNames _ hne hnames =>
      obtain ⟨name, hname⟩ := List.exists_mem_of_ne_nil _ hne
      exact .inr (.inr (.inl ⟨name, (hnames.mem_iff name).1 hname⟩))
    | pattern _ _ hfirst => exact .inr (.inr (.inr ⟨_, _, hfirst, he⟩))
  · intro h
    by_cases hno : ∀ name, ¬Clashes rules name
    · by_cases hall : ∀ name, ¬IsUndefined rules name
      · rcases h with hnil | ⟨name, hname⟩ | ⟨name, hname⟩ | ⟨rule, refusal, hfirst, he⟩
        · exact ⟨_, .noRules hnil, hnone⟩
        · exact absurd hname (hno name)
        · exact absurd hname (hall name)
        · exact ⟨_, .pattern hno hall hfirst, he⟩
      · exact ⟨_, .undefinedNames hno (mt hundefined.eq_nil_iff.1 hall) hundefined, hnames _⟩
    · exact ⟨_, .nameClash (mt hclashes.eq_nil_iff.1 hno) hclashes, hclash _⟩

/-- What a parser rule uses is a kind of tokens or has alternatives, and never both. -/
theorem isTokenKind_xor_of_mem_symbols {g : Grammar}
    (hg : Grammar.ofRules rules ignored ignoreCase = .ok g) {rule : Rule} (hrule : rule ∈ rules)
    (hparser : rule.kind = .parser) {s : Symbol} (hs : s ∈ rule.symbols) :
    g.isTokenKind s.name ∧ g.alternativesOf s.name = [] ∨
      ¬g.isTokenKind s.name ∧ g.alternativesOf s.name ≠ [] := by
  have hmem : rule ∈ g.alternativesOf rule.name := by
    rw [alternativesOf_of_ofRules hg]
    exact List.mem_filter.2 ⟨hrule, decide_eq_true ⟨hparser, rfl⟩⟩
  obtain ⟨-, hlexer, -, -⟩ := of_ofRules hg
  obtain ⟨-, hclash, -, -⟩ := exists_ofRules_iff.1 ⟨g, hg⟩
  have hnever : g.isTokenKind s.name → g.alternativesOf s.name = [] := by
    intro hkind
    obtain ⟨rule₁, hrule₁, hname₁⟩ := List.any_eq_true.1 hkind
    rw [hlexer] at hrule₁
    rw [alternativesOf_of_ofRules hg]
    refine List.filter_eq_nil_iff.2 fun rule₂ hrule₂ hboth => ?_
    obtain ⟨hparser₂, hname₂⟩ := of_decide_eq_true hboth
    exact hclash rule₁ (List.mem_filter.1 hrule₁).1 rule₂ hrule₂ (kind_of_mem_lexerRulesOf hrule₁)
      hparser₂ ((of_decide_eq_true hname₁).trans hname₂.symm)
  by_cases hkind : g.isTokenKind s.name
  · exact .inl ⟨hkind, hnever hkind⟩
  · exact .inr ⟨hkind, (isTokenKind_or_of_mem_symbols hg hmem hs).resolve_left hkind⟩

/-- **Rules are refused for the first of their faults**, and else make a grammar: there are none, a
name is used for rules of both kinds, a name that is used is not defined, or the pattern of a lexer
rule cannot be read.  The refusal is reported as a fault of the grammar, unless the first of the
patterns that cannot be read asks for more repetitions than can be counted.  What the grammar has
for a name are the parser rules of that name in their order, its lexer rules are those that were
given, and what a parser rule uses is either a kind of tokens or has alternatives. -/
theorem ofRules_refuses (rules : List Rule) (ignored : List String) (ignoreCase : Bool) :
    (∀ e, Grammar.ofRules rules ignored ignoreCase = .error e ↔ Refuses ignoreCase rules e) ∧
    ((∃ e, Grammar.ofRules rules ignored ignoreCase = .error e ∧ e.isReported) ↔
      rules = [] ∨ (∃ name, Clashes rules name) ∨ (∃ name, IsUndefined rules name) ∨
        ∃ rule refusal, FirstRefused ignoreCase (lexerRulesOf rules) rule refusal ∧
          refusal.fault ≠ .countTooLarge) ∧
    ∀ g, Grammar.ofRules rules ignored ignoreCase = .ok g →
      (∀ name, g.alternativesOf name =
        rules.filter fun rule => rule.kind = .parser ∧ rule.name = name) ∧
      g.lexerRules = rules.filter (·.kind = .lexer) ∧
      ∀ rule ∈ rules, rule.kind = .parser → ∀ s ∈ rule.symbols,
        g.isTokenKind s.name ∧ g.alternativesOf s.name = [] ∨
          ¬g.isTokenKind s.name ∧ g.alternativesOf s.name ≠ [] := by
  refine ⟨fun e => ofRules_eq_error_iff, ?_, fun g hg => ?_⟩
  · simp only [exists_error_iff (P := fun e => e.isReported) rfl (fun _ => rfl) fun _ => rfl,
      Rule.isReported_refusalError, ne_eq]
  obtain ⟨-, hlexer, -, -⟩ := of_ofRules hg
  exact ⟨alternativesOf_of_ofRules hg, hlexer, fun rule hrule hparser s hs =>
    isTokenKind_xor_of_mem_symbols hg hrule hparser hs⟩

/-- A list in brackets, used ahead of its rules, which stand apart. -/
def listRules : List Rule :=
  [⟨"list", .parser, [.ofName "OPEN", .ofName "items", .ofName "CLOSE"], _, rfl, by simp, by simp,
      by decide⟩,
    .lexer "OPEN" "\\[", .lexer "CLOSE" "\\]",
    ⟨"items", .parser, [.ofName "NAME", .ofName "items"], _, rfl, by simp, by simp, by decide⟩,
    .lexer "NAME" "\\w+",
    ⟨"items", .parser, [.ofName "NAME"], _, rfl, by simp, by simp, by decide⟩]

theorem listRules_accepted : ∃ g, Grammar.ofRules listRules [] true = .ok g ∧
    (g.alternativesOf "items").map (·.text) = ["items = NAME, items;", "items = NAME;"] ∧
    g.lexerRules.map (·.name) = ["OPEN", "CLOSE", "NAME"] ∧
    ∀ rule ∈ listRules, rule.kind = .parser → ∀ s ∈ rule.symbols,
      g.isTokenKind s.name ∧ g.alternativesOf s.name = [] ∨
        ¬g.isTokenKind s.name ∧ g.alternativesOf s.name ≠ [] := by
  obtain ⟨g, hg⟩ : ∃ g, Grammar.ofRules listRules [] true = .ok g :=
    exists_ok_of_isOk (by decide +kernel)
  obtain ⟨halternatives, hlexer, hsymbols⟩ := (ofRules_refuses listRules [] true).2.2 g hg
  refine ⟨g, hg, ?_, ?_, hsymbols⟩
  · rw [halternatives]
    decide
  · rw [hlexer]
    decide

/-- A number that is too large to count with is an overflow, and so is what the rules are refused
with, though the pattern of the other rule is refused as well. -/
theorem exists_overflow :
    Grammar.ofRules [.lexer "A" "a\x7b4294967295\x7d", .lexer "B" "("] [] true =
        .error (.uncountable "A") ∧
      (GrammarError.uncountable "A").isReported = false ∧
      ∃ refusal, (Rule.lexer "B" "(").IsRefused true refusal ∧
        ((Rule.lexer "B" "(").refusalError refusal).isReported := by
  refine ⟨?_, rfl, ⟨.unclosedGroup, some 3, Lexicon.enclose "("⟩, ⟨"(", rfl, ?_⟩, rfl⟩
  swap
  · decide +kernel
  have herror : (Grammar.ofRules [.lexer "A" "a\x7b4294967295\x7d", .lexer "B" "("] [] true).map
      (fun _ => ()) = .error (.uncountable "A") := by
    decide +kernel
  exact eq_error_of_map herror

end Grammar

end OrderedGrammar
