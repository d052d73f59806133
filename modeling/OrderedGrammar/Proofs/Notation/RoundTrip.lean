import OrderedGrammar.Proofs.Notation.Printing
import OrderedGrammar.Proofs.Notation.Source

/-!
# What is compiled can be printed

The names that groups are given are identifiers, so that the rules of declarations are in the
language of the notation, groups included, if the lexemes of these are.  Printing the rules of a
text and compiling them again gives the same rules (`rules_printed`).
-/

namespace OrderedGrammar

namespace Notation

/-- Whether the notation can express the rule before it is checked. -/
inductive Draft.IsExpressible (d : Draft) : Prop
  | lexer (pattern : String) : IsIdentifier d.name → IsQuotable pattern →
      d = ⟨d.name, .lexer, [.ofName pattern]⟩ → d.IsExpressible
  | parser : IsIdentifier d.name → d.kind = .parser → (∀ s ∈ d.symbols, s.IsExpressible) →
      d.IsExpressible

/-- The names of groups are identifiers. -/
theorem isIdentifier_groupName (n : ℕ) : IsIdentifier (groupName n) := by
  have hdigits : ∀ k ∈ List.range' 48 10, nameTail.holds (Char.ofNat k) := by decide +kernel
  have hletters : "nonymous_".toList.all nameTail.holds := by decide +kernel
  rw [isIdentifier_iff]
  refine ⟨'a', "nonymous_".toList ++ (toString n).toList, ?_, by decide +kernel, ?_⟩
  · rw [groupName, String.toList_append]
    rfl
  · rw [List.forall_mem_append]
    refine ⟨List.all_eq_true.1 hletters, fun x hx => ?_⟩
    rw [Nat.toString_eq_repr, Nat.toList_repr] at hx
    have hdigit := Nat.isDigit_of_mem_toDigits (by decide) (by decide) hx
    obtain ⟨hlow, hhigh⟩ := Char.isDigit_iff_toNat.1 hdigit
    have hholds := hdigits x.toNat (List.mem_range'_1.2 ⟨hlow, Nat.lt_succ_of_le hhigh⟩)
    rwa [Char.ofNat_toNat] at hholds

theorem isExpressible_ofModifier {name : String} (hname : IsIdentifier name) {label : Label}
    (hlabel : ∀ x ∈ label.lexemes, IsSpelled x) (m : Modifier) :
    (Symbol.ofModifier name m label.text?).IsExpressible := by
  refine ⟨hname, ?_, m, rfl⟩
  cases label with
  | absent => exact .inr hname
  | bare => exact .inl rfl
  | named label => exact .inr ((hlabel _ List.mem_cons_self).identifier rfl)

section Flatten

variable (declared : List String)

mutual

theorem Item.expressible : ∀ (item : Item) (n : ℕ), (∀ x ∈ item.lexemes, IsSpelled x) →
    (item.flatten declared n).1.IsExpressible ∧
      ∀ d ∈ (item.flatten declared n).2.1, d.IsExpressible
  | .name label name modifier, n, h => by
    rw [Item.lexemes, List.forall_mem_append, List.forall_mem_cons] at h
    obtain ⟨hlabel, hname, -⟩ := h
    rw [Item.flatten]
    exact ⟨isExpressible_ofModifier (hname.identifier rfl) hlabel modifier, by simp⟩
  | .group label body modifier, n, h => by
    rw [Item.lexemes, List.forall_mem_append, List.forall_mem_cons, List.forall_mem_append] at h
    obtain ⟨hlabel, -, hbody, -⟩ := h
    have hgroup := isIdentifier_groupName (nextFree declared n)
    rw [Item.flatten]
    exact ⟨isExpressible_ofModifier hgroup hlabel modifier,
      body.expressible _ hgroup _ hbody⟩

theorem Series.expressible : ∀ (series : Series) (n : ℕ), (∀ x ∈ series.lexemes, IsSpelled x) →
    (∀ s ∈ (series.flatten declared n).1, s.IsExpressible) ∧
      ∀ d ∈ (series.flatten declared n).2.1, d.IsExpressible
  | .one item, n, h => by
    obtain ⟨hsymbol, hdrafts⟩ := item.expressible n h
    rw [Series.flatten]
    exact ⟨by simpa using hsymbol, hdrafts⟩
  | .more item rest, n, h => by
    rw [Series.lexemes, List.forall_mem_append, List.forall_mem_cons] at h
    obtain ⟨hitem, -, hrest⟩ := h
    obtain ⟨hsymbol, hdrafts⟩ := item.expressible n hitem
    obtain ⟨hsymbols, hdrafts'⟩ := rest.expressible (item.flatten declared n).2.2 hrest
    rw [Series.flatten]
    exact ⟨List.forall_mem_cons.2 ⟨hsymbol, hsymbols⟩,
      List.forall_mem_append.2 ⟨hdrafts, hdrafts'⟩⟩

theorem Choice.expressible : ∀ (body : Choice) (owner : String), IsIdentifier owner → ∀ (n : ℕ),
    (∀ x ∈ body.lexemes, IsSpelled x) →
    ∀ d ∈ (body.flatten declared owner n).1, d.IsExpressible
  | .one series, owner, howner, n, h => by
    obtain ⟨hsymbols, hdrafts⟩ := series.expressible n h
    rw [Choice.flatten]
    exact List.forall_mem_append.2 ⟨hdrafts,
      List.forall_mem_singleton.2 (.parser howner rfl hsymbols)⟩
  | .more series rest, owner, howner, n, h => by
    rw [Choice.lexemes, List.forall_mem_append, List.forall_mem_cons] at h
    obtain ⟨hseries, -, hrest⟩ := h
    obtain ⟨hsymbols, hdrafts⟩ := series.expressible n hseries
    have hdrafts' := rest.expressible owner howner (series.flatten declared n).2.2 hrest
    rw [Choice.flatten]
    exact List.forall_mem_append.2 ⟨hdrafts,
      List.forall_mem_cons.2 ⟨.parser howner rfl hsymbols, hdrafts'⟩⟩

end

theorem Choice.flatten_ne_nil (body : Choice) (owner : String) (n : ℕ) :
    (body.flatten declared owner n).1 ≠ [] := by
  cases body with
  | one series => rw [Choice.flatten]; exact List.append_ne_nil_of_right_ne_nil _ (by simp)
  | more series rest => rw [Choice.flatten]; exact List.append_ne_nil_of_right_ne_nil _ (by simp)

theorem Declaration.flatten_ne_nil (declaration : Declaration) (n : ℕ) :
    (declaration.flatten declared n).1 ≠ [] := by
  cases declaration with
  | lexer name pattern => rw [Declaration.flatten]; exact List.cons_ne_nil _ _
  | parser name body => exact body.flatten_ne_nil declared name n

theorem Declaration.expressible (declaration : Declaration) (n : ℕ)
    (h : ∀ x ∈ declaration.lexemes, IsSpelled x) :
    ∀ d ∈ (declaration.flatten declared n).1, d.IsExpressible := by
  cases declaration with
  | lexer name pattern =>
    simp only [Declaration.lexemes, List.forall_mem_cons] at h
    obtain ⟨hname, -, hpattern, -⟩ := h
    obtain ⟨pattern', hquotable, htext⟩ := hpattern.quotable rfl
    obtain rfl : pattern = pattern' := by
      rwa [String.append_left_inj, String.append_right_inj] at htext
    rw [Declaration.flatten]
    exact List.forall_mem_singleton.2 (.lexer pattern (hname.identifier rfl) hquotable rfl)
  | parser name body =>
    simp only [Declaration.lexemes, List.forall_mem_cons, List.forall_mem_append] at h
    obtain ⟨hname, -, hbody, -⟩ := h
    exact body.expressible declared name (hname.identifier rfl) n hbody

theorem expressible_of_mem_flattenAll {declarations : List Declaration} (n : ℕ)
    (h : ∀ x ∈ lexemesOf declarations, IsSpelled x) :
    ∀ d ∈ (flattenAll declared declarations n).1, d.IsExpressible := by
  induction declarations generalizing n with
  | nil => simp [flattenAll]
  | cons declaration declarations ih =>
    rw [lexemesOf, List.flatMap_cons, List.forall_mem_append] at h
    obtain ⟨hfirst, hrest⟩ := h
    have hdrafts := declaration.expressible declared n hfirst
    have hdrafts' := ih (declaration.flatten declared n).2 hrest
    rw [flattenAll]
    exact List.forall_mem_append.2 ⟨hdrafts, hdrafts'⟩

theorem flattenAll_ne_nil {declarations : List Declaration} (h : declarations ≠ []) (n : ℕ) :
    (flattenAll declared declarations n).1 ≠ [] := by
  cases declarations with
  | nil => exact absurd rfl h
  | cons declaration declarations =>
    rw [flattenAll]
    exact List.append_ne_nil_of_left_ne_nil (declaration.flatten_ne_nil declared n) _

end Flatten

/-! ### Checked rules -/

theorem Draft.IsExpressible.rule {d : Draft} (h : d.IsExpressible) {r : Rule}
    (hr : d.rule = .ok r) : r.IsExpressible := by
  obtain ⟨hname, hkind, hsymbols⟩ := of_ofSymbols hr
  cases h with
  | lexer pattern hidentifier hquotable hd =>
    refine .lexer pattern (hname ▸ hidentifier) hquotable ?_
    rw [hd, Draft.rule, ofSymbols_lexer] at hr
    rw [hname]
    exact (Except.ok.inj hr).symm
  | parser hidentifier hparser hall =>
    exact .parser (hname ▸ hidentifier) (hkind.trans hparser) (hsymbols ▸ hall)

/-- Declarations stand for some rules. -/
theorem ne_nil_of_rulesOf {declarations : List Declaration} (hne : declarations ≠ [])
    {rules : List Rule} (h : rulesOf declarations = .ok rules) : rules ≠ [] := by
  rintro rfl
  exact flattenAll_ne_nil _ hne 0 (List.length_eq_zero_iff.1 (of_mapM h).1)

/-- The rules of a text are in the language of the notation. -/
theorem expressible_of_compileRules {g : Grammar} (hg : grammar = .ok g) {text : String}
    {rules : List Rule} (h : compileRules text = .ok rules) :
    rules ≠ [] ∧ ∀ r ∈ rules, r.IsExpressible := by
  obtain ⟨tokens, hscan, declarations, hne, hlexemes, -, hrules⟩ := (compileRules_eq_ok_iff hg).1 h
  have hspelled : ∀ x ∈ lexemesOf declarations, IsSpelled x := by
    rw [← hlexemes]
    intro x hx
    obtain ⟨t, ht, rfl⟩ := List.mem_map.1 hx
    exact isSpelled_of_produces hg (Lexicon.produces_of_mem_scan hscan t ht)
  refine ⟨ne_nil_of_rulesOf hne hrules, fun r hr => ?_⟩
  obtain ⟨d, hd, hr⟩ := (of_mapM hrules).2 r hr
  exact (expressible_of_mem_flattenAll _ 0 hspelled d hd).rule hr

theorem rules_ofText (text : String) (ignored : List String) :
    (Source.ofText text ignored).rules.1 = compileRules text :=
  Source.answer_of_not_compiled none rfl

/-- **Compiling undoes printing.**  Rules that the notation can express are compiled back from their
text, and so are the rules that any text is compiled to. -/
theorem rules_printed (ignored : List String) :
    (∀ rules : List Rule, rules ≠ [] → (∀ r ∈ rules, r.IsExpressible) →
      (Source.ofText (printed rules) ignored).rules.1 = .ok rules) ∧
    ∀ (text : String) (rules : List Rule), (Source.ofText text ignored).rules.1 = .ok rules →
      (Source.ofText (printed rules) ignored).rules.1 = .ok rules := by
  obtain ⟨g, hg⟩ := exists_grammar
  simp only [rules_ofText]
  refine ⟨fun rules hne h => compileRules_printed hg hne h, fun text rules h => ?_⟩
  obtain ⟨hne, hexpressible⟩ := expressible_of_compileRules hg h
  exact compileRules_printed hg hne hexpressible

/-- The rules of a group come out of the text with the group and of their own. -/
theorem grouped_rules_printed :
    ∃ rules, (Source.ofText "a = (b);" []).rules.1 = .ok rules ∧
      printed rules = "anonymous_0 = b;\na = anonymous_0;" ∧
      (Source.ofText "anonymous_0 = b;\na = anonymous_0;" []).rules.1 = .ok rules := by
  obtain ⟨g, hg⟩ := exists_grammar
  obtain ⟨rules, hof, htexts⟩ := rulesOf_grouped
  have hprinted : printed rules = "anonymous_0 = b;\na = anonymous_0;" := by
    rw [printed, htexts]
    decide
  have hrules : (Source.ofText "a = (b);" []).rules.1 = .ok rules := by
    rw [rules_ofText, compileRules_eq_ok_iff hg]
    exact ⟨_, scan_grouped hg, _, by simp, lexemesFrom_grouped, by decide, hof⟩
  have hagain := (rules_printed []).2 "a = (b);" rules hrules
  rw [hprinted] at hagain
  exact ⟨rules, hrules, hprinted, hagain⟩

end Notation

end OrderedGrammar
