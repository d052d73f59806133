import OrderedGrammar.Examples.Series
import OrderedGrammar.Proofs.Matching.Failures
import OrderedGrammar.Proofs.Notation.Completeness
import OrderedGrammar.Proofs.Notation.Writing
import OrderedGrammar.Proofs.Walking

/-!
# Series are accepted and collected

The tokens that are accepted as a series are one `FOO`, any number of `BAR` and any number of `BAZ`,
and the walk through the tree collects all of them in order (`series_collected`).

Both rules gather under one label what a first name matches and then a run of tokens.  A repeated
kind of tokens takes the run up to the next token of another kind (`roundsMatch_iff`), so that each
rule leaves nothing open (`ruleMatches_gatherRule`).

## Main definitions

* `gatherRule` : the form of both rules.
* `IsRun` : the tokens of a kind that stand together at an index.
* `IsSeries` : the kinds that a series has.
-/

namespace OrderedGrammar.Series

open Notation

/-! ### Rules -/

/-- The symbol for what comes first. -/
def firstSymbol (first label : String) : Symbol := .ofModifier first .required label

/-- The symbol for the tokens behind that. -/
def restSymbol (rest label : String) : Symbol := .ofModifier rest .zeroOrMore label

/-- A rule that gathers something and then tokens of a kind under one label. -/
def gatherRule (name first rest label : String) : Rule :=
  ⟨name, .parser, [firstSymbol first label, restSymbol rest label], _, rfl,
    List.cons_ne_nil _ _, nofun, by
    by_cases h : label = "" <;>
      simp [mixesLabels, storedLabels, firstSymbol, restSymbol, Symbol.ofModifier, h]⟩

/-- `:FOO, :BAR*` -/
def fbRule : Rule := gatherRule "fb" "FOO" "BAR" ""

/-- `ITEMS:fb, ITEMS:BAZ*` -/
def fbbRule : Rule := gatherRule "fbb" "fb" "BAZ" "ITEMS"

/-- The kinds of tokens, each with the pattern of the same text. -/
def tokenKinds : List String := ["FOO", "BAR", "BAZ"]

/-- The rules of the grammar. -/
def rules : List Rule := tokenKinds.map (fun kind => .lexer kind kind) ++ [fbRule, fbbRule]

/-- What the text declares. -/
def declarations : List Declaration :=
  tokenKinds.map (fun kind => .lexer kind kind) ++
  [.parser "fb" (.one (.more (.name .bare "FOO" .required)
      (.one (.name .bare "BAR" .zeroOrMore)))),
    .parser "fbb" (.one (.more (.name (.named "ITEMS") "fb" .required)
      (.one (.name (.named "ITEMS") "BAZ" .zeroOrMore))))]

theorem writes_text : Writes text declarations := by
  have hne : declarations ≠ [] := List.cons_ne_nil _ _
  have hchars : text.toList = _ := String.toList_ofList (l := _)
  refine .of_readAll? hne ?_
  rw [hchars]
  decide +kernel

theorem compileRules_text : compileRules text = .ok rules :=
  writes_text.compileRules_eq_ok (by decide +kernel) (rulesOf_of_flattenAll rfl)

/-- The text is compiled to a grammar. -/
theorem exists_grammar : ∃ g, grammar = .ok g :=
  exists_compile compileRules_text (by decide +kernel)

theorem ofRules_of_grammar {g : Grammar} (hg : grammar = .ok g) :
    Grammar.ofRules rules [] true = .ok g :=
  (compile_eq_ok_iff compileRules_text).1 hg

/-- The alternatives of a name are its rules. -/
theorem alternativesOf_eq {g : Grammar} (hg : grammar = .ok g) (name : String) :
    g.alternativesOf name = [fbRule, fbbRule].filter (·.name = name) :=
  Grammar.alternativesOf_of_append (ofRules_of_grammar hg) (by decide) (by decide) name

/-! ### Runs of tokens -/

/-- The tokens of a kind that stand together at an index, up to a token of another kind or the
end. -/
structure IsRun (tokens : Array Token) (kind : String) (i : ℕ) (ts : List Token) : Prop where
  drop_eq : tokens.toList.drop i = ts ++ tokens.toList.drop (i + ts.length)
  kind_eq : ∀ t ∈ ts, t.kind = kind
  next_ne : (kindsOf tokens)[i + ts.length]? ≠ some kind

/-- The derivations of tokens that stand together. -/
def leaves (i count : ℕ) : List Derivation := (List.range' i count).map .leaf

section Runs

variable {tokens : Array Token} {kind : String} {i j : ℕ} {t : Token} {ts rest : List Token}

theorem drop_eq_cons_iff :
    tokens.toList.drop i = t :: rest ↔ tokens[i]? = some t ∧ tokens.toList.drop (i + 1) = rest := by
  have hhead : (tokens.toList.drop i).head? = tokens[i]? := by simp
  have htail : (tokens.toList.drop i).tail = tokens.toList.drop (i + 1) := List.tail_drop
  rw [← hhead, ← htail]
  cases tokens.toList.drop i <;> simp

theorem kindsOf_eq_some_iff :
    (kindsOf tokens)[i]? = some kind ↔ ∃ t, tokens[i]? = some t ∧ t.kind = kind := by
  rw [Array.getElem?_map, Option.map_eq_some_iff]

theorem isRun_nil : IsRun tokens kind i [] ↔ (kindsOf tokens)[i]? ≠ some kind :=
  ⟨fun h => h.next_ne, fun h => ⟨rfl, by simp, h⟩⟩

theorem isRun_cons : IsRun tokens kind i (t :: ts) ↔
    (tokens[i]? = some t ∧ t.kind = kind) ∧ IsRun tokens kind (i + 1) ts := by
  have hindex : i + (t :: ts).length = i + 1 + ts.length := by
    rw [List.length_cons]
    omega
  constructor
  · rintro ⟨hdrop, hkinds, hnext⟩
    rw [hindex] at hdrop hnext
    obtain ⟨ht, hdrop⟩ := drop_eq_cons_iff.1 hdrop
    obtain ⟨hkind, hkinds⟩ := List.forall_mem_cons.1 hkinds
    exact ⟨⟨ht, hkind⟩, hdrop, hkinds, hnext⟩
  · rintro ⟨⟨ht, hkind⟩, hdrop, hkinds, hnext⟩
    rw [← hindex] at hdrop hnext
    exact ⟨drop_eq_cons_iff.2 ⟨ht, hdrop⟩, List.forall_mem_cons.2 ⟨hkind, hkinds⟩, hnext⟩

theorem tree_leaf (h : tokens[i]? = some t) : (Derivation.leaf i).tree tokens = .token t := by
  rw [Derivation.tree, Array.getD_eq_getD_getElem?, h]
  rfl

theorem tree_leaves (h : IsRun tokens kind i ts) :
    (leaves i ts.length).map (·.tree tokens) = ts.map .token := by
  induction ts generalizing i with
  | nil => rfl
  | cons t ts ih =>
    obtain ⟨⟨ht, -⟩, h⟩ := isRun_cons.1 h
    have hrest := ih h
    rw [leaves] at hrest
    rw [leaves, List.length_cons, List.range'_succ, List.map_cons, List.map_cons, tree_leaf ht,
      hrest, List.map_cons]

variable {g : Grammar} (halts : g.alternativesOf kind = []) {limit : ℕ∞} {ds : List Derivation}
include halts

/-- A kind of tokens that is matched over and over takes just the run. -/
theorem roundsMatch_iff : g.RoundsMatch (kindsOf tokens) limit kind i ds j ↔
    ∃ ts, IsRun tokens kind i ts ∧ ds = leaves i ts.length ∧ j = i + ts.length := by
  constructor
  · intro h
    induction ds generalizing i with
    | nil =>
      cases h with
      | stop h =>
        have hne : (kindsOf tokens)[j]? ≠ some kind := fun hkind => by
          rw [Grammar.nameMatches_terminal halts, if_pos hkind] at h
          cases h
        exact ⟨[], isRun_nil.2 hne, rfl, rfl⟩
    | cons d ds ih =>
      -- a round takes a token, so that no round stands still
      obtain ⟨k, hname, hrest⟩ : ∃ k, g.NameMatches (kindsOf tokens) limit kind i (some (d, k)) ∧
          (k = i ∨ g.RoundsMatch (kindsOf tokens) limit kind k ds j) := by
        cases h with
        | still h => exact ⟨_, h, .inl rfl⟩
        | more h _ hrest => exact ⟨_, h, .inr hrest⟩
      rw [Grammar.nameMatches_terminal halts] at hname
      by_cases hkind : (kindsOf tokens)[i]? = some kind
      · rw [if_pos hkind] at hname
        cases hname
        obtain ⟨ts, hts, rfl, rfl⟩ := ih (hrest.resolve_left (by omega))
        obtain ⟨t, ht⟩ := kindsOf_eq_some_iff.1 hkind
        exact ⟨t :: ts, isRun_cons.2 ⟨ht, hts⟩, rfl, by rw [List.length_cons]; omega⟩
      · rw [if_neg hkind] at hname
        cases hname
  · rintro ⟨ts, hts, rfl, rfl⟩
    induction ts generalizing i with
    | nil => exact .stop ((Grammar.nameMatches_terminal halts).2 (if_neg (isRun_nil.1 hts)).symm)
    | cons t ts ih =>
      obtain ⟨ht, hts⟩ := isRun_cons.1 hts
      have hindex : i + 1 + ts.length = i + (t :: ts).length := by
        rw [List.length_cons]
        omega
      have hrest := ih hts
      rw [hindex] at hrest
      exact .more ((Grammar.nameMatches_terminal halts).2
        (if_pos (kindsOf_eq_some_iff.2 ⟨t, ht⟩)).symm) (by omega) hrest

/-- A symbol for tokens that may be left out or repeated takes just the run, also at the end. -/
theorem symbolMatches_restSymbol (label : String) :
    g.SymbolMatches (kindsOf tokens) limit (restSymbol kind label) i (some (ds, j)) ↔
      ∃ ts, IsRun tokens kind i ts ∧ ds = leaves i ts.length ∧ j = i + ts.length := by
  have hrounds : g.RoundsMatch (kindsOf tokens) limit kind i ds j ↔ _ := roundsMatch_iff halts
  rw [Grammar.symbolMatches_zeroOrMore (by simp [restSymbol, Symbol.ofModifier])
    (by simp [restSymbol, Symbol.ofModifier]), ← hrounds]
  by_cases hi : (kindsOf tokens).size ≤ i
  · -- at the end nothing is attempted, but rounds would find nothing either
    have hend : (kindsOf tokens)[i]? = none := Array.getElem?_eq_none hi
    have hstop : g.RoundsMatch (kindsOf tokens) limit kind i [] i :=
      .stop ((Grammar.nameMatches_terminal halts).2 (by simp [hend]))
    constructor
    · rintro (⟨-, heq⟩ | ⟨hlt, -⟩)
      · cases heq
        exact hstop
      · omega
    · intro h
      obtain ⟨rfl, rfl⟩ := h.unique hstop
      exact .inl ⟨hi, rfl⟩
  · constructor
    · rintro (⟨hle, -⟩ | ⟨-, ds', j', h, heq⟩)
      · omega
      · cases heq
        exact h
    · exact fun h => .inr ⟨by omega, ds, j, h, rfl⟩

end Runs

/-! ### Both rules -/

section Rules

variable {g : Grammar} {tokens : Array Token} {name first rest label : String} {i j n : ℕ}
  {d : Derivation}

/-- A gathering rule matches what its first symbol does and then the run behind it. -/
theorem ruleMatches_gatherRule (halts : g.alternativesOf rest = []) :
    g.RuleMatches (kindsOf tokens) n (gatherRule name first rest label) i (some (d, j)) ↔
      ∃ m : ℕ, n = m + 1 ∧ ∃ d' k ts, g.NameMatches (kindsOf tokens) m first i (some (d', k)) ∧
        IsRun tokens rest k ts ∧ j = k + ts.length ∧
        d = .branch (gatherRule name first rest label) ((firstSymbol first label, d') ::
          ((leaves k ts.length).map (restSymbol rest label, ·) ++ [])) := by
  rw [Grammar.ruleMatches_natCast]
  refine exists_congr fun m => and_congr_right fun _ => ?_
  have hrequired {o} : g.SymbolMatches (kindsOf tokens) m (firstSymbol first label) i o ↔ _ :=
    Grammar.symbolMatches_required (by simp [firstSymbol, Symbol.ofModifier])
      (by simp [firstSymbol, Symbol.ofModifier])
  constructor
  · rintro ⟨o, hsymbols, ho⟩
    obtain ⟨⟨parts, _⟩, rfl, heq⟩ := Option.map_eq_some_iff.1 ho.symm
    cases heq
    obtain ⟨ds, k, _, hfirst, hbehind, rfl⟩ := Grammar.symbolsMatch_cons_some.1 hsymbols
    obtain ⟨ds', _, _, hrest, hnil, rfl⟩ := Grammar.symbolsMatch_cons_some.1 hbehind
    cases Grammar.symbolsMatch_nil.1 hnil
    obtain ⟨o', hname, heq⟩ := hrequired.1 hfirst
    obtain ⟨⟨d', _⟩, rfl, heq⟩ := Option.map_eq_some_iff.1 heq.symm
    cases heq
    obtain ⟨ts, hts, rfl, rfl⟩ := (symbolMatches_restSymbol halts label).1 hrest
    exact ⟨d', _, ts, hname, hts, rfl, rfl⟩
  · rintro ⟨d', k, ts, hname, hts, rfl, rfl⟩
    exact ⟨_, .cons (hrequired.2 ⟨_, hname, rfl⟩) (.cons
      ((symbolMatches_restSymbol halts label).2 ⟨ts, hts, rfl, rfl⟩) .nil), rfl⟩

/-- The tree of a gathering rule's match. -/
theorem tree_gatherRule {k : ℕ} {ts : List Token} (hts : IsRun tokens rest k ts) :
    (Derivation.branch (gatherRule name first rest label) ((firstSymbol first label, d) ::
      ((leaves k ts.length).map (restSymbol rest label, ·) ++ []))).tree tokens =
      (gatherRule name first rest label).assemble
        ((d.tree tokens :: ts.map .token).map (label, ·)) := by
  have hlabel : (restSymbol rest label).label = (firstSymbol first label).label := rfl
  rw [Derivation.tree, stored_list (by simp [firstSymbol, Symbol.ofModifier])
    (by simp [restSymbol, Symbol.ofModifier]) hlabel, List.map_cons, tree_leaves hts]
  rfl

/-- How the first part of a series is matched, of which the run has a number of tokens. -/
def fbDerivation (bars : ℕ) : Derivation :=
  .branch fbRule ((firstSymbol "FOO" "", .leaf 0) ::
    ((leaves 1 bars).map (restSymbol "BAR" "", ·) ++ []))

/-- How a series is matched, of which the runs have these numbers of tokens. -/
def fbbDerivation (bars bazs : ℕ) : Derivation :=
  .branch fbbRule ((firstSymbol "fb" "ITEMS", fbDerivation bars) ::
    ((leaves (1 + bars) bazs).map (restSymbol "BAZ" "ITEMS", ·) ++ []))

/-- The first part of a series hands on its tokens. -/
theorem tree_fbDerivation {foo : Token} {bars : List Token} (hfoo : tokens[0]? = some foo)
    (hbars : IsRun tokens "BAR" 1 bars) :
    (fbDerivation bars.length).tree tokens = .list ((foo :: bars).map .token) := by
  rw [fbDerivation, fbRule, tree_gatherRule hbars, tree_leaf hfoo, ← List.map_cons,
    Rule.assemble_map_empty rfl (by simp), Tree.flatMap_spliced_map_token]

end Rules

/-! ### Series -/

/-- One `FOO`, any number of `BAR` and any number of `BAZ`. -/
def IsSeries (kinds : List String) : Prop :=
  ∃ bars bazs, kinds = "FOO" :: (List.replicate bars "BAR" ++ List.replicate bazs "BAZ")

/-- The tokens of a series, part by part. -/
structure IsSplit (ts : List Token) (foo : Token) (bars bazs : List Token) : Prop where
  eq_append : ts = foo :: (bars ++ bazs)
  foo_kind : foo.kind = "FOO"
  bars_kind : ∀ t ∈ bars, t.kind = "BAR"
  bazs_kind : ∀ t ∈ bazs, t.kind = "BAZ"

theorem isSeries_iff {ts : List Token} :
    IsSeries (ts.map (·.kind)) ↔ ∃ foo bars bazs, IsSplit ts foo bars bazs := by
  constructor
  · rintro ⟨m, n, heq⟩
    obtain ⟨foo, others, rfl, hfoo, hothers⟩ := List.map_eq_cons_iff.1 heq
    obtain ⟨bars, bazs, rfl, hbars, hbazs⟩ := List.map_eq_append_iff.1 hothers
    exact ⟨foo, bars, bazs, rfl, hfoo, List.forall_mem_map.1 (List.eq_replicate_iff.1 hbars).2,
      List.forall_mem_map.1 (List.eq_replicate_iff.1 hbazs).2⟩
  · rintro ⟨foo, bars, bazs, rfl, hfoo, hbars, hbazs⟩
    refine ⟨bars.length, bazs.length, ?_⟩
    rw [List.map_cons, List.map_append, hfoo, List.map_eq_replicate_iff.2 hbars,
      List.map_eq_replicate_iff.2 hbazs]

/-- The parts of a series are the runs that the rules take. -/
theorem isSplit_iff {tokens : Array Token} {foo : Token} {bars bazs : List Token} :
    IsSplit tokens.toList foo bars bazs ↔ (tokens[0]? = some foo ∧ foo.kind = "FOO") ∧
      IsRun tokens "BAR" 1 bars ∧ IsRun tokens "BAZ" (1 + bars.length) bazs ∧
      tokens.size = 1 + bars.length + bazs.length := by
  have hsize : tokens.size = tokens.toList.length := rfl
  constructor
  · rintro ⟨heq, hfoo, hbars, hbazs⟩
    obtain ⟨hfirst, hbehind⟩ := drop_eq_cons_iff.1 (List.drop_zero.trans heq)
    have hafter : tokens.toList.drop (1 + bars.length) = bazs := by
      rw [← List.drop_drop, hbehind, List.drop_left]
    have hend : tokens.toList.drop (1 + bars.length + bazs.length) = [] := by
      rw [← List.drop_drop, hafter, List.drop_length]
    have hlength : tokens.size = 1 + bars.length + bazs.length := by
      rw [hsize, heq, List.length_cons, List.length_append]
      omega
    refine ⟨⟨hfirst, hfoo⟩, ⟨by rw [hafter]; exact hbehind, hbars, ?_⟩,
      ⟨by rw [hend, List.append_nil, hafter], hbazs, ?_⟩, hlength⟩
    · -- what follows the run of `BAR` is a `BAZ` or nothing
      intro hkind
      obtain ⟨t, ht, hkind⟩ := kindsOf_eq_some_iff.1 hkind
      have hmem : t ∈ bazs := by
        rw [← hafter]
        exact List.mem_of_mem_head? (by simpa using ht)
      exact absurd (hkind.symm.trans (hbazs t hmem)) (by decide)
    · rw [Array.getElem?_eq_none (by rw [Array.size_map, hlength])]
      exact Option.some_ne_none _ |>.symm
  · rintro ⟨⟨hfirst, hfoo⟩, ⟨hbars, hbarsKind, -⟩, ⟨hbazs, hbazsKind, -⟩, hlength⟩
    have hend : tokens.toList.drop (1 + bars.length + bazs.length) = [] := by
      rw [← hlength, hsize, List.drop_length]
    rw [hend, List.append_nil] at hbazs
    rw [hbazs] at hbars
    exact ⟨(List.drop_zero.symm.trans (drop_eq_cons_iff.2 ⟨hfirst, hbars⟩)), hfoo, hbarsKind,
      hbazsKind⟩

/-- The tree of a series has its tokens in one list. -/
theorem tree_fbbDerivation {tokens : Array Token} {foo : Token} {bars bazs : List Token}
    (h : IsSplit tokens.toList foo bars bazs) :
    (fbbDerivation bars.length bazs.length).tree tokens =
      .node "fbb" [("ITEMS", .list (tokens.toList.map .token))] := by
  obtain ⟨⟨hfoo, -⟩, hbars, hbazs, -⟩ := isSplit_iff.1 h
  rw [fbbDerivation, fbbRule, tree_gatherRule hbazs, tree_fbDerivation hfoo hbars,
    Rule.assemble_map (by decide) rfl (by simp), List.flatMap_cons, Tree.flatMap_spliced_map_token,
    h.eq_append, ← List.cons_append, List.map_append]
  rfl

section Series

variable {g : Grammar} (hg : grammar = .ok g) {tokens : Array Token} {n i j : ℕ} {d : Derivation}
  {options : ParseOptions}

include hg

/-- What is matched as the first part of a series: a `FOO` and the run of `BAR` behind it. -/
theorem ruleMatches_fbRule :
    g.RuleMatches (kindsOf tokens) n fbRule 0 (some (d, j)) ↔
      1 ≤ n ∧ ∃ foo bars, (tokens[0]? = some foo ∧ foo.kind = "FOO") ∧
        IsRun tokens "BAR" 1 bars ∧ j = 1 + bars.length ∧ d = fbDerivation bars.length := by
  have hfoo : g.alternativesOf "FOO" = [] := alternativesOf_eq hg _
  rw [fbRule, ruleMatches_gatherRule (alternativesOf_eq hg _)]
  simp only [Grammar.nameMatches_terminal hfoo]
  constructor
  · rintro ⟨m, rfl, d', k, bars, hname, hbars, hj, hd⟩
    by_cases hkind : (kindsOf tokens)[0]? = some "FOO"
    · rw [if_pos hkind] at hname
      cases hname
      obtain ⟨foo, ht⟩ := kindsOf_eq_some_iff.1 hkind
      exact ⟨by omega, foo, bars, ht, hbars, hj, hd⟩
    · rw [if_neg hkind] at hname
      cases hname
  · rintro ⟨hn, foo, bars, ht, hbars, hj, hd⟩
    exact ⟨n - 1, by omega, _, _, bars, (if_pos (kindsOf_eq_some_iff.2 ⟨foo, ht⟩)).symm, hbars, hj,
      hd⟩

/-- What is matched as a whole series. -/
theorem ruleMatches_fbbRule (hkinds : ∀ t ∈ tokens, t.kind ∈ tokenKinds) :
    g.RuleMatches (kindsOf tokens) n fbbRule 0 (some (d, tokens.size)) ↔
      2 ≤ n ∧ ∃ foo bars bazs, IsSplit tokens.toList foo bars bazs ∧
        d = fbbDerivation bars.length bazs.length := by
  -- a token of the kind `fb` would be taken in place of the rule
  have hne : (kindsOf tokens)[0]? ≠ some "fb" := fun hkind => by
    obtain ⟨t, ht, hkind⟩ := kindsOf_eq_some_iff.1 hkind
    exact absurd (hkind ▸ hkinds t (Array.mem_of_getElem? ht)) (by decide)
  have hfb {m : ℕ} {o} : g.NameMatches (kindsOf tokens) m "fb" 0 o ↔ _ :=
    Grammar.nameMatches_one (alternativesOf_eq hg _) hne
  rw [fbbRule, ruleMatches_gatherRule (alternativesOf_eq hg _), ← fbbRule]
  simp only [hfb]
  constructor
  · rintro ⟨m, rfl, d', k, bazs, hmatch, hbazs, hsize, rfl⟩
    obtain ⟨hm, foo, bars, hfoo, hbars, rfl, rfl⟩ := (ruleMatches_fbRule hg).1 hmatch
    exact ⟨by omega, foo, bars, bazs, isSplit_iff.2 ⟨hfoo, hbars, hbazs, hsize⟩, rfl⟩
  · rintro ⟨hn, foo, bars, bazs, hsplit, rfl⟩
    obtain ⟨hfoo, hbars, hbazs, hsize⟩ := isSplit_iff.1 hsplit
    exact ⟨n - 1, by omega, _, _, bazs,
      (ruleMatches_fbRule hg).2 ⟨by omega, foo, bars, hfoo, hbars, rfl, rfl⟩, hbazs, hsize, rfl⟩

/-- Tokens are accepted if they are a series and two rules may be nested, and the tree has all of
them in one list. -/
theorem parseTokens_eq_ok_iff (hkinds : ∀ t ∈ tokens, t.kind ∈ tokenKinds) {node : Node} :
    (g.parseTokens "fbb" tokens options).1 = .ok node ↔
      (2 ≤ options.budget ∧ IsSeries (tokens.toList.map (·.kind))) ∧
        node = ⟨"fbb", [("ITEMS", .list (tokens.toList.map .token))]⟩ := by
  have halts : g.alternativesOf "fbb" = [fbbRule] := alternativesOf_eq hg _
  have hsize : (kindsOf tokens).size = tokens.size := Array.size_map
  have hrule {d} : g.FirstWhole (kindsOf tokens) options.budget [fbbRule] d ↔ _ :=
    Grammar.firstWhole_singleton.trans (hsize ▸ ruleMatches_fbbRule hg hkinds)
  rw [Grammar.parseTokens_eq_ok_iff (by simp [halts]), halts, isSeries_iff]
  simp only [hrule]
  constructor
  · rintro ⟨_, ⟨hbudget, foo, bars, bazs, hsplit, rfl⟩, rfl⟩
    exact ⟨⟨hbudget, foo, bars, bazs, hsplit⟩, by rw [tree_fbbDerivation hsplit]; rfl⟩
  · rintro ⟨⟨hbudget, foo, bars, bazs, hsplit⟩, rfl⟩
    exact ⟨_, ⟨hbudget, foo, bars, bazs, hsplit, rfl⟩, by rw [tree_fbbDerivation hsplit]; rfl⟩

/-! ### Texts -/

/-- A text has only tokens of the three kinds. -/
theorem kind_mem_tokenKinds {text : String} {ts : List Token} (h : g.tokenize text = .ok ts) :
    ∀ t ∈ ts, t.kind ∈ tokenKinds :=
  Grammar.kind_mem_of_tokenize (ofRules_of_grammar hg) (by decide) h

theorem parse_eq_ok_iff {text : String} {node : Node} :
    (g.parse "fbb" text options).1 = .ok node ↔
      2 ≤ options.budget ∧ ∃ ts, g.tokenize text = .ok ts ∧ IsSeries (ts.map (·.kind)) ∧
        node = ⟨"fbb", [("ITEMS", .list (ts.map .token))]⟩ := by
  have hroot : g.hasRule "fbb" := by
    rw [Grammar.hasRule_iff (ofRules_of_grammar hg)]
    exact ⟨fbbRule, by decide, rfl⟩
  have htokens {ts : List Token} (h : g.tokenize text = .ok ts) :
      (g.parseTokens "fbb" ts.toArray options).1 = .ok node ↔ _ :=
    parseTokens_eq_ok_iff hg (by simpa using kind_mem_tokenKinds hg h)
  rw [Grammar.parse_eq_ok_iff]
  constructor
  · rintro ⟨-, ts, hts, hparse⟩
    obtain ⟨⟨hbudget, hseries⟩, hnode⟩ := (htokens hts).1 hparse
    exact ⟨hbudget, ts, hts, hseries, hnode⟩
  · rintro ⟨hbudget, ts, hts, hseries, hnode⟩
    exact ⟨hroot, ts, hts, (htokens hts).2 ⟨⟨hbudget, hseries⟩, hnode⟩⟩

end Series

/-! ### The walk -/

theorem lookup_fbb : walker.handlers.lookup (Text.lowercase "fbb") = some () := by
  rfl

/-- The walk through the tree of a series collects the tokens in its list. -/
theorem collect_items {n : Node} {ts : List Token} (hname : n.name = "fbb")
    (hfields : n.fields = [("ITEMS", .list (ts.map .token))]) : collect n.toTree = .ok ts := by
  have hitems : n.getTokens "ITEMS" = .ok ts := getTokens_eq (by rw [hfields]; rfl)
  have hhandler : walker.handler? n.name = some () := by
    rw [hname]
    exact lookup_fbb
  obtain ⟨k, hk, -⟩ := Walk.exists_fuel (le_refl n.toTree.height)
  have hrun : (Walk.visit act n.toTree).run walker = .ok () ⟨walker.handlers, ts⟩ := by
    rw [Walk.visit, Walk.visitWithin, hk, Walk.visitNodes_toTree,
      Walk.run_enter_of_handler hhandler, act, hitems]
    rfl
  rw [collect, Walk.run_walk_of_ok hrun]

/-- **A series is accepted, and all its tokens are collected in order.**  The grammar of series
compiles.  A text is parsed, if two rules may be nested, just if it has tokens and these are one
`FOO`, then any number of `BAR` and then any number of `BAZ`; the walk through the tree collects the
tokens of the text. -/
theorem series_collected : ∃ g, grammar = .ok g ∧ ∀ (text : String) (options : ParseOptions),
    ((∃ n, (g.parse "fbb" text options).1 = .ok n) ↔
      2 ≤ options.budget ∧ ∃ ts, g.tokenize text = .ok ts ∧ IsSeries (ts.map (·.kind))) ∧
    ∀ n, (g.parse "fbb" text options).1 = .ok n →
      ∃ ts, g.tokenize text = .ok ts ∧ collect n.toTree = .ok ts := by
  obtain ⟨g, hg⟩ := exists_grammar
  refine ⟨g, hg, fun text options => ⟨?_, fun n hn => ?_⟩⟩
  · simp only [parse_eq_ok_iff hg]
    constructor
    · rintro ⟨n, hbudget, ts, hts, hseries, -⟩
      exact ⟨hbudget, ts, hts, hseries⟩
    · rintro ⟨hbudget, ts, hts, hseries⟩
      exact ⟨_, hbudget, ts, hts, hseries, rfl⟩
  · obtain ⟨-, ts, hts, -, rfl⟩ := (parse_eq_ok_iff hg).1 hn
    exact ⟨ts, hts, collect_items rfl rfl⟩

/-- The tokens of a series in lower case, with spaces in between. -/
theorem tokenize_spaced : ∃ g, grammar = .ok g ∧ g.tokenize "foo bar  baz" =
    .ok [⟨"FOO", "foo", 0⟩, ⟨"BAR", "bar", 4⟩, ⟨"BAZ", "baz", 9⟩] := by
  have hscan : ((Grammar.ofRules rules [] true).toOption.map fun g =>
      (g.tokenize "foo bar  baz").toOption) =
        some (some [⟨"FOO", "foo", 0⟩, ⟨"BAR", "bar", 4⟩, ⟨"BAZ", "baz", 9⟩]) := by
    decide +kernel
  obtain ⟨g, hg, hscan⟩ := exists_ok_of_toOption hscan
  exact ⟨g, (compile_eq_ok_iff compileRules_text).2 hg, eq_ok_of_toOption hscan⟩

/-- The walk through the tree collects the three tokens. -/
theorem spaced_collected : ∃ g n, grammar = .ok g ∧
    (g.parse "fbb" "foo bar  baz" {}).1 = .ok n ∧ collect n.toTree =
      .ok [⟨"FOO", "foo", 0⟩, ⟨"BAR", "bar", 4⟩, ⟨"BAZ", "baz", 9⟩] := by
  obtain ⟨g, hg, hall⟩ := series_collected
  obtain ⟨g', hg', hts⟩ := tokenize_spaced
  obtain rfl : g = g' := Except.ok.inj (hg.symm.trans hg')
  obtain ⟨haccepts, hcollects⟩ := hall "foo bar  baz" {}
  obtain ⟨n, hn⟩ := haccepts.2 ⟨by decide, _, hts, 1, 1, rfl⟩
  obtain ⟨ts, hts', hcollect⟩ := hcollects n hn
  rw [hts] at hts'
  cases hts'
  exact ⟨g, n, hg, hn, hcollect⟩

end OrderedGrammar.Series
