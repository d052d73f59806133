import OrderedGrammar.Proofs.Filter.Rules
import OrderedGrammar.Proofs.Matching.Assembly
import OrderedGrammar.Proofs.Notation.Soundness

/-!
# Reading what is matched

What a name matches is read as one of some things, each of which has lexemes and trees (`Reads`).
What the symbols of a rule match is read symbol by symbol, as what they store (`Stores`), and from
that the forms of rules are read whatever names stand in them.

## Main definitions

* `Reads` : whatever a name matches has the lexemes and a tree of something.
* `Stores` : what symbols store when they match.
-/

namespace OrderedGrammar.Filter

open Notation

/-- What tokens can be read: no rule is named like a token's kind, and the text of a number literal
is an integer. -/
structure Readable (g : Grammar) (tokens : Array Token) : Prop where
  kind : ∀ t ∈ tokens, g.alternativesOf t.kind = []
  number : ∀ t ∈ tokens, t.kind = "LITERAL_NUMBER" → (integerOf? t.text).isSome

/-- The lexemes from an index on. -/
def writtenFrom (tokens : Array Token) (i : ℕ) : List Lexeme :=
  (tokens.toList.drop i).map lexemeOf

/-- Whether whatever a name matches has the lexemes and a tree of something. -/
def Reads {α : Type} (g : Grammar) (tokens : Array Token) (n : ℕ) (name : String)
    (lexemes : α → List Lexeme) (IsTree : α → Tree → Prop) : Prop :=
  ∀ i j d, g.NameMatches (kindsOf tokens) n name i (some (d, j)) →
    ∃ x, writtenFrom tokens i = lexemes x ++ writtenFrom tokens j ∧ IsTree x (d.tree tokens)

/-- Whether symbols match from one index to another, and store the entries. -/
def Stores (g : Grammar) (tokens : Array Token) (n : ℕ) (symbols : List Symbol) (i : ℕ)
    (entries : List (String × Tree)) (j : ℕ) : Prop :=
  ∃ parts, g.SymbolsMatch (kindsOf tokens) n symbols i (some (parts, j)) ∧
    Derivation.stored tokens parts = entries

theorem lexemeOf_of_notMem {t : Token} (h : t.kind ∉ operandKinds) : lexemeOf t = sign t.kind := by
  rw [lexemeOf, if_neg h]
  rfl

section

variable {g : Grammar} {tokens : Array Token} {n i j k : ℕ} {d : Derivation}
  {entries : List (String × Tree)} {symbols : List Symbol} {name label : String}

theorem exists_token {kind : String} (h : (kindsOf tokens)[i]? = some kind) :
    ∃ t ∈ tokens, t.kind = kind ∧ tokens.getD i default = t ∧
      writtenFrom tokens i = lexemeOf t :: writtenFrom tokens (i + 1) := by
  obtain ⟨hi, hkind⟩ := Array.getElem?_eq_some_iff.1 h
  have hi' : i < tokens.size := by simpa using hi
  refine ⟨tokens[i], Array.getElem_mem hi', by simpa using hkind, ?_, ?_⟩
  · simp [Array.getD_eq_getD_getElem?, hi']
  · rw [writtenFrom, List.drop_eq_getElem_cons (by simpa using hi'), List.map_cons]
    simp [writtenFrom]

theorem writtenFrom_size : writtenFrom tokens (kindsOf tokens).size = [] := by
  simp [writtenFrom]

/-! ### Names of tokens -/

/-- A kind of tokens matches one of the tokens. -/
theorem token_of_nameMatches {kind : String} (halts : g.alternativesOf kind = [])
    (h : g.NameMatches (kindsOf tokens) n kind i (some (d, j))) :
    ∃ t ∈ tokens, t.kind = kind ∧ d.tree tokens = .token t ∧
      writtenFrom tokens i = lexemeOf t :: writtenFrom tokens j := by
  rw [Grammar.nameMatches_terminal halts] at h
  split at h
  · next hk =>
    cases h
    obtain ⟨t, ht, hkind, hget, hwritten⟩ := exists_token hk
    exact ⟨t, ht, hkind, congrArg Tree.token hget, hwritten⟩
  · cases h

/-- No token has the name of alternatives as its kind. -/
theorem Readable.kind_ne (hr : Readable g tokens) (hname : g.alternativesOf name ≠ []) (i : ℕ) :
    (kindsOf tokens)[i]? ≠ some name := by
  intro h
  obtain ⟨t, ht, hkind, -⟩ := exists_token h
  exact hname (hkind ▸ hr.kind t ht)

/-! ### What symbols store -/

/-- What an alternative matches is what it makes of all that its symbols store. -/
theorem stores_of_ruleMatches {r : Rule}
    (h : g.RuleMatches (kindsOf tokens) n r i (some (d, j))) :
    ∃ m < n, ∃ entries, Stores g tokens m r.symbols i entries j ∧
      d.tree tokens = r.assemble entries := by
  obtain ⟨m, parts, rfl, rfl, hparts⟩ := branch_of_ruleMatches h
  exact ⟨m, Nat.lt_succ_self m, _, ⟨parts, hparts, rfl⟩, rfl⟩

theorem Stores.of_nil (h : Stores g tokens n [] i entries j) : i = j ∧ entries = [] := by
  obtain ⟨parts, hparts, rfl⟩ := h
  cases Grammar.symbolsMatch_nil.1 hparts
  exact ⟨rfl, rfl⟩

/-- A mark, which is not kept. -/
theorem Stores.of_skipped {kind : String} (halts : g.alternativesOf kind = [])
    (hkind : kind ∉ operandKinds)
    (h : Stores g tokens n (skipped kind :: symbols) i entries k) :
    ∃ j, writtenFrom tokens i = sign kind :: writtenFrom tokens j ∧
      Stores g tokens n symbols j entries k := by
  obtain ⟨parts, hparts, rfl⟩ := h
  obtain ⟨d, j, parts, rfl, hname, hrest⟩ :=
    parts_of_symbolsMatch_required (by simp [skipped]) (by simp [skipped]) hparts
  obtain ⟨t, -, hk, -, hwritten⟩ := token_of_nameMatches halts hname
  have hk : t.kind = kind := hk
  rw [lexemeOf_of_notMem (hk ▸ hkind), hk] at hwritten
  exact ⟨j, hwritten, parts, hrest, rfl⟩

section Kept

variable {α : Type} {lexemes : α → List Lexeme} {IsTree : α → Tree → Prop}
  (hreads : Reads g tokens n name lexemes IsTree)
include hreads

/-- A symbol that matches once. -/
theorem Stores.of_kept (h : Stores g tokens n (kept label name :: symbols) i entries k) :
    ∃ x t entries' j, entries = (label, t) :: entries' ∧ IsTree x t ∧
      writtenFrom tokens i = lexemes x ++ writtenFrom tokens j ∧
      Stores g tokens n symbols j entries' k := by
  obtain ⟨parts, hparts, rfl⟩ := h
  obtain ⟨d, j, parts, rfl, hname, hrest⟩ :=
    parts_of_symbolsMatch_required (by simp [kept]) (by simp [kept]) hparts
  obtain ⟨x, hwritten, htree⟩ := hreads _ _ _ hname
  exact ⟨x, _, _, j, rfl, htree, hwritten, parts, hrest, rfl⟩

/-- Rounds of a name. -/
theorem Reads.rounds {ds : List Derivation}
    (h : g.RoundsMatch (kindsOf tokens) n name i ds j) :
    ∃ xs, List.Forall₂ IsTree xs (ds.map (·.tree tokens)) ∧
      writtenFrom tokens i = xs.flatMap lexemes ++ writtenFrom tokens j := by
  induction ds generalizing i with
  | nil =>
    cases h
    exact ⟨[], .nil, rfl⟩
  | cons d ds ih =>
    cases h with
    | still hd =>
      obtain ⟨x, hx, htree⟩ := hreads _ _ _ hd
      exact ⟨[x], .cons htree .nil, by simpa using hx⟩
    | more hd _ hds =>
      obtain ⟨x, hx, htree⟩ := hreads _ _ _ hd
      obtain ⟨xs, htrees, hxs⟩ := ih hds
      refine ⟨x :: xs, .cons htree htrees, ?_⟩
      rw [hx, hxs, List.flatMap_cons, List.append_assoc]

/-- A symbol that matches any number of times. -/
theorem Stores.of_repeated (h : Stores g tokens n (repeated label name :: symbols) i entries k) :
    ∃ xs ts entries' j, entries = ts.map (label, ·) ++ entries' ∧ List.Forall₂ IsTree xs ts ∧
      writtenFrom tokens i = xs.flatMap lexemes ++ writtenFrom tokens j ∧
      Stores g tokens n symbols j entries' k := by
  obtain ⟨parts, hparts, rfl⟩ := h
  obtain ⟨ds, j, parts, hsymbol, hrest, rfl⟩ := Grammar.symbolsMatch_cons_some.1 hparts
  have hstored : Derivation.stored tokens (ds.map (repeated label name, ·) ++ parts) =
      (ds.map (·.tree tokens)).map (label, ·) ++ Derivation.stored tokens parts := by
    rw [Derivation.stored_append, Derivation.stored_map, List.map_map]
    rfl
  refine (of_zeroOrMore rfl rfl hsymbol).elim ?_ ?_
  · rintro ⟨rfl, rfl⟩
    exact ⟨[], [], _, i, hstored, .nil, rfl, parts, hrest, rfl⟩
  · intro hrounds
    obtain ⟨xs, htrees, hwritten⟩ := hreads.rounds hrounds
    exact ⟨xs, _, _, j, hstored, htrees, hwritten, parts, hrest, rfl⟩

end Kept

/-- A mark that may be left out. -/
theorem Stores.of_optional {kind : String} (halts : g.alternativesOf kind = [])
    (hkind : kind ∉ operandKinds)
    (h : Stores g tokens n (⟨kind, label, true, false, false⟩ :: symbols) i entries k) :
    ∃ (mark : Option Token) (entries' : List (String × Tree)) (j : ℕ),
      entries = mark.toList.map (fun t => (label, Tree.token t)) ++ entries' ∧
      writtenFrom tokens i = mark.toList.map (fun _ => sign kind) ++ writtenFrom tokens j ∧
      Stores g tokens n symbols j entries' k := by
  obtain ⟨parts, hparts, rfl⟩ := h
  obtain ⟨ds, j, parts, hsymbol, hrest, rfl⟩ := Grammar.symbolsMatch_cons_some.1 hparts
  rw [Grammar.symbolMatches_optional_terminal halts rfl (by simp)] at hsymbol
  split at hsymbol
  · next hk =>
    cases hsymbol
    obtain ⟨t, -, hkind', hget, hwritten⟩ := exists_token hk
    have hkind' : t.kind = kind := hkind'
    rw [lexemeOf_of_notMem (hkind' ▸ hkind), hkind'] at hwritten
    exact ⟨some t, _, _, by rw [← hget]; rfl, hwritten, parts, hrest, rfl⟩
  · cases hsymbol
    exact ⟨none, _, i, rfl, rfl, parts, hrest, rfl⟩

/-! ### Forms of rules -/

section Forms

variable {α : Type} {lexemes : α → List Lexeme} {IsTree : α → Tree → Prop}

/-- An alternative that hands on what a name matches is read as that. -/
theorem exists_of_passRule {inner : String}
    (hreads : ∀ m < n, Reads g tokens m inner lexemes IsTree)
    (h : g.RuleMatches (kindsOf tokens) n (passRule name inner) i (some (d, j))) :
    ∃ x, writtenFrom tokens i = lexemes x ++ writtenFrom tokens j ∧ IsTree x (d.tree tokens) := by
  obtain ⟨m, hm, entries, hentries, htree⟩ := stores_of_ruleMatches h
  obtain ⟨x, t, entries, k, rfl, hx, hwritten, hrest⟩ := hentries.of_kept (hreads m hm)
  obtain ⟨rfl, rfl⟩ := hrest.of_nil
  have hpass : d.tree tokens = t := htree.trans rfl
  exact ⟨x, hwritten, hpass ▸ hx⟩

/-- A name all of whose alternatives hand on what they match. -/
theorem reads_pass (hr : Readable g tokens) {inner : List String}
    (halts : g.alternativesOf name = inner.map (passRule name)) (hne : inner ≠ [])
    (hreads : ∀ s ∈ inner, ∀ m < n, Reads g tokens m s lexemes IsTree) :
    Reads g tokens n name lexemes IsTree := by
  intro i j d h
  have hname : g.alternativesOf name ≠ [] := by
    rw [halts]
    simpa using hne
  obtain ⟨r, hmem, h⟩ := Grammar.exists_rule_of_nameMatches (hr.kind_ne hname i) h
  rw [halts] at hmem
  obtain ⟨s, hs, rfl⟩ := List.mem_map.1 hmem
  exact exists_of_passRule (hreads s hs) h

/-- Operands behind a connective. -/
theorem reads_behind (hr : Readable g tokens) {connective operand : String}
    (halts : g.alternativesOf name = [behindRule name connective operand])
    (hconnective : g.alternativesOf connective = []) (hkind : connective ∉ operandKinds)
    (hreads : ∀ m < n, Reads g tokens m operand lexemes IsTree) :
    Reads g tokens n name (fun x => sign connective :: lexemes x) IsTree := by
  intro i j d h
  rw [Grammar.nameMatches_one halts (hr.kind_ne (by simp [halts]) i)] at h
  obtain ⟨m, hm, entries, hentries, htree⟩ := stores_of_ruleMatches h
  obtain ⟨k, hmark, hrest⟩ := hentries.of_skipped hconnective hkind
  obtain ⟨x, t, entries, k', rfl, hx, hwritten, hrest⟩ := hrest.of_kept (hreads m hm)
  obtain ⟨rfl, rfl⟩ := hrest.of_nil
  have hpass : d.tree tokens = t := htree.trans rfl
  exact ⟨x, by rw [hmark, hwritten]; rfl, hpass ▸ hx⟩

end Forms

end

end OrderedGrammar.Filter
