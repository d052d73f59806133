import OrderedGrammar.Proofs.Construction
import OrderedGrammar.Proofs.Matching.Acceptance
import OrderedGrammar.Proofs.Matching.Assembly

/-!
# What becomes of the tokens

When tokens are tagged with their indices, the tree of a parse shows what has become of each of
them: the tokens that were not matched underneath an ignored symbol are in the tree, each of them
once, and every list in the tree has them in their order (`Grammar.parseTokens_keeps_tokens`).

The tree is the one of a derivation whose leaves are all indices in their order, so that it
suffices to look at derivations.
-/

namespace OrderedGrammar

namespace Derivation

variable {tokens : Array Token} {sort : Rule → Prop}

/-! ### Shown and hidden tokens -/

mutual

/-- A derivation shows and hides each of its tokens. -/
theorem shown_append_hidden_perm : ∀ d : Derivation, (d.shown ++ d.hidden).Perm d.leaves
  | .leaf _ => .refl _
  | .branch _ parts => partsShown_append_partsHidden_perm parts

theorem partsShown_append_partsHidden_perm : ∀ parts : List (Symbol × Derivation),
    (partsShown parts ++ partsHidden parts).Perm (partsLeaves parts)
  | [] => .refl _
  | (s, d) :: parts => by
    have ih := partsShown_append_partsHidden_perm parts
    rw [partsShown, partsHidden, partsLeaves]
    split
    · calc partsShown parts ++ (d.leaves ++ partsHidden parts)
        _ = (partsShown parts ++ d.leaves) ++ partsHidden parts := (List.append_assoc ..).symm
        _ |>.Perm ((d.leaves ++ partsShown parts) ++ partsHidden parts) :=
          List.perm_append_comm.append_right _
        _ = d.leaves ++ (partsShown parts ++ partsHidden parts) := List.append_assoc ..
        _ |>.Perm (d.leaves ++ partsLeaves parts) := ih.append_left _
    · calc (d.shown ++ partsShown parts) ++ (d.hidden ++ partsHidden parts)
        _ = d.shown ++ ((partsShown parts ++ d.hidden) ++ partsHidden parts) := by simp
        _ |>.Perm (d.shown ++ ((d.hidden ++ partsShown parts) ++ partsHidden parts)) :=
          (List.perm_append_comm.append_right _).append_left _
        _ = (d.shown ++ d.hidden) ++ (partsShown parts ++ partsHidden parts) := by simp
        _ |>.Perm (d.leaves ++ partsLeaves parts) := (shown_append_hidden_perm d).append ih

end

theorem shown_subset_leaves (d : Derivation) : d.shown ⊆ d.leaves := fun _ hi =>
  (shown_append_hidden_perm d).mem_iff.1 (List.mem_append_left _ hi)

theorem mem_shown_iff {d : Derivation} (hnd : d.leaves.Nodup) {i : ℕ} :
    i ∈ d.shown ↔ i ∈ d.leaves ∧ i ∉ d.hidden := by
  have hperm := shown_append_hidden_perm d
  have hdisjoint := List.nodup_append.1 (hperm.nodup_iff.2 hnd)
  rw [← hperm.mem_iff, List.mem_append]
  constructor
  · exact fun hi => ⟨.inl hi, fun hhidden => hdisjoint.2.2 i hi i hhidden rfl⟩
  · exact fun ⟨hi, hno⟩ => hi.resolve_right hno

mutual

/-- Where no symbol is ignored, nothing is hidden. -/
theorem hidden_eq_nil (hsort : ∀ rule, sort rule → ∀ s ∈ rule.symbols, ¬ s.ignored) :
    ∀ d : Derivation, d.Fits sort → d.hidden = []
  | .leaf _, _ => rfl
  | .branch rule parts, ⟨hrule, hrounds, hparts⟩ =>
    partsHidden_eq_nil hsort parts hparts fun _ _ hpart =>
      hsort rule hrule _ (hrounds.symbol_mem hpart)

theorem partsHidden_eq_nil (hsort : ∀ rule, sort rule → ∀ s ∈ rule.symbols, ¬ s.ignored) :
    ∀ parts : List (Symbol × Derivation), PartsFit sort parts →
      (∀ s d, (s, d) ∈ parts → ¬ s.ignored) → partsHidden parts = []
  | [], _, _ => rfl
  | (s, d) :: parts, ⟨hd, hparts⟩, hno => by
    rw [partsHidden, if_neg (hno s d List.mem_cons_self), hidden_eq_nil hsort d hd,
      partsHidden_eq_nil hsort parts hparts fun s' d' hmem =>
        hno s' d' (List.mem_cons_of_mem _ hmem)]
    rfl

end

/-! ### The tokens and lists of the tree -/

mutual

/-- The tree of a derivation has exactly the tokens that the derivation shows. -/
theorem tokens_tree_perm : ∀ d : Derivation, d.Fits sort →
    (d.tree tokens).tokens.Perm (d.shown.map fun i => tokens.getD i default)
  | .leaf _, _ => .refl _
  | .branch _ parts, ⟨_, hrounds, hparts⟩ =>
    (Rule.tokens_assemble_perm (storable hrounds tokens)).trans (tokens_stored_perm parts hparts)

theorem tokens_stored_perm : ∀ parts : List (Symbol × Derivation), PartsFit sort parts →
    ((stored tokens parts).flatMap fun entry => entry.2.tokens).Perm
      ((partsShown parts).map fun i => tokens.getD i default)
  | [], _ => .refl _
  | (s, d) :: parts, ⟨hd, hparts⟩ => by
    rw [stored_cons, partsShown]
    split
    · exact tokens_stored_perm parts hparts
    · rw [List.flatMap_cons, List.map_append]
      exact (tokens_tree_perm d hd).append (tokens_stored_perm parts hparts)

end

/-- Whether every token of the derivation has its index for its offset. -/
def Tagged (tokens : Array Token) (leaves : List ℕ) : Prop :=
  ∀ i ∈ leaves, (tokens.getD i default).offset = i

theorem positions_tree_perm {d : Derivation} (hd : d.Fits sort) (htag : Tagged tokens d.leaves) :
    (d.tree tokens).positions.Perm (d.shown.map Nat.cast) := by
  have hcast : (d.shown.map fun i => tokens.getD i default).map (·.offset) =
      d.shown.map Nat.cast := by
    rw [List.map_map]
    exact List.map_congr_left fun i hi => htag i (d.shown_subset_leaves hi)
  rw [← hcast]
  exact (tokens_tree_perm d hd).map _

theorem exists_of_mem_positions {d : Derivation} (hd : d.Fits sort)
    (htag : Tagged tokens d.leaves) {p : ℤ} (hp : p ∈ (d.tree tokens).positions) :
    ∃ i ∈ d.leaves, p = i := by
  obtain ⟨i, hi, rfl⟩ := List.mem_map.1 ((positions_tree_perm hd htag).mem_iff.1 hp)
  exact ⟨i, d.shown_subset_leaves hi, rfl⟩

theorem leaves_subset_partsLeaves {parts : List (Symbol × Derivation)} {s : Symbol}
    {d : Derivation} (hpart : (s, d) ∈ parts) : d.leaves ⊆ partsLeaves parts := by
  induction parts with
  | nil => cases hpart
  | cons part parts ih =>
    rw [partsLeaves]
    rcases List.mem_cons.1 hpart with rfl | hpart
    · exact fun i hi => List.mem_append_left _ hi
    · exact fun i hi => List.mem_append_right _ (ih hpart hi)

/-- What parts store stands in their order. -/
theorem stored_pairwise : ∀ {parts : List (Symbol × Derivation)}, PartsFit sort parts →
    Tagged tokens (partsLeaves parts) → (partsLeaves parts).Pairwise (· < ·) →
    (stored tokens parts).Pairwise fun x y => x.2.Before y.2
  | [], _, _, _ => .nil
  | (s, d) :: parts, ⟨hd, hparts⟩, htag, hlt => by
    rw [partsLeaves] at htag hlt
    obtain ⟨-, hlt, hcross⟩ := List.pairwise_append.1 hlt
    have htag' : Tagged tokens (partsLeaves parts) := fun i hi => htag i (by simp [hi])
    have hrest := stored_pairwise hparts htag' hlt
    rw [stored_cons]
    split
    · exact hrest
    · refine List.pairwise_cons.2 ⟨fun entry hentry p hp q hq => ?_, hrest⟩
      obtain ⟨i, hi, rfl⟩ := exists_of_mem_positions hd (fun i hi => htag i (by simp [hi])) hp
      obtain ⟨s', d', hpart, -, rfl⟩ := exists_of_mem_stored hentry
      have hleaves : d'.leaves ⊆ partsLeaves parts := leaves_subset_partsLeaves hpart
      obtain ⟨j, hj, rfl⟩ := exists_of_mem_positions (partsFit_iff.1 hparts _ hpart)
        (fun i hi => htag' i (hleaves hi)) hq
      exact Int.ofNat_lt.2 (hcross i hi j (hleaves hj))

mutual

/-- The lists in the tree of a derivation keep the order of the tokens. -/
theorem lists_tree_pairwise : ∀ d : Derivation, d.Fits sort → Tagged tokens d.leaves →
    d.leaves.Pairwise (· < ·) → ∀ ts ∈ (d.tree tokens).lists, ts.Pairwise Tree.Before
  | .leaf _, _, _, _, _, hts => by cases hts
  | .branch rule parts, ⟨_, hrounds, hparts⟩, htag, hlt, ts, hts => by
    have hstored := lists_stored_pairwise parts hparts htag hlt
    rcases Rule.of_mem_lists_assemble hts with ⟨entry, hentry, hts⟩ | ⟨label, -, rfl⟩
    · exact hstored entry hentry ts hts
    · -- the items of one value are in order by what has been shown of it, and those of different
      -- values because the values are
      refine List.pairwise_flatMap.2 ⟨fun value hvalue => ?_, ?_⟩
      · obtain ⟨entry, hentry, rfl⟩ := Rule.exists_of_mem_valuesUnder hvalue
        cases hspliced : entry.2 with
        | token t => exact List.pairwise_singleton _ _
        | node name fields => exact List.pairwise_singleton _ _
        | list items =>
          refine hstored entry hentry _ ?_
          rw [hspliced]
          exact List.mem_cons_self
      · have hpairwise : (Rule.valuesUnder label (stored tokens parts)).Pairwise Tree.Before :=
          List.pairwise_map.2 ((stored_pairwise hparts htag hlt).sublist List.filter_sublist)
        refine hpairwise.imp fun {x y} hxy x' hx' y' hy' p hp q hq => ?_
        exact hxy p (Tree.positions_subset_of_mem_spliced hx' hp) q
          (Tree.positions_subset_of_mem_spliced hy' hq)

theorem lists_stored_pairwise : ∀ parts : List (Symbol × Derivation), PartsFit sort parts →
    Tagged tokens (partsLeaves parts) → (partsLeaves parts).Pairwise (· < ·) →
    ∀ entry ∈ stored tokens parts, ∀ ts ∈ entry.2.lists, ts.Pairwise Tree.Before
  | [], _, _, _, _, hentry => by cases hentry
  | (s, d) :: parts, ⟨hd, hparts⟩, htag, hlt, entry, hentry => by
    rw [partsLeaves] at htag hlt
    obtain ⟨hlt, hlt', -⟩ := List.pairwise_append.1 hlt
    have ih := lists_stored_pairwise parts hparts (fun i hi => htag i (by simp [hi])) hlt' entry
    rw [stored_cons] at hentry
    split at hentry
    · exact ih hentry
    · rcases List.mem_cons.1 hentry with rfl | hentry
      · exact lists_tree_pairwise d hd (fun i hi => htag i (by simp [hi])) hlt
      · exact ih hentry

end

end Derivation

namespace Grammar

/-- The derivation by which a root matches all tokens: that of the first of its alternatives that
does, or that of a single token, if the root is a kind of tokens. -/
inductive Accepts (g : Grammar) (kinds : Array String) (root : String) : Derivation → Prop
  | rule {d : Derivation} : g.FirstWhole kinds ⊤ (g.alternativesOf root) d →
      Accepts g kinds root d
  | token : g.alternativesOf root = [] → g.isTokenKind root → kinds = #[root] →
      Accepts g kinds root (.leaf 0)

variable {g : Grammar} {root : String} {tokens tokens' : Array Token} {options : ParseOptions}
  {n : Node} {d : Derivation}

theorem Accepts.fits {kinds : Array String} (h : g.Accepts kinds root d) :
    d.Fits g.IsAlternative := by
  cases h with
  | token _ _ _ => trivial
  | rule h =>
    obtain ⟨pre, rule, post, halts, -, hrule⟩ := h.exists_split
    exact hrule.fits ⟨root, by simp [halts]⟩ _ rfl

theorem Accepts.leaves_eq {kinds : Array String} (h : g.Accepts kinds root d) :
    d.leaves = List.range kinds.size := by
  cases h with
  | token _ _ hkinds => simp [hkinds, Derivation.leaves]
  | rule h =>
    obtain ⟨pre, rule, post, -, -, hrule⟩ := h.exists_split
    rw [(hrule.spans _ rfl).leaves_eq, Nat.sub_zero, List.range_eq_range']

theorem matchToken_eq_ok_iff {kind : String} :
    matchToken kind (.start tokens) = .ok n ↔
      kindsOf tokens = #[kind] ∧ n = rootNode kind ((Derivation.leaf 0).tree tokens) := by
  obtain ⟨tokens⟩ := tokens
  match tokens with
  | [] => simp [matchToken, Context.tryToken, Context.peek, Context.tokenAt, Context.start]
  | [t] =>
    by_cases ht : t.kind = kind
    · simp [matchToken, Context.tryToken, Context.peek, Context.tokenAt, Context.start, ht,
        Context.atEnd, Context.seek, Derivation.tree, rootNode, eq_comm]
    · simp [matchToken, Context.tryToken, Context.peek, Context.tokenAt, Context.start, ht]
  | t :: t' :: ts =>
    by_cases ht : t.kind = kind
    · simp [matchToken, Context.tryToken, Context.peek, Context.tokenAt, Context.start, ht,
        Context.atEnd, Context.seek]
    · simp [matchToken, Context.tryToken, Context.peek, Context.tokenAt, Context.start, ht]

/-- A parse that gives a tree does so by a derivation, and gives the tree of the same derivation
for other tokens of the same kinds. -/
theorem parseTokens_of_kinds (hkinds : kindsOf tokens' = kindsOf tokens)
    (hok : (g.parseTokens root tokens options).1 = .ok n) :
    ∃ d, g.Accepts (kindsOf tokens) root d ∧ n = rootNode root (d.tree tokens) ∧
      (g.parseTokens root tokens' options).1 = .ok (rootNode root (d.tree tokens')) := by
  by_cases hroot : g.alternativesOf root = []
  · rw [parseTokens, hroot] at hok ⊢
    dsimp only at hok ⊢
    split at hok
    · next hkind =>
      rw [if_pos hkind]
      cases hmatch : matchToken root (.start tokens) with
      | error e => rw [hmatch] at hok; cases hok
      | ok n' =>
        rw [hmatch] at hok
        cases hok
        obtain ⟨hsingle, rfl⟩ := matchToken_eq_ok_iff.1 hmatch
        refine ⟨.leaf 0, .token hroot hkind hsingle, rfl, ?_⟩
        rw [matchToken_eq_ok_iff.2 ⟨hkinds.trans hsingle, rfl⟩]
        rfl
    · cases hok
  · obtain ⟨d, hd, rfl⟩ := (parseTokens_eq_ok_iff hroot n).1 hok
    refine ⟨d, .rule (hd.mono le_top), rfl, ?_⟩
    exact (parseTokens_eq_ok_iff hroot _).2 ⟨d, hkinds ▸ hd, rfl⟩

/-- The tokens with their indices for their offsets. -/
def tagged (tokens : Array Token) : Array Token :=
  tokens.mapIdx fun i t => { t with offset := i }

theorem kindsOf_tagged (tokens : Array Token) : kindsOf (tagged tokens) = kindsOf tokens := by
  ext i
  · simp [tagged]
  · simp [tagged]

theorem tagged_range (tokens : Array Token) :
    Derivation.Tagged (tagged tokens) (List.range tokens.size) := by
  intro i hi
  simp [tagged, Array.getD_eq_getD_getElem?, List.mem_range.1 hi]

theorem tokens_rootNode (root : String) (t : Tree) :
    (rootNode root t).toTree.tokens = t.tokens := by
  cases t <;> simp [rootNode, Node.toTree, Tree.tokens, Tree.fieldsTokens]

theorem lists_rootNode (root : String) (t : Tree) : (rootNode root t).toTree.lists = t.lists := by
  cases t <;> simp [rootNode, Node.toTree, Tree.lists, Tree.fieldsLists]

/-- The tokens of the tree are among those that are parsed. -/
theorem tokens_subset_of_parseTokens (hok : (g.parseTokens root tokens options).1 = .ok n) :
    ∀ t ∈ n.toTree.tokens, t ∈ tokens := by
  obtain ⟨d, hd, rfl, -⟩ := parseTokens_of_kinds rfl hok
  intro t ht
  rw [tokens_rootNode, (Derivation.tokens_tree_perm d hd.fits).mem_iff] at ht
  obtain ⟨i, hi, rfl⟩ := List.mem_map.1 ht
  have hi : i < tokens.size := by
    have hleaf := d.shown_subset_leaves hi
    rw [hd.leaves_eq, List.mem_range] at hleaf
    simpa using hleaf
  simp [Array.getD_eq_getD_getElem?, hi]

/-- **No token is lost, doubled or moved.**  When tokens that parse are tagged with their indices,
an index occurs at most once in the tree, and it occurs unless its token has been matched
underneath an ignored symbol; if the grammar ignores no symbol, all indices occur.  In every list
anywhere in the tree, all indices under an item are smaller than those under a later one. -/
theorem parseTokens_keeps_tokens {rules : List Rule} {ignored : List String} {ignoreCase : Bool}
    (hg : Grammar.ofRules rules ignored ignoreCase = .ok g)
    (hok : (g.parseTokens root tokens options).1 = .ok n) :
    ∃ d n', g.Accepts (kindsOf tokens) root d ∧ n = rootNode root (d.tree tokens) ∧
      (g.parseTokens root (tagged tokens) options).1 = .ok n' ∧
      n'.toTree.positions.Nodup ∧
      (∀ p, p ∈ n'.toTree.positions ↔ ∃ i < tokens.size, i ∉ d.hidden ∧ p = i) ∧
      ((∀ rule ∈ rules, ∀ s ∈ rule.symbols, ¬ s.ignored) →
        n'.toTree.positions.Perm ((List.range tokens.size).map Nat.cast)) ∧
      ∀ items ∈ n'.toTree.lists, items.Pairwise Tree.Before := by
  obtain ⟨d, hd, hn, hok'⟩ := parseTokens_of_kinds (kindsOf_tagged tokens) hok
  have hleaves : d.leaves = List.range tokens.size := by rw [hd.leaves_eq, Array.size_map]
  have htag : Derivation.Tagged (tagged tokens) d.leaves := hleaves ▸ tagged_range tokens
  have hnd : d.leaves.Nodup := hleaves ▸ List.nodup_range
  have hperm : (rootNode root (d.tree (tagged tokens))).toTree.positions.Perm
      (d.shown.map Nat.cast) := by
    rw [Tree.positions, tokens_rootNode]
    exact Derivation.positions_tree_perm hd.fits htag
  have hsplit := Derivation.shown_append_hidden_perm d
  refine ⟨d, _, hd, hn, hok', ?_, fun p => ?_, fun hno => ?_, ?_⟩
  · rw [hperm.nodup_iff]
    exact (List.nodup_append.1 (hsplit.nodup_iff.2 hnd)).1.map fun _ _ => Int.ofNat_inj.1
  · simp only [hperm.mem_iff, List.mem_map, Derivation.mem_shown_iff hnd, hleaves, List.mem_range,
      and_assoc, eq_comm]
  · have hhidden : d.hidden = [] := by
      refine Derivation.hidden_eq_nil (fun rule hrule => ?_) d hd.fits
      obtain ⟨name, hrule⟩ := hrule
      exact hno rule ((of_ofRules hg).1 ▸ mem_rules_of_mem_alternativesOf hg hrule)
    rw [hhidden, List.append_nil, hleaves] at hsplit
    exact hperm.trans (hsplit.map _)
  · rw [lists_rootNode]
    exact Derivation.lists_tree_pairwise d hd.fits htag (hleaves ▸ List.pairwise_lt_range)

/-- The rules for pairs of words with a comma in between. -/
def commaRules : List Rule :=
  [.lexer "WORD" "[a-z]+", .lexer "COMMA" ",",
    ⟨"pair", .parser, [.ofModifier "WORD" .required "item", .ofModifier "COMMA" .ignored none,
      .ofModifier "WORD" .required "item"], _, rfl, by simp, by simp, by decide⟩]

/-- The words are kept in their order, and the comma is hidden. -/
theorem commaRules_positions : ∃ g, Grammar.ofRules commaRules [] false = .ok g ∧
    ∃ (d : Derivation) (n : Node), g.Accepts #["WORD", "COMMA", "WORD"] "pair" d ∧
      n.toTree.positions.Nodup ∧
      ∀ p, p ∈ n.toTree.positions ↔ ∃ i < 3, i ∉ d.hidden ∧ p = i := by
  have hparses : (match Grammar.ofRules commaRules [] false with
      | .ok g => (g.parseTokens "pair" #[⟨"WORD", "a", 0⟩, ⟨"COMMA", ",", 1⟩, ⟨"WORD", "b", 2⟩]
          ⟨1000, false⟩).1.isOk
      | .error _ => false) = true := by decide +kernel
  cases hg : Grammar.ofRules commaRules [] false with
  | error e => rw [hg] at hparses; cases hparses
  | ok g =>
    rw [hg] at hparses
    dsimp only at hparses
    cases hok : (g.parseTokens "pair" #[⟨"WORD", "a", 0⟩, ⟨"COMMA", ",", 1⟩, ⟨"WORD", "b", 2⟩]
        ⟨1000, false⟩).1 with
    | error e => rw [hok] at hparses; cases hparses
    | ok n =>
      obtain ⟨d, n', hd, -, -, hnd, hmem, -⟩ := parseTokens_keeps_tokens hg hok
      exact ⟨g, rfl, d, n', by simpa using hd, hnd, by simpa using hmem⟩

end Grammar

end OrderedGrammar
