import OrderedGrammar.Parsing.Parse
import OrderedGrammar.Proofs.Matching.Shape

/-!
# How high trees are

Every node of a tree has been made by a frame of its own, which was open while what is below the
node was matched.  So the tree of a derivation is no higher than the alternatives that may be nested
(`Grammar.RuleMatches.height_tree_le`), and neither is it with the node that a root gets on top
(`Grammar.RuleMatches.height_rootNode_le`).
-/

namespace OrderedGrammar

namespace Tree

variable {n : ℕ}

theorem itemsHeight_le_iff {items : List Tree} :
    itemsHeight items ≤ n ↔ ∀ item ∈ items, item.height ≤ n := by
  induction items with
  | nil => simp [itemsHeight]
  | cons item items ih => rw [itemsHeight, max_le_iff, ih, List.forall_mem_cons]

theorem fieldsHeight_le_iff {fields : Fields Tree} :
    fieldsHeight fields ≤ n ↔ ∀ f ∈ fields, f.2.height ≤ n := by
  induction fields with
  | nil => simp [fieldsHeight]
  | cons f fields ih =>
    obtain ⟨label, value⟩ := f
    rw [fieldsHeight, max_le_iff, ih, List.forall_mem_cons]

theorem height_le_of_mem_spliced {t item : Tree} (h : item ∈ Frame.spliced t) :
    item.height ≤ t.height := by
  cases t with
  | list items => exact itemsHeight_le_iff.1 le_rfl item h
  | token t => rw [List.mem_singleton.1 h]
  | node name fields => rw [List.mem_singleton.1 h]

end Tree

namespace Rule

variable {r : Rule} {stored : List (String × Tree)} {n : ℕ}

theorem height_fieldValue_le (h : ∀ entry ∈ stored, entry.2.height ≤ n) (label : String) :
    (r.fieldValue stored label).height ≤ n := by
  have hvalues : ∀ value ∈ valuesUnder label stored, value.height ≤ n := by
    intro value hvalue
    obtain ⟨entry, hentry, rfl⟩ := List.mem_map.1 hvalue
    exact h entry (List.mem_filter.1 hentry).1
  rw [fieldValue]
  split
  · rw [Tree.height, Tree.itemsHeight_le_iff]
    intro item hitem
    obtain ⟨value, hvalue, hitem⟩ := List.mem_flatMap.1 hitem
    exact (Tree.height_le_of_mem_spliced hitem).trans (hvalues value hvalue)
  · rw [List.getLastD_eq_getLast?]
    cases hlast : (valuesUnder label stored).getLast? with
    | none => exact Nat.zero_le n
    | some value => exact hvalues value (List.mem_of_getLast? hlast)

/-- An alternative puts one node at most above what its symbols store, also as a root. -/
theorem height_assemble_le (h : ∀ entry ∈ stored, entry.2.height ≤ n) :
    (r.assemble stored).height ≤ n + 1 ∧
      ∀ root, (Grammar.rootNode root (r.assemble stored)).toTree.height ≤ n + 1 := by
  have hone (value : Tree) (hvalue : value.height ≤ n) (root : String) :
      (Grammar.rootNode root value).toTree.height ≤ n + 1 := by
    cases value with
    | node name fields => exact hvalue.trans (Nat.le_succ n)
    | token t => simp [Grammar.rootNode, Node.toTree, Tree.height, Tree.fieldsHeight]
    | list items =>
      simpa [Grammar.rootNode, Node.toTree, Tree.height, Tree.fieldsHeight] using hvalue
  have hvalue := height_fieldValue_le (r := r) h
  rw [assemble]
  split
  · exact ⟨(hvalue "").trans (Nat.le_succ n), hone _ (hvalue "")⟩
  · have hfields : Tree.fieldsHeight ((fieldLabels stored).map fun label =>
        (label, r.fieldValue stored label)) ≤ n := by
      rw [Tree.fieldsHeight_le_iff]
      intro f hf
      obtain ⟨label, -, rfl⟩ := List.mem_map.1 hf
      exact hvalue label
    exact ⟨Nat.succ_le_succ hfields, fun root => Nat.succ_le_succ hfields⟩

end Rule

namespace Grammar

variable {g : Grammar} {kinds : Array String} {limit : ℕ∞} {i j : ℕ}

/-- Whether the tree of a derivation is no higher than the limit, whatever the tokens. -/
def Low (limit : ℕ∞) (d : Derivation) : Prop := ∀ tokens, ((d.tree tokens).height : ℕ∞) ≤ limit

/-- Parts that are low make an alternative that is one higher at most. -/
theorem height_branch_le {parts : List (Symbol × Derivation)} (h : ∀ part ∈ parts, Low limit part.2)
    (r : Rule) (tokens : Array Token) :
    (((Derivation.branch r parts).tree tokens).height : ℕ∞) ≤ limit + 1 ∧
      ∀ root, ((rootNode root ((Derivation.branch r parts).tree tokens)).toTree.height : ℕ∞) ≤
        limit + 1 := by
  cases limit with
  | top => simp
  | coe n =>
    have hstored : ∀ entry ∈ Derivation.stored tokens parts, entry.2.height ≤ n := by
      intro entry hentry
      obtain ⟨s, d, hpart, -, rfl⟩ := Derivation.exists_of_mem_stored hentry
      exact_mod_cast h _ hpart tokens
    exact_mod_cast Rule.height_assemble_le (r := r) hstored

mutual

theorem NameMatches.low {limit name i o} : g.NameMatches kinds limit name i o →
    ∀ x ∈ o, Low limit x.1
  | .token _ => by
    rintro _ ⟨⟩ tokens
    simp [Derivation.tree, Tree.height]
  | .rule _ _ _ h => RuleMatches.low h
  | .fail _ _ => by rintro _ ⟨⟩

theorem RuleMatches.low {limit r i o} : g.RuleMatches kinds limit r i o → ∀ x ∈ o, Low limit x.1
  | .matched h => by
    rintro _ ⟨⟩ tokens
    exact (height_branch_le (SymbolsMatch.low h _ rfl) _ tokens).1
  | .fail _ => by rintro _ ⟨⟩

theorem SymbolsMatch.low {limit symbols i o} : g.SymbolsMatch kinds limit symbols i o →
    ∀ x ∈ o, ∀ part ∈ x.1, Low limit part.2
  | .nil => by
    rintro _ ⟨⟩
    simp
  | .cons h h' => by
    rintro _ ⟨⟩ part hpart
    rcases List.mem_append.1 hpart with hpart | hpart
    · obtain ⟨d, hd, rfl⟩ := List.mem_map.1 hpart
      exact SymbolMatches.low h _ rfl d hd
    · exact SymbolsMatch.low h' _ rfl part hpart
  | .failHead _ => by rintro _ ⟨⟩
  | .failTail _ _ => by rintro _ ⟨⟩

theorem SymbolMatches.low {limit s i o} : g.SymbolMatches kinds limit s i o →
    ∀ x ∈ o, ∀ d ∈ x.1, Low limit d
  | .atEnd _ _ => by rintro _ ⟨⟩; simp
  | .single _ _ h => by
    rintro _ ⟨⟩
    simpa using NameMatches.low h _ rfl
  | .repeated _ _ h => by
    rintro _ ⟨⟩
    exact RoundsMatch.low h
  | .skip _ _ _ => by rintro _ ⟨⟩; simp
  | .fail _ _ => by rintro _ ⟨⟩

theorem RoundsMatch.low {limit name i ds j} : g.RoundsMatch kinds limit name i ds j →
    ∀ d ∈ ds, Low limit d
  | .stop _ => by simp
  | .still h => by simpa using NameMatches.low h _ rfl
  | .more h _ h' => List.forall_mem_cons.2 ⟨NameMatches.low h _ rfl, RoundsMatch.low h'⟩

end

/-- The tree of an alternative as a root is no higher than the alternatives that may be nested. -/
theorem RuleMatches.height_rootNode_le {r : Rule} {d : Derivation}
    (h : g.RuleMatches kinds limit r i (some (d, j))) (root : String) (tokens : Array Token) :
    ((rootNode root (d.tree tokens)).toTree.height : ℕ∞) ≤ limit := by
  obtain ⟨limit, rfl, o, ho, heq⟩ := ruleMatches_iff.1 h
  obtain ⟨⟨parts, j⟩, rfl, hd⟩ := Option.map_eq_some_iff.1 heq.symm
  cases hd
  exact (height_branch_le (ho.low _ rfl) r tokens).2 root

end Grammar

end OrderedGrammar
