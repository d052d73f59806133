import OrderedGrammar.Proofs.Matching.Positions

/-!
# Tokens of the same kinds

Only the kinds of tokens count for a parse, so that tokens may be exchanged for stand-ins of the
same kinds with any text.  The stand-ins have their indices for their offsets, and so the tree for
the tokens is known from the tree for the stand-ins (`Grammar.parseTokens_standIns`).

## Main definitions

* `Tree.mapTokens` : a tree with its tokens changed.
* `Grammar.standIns` : tokens of the same kinds with another text, each with its index.
-/

namespace OrderedGrammar

/-! ### Trees with their tokens changed -/

namespace Tree

variable (change : Token → Token)

mutual

/-- The tree with its tokens changed. -/
def mapTokens : Tree → Tree
  | .token t => .token (change t)
  | .node name fields => .node name (fieldsMapTokens fields)
  | .list items => .list (itemsMapTokens items)

/-- The fields with their tokens changed. -/
def fieldsMapTokens : Fields Tree → Fields Tree
  | [] => []
  | (label, value) :: rest => (label, mapTokens value) :: fieldsMapTokens rest

/-- The items of a list with their tokens changed. -/
def itemsMapTokens : List Tree → List Tree
  | [] => []
  | item :: items => mapTokens item :: itemsMapTokens items

end

theorem fieldsMapTokens_eq (fields : Fields Tree) :
    fieldsMapTokens change fields = fields.map (Prod.map id (mapTokens change)) := by
  induction fields with
  | nil => rfl
  | cons f fields ih =>
    obtain ⟨label, value⟩ := f
    rw [fieldsMapTokens, ih, List.map_cons]
    rfl

theorem itemsMapTokens_eq (items : List Tree) :
    itemsMapTokens change items = items.map (mapTokens change) := by
  induction items with
  | nil => rfl
  | cons item items ih => rw [itemsMapTokens, ih, List.map_cons]

theorem spliced_mapTokens (t : Tree) :
    Frame.spliced (t.mapTokens change) = (Frame.spliced t).map (mapTokens change) := by
  cases t with
  | list items => exact itemsMapTokens_eq change items
  | token t => rfl
  | node name fields => rfl

end Tree

/-- The node with its tokens changed. -/
def Node.mapTokens (change : Token → Token) (n : Node) : Node :=
  ⟨n.name, Tree.fieldsMapTokens change n.fields⟩

theorem Grammar.rootNode_mapTokens (change : Token → Token) (root : String) (t : Tree) :
    (rootNode root t).mapTokens change = rootNode root (t.mapTokens change) := by
  cases t <;> rfl

/-! ### Trees of derivations -/

namespace Rule

variable (change : Token → Token) (r : Rule) (stored : List (String × Tree))

theorem valuesUnder_mapTokens (label : String) :
    valuesUnder label (stored.map (Prod.map id (Tree.mapTokens change))) =
      (valuesUnder label stored).map (Tree.mapTokens change) := by
  rw [valuesUnder, valuesUnder, List.filter_map, List.map_map, List.map_map]
  rfl

theorem fieldValue_mapTokens (label : String) :
    r.fieldValue (stored.map (Prod.map id (Tree.mapTokens change))) label =
      (r.fieldValue stored label).mapTokens change := by
  rw [fieldValue, fieldValue, valuesUnder_mapTokens]
  split
  · simp [Tree.mapTokens, Tree.itemsMapTokens_eq, List.flatMap_map, List.map_flatMap,
      Tree.spliced_mapTokens]
  · rw [List.getLastD_eq_getLast?, List.getLastD_eq_getLast?, List.getLast?_map]
    cases (valuesUnder label stored).getLast? <;> rfl

/-- What an alternative makes of what is stored does not depend on the tokens in it. -/
theorem assemble_mapTokens :
    r.assemble (stored.map (Prod.map id (Tree.mapTokens change))) =
      (r.assemble stored).mapTokens change := by
  have hlabels : (stored.map (Prod.map id (Tree.mapTokens change))).map (·.1) =
      stored.map (·.1) := by
    rw [List.map_map]
    rfl
  rw [assemble, assemble, fieldLabels, fieldLabels, hlabels]
  split
  · exact fieldValue_mapTokens change r stored ""
  · rw [Tree.mapTokens, Tree.fieldsMapTokens_eq, List.map_map]
    congr 1
    refine List.map_congr_left fun label _ => ?_
    rw [fieldValue_mapTokens]
    rfl

end Rule

namespace Derivation

variable {change : Token → Token} {tokens tokens' : Array Token}

mutual

/-- A derivation's tree for some tokens is its tree for others with these changed. -/
theorem mapTokens_tree : ∀ d : Derivation,
    (∀ i ∈ d.leaves, change (tokens.getD i default) = tokens'.getD i default) →
    (d.tree tokens).mapTokens change = d.tree tokens'
  | .leaf i, h => congrArg Tree.token (h i List.mem_cons_self)
  | .branch rule parts, h => by
    rw [tree, tree, ← Rule.assemble_mapTokens, mapTokens_stored parts h]

theorem mapTokens_stored : ∀ parts : List (Symbol × Derivation),
    (∀ i ∈ partsLeaves parts, change (tokens.getD i default) = tokens'.getD i default) →
    (stored tokens parts).map (Prod.map id (Tree.mapTokens change)) = stored tokens' parts
  | [], _ => rfl
  | (s, d) :: parts, h => by
    rw [partsLeaves, List.forall_mem_append] at h
    have hparts := mapTokens_stored parts h.2
    rw [stored_cons, stored_cons]
    split
    · exact hparts
    · rw [List.map_cons, hparts, ← mapTokens_tree d h.1]
      rfl

end

end Derivation

/-! ### Stand-ins -/

namespace Grammar

variable {g : Grammar} {root : String} {tokens : Array Token} {options : ParseOptions} {n : Node}

/-- Tokens of the same kinds with another text, each with its index for its offset. -/
def standIns (text : String) (tokens : Array Token) : Array Token :=
  tokens.mapIdx fun i t => ⟨t.kind, text, i⟩

/-- The token that a stand-in stands for. -/
def original (tokens : Array Token) (t : Token) : Token :=
  { tokens.getD t.offset.toNat default with kind := t.kind }

theorem of_mem_standIns {text : String} {t : Token} (h : t ∈ standIns text tokens) :
    t.text = text ∧ ∃ u ∈ tokens, u.kind = t.kind := by
  obtain ⟨i, hi, rfl⟩ := Array.mem_mapIdx.1 h
  exact ⟨rfl, _, Array.getElem_mem hi, rfl⟩

/-- **The tree for the tokens is the tree for the stand-ins**, with the tokens that they stand
for. -/
theorem parseTokens_standIns (hok : (g.parseTokens root tokens options).1 = .ok n)
    (text : String) :
    ∃ m : Node, (g.parseTokens root (standIns text tokens) options).1 = .ok m ∧
      n = m.mapTokens (original tokens) := by
  have hkinds : kindsOf (standIns text tokens) = kindsOf tokens := by
    ext i
    · simp [standIns]
    · simp [standIns]
  obtain ⟨d, hd, rfl, hok'⟩ := parseTokens_of_kinds hkinds hok
  refine ⟨_, hok', ?_⟩
  rw [rootNode_mapTokens, Derivation.mapTokens_tree]
  intro i hi
  have hi : i < tokens.size := by
    rw [hd.leaves_eq, List.mem_range] at hi
    simpa using hi
  simp [original, standIns, Array.getD_eq_getD_getElem?, hi]

end Grammar

end OrderedGrammar
