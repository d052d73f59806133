import OrderedGrammar.Proofs.Matching.Positions

/-!
# The shape of nodes

An alternative decides what its node looks like.  Every field belongs to a symbol that is not
ignored, and every such symbol that has to match has its field.  What an enumerated label holds is
a list; any other label is stored once, by the one symbol that stores under it, so that its value
is the one that this symbol has matched (`Derivation.Shape`).

A value can be a list even so: an alternative that stores under the empty label hands on what it
has stored in place of a node, and that is a list if the empty label is enumerated, or if what is
handed on has been handed on as a list to it (`Derivation.HandsOnList`).  Lists are never nested,
for an alternative that stores a list in a list puts the items in its place.

## Main definitions

* `Tree.nodes` : the nodes of a tree.
* `Derivation.built` : the alternatives in a derivation that its tree has nodes for.
* `Derivation.Shape` : what the node of an alternative looks like.
-/

namespace OrderedGrammar

/-! ### Enumerated labels -/

/-- Whether a symbol's matches are stored under a label. -/
def Symbol.storesUnder (label : String) (s : Symbol) : Bool := !s.ignored && s.label = label

section Labels

variable {label : String} {symbols : List Symbol} {s : Symbol}

theorem Symbol.storesUnder_iff : s.storesUnder label ↔ ¬ s.ignored ∧ s.label = label := by
  simp [storesUnder]

theorem mem_storedLabels : label ∈ storedLabels symbols ↔ ∃ s ∈ symbols, s.storesUnder label := by
  simp [storedLabels, Symbol.storesUnder, and_assoc]

/-- A label is enumerated behind symbols with the labels `seen` if a repeatable symbol stores under
it, if more than one symbol does, or if one does and the label has been seen. -/
theorem mem_enumeratedAfter {seen : List String} :
    label ∈ enumeratedAfter seen symbols ↔
      (∃ s ∈ symbols, s.storesUnder label ∧ s.repeatable) ∨
        1 < symbols.countP (·.storesUnder label) ∨
          label ∈ seen ∧ 0 < symbols.countP (·.storesUnder label) := by
  induction symbols generalizing seen with
  | nil => simp [enumeratedAfter]
  | cons s symbols ih =>
    rw [enumeratedAfter, List.countP_cons, List.exists_mem_cons_iff]
    by_cases hs : s.storesUnder label
    · obtain ⟨hi, rfl⟩ := Symbol.storesUnder_iff.1 hs
      rw [if_neg hi, if_pos hs]
      by_cases hseen : s.label ∈ seen
      · simp [hseen]
      · by_cases hrep : s.repeatable
        · simp [hseen, hrep, hs]
        · -- from here on the label has been seen, so that one more symbol is enough
          have hmore : 1 < symbols.countP (·.storesUnder s.label) →
              ∃ s' ∈ symbols, s'.storesUnder s.label :=
            fun h => List.countP_pos_iff.1 (Nat.lt_of_succ_lt h)
          simp [hseen, hrep, hs, ih, or_iff_right_of_imp hmore]
    · rw [if_neg hs, Nat.add_zero]
      by_cases hi : s.ignored
      · simp [hi, hs, ih]
      · have hl : label ≠ s.label := fun h => hs (Symbol.storesUnder_iff.2 ⟨hi, h.symm⟩)
        rw [if_neg hi]
        split_ifs <;> simp [hs, hl, ih]

/-- A label is enumerated if a repeatable symbol stores under it, or if more than one symbol
does. -/
theorem Rule.mem_enumerated {r : Rule} :
    label ∈ r.enumerated ↔
      (∃ s ∈ r.symbols, s.storesUnder label ∧ s.repeatable) ∨
        1 < r.symbols.countP (·.storesUnder label) := by
  rw [r.enumerated_eq, enumeratedLabels, Names.mem_sorted, mem_enumeratedAfter]
  simp

theorem Rule.enumerates_iff {r : Rule} : r.enumerates label ↔ label ∈ r.enumerated := by
  simp [enumerates]

/-- Under a label that is not enumerated but stored under, exactly one symbol stores, which is not
repeatable. -/
theorem Rule.filter_storesUnder {r : Rule} (hlabel : label ∉ r.enumerated) (hs : s ∈ r.symbols)
    (hstores : s.storesUnder label) :
    r.symbols.filter (·.storesUnder label) = [s] ∧ ¬ s.repeatable := by
  rw [mem_enumerated, not_or] at hlabel
  obtain ⟨hrep, hcount⟩ := hlabel
  have hmem : s ∈ r.symbols.filter (·.storesUnder label) := List.mem_filter.2 ⟨hs, hstores⟩
  refine ⟨?_, fun h => hrep ⟨s, hs, hstores, h⟩⟩
  rw [List.countP_eq_length_filter, not_lt] at hcount
  obtain ⟨s', heq⟩ := List.length_eq_one_iff.1 (le_antisymm hcount (List.length_pos_of_mem hmem))
  rw [heq] at hmem ⊢
  rw [List.mem_singleton.1 hmem]

/-- An alternative that stores under the empty label stores under no other one. -/
theorem Rule.storesUnder_empty {r : Rule} {s' : Symbol} (hs : s ∈ r.symbols)
    (hempty : s.storesUnder "") (hs' : s' ∈ r.symbols) (hstores : s'.storesUnder label) :
    label = "" := by
  have hmixes := r.mixesLabels_eq_false
  have hcontains : (storedLabels r.symbols).contains "" :=
    List.contains_iff_mem.2 (mem_storedLabels.2 ⟨s, hs, hempty⟩)
  rw [mixesLabels, hcontains, Bool.true_and, List.any_eq_false] at hmixes
  simpa using hmixes label (mem_storedLabels.2 ⟨s', hs', hstores⟩)

end Labels

/-! ### The nodes of a tree -/

namespace Tree

mutual

/-- The nodes of a tree. -/
def nodes : Tree → List Node
  | .token _ => []
  | .node name fields => ⟨name, fields⟩ :: fieldsNodes fields
  | .list items => itemsNodes items

/-- The nodes in all fields. -/
def fieldsNodes : Fields Tree → List Node
  | [] => []
  | (_, value) :: rest => nodes value ++ fieldsNodes rest

/-- The nodes in all items of a list. -/
def itemsNodes : List Tree → List Node
  | [] => []
  | item :: items => nodes item ++ itemsNodes items

end

/-- Whether a tree is a list. -/
def IsList (t : Tree) : Prop := ∃ items, t = .list items

theorem not_isList_token (t : Token) : ¬ (token t).IsList := by
  rintro ⟨items, ⟨⟩⟩

theorem not_isList_node (name : String) (fields : Fields Tree) : ¬ (node name fields).IsList := by
  rintro ⟨items, ⟨⟩⟩

instance : DecidablePred IsList
  | .token t => .isFalse (not_isList_token t)
  | .node name fields => .isFalse (not_isList_node name fields)
  | .list items => .isTrue ⟨items, rfl⟩

variable {m : Node}

theorem mem_itemsNodes {items : List Tree} :
    m ∈ itemsNodes items ↔ ∃ item ∈ items, m ∈ item.nodes := by
  induction items with
  | nil => simp [itemsNodes]
  | cons item items ih => simp [itemsNodes, ih]

theorem mem_fieldsNodes {fields : Fields Tree} :
    m ∈ fieldsNodes fields ↔ ∃ f ∈ fields, m ∈ f.2.nodes := by
  induction fields with
  | nil => simp [fieldsNodes]
  | cons f fields ih =>
    obtain ⟨label, value⟩ := f
    simp only [fieldsNodes, List.mem_append, ih, List.exists_mem_cons_iff]

theorem exists_mem_spliced {t : Tree} :
    (∃ item ∈ Frame.spliced t, m ∈ item.nodes) ↔ m ∈ t.nodes := by
  cases t with
  | token t => simp [Frame.spliced]
  | node name fields => simp [Frame.spliced]
  | list items => rw [nodes, mem_itemsNodes, Frame.spliced]

end Tree

namespace Rule

variable {r : Rule} {stored : List (String × Tree)} {label : String} {m : Node}

/-- The node of an alternative, if nothing stands for it. -/
def nodeOf (r : Rule) (stored : List (String × Tree)) : Node :=
  ⟨r.name, (fieldLabels stored).map fun label => (label, r.fieldValue stored label)⟩

theorem labels_nodeOf : (r.nodeOf stored).fields.map (·.1) = fieldLabels stored := by
  simp [nodeOf, Function.comp_def]

theorem mem_valuesUnder {value : Tree} :
    value ∈ valuesUnder label stored ↔ (label, value) ∈ stored := by
  simp [valuesUnder]

/-- A label that is not enumerated holds the only value that is stored under it. -/
theorem fieldValue_of_valuesUnder {value : Tree} (hlabel : label ∉ r.enumerated)
    (hvalues : valuesUnder label stored = [value]) : r.fieldValue stored label = value := by
  rw [fieldValue, if_neg (enumerates_iff.not.2 hlabel), hvalues]
  rfl

theorem isList_fieldValue (hlabel : label ∈ r.enumerated) :
    (r.fieldValue stored label).IsList := by
  rw [fieldValue, if_pos (enumerates_iff.2 hlabel)]
  exact ⟨_, rfl⟩

theorem mem_nodes_fieldValue (h : r.Storable stored) :
    m ∈ (r.fieldValue stored label).nodes ↔ ∃ value, (label, value) ∈ stored ∧ m ∈ value.nodes := by
  simp only [← mem_valuesUnder]
  by_cases henum : r.enumerates label
  · rw [fieldValue, if_pos henum, Tree.nodes, Tree.mem_itemsNodes]
    constructor
    · rintro ⟨item, hitem, hm⟩
      obtain ⟨value, hvalue, hitem⟩ := List.mem_flatMap.1 hitem
      exact ⟨value, hvalue, Tree.exists_mem_spliced.1 ⟨item, hitem, hm⟩⟩
    · rintro ⟨value, hvalue, hm⟩
      obtain ⟨item, hitem, hm⟩ := Tree.exists_mem_spliced.2 hm
      exact ⟨item, List.mem_flatMap.2 ⟨value, hvalue, hitem⟩, hm⟩
  · have hle := h.length_le label henum
    rw [fieldValue, if_neg henum]
    cases hvalues : valuesUnder label stored with
    | nil => simp [Tree.nodes, Tree.itemsNodes]
    | cons value rest =>
      rw [hvalues, List.length_cons, Nat.succ_le_succ_iff, Nat.le_zero,
        List.length_eq_zero_iff] at hle
      simp [hle]

/-- The nodes in what an alternative makes are those of what is stored, and its own unless a value
stands for it. -/
theorem mem_nodes_assemble (h : r.Storable stored) :
    m ∈ (r.assemble stored).nodes ↔
      ("" ∉ stored.map (·.1) ∧ m = r.nodeOf stored) ∨ ∃ entry ∈ stored, m ∈ entry.2.nodes := by
  rw [assemble]
  by_cases hempty : "" ∈ stored.map (·.1)
  · rw [if_pos hempty, mem_nodes_fieldValue h]
    constructor
    · rintro ⟨value, hmem, hm⟩
      exact .inr ⟨_, hmem, hm⟩
    · rintro (⟨hno, -⟩ | ⟨⟨label, value⟩, hmem, hm⟩)
      · exact absurd hempty hno
      · obtain rfl : label = "" := h.only_empty hempty _ hmem
        exact ⟨value, hmem, hm⟩
  · rw [if_neg hempty, Tree.nodes, List.mem_cons, Tree.mem_fieldsNodes]
    refine or_congr ⟨fun hm => ⟨hempty, hm⟩, fun hm => hm.2⟩ ⟨?_, ?_⟩
    · rintro ⟨f, hf, hm⟩
      obtain ⟨label, -, rfl⟩ := List.mem_map.1 hf
      obtain ⟨value, hmem, hm⟩ := (mem_nodes_fieldValue h).1 hm
      exact ⟨_, hmem, hm⟩
    · rintro ⟨⟨label, value⟩, hmem, hm⟩
      have hlabel : label ∈ stored.map (·.1) := List.mem_map.2 ⟨_, hmem, rfl⟩
      have hne : label ≠ "" := fun heq => hempty (heq ▸ hlabel)
      exact ⟨_, List.mem_map.2 ⟨label, mem_fieldLabels.2 ⟨hlabel, hne⟩, rfl⟩,
        (mem_nodes_fieldValue h).2 ⟨value, hmem, hm⟩⟩

end Rule

/-! ### The alternatives behind the nodes -/

namespace Derivation

mutual

/-- The alternatives, with the rounds of their symbols, that the tree of a derivation has nodes
for: those above which no symbol is ignored, and for which no value stands. -/
def built : Derivation → List (Rule × List (Symbol × Derivation))
  | .leaf _ => []
  | .branch rule parts =>
    if parts.any (·.1.storesUnder "") then partsBuilt parts else (rule, parts) :: partsBuilt parts

/-- The alternatives that the parts show nodes for. -/
def partsBuilt : List (Symbol × Derivation) → List (Rule × List (Symbol × Derivation))
  | [] => []
  | (s, d) :: parts => if s.ignored then partsBuilt parts else built d ++ partsBuilt parts

end

/-- A derivation by alternatives that hand on a list in place of a node. -/
inductive HandsOnList : Derivation → Prop
  /-- The list of what is stored under the empty label. -/
  | enumerated {rule : Rule} {parts} {part : Symbol × Derivation} : part ∈ parts →
      part.1.storesUnder "" → "" ∈ rule.enumerated → HandsOnList (.branch rule parts)
  /-- A list that is handed on as it has been handed on to the alternative. -/
  | through {rule : Rule} {parts} {part : Symbol × Derivation} : part ∈ parts →
      part.1.storesUnder "" → HandsOnList part.2 → HandsOnList (.branch rule parts)

/-- What the node of an alternative looks like of which the parts are rounds. -/
structure Shape (tokens : Array Token) (rule : Rule) (parts : List (Symbol × Derivation))
    (m : Node) : Prop where
  name_eq : m.name = rule.name
  nodup_labels : (m.fields.map (·.1)).Nodup
  /-- A field belongs to a symbol that is not ignored. -/
  exists_symbol : ∀ label ∈ m.fields.map (·.1),
    label ≠ "" ∧ ∃ s ∈ rule.symbols, ¬ s.ignored ∧ s.label = label
  /-- A symbol that has to match has its field. -/
  label_mem : ∀ s ∈ rule.symbols, ¬ s.ignored → ¬ s.optional → s.label ≠ "" →
    s.label ∈ m.fields.map (·.1)
  isList : ∀ label value, (label, value) ∈ m.fields → label ∈ rule.enumerated → value.IsList
  /-- A label that is not enumerated holds what its only symbol has matched in its only round. -/
  single : ∀ label value, (label, value) ∈ m.fields → label ∉ rule.enumerated →
    ∃ s d, rule.symbols.filter (·.storesUnder label) = [s] ∧ ¬ s.repeatable ∧
      parts.filter (·.1.storesUnder label) = [(s, d)] ∧ value = d.tree tokens ∧
      (value.IsList ↔ d.HandsOnList)
  no_fields : (∃ s ∈ rule.symbols, ¬ s.ignored ∧ s.label = "") → m.fields = []

variable {sort : Rule → Prop} {tokens : Array Token} {parts : List (Symbol × Derivation)}
  {label : String} {m : Node}

theorem mem_labels_stored :
    label ∈ (stored tokens parts).map (·.1) ↔ ∃ part ∈ parts, part.1.storesUnder label := by
  induction parts with
  | nil => simp
  | cons part parts ih =>
    obtain ⟨s, d⟩ := part
    rw [stored_cons, List.exists_mem_cons_iff, ← ih]
    by_cases hs : s.ignored
    · simp [hs, Symbol.storesUnder]
    · simp [hs, Symbol.storesUnder, eq_comm]

theorem valuesUnder_stored :
    Rule.valuesUnder label (stored tokens parts) =
      (parts.filter (·.1.storesUnder label)).map fun part => part.2.tree tokens := by
  induction parts with
  | nil => rfl
  | cons part parts ih =>
    obtain ⟨s, d⟩ := part
    rw [Rule.valuesUnder] at ih ⊢
    rw [stored_cons, List.filter_cons]
    by_cases hs : s.ignored
    · simp [hs, Symbol.storesUnder, ih]
    · by_cases hl : s.label = label
      · simp [hs, hl, Symbol.storesUnder, ih]
      · simp [hs, hl, Symbol.storesUnder, ih]

theorem Rounds.exists_part {symbols : List Symbol} (h : Rounds symbols parts) {s : Symbol}
    (hs : s ∈ symbols) (hrequired : ¬ s.optional) : ∃ d, (s, d) ∈ parts := by
  induction h with
  | nil => cases hs
  | @cons s' symbols ds parts hadmits _ ih =>
    rcases List.mem_cons.1 hs with rfl | hs
    · obtain ⟨d, hd⟩ := List.exists_mem_of_length_pos (hadmits.pos.resolve_left hrequired)
      exact ⟨d, List.mem_append_left _ (List.mem_map.2 ⟨d, hd, rfl⟩)⟩
    · obtain ⟨d, hd⟩ := ih hs
      exact ⟨d, List.mem_append_right _ hd⟩

/-- Under a label that is not enumerated, one round at most is stored. -/
theorem Rounds.filter_storesUnder {rule : Rule} (h : Rounds rule.symbols parts)
    (hlabel : label ∉ rule.enumerated) {part : Symbol × Derivation} (hpart : part ∈ parts)
    (hstores : part.1.storesUnder label) : parts.filter (·.1.storesUnder label) = [part] := by
  have hle := (storable h default).length_le label (Rule.enumerates_iff.not.2 hlabel)
  rw [valuesUnder_stored, List.length_map] at hle
  have hmem : part ∈ parts.filter (·.1.storesUnder label) := List.mem_filter.2 ⟨hpart, hstores⟩
  obtain ⟨part', heq⟩ := List.length_eq_one_iff.1 (le_antisymm hle (List.length_pos_of_mem hmem))
  rw [heq] at hmem ⊢
  rw [List.mem_singleton.1 hmem]

mutual

/-- The nodes of a derivation's tree are those that its alternatives build. -/
theorem mem_nodes_tree : ∀ d : Derivation, d.Fits sort →
    (m ∈ (d.tree tokens).nodes ↔ ∃ b ∈ d.built, m = b.1.nodeOf (stored tokens b.2))
  | .leaf _, _ => by simp [tree, Tree.nodes, built]
  | .branch rule parts, ⟨_, hrounds, hparts⟩ => by
    rw [tree, Rule.mem_nodes_assemble (storable hrounds tokens), mem_labels_stored,
      mem_nodes_stored parts hparts, built]
    by_cases hempty : ∃ part ∈ parts, part.1.storesUnder ""
    · rw [if_pos (List.any_eq_true.2 hempty)]
      simp [hempty]
    · rw [if_neg (List.any_eq_true.not.2 hempty), List.exists_mem_cons_iff]
      simp [hempty]

theorem mem_nodes_stored : ∀ parts : List (Symbol × Derivation), PartsFit sort parts →
    ((∃ entry ∈ stored tokens parts, m ∈ entry.2.nodes) ↔
      ∃ b ∈ partsBuilt parts, m = b.1.nodeOf (stored tokens b.2))
  | [], _ => by simp [partsBuilt]
  | (s, d) :: parts, ⟨hd, hparts⟩ => by
    rw [stored_cons, partsBuilt]
    by_cases hs : s.ignored
    · rw [if_pos hs, if_pos hs, mem_nodes_stored parts hparts]
    · rw [if_neg hs, if_neg hs, List.exists_mem_cons_iff, mem_nodes_tree d hd,
        mem_nodes_stored parts hparts]
      simp only [List.mem_append, or_and_right, exists_or]

end

mutual

theorem of_mem_built : ∀ d : Derivation, d.Fits sort → ∀ b ∈ d.built,
    sort b.1 ∧ Rounds b.1.symbols b.2 ∧ PartsFit sort b.2
  | .leaf _, _, _, hb => by cases hb
  | .branch rule parts, ⟨hsort, hrounds, hparts⟩, b, hb => by
    rw [built] at hb
    split at hb
    · exact of_mem_partsBuilt parts hparts b hb
    · rcases List.mem_cons.1 hb with rfl | hb
      · exact ⟨hsort, hrounds, hparts⟩
      · exact of_mem_partsBuilt parts hparts b hb

theorem of_mem_partsBuilt : ∀ parts : List (Symbol × Derivation), PartsFit sort parts →
    ∀ b ∈ partsBuilt parts, sort b.1 ∧ Rounds b.1.symbols b.2 ∧ PartsFit sort b.2
  | [], _, _, hb => by cases hb
  | (s, d) :: parts, ⟨hd, hparts⟩, b, hb => by
    rw [partsBuilt] at hb
    split at hb
    · exact of_mem_partsBuilt parts hparts b hb
    · rcases List.mem_append.1 hb with hb | hb
      · exact of_mem_built d hd b hb
      · exact of_mem_partsBuilt parts hparts b hb

end

mutual

/-- The tree of a derivation is a list just if the derivation hands on a list. -/
theorem isList_tree_iff : ∀ d : Derivation, d.Fits sort →
    ((d.tree tokens).IsList ↔ d.HandsOnList)
  | .leaf _, _ => iff_of_false (Tree.not_isList_token _) (by rintro ⟨⟩)
  | .branch rule parts, ⟨_, hrounds, hparts⟩ => by
    rw [tree, Rule.assemble]
    by_cases hempty : "" ∈ (stored tokens parts).map (·.1)
    · rw [if_pos hempty]
      obtain ⟨part, hpart, hstores⟩ := mem_labels_stored.1 hempty
      by_cases henum : "" ∈ rule.enumerated
      · exact iff_of_true (Rule.isList_fieldValue henum) (.enumerated hpart hstores henum)
      · -- the value is the one that a single part hands on
        have honly := hrounds.filter_storesUnder henum hpart hstores
        have hvalues : Rule.valuesUnder "" (stored tokens parts) = [part.2.tree tokens] := by
          rw [valuesUnder_stored, honly, List.map_singleton]
        rw [Rule.fieldValue_of_valuesUnder henum hvalues,
          isList_tree_of_mem parts hparts part hpart]
        constructor
        · exact .through hpart hstores
        · rintro (⟨-, -, henum'⟩ | ⟨hpart', hstores', hlist⟩)
          · exact absurd henum' henum
          · have hmem : _ ∈ parts.filter (·.1.storesUnder "") :=
              List.mem_filter.2 ⟨hpart', hstores'⟩
            rw [honly] at hmem
            rwa [List.mem_singleton.1 hmem] at hlist
    · rw [if_neg hempty]
      refine iff_of_false (Tree.not_isList_node _ _) fun hlist => hempty (mem_labels_stored.2 ?_)
      cases hlist with
      | enumerated hpart hstores _ => exact ⟨_, hpart, hstores⟩
      | through hpart hstores _ => exact ⟨_, hpart, hstores⟩

theorem isList_tree_of_mem : ∀ parts : List (Symbol × Derivation), PartsFit sort parts →
    ∀ part ∈ parts, ((part.2.tree tokens).IsList ↔ part.2.HandsOnList)
  | [], _, _, hpart => by cases hpart
  | (s, d) :: parts, ⟨hd, hparts⟩, part, hpart => by
    rcases List.mem_cons.1 hpart with rfl | hpart
    · exact isList_tree_iff d hd
    · exact isList_tree_of_mem parts hparts part hpart

end

/-- The node that an alternative builds from rounds of its symbols. -/
theorem shape_nodeOf {rule : Rule} (hrounds : Rounds rule.symbols parts)
    (hparts : PartsFit sort parts) (tokens : Array Token) :
    Shape tokens rule parts (rule.nodeOf (stored tokens parts)) where
  name_eq := rfl
  nodup_labels := by
    rw [Rule.labels_nodeOf]
    exact Rule.nodup_fieldLabels _
  exists_symbol := by
    intro label hlabel
    rw [Rule.labels_nodeOf, Rule.mem_fieldLabels] at hlabel
    obtain ⟨⟨s, d⟩, hpart, hstores⟩ := mem_labels_stored.1 hlabel.1
    exact ⟨hlabel.2, s, hrounds.symbol_mem hpart, Symbol.storesUnder_iff.1 hstores⟩
  label_mem := by
    intro s hs hi ho hne
    obtain ⟨d, hpart⟩ := hrounds.exists_part hs ho
    rw [Rule.labels_nodeOf, Rule.mem_fieldLabels]
    exact ⟨mem_labels_stored.2 ⟨_, hpart, Symbol.storesUnder_iff.2 ⟨hi, rfl⟩⟩, hne⟩
  isList := by
    intro label value hfield henum
    obtain ⟨a, -, heq⟩ := List.mem_map.1 hfield
    cases heq
    exact Rule.isList_fieldValue henum
  single := by
    intro label value hfield henum
    obtain ⟨a, ha, heq⟩ := List.mem_map.1 hfield
    cases heq
    obtain ⟨⟨s, d⟩, hpart, hstores⟩ := mem_labels_stored.1 (Rule.mem_fieldLabels.1 ha).1
    -- a label that is not enumerated is that of one symbol, which is matched once
    have honly := hrounds.filter_storesUnder henum hpart hstores
    have hvalue : rule.fieldValue (stored tokens parts) label = d.tree tokens :=
      Rule.fieldValue_of_valuesUnder henum (by rw [valuesUnder_stored, honly, List.map_singleton])
    obtain ⟨hsymbol, hrep⟩ := Rule.filter_storesUnder henum (hrounds.symbol_mem hpart) hstores
    refine ⟨s, d, hsymbol, hrep, honly, hvalue, ?_⟩
    rw [hvalue]
    exact isList_tree_iff d (partsFit_iff.1 hparts _ hpart)
  no_fields := by
    rintro ⟨s, hs, hi, hlabel⟩
    rw [Rule.nodeOf, List.map_eq_nil_iff, List.eq_nil_iff_forall_not_mem]
    intro label hmem
    obtain ⟨hstored, hne⟩ := Rule.mem_fieldLabels.1 hmem
    obtain ⟨⟨s', d⟩, hpart, hstores⟩ := mem_labels_stored.1 hstored
    exact hne (Rule.storesUnder_empty hs (Symbol.storesUnder_iff.2 ⟨hi, hlabel⟩)
      (hrounds.symbol_mem hpart) hstores)

end Derivation

/-! ### Lists are flat -/

/-- Whether the lists anywhere in a tree have items, none of which is a list. -/
def Tree.Flat (t : Tree) : Prop :=
  ∀ items ∈ t.lists, items ≠ [] ∧ ∀ item ∈ items, ¬ item.IsList

theorem Tree.Flat.spliced_ne_nil {t : Tree} (h : t.Flat) : Frame.spliced t ≠ [] := by
  cases t with
  | token t => exact List.cons_ne_nil _ _
  | node name fields => exact List.cons_ne_nil _ _
  | list items => exact (h items List.mem_cons_self).1

theorem Tree.Flat.not_isList_of_mem_spliced {t item : Tree} (h : t.Flat)
    (hitem : item ∈ Frame.spliced t) : ¬ item.IsList := by
  cases t with
  | token t =>
    rw [List.mem_singleton.1 hitem]
    exact Tree.not_isList_token t
  | node name fields =>
    rw [List.mem_singleton.1 hitem]
    exact Tree.not_isList_node name fields
  | list items => exact (h items List.mem_cons_self).2 item hitem

/-- An alternative makes no list with lists in it, and no empty one, of values in which there are
none. -/
theorem Rule.flat_assemble {r : Rule} {stored : List (String × Tree)}
    (h : ∀ entry ∈ stored, entry.2.Flat) : (r.assemble stored).Flat := by
  intro items hitems
  rcases of_mem_lists_assemble hitems with ⟨entry, hentry, hitems⟩ | ⟨label, hlabel, rfl⟩
  · exact h entry hentry items hitems
  · constructor
    · obtain ⟨⟨a, value⟩, hentry, rfl⟩ := List.mem_map.1 hlabel
      rw [ne_eq, List.flatMap_eq_nil_iff]
      exact fun hnil => (h _ hentry).spliced_ne_nil (hnil value (mem_valuesUnder.2 hentry))
    · intro item hitem
      obtain ⟨value, hvalue, hitem⟩ := List.mem_flatMap.1 hitem
      exact (h _ (mem_valuesUnder.1 hvalue)).not_isList_of_mem_spliced hitem

namespace Derivation

variable {tokens : Array Token}

mutual

theorem flat_tree : ∀ d : Derivation, (d.tree tokens).Flat
  | .leaf _ => by
    rintro items ⟨⟩
  | .branch _ parts => Rule.flat_assemble (flat_of_mem_stored parts)

theorem flat_of_mem_stored : ∀ parts : List (Symbol × Derivation),
    ∀ entry ∈ stored tokens parts, entry.2.Flat
  | [], _, hentry => by cases hentry
  | (s, d) :: parts, entry, hentry => by
    rw [stored_cons] at hentry
    split at hentry
    · exact flat_of_mem_stored parts entry hentry
    · rcases List.mem_cons.1 hentry with rfl | hentry
      · exact flat_tree d
      · exact flat_of_mem_stored parts entry hentry

end

end Derivation

namespace Grammar

variable {g : Grammar} {root : String} {tokens : Array Token} {options : ParseOptions} {n : Node}

theorem mem_alternativesOf_name {rules : List Rule} {ignored : List String} {ignoreCase : Bool}
    (hg : Grammar.ofRules rules ignored ignoreCase = .ok g) {rule : Rule}
    (h : g.IsAlternative rule) : rule ∈ g.alternativesOf rule.name := by
  obtain ⟨name, hrule⟩ := h
  rw [alternativesOf_of_ofRules hg] at hrule ⊢
  simp only [parserRules, List.mem_filter, decide_eq_true_eq] at hrule ⊢
  tauto

/-- The nodes of a parse's tree are those of its derivation's tree, and one on top if that is none
itself. -/
theorem mem_nodes_rootNode {t : Tree} {m : Node} (h : m ∈ (rootNode root t).toTree.nodes) :
    (m = rootNode root t ∧ rootNode root t = ⟨root, [(root, t)]⟩ ∧
      ∀ top : Node, t ≠ top.toTree) ∨ m ∈ t.nodes := by
  have hwrapped (hno : ∀ top : Node, t ≠ top.toTree) (heq : rootNode root t = ⟨root, [(root, t)]⟩) :
      (m = rootNode root t ∧ rootNode root t = ⟨root, [(root, t)]⟩ ∧
        ∀ top : Node, t ≠ top.toTree) ∨ m ∈ t.nodes := by
    rw [heq] at h ⊢
    rw [Node.toTree, Tree.nodes, List.mem_cons, Tree.fieldsNodes, Tree.fieldsNodes,
      List.append_nil] at h
    exact h.imp_left fun hm => ⟨hm, rfl, hno⟩
  cases t with
  | token t => exact hwrapped (by rintro top ⟨⟩) rfl
  | list items => exact hwrapped (by rintro top ⟨⟩) rfl
  | node name fields => exact .inr h

/-- **The shape of every node follows from its alternative.**  Except for a node that a parse puts
on top of what its root hands on, every node of the tree is built by an alternative of the
grammar's rules, and has the shape that the alternative's symbols determine.  No list in the tree
is empty or contains a list. -/
theorem parseTokens_shapes {rules : List Rule} {ignored : List String} {ignoreCase : Bool}
    (hg : Grammar.ofRules rules ignored ignoreCase = .ok g)
    (hok : (g.parseTokens root tokens options).1 = .ok n) :
    ∃ d, g.Accepts (kindsOf tokens) root d ∧ n = rootNode root (d.tree tokens) ∧
      (∀ m ∈ n.toTree.nodes,
        (m = n ∧ n = ⟨root, [(root, d.tree tokens)]⟩ ∧ ∀ top : Node, d.tree tokens ≠ top.toTree) ∨
        ∃ b ∈ d.built, b.1 ∈ rules ∧ b.1 ∈ g.alternativesOf b.1.name ∧
          Derivation.Shape tokens b.1 b.2 m) ∧
      n.toTree.Flat := by
  obtain ⟨d, hd, rfl, -⟩ := parseTokens_of_kinds (kindsOf_tagged tokens) hok
  refine ⟨d, hd, rfl, fun m hm => ?_, ?_⟩
  · refine (mem_nodes_rootNode hm).imp_right fun hm => ?_
    obtain ⟨b, hb, rfl⟩ := (Derivation.mem_nodes_tree d hd.fits).1 hm
    obtain ⟨halt, hrounds, hparts⟩ := Derivation.of_mem_built d hd.fits b hb
    have hname := mem_alternativesOf_name hg halt
    exact ⟨b, hb, (of_ofRules hg).1 ▸ mem_rules_of_mem_alternativesOf hg hname, hname,
      Derivation.shape_nodeOf hrounds hparts tokens⟩
  · rw [Tree.Flat, lists_rootNode]
    exact Derivation.flat_tree d

/-- The rules for a word with other words behind it, which are handed on as a list. -/
def entryRules : List Rule :=
  [.lexer "WORD" "[a-z]+", .lexer "COMMA" ",", .lexer "END" ";",
    ⟨"entry", .parser, [.ofModifier "WORD" .required "key", .ofModifier "words" .required "values",
      .ofModifier "END" .optional "end"], _, rfl, by simp, by simp, by decide⟩,
    ⟨"words", .parser, [.ofModifier "WORD" .required "", .ofModifier "more" .zeroOrMore ""],
      _, rfl, by simp, by simp, by decide⟩,
    ⟨"more", .parser, [.ofModifier "COMMA" .ignored none, .ofModifier "WORD" .required ""],
      _, rfl, by simp, by simp, by decide⟩]

/-- A label that is not enumerated holds a list here, which comes through two alternatives. -/
theorem entryRules_shapes : ∃ g, Grammar.ofRules entryRules [] false = .ok g ∧
    ∃ (d : Derivation) (n : Node), g.Accepts #["WORD", "WORD", "COMMA", "WORD"] "entry" d ∧
      n.fields.map (fun f => (f.1, decide f.2.IsList)) = [("key", false), ("values", true)] ∧
      (∃ b ∈ d.built, b.1 ∈ entryRules ∧ Derivation.Shape
        #[⟨"WORD", "a", 0⟩, ⟨"WORD", "b", 2⟩, ⟨"COMMA", ",", 3⟩, ⟨"WORD", "c", 4⟩] b.1 b.2 n) ∧
      n.toTree.Flat := by
  have hparses : (match Grammar.ofRules entryRules [] false with
      | .ok g => (g.parseTokens "entry" #[⟨"WORD", "a", 0⟩, ⟨"WORD", "b", 2⟩, ⟨"COMMA", ",", 3⟩,
          ⟨"WORD", "c", 4⟩] ⟨1000, false⟩).1.toOption.map fun n =>
            n.fields.map fun f => (f.1, decide f.2.IsList)
      | .error _ => none) = some [("key", false), ("values", true)] := by decide +kernel
  cases hg : Grammar.ofRules entryRules [] false with
  | error e => rw [hg] at hparses; cases hparses
  | ok g =>
    rw [hg] at hparses
    obtain ⟨n, hok, hfields⟩ := exists_ok_of_toOption hparses
    obtain ⟨d, hd, hn, hnodes, hflat⟩ := parseTokens_shapes hg hok
    refine ⟨g, rfl, d, n, by simpa using hd, hfields, ?_, hflat⟩
    rcases hnodes n List.mem_cons_self with ⟨-, hwrapped, -⟩ | ⟨b, hb, hrule, -, hshape⟩
    · -- a node on top of what the root hands on has one field
      rw [hwrapped] at hfields
      simp at hfields
    · exact ⟨b, hb, hrule, hshape⟩

end Grammar

end OrderedGrammar
