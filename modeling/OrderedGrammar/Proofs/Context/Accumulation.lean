import OrderedGrammar.Proofs.Context.Operations
import OrderedGrammar.Proofs.Matching.NodeShape

/-!
# How frames accumulate values

However the state of a parse is used, an open frame holds under each label what has been fed under
it since the frame was opened: the concatenation of all values if its alternative enumerates the
label, with the items of lists in their place, and the last value if not.  The empty label is no
field; what it holds is what the frame hands on (`Context.accumulates`).

Which labels an alternative enumerates does not depend on the order of its symbols.

## Main definitions

* `Concatenates` : the items of values one behind the other, those of lists in their place.
* `Frame.Accumulates` : whether a frame holds what its account says.
-/

namespace OrderedGrammar

/-! ### Enumerated labels -/

/-- More than one member of a list has a property iff two members, one behind the other, do. -/
theorem one_lt_countP_iff {α : Type} {p : α → Bool} {l : List α} :
    1 < l.countP p ↔ ∃ a b, [a, b].Sublist l ∧ p a ∧ p b := by
  constructor
  · intro h
    rw [List.countP_eq_length_filter] at h
    cases hl : l.filter p with
    | nil => simp [hl] at h
    | cons a rest =>
      cases rest with
      | nil => simp [hl] at h
      | cons b rest =>
        have hpair : [a, b].Sublist (l.filter p) := by simp [hl]
        have hmem : ∀ x ∈ [a, b], p x := fun x hx => (List.mem_filter.1 (hpair.subset hx)).2
        exact ⟨a, b, hpair.trans List.filter_sublist, hmem a (by simp), hmem b (by simp)⟩
  · rintro ⟨a, b, hpair, ha, hb⟩
    have hle := hpair.countP_le (p := p)
    simp only [List.countP_cons, ha, hb, List.countP_nil, if_true] at hle
    omega

namespace Rule

variable {r r' : Rule} {label : String}

/-- A label is enumerated iff a symbol that is not ignored repeats it, or two of them share it. -/
theorem mem_enumerated_iff : label ∈ r.enumerated ↔
    (∃ s ∈ r.symbols, ¬s.ignored ∧ s.label = label ∧ s.repeatable) ∨
      ∃ s s', [s, s'].Sublist r.symbols ∧ (¬s.ignored ∧ s.label = label) ∧
        ¬s'.ignored ∧ s'.label = label := by
  rw [mem_enumerated, one_lt_countP_iff]
  simp only [Symbol.storesUnder_iff, and_assoc]

/-- The order of symbols does not matter for what is enumerated. -/
theorem mem_enumerated_congr (h : r.symbols.Perm r'.symbols) :
    label ∈ r.enumerated ↔ label ∈ r'.enumerated := by
  simp only [mem_enumerated, h.mem_iff, h.countP_eq]

end Rule

/-! ### Concatenation -/

/-- The items of values one behind the other: those of a list in its place, and any other value as
one item. -/
inductive Concatenates : List Tree → List Tree → Prop
  | nil : Concatenates [] []
  | list {items values rest : List Tree} : Concatenates values rest →
      Concatenates (.list items :: values) (items ++ rest)
  | single {value : Tree} {values rest : List Tree} : ¬value.IsList → Concatenates values rest →
      Concatenates (value :: values) (value :: rest)

theorem concatenates_flatMap (values : List Tree) :
    Concatenates values (values.flatMap Frame.spliced) := by
  induction values with
  | nil => exact .nil
  | cons value values ih =>
    cases value with
    | token t => exact .single (Tree.not_isList_token t) ih
    | node name fields => exact .single (Tree.not_isList_node name fields) ih
    | list items => exact .list ih

/-! ### Frames and accounts -/

/-- Whether a frame holds what its account says. -/
structure Frame.Accumulates (f : Frame) (a : Context.Account) : Prop where
  rule_eq : f.rule = a.rule
  /-- The fields stand in the order in which they were first fed, and none is without a name. -/
  labels_eq : f.fields.map (·.1) = ((a.fed.map (·.1)).filter (· ≠ "")).eraseDups
  /-- Something is held under the labels that have been fed, and under no others. -/
  isSome_iff : ∀ label, (f.kept? label).isSome ↔ label ∈ a.fed.map (·.1)
  /-- What is held under an enumerated label is the list of all that has been fed under it. -/
  enumerated : ∀ label ∈ a.rule.enumerated, ∀ kept, f.kept? label = some kept →
    ∃ items, kept.tree = .list items ∧ Concatenates (Rule.valuesUnder label a.fed) items
  /-- What is held under any other label is the last value that has been fed under it. -/
  latest : ∀ label ∉ a.rule.enumerated, ∀ kept, f.kept? label = some kept →
    (Rule.valuesUnder label a.fed).getLast? = some kept.tree
  /-- What is held under the empty label is handed on. -/
  result_of_kept : ∀ kept, f.kept? "" = some kept → f.result = kept.tree
  /-- If nothing is, a node is handed on. -/
  result_of_not_kept : f.kept? "" = none →
    f.result = .node a.rule.name (f.fields.map fun field => (field.1, field.2.tree))

theorem Frame.result_of_kept? {f : Frame} {kept : Kept} (h : f.kept? "" = some kept) :
    f.result = kept.tree := by
  have hvalue : f.value = some kept := h
  rw [result, hvalue]

theorem Frame.result_of_kept?_eq_none {f : Frame} (h : f.kept? "" = none) :
    f.result = .node f.rule.name (f.fields.map fun field => (field.1, field.2.tree)) := by
  have hvalue : f.value = none := h
  rw [result, hvalue]

namespace Context

namespace Account

variable {a : Account} {label : String} {kept : Kept}

theorem of_kept?_frame (h : a.frame.kept? label = some kept) :
    label ∈ a.fed.map (·.1) ∧ a.rule.fieldValue a.fed label = kept.tree := by
  rw [frame, Frame.kept?_holding] at h
  split at h
  · next hmem => exact ⟨hmem, by rw [← Rule.tree_keptUnder, Option.some.inj h]⟩
  · cases h

theorem valuesUnder_ne_nil (h : label ∈ a.fed.map (·.1)) : Rule.valuesUnder label a.fed ≠ [] := by
  obtain ⟨⟨b, value⟩, hmem, rfl⟩ := List.mem_map.1 h
  exact List.ne_nil_of_mem (Rule.mem_valuesUnder.2 hmem)

/-- The frame of an account holds what the account says. -/
theorem accumulates_frame (a : Account) : a.frame.Accumulates a where
  rule_eq := rfl
  labels_eq := by simp [frame, Frame.holding, Rule.fieldLabels, Function.comp_def]
  isSome_iff label := by
    rw [frame, Frame.kept?_holding]
    split <;> simp_all
  enumerated label hlabel kept h := by
    obtain ⟨-, hvalue⟩ := of_kept?_frame h
    rw [Rule.fieldValue, if_pos (Rule.enumerates_iff.2 hlabel)] at hvalue
    exact ⟨_, hvalue.symm, concatenates_flatMap _⟩
  latest label hlabel kept h := by
    obtain ⟨hmem, hvalue⟩ := of_kept?_frame h
    have hlast := List.getLast?_eq_some_getLast (valuesUnder_ne_nil hmem)
    rw [Rule.fieldValue, if_neg (Rule.enumerates_iff.not.2 hlabel), List.getLastD_eq_getLast?,
      hlast, Option.getD_some] at hvalue
    rw [hlast, hvalue]
  result_of_kept _ := Frame.result_of_kept?
  result_of_not_kept := Frame.result_of_kept?_eq_none

end Account

/-- No value is fed into a frame that cannot put it behind what it holds. -/
theorem Performs.answer_ne_notSequence {c c' : Context} {op : Operation} {answer : Answer}
    {as : List Account} (hop : Performs c op answer c') (h : c.frames = as.map Account.frame) :
    answer ≠ .error .notSequence := by
  rintro rfl
  obtain ⟨label, value, rfl⟩ : ∃ label value, op = .store label value := by
    cases hop
    exact ⟨_, _, rfl⟩
  cases (hop.of_store_error h).2

/-- **Frames accumulate what they are fed.**  After any use of a fresh state every open frame holds
what it has been fed since it was opened: a label that its alternative enumerates holds the
concatenation of all values, any other label the last one, and the fields stand in the order in
which they were first fed.  Keeping a value fails only where there is no frame, never because of
what the frame holds, and it changes no frame but the innermost one.  A label is enumerated iff a
symbol that is not ignored repeats it or two of them share it, in whatever order. -/
theorem accumulates {tokens : Array Token} {ops : List Operation} {history : List Event}
    {c : Context} (hrun : (start tokens).run ops = (history, c)) :
    List.Forall₂ Frame.Accumulates c.frames (accounts ops) ∧
    (∀ e ∈ history, e.answer ≠ .error .notSequence) ∧
    (∀ label value,
      (∀ e, (c.perform (.store label value)).1 = .error e → c.frames = []) ∧
      (c.perform (.store label value)).2.frames.tail = c.frames.tail) ∧
    (∀ rule, (c.perform (.push rule)).2.frames = .empty rule :: c.frames) ∧
    (c.perform .pop).2.frames = c.frames.tail ∧
    ∀ (r : Rule) (label : String),
      (label ∈ r.enumerated ↔
        (∃ s ∈ r.symbols, ¬s.ignored ∧ s.label = label ∧ s.repeatable) ∨
          ∃ s s', [s, s'].Sublist r.symbols ∧ (¬s.ignored ∧ s.label = label) ∧
            ¬s'.ignored ∧ s'.label = label) ∧
      ∀ r' : Rule, r.symbols.Perm r'.symbols → (label ∈ r.enumerated ↔ label ∈ r'.enumerated) := by
  have hhistory : ((start tokens).run ops).1 = history := congrArg Prod.fst hrun
  have hc : ((start tokens).run ops).2 = c := congrArg Prod.snd hrun
  have hframes : c.frames = (accounts ops).map Account.frame := hc ▸ frames_run tokens ops
  refine ⟨?_, fun e he => ?_, fun label value => ⟨fun e he => ?_, ?_⟩, fun _ => rfl, ?_,
    fun r label => ⟨Rule.mem_enumerated_iff, fun _ => Rule.mem_enumerated_congr⟩⟩
  · rw [hframes, List.forall₂_map_left_iff, List.forall₂_same]
    exact fun a _ => a.accumulates_frame
  · rw [← hhistory] at he
    obtain ⟨d, as, hd, hop⟩ := exists_of_mem_run (frames_start tokens) e he
    exact hop.answer_ne_notSequence hd
  · have hop := c.performs (.store label value)
    rw [he] at hop
    exact (hop.of_store_error hframes).1
  · rw [(c.performs _).frames_eq hframes, hframes]
    cases accounts ops <;> rfl
  · rw [(c.performs .pop).frames_eq hframes, hframes, Operation.record, List.map_tail]

/-! ### A frame inside another -/

/-- A word. -/
def word (text : String) : Tree := .token ⟨"WORD", text, 0⟩

/-- `items:values+, end:WORD` -/
def itemsRule : Rule :=
  ⟨"items", .parser, [.ofModifier "values" .oneOrMore "items", .ofModifier "WORD" .required "end"],
    _, rfl, by simp, by simp, by decide⟩

/-- `:WORD+` -/
def valuesRule : Rule :=
  ⟨"values", .parser, [.ofModifier "WORD" .oneOrMore ""], _, rfl, by simp, by simp, by decide⟩

/-- A frame is fed words and lists, some of them while another frame is open inside of it. -/
def nestedUses : List Operation :=
  [.pop, .store "items" (word "a"), .push itemsRule, .store "items" (word "a"), .push valuesRule,
    .store "" (word "b"), .store "" (.list [word "c", word "d"]), .pop, .store "end" (word "e"),
    .store "items" (.list [word "b", word "c", word "d"]), .store "end" (word "f"),
    .push valuesRule, .store "" (.list [])]

theorem nestedUses_accumulate : ∃ history c inner outer,
    (start #[]).run nestedUses = (history, c) ∧ c.frames = [inner, outer] ∧
    inner.Accumulates ⟨valuesRule, [("", .list [])]⟩ ∧
    outer.Accumulates ⟨itemsRule, [("items", word "a"), ("end", word "e"),
      ("items", .list [word "b", word "c", word "d"]), ("end", word "f")]⟩ ∧
    (∀ e ∈ history, e.answer ≠ .error .notSequence) ∧
    "items" ∈ itemsRule.enumerated ∧ "end" ∉ itemsRule.enumerated ∧
    outer.fields.map (·.1) = ["items", "end"] := by
  obtain ⟨⟨history, c⟩, hrun⟩ : ∃ x, (start #[]).run nestedUses = x := ⟨_, rfl⟩
  obtain ⟨hframes, hanswers, -, -, -, henumerated⟩ := accumulates hrun
  obtain ⟨inner, frames, hinner, hrest, hcons⟩ := List.forall₂_cons_right_iff.1 hframes
  obtain ⟨outer, frames', houter, hnil, rfl⟩ := List.forall₂_cons_right_iff.1 hrest
  obtain rfl := List.forall₂_nil_right_iff.1 hnil
  exact ⟨history, c, inner, outer, hrun, hcons, hinner, houter, hanswers, by decide, by decide,
    houter.labels_eq.trans (by decide)⟩

end Context

end OrderedGrammar
