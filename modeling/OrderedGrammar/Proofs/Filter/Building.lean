import OrderedGrammar.Proofs.Filter.Correctness
import OrderedGrammar.Proofs.Filter.Numbers
import OrderedGrammar.Proofs.Matching.Retexting

/-!
# Filters are built

The walk through the tree of any filter reads the literals in it one after the other.  The first
number literal that is no integer ends the walk with its error; if there is none, the walk leaves
exactly one predicate (`filters_built`).

The conditions of which the trees are known have readable literals only.  So the tree of a filter is
known from that of tokens whose texts are all the same readable one, and from there a walk is
followed step by step, as in `Phrase.pushes`, with the literals that each step reads (`Handles`).

## Main definitions

* `Token.CanRead` : whether a literal can be read.
* `literals` : the literals of a tree.
* `Handles` : a step reads literals and puts predicates on the stack.
-/

namespace OrderedGrammar.Filter

open Walk
open Arithmetic (Numeral)

/-! ### Literals -/

/-- Whether the value of a literal can be read: it is a text, or an integer. -/
def CanRead (t : Token) : Prop := t.kind = "LITERAL_NUMBER" → (integerOf? t.text).isSome

instance : DecidablePred CanRead := fun _ => inferInstanceAs (Decidable (_ → _))

/-- The labels of literals. -/
def literalLabels : List String := ["RHV", "OP1", "OP2"]

mutual

/-- The literals of a tree, from left to right. -/
def literals : Tree → List Token
  | .token _ => []
  | .node _ fields => fieldsLiterals fields
  | .list items => itemsLiterals items

/-- The literals in all fields. -/
def fieldsLiterals : Fields Tree → List Token
  | [] => []
  | (label, value) :: rest =>
    (if label ∈ literalLabels then value.tokens else literals value) ++ fieldsLiterals rest

/-- The literals in all items of a list. -/
def itemsLiterals : List Tree → List Token
  | [] => []
  | item :: items => literals item ++ itemsLiterals items

end

theorem itemsLiterals_eq (items : List Tree) : itemsLiterals items = items.flatMap literals := by
  induction items with
  | nil => rfl
  | cons item items ih => rw [itemsLiterals, ih, List.flatMap_cons]

mutual

theorem literals_sublist : ∀ t : Tree, (literals t).Sublist t.tokens
  | .token _ => List.nil_sublist _
  | .node _ fields => fieldsLiterals_sublist fields
  | .list items => itemsLiterals_sublist items

theorem fieldsLiterals_sublist : ∀ fields : Fields Tree,
    (fieldsLiterals fields).Sublist (Tree.fieldsTokens fields)
  | [] => .refl _
  | (label, value) :: rest => by
    rw [fieldsLiterals, Tree.fieldsTokens]
    refine List.Sublist.append ?_ (fieldsLiterals_sublist rest)
    split
    · exact .refl _
    · exact literals_sublist value

theorem itemsLiterals_sublist : ∀ items : List Tree,
    (itemsLiterals items).Sublist (Tree.itemsTokens items)
  | [] => .refl _
  | item :: items => (literals_sublist item).append (itemsLiterals_sublist items)

end

/-! ### Steps of the walk -/

/-- Whether a step reads literals in their order: the first that cannot be read ends it, and if
there is none, it puts a number of predicates on the stack. -/
def Handles {α : Type} (x : Build α) (ts : List Token) (count : ℕ) : Prop :=
  ∀ stack, match ts.find? (¬CanRead ·) with
    | none => ∃ a ps, ps.length = count ∧
        x.run ⟨walker.handlers, stack⟩ = .ok a ⟨walker.handlers, ps ++ stack⟩
    | some t => ∃ w, x.run ⟨walker.handlers, stack⟩ = .error (.invalidNumber t.text) w

namespace Handles

variable {α β : Type} {x : Build α} {f : α → Build β} {ts ts' : List Token} {count count' : ℕ}

theorem pure (a : α) : Handles (pure a) [] 0 := fun _ => ⟨a, [], rfl, rfl⟩

theorem push (p : Predicate) : Handles (push p) [] 1 := fun _ => ⟨(), [p], rfl, rfl⟩

theorem bind (hx : Handles x ts count) (hf : ∀ a, Handles (f a) ts' count') :
    Handles (x >>= f) (ts ++ ts') (count' + count) := by
  intro stack
  have hx := hx stack
  rw [List.find?_append]
  cases hfind : ts.find? (¬CanRead ·) with
  | some t =>
    rw [hfind] at hx
    obtain ⟨w, hx⟩ := hx
    refine ⟨w, ?_⟩
    rw [EStateM.run_bind, hx]
  | none =>
    rw [hfind] at hx
    obtain ⟨a, ps, hlength, hx⟩ := hx
    have hf := hf a (ps ++ stack)
    rw [Option.none_or]
    rw [EStateM.run_bind, hx]
    cases hfind' : ts'.find? (¬CanRead ·) with
    | some t =>
      rw [hfind'] at hf
      exact hf
    | none =>
      rw [hfind'] at hf
      obtain ⟨b, ps', hlength', hf⟩ := hf
      refine ⟨b, ps' ++ ps, by rw [List.length_append, hlength, hlength'], ?_⟩
      rw [List.append_assoc]
      exact hf

theorem thenPush {f : α → Predicate} (hx : Handles x ts 0) :
    Handles (x >>= fun a => Filter.push (f a)) ts 1 := by
  rw [← List.append_nil ts]
  exact hx.bind fun a => push (f a)

/-- The predicate that a visit leaves is taken from the stack again. -/
theorem pop (hx : Handles x ts 1) : Handles (do let _ ← x; pop) ts 0 := by
  intro stack
  have hx := hx stack
  rw [EStateM.run_bind]
  cases hfind : ts.find? (¬CanRead ·) with
  | some t =>
    rw [hfind] at hx
    obtain ⟨w, hx⟩ := hx
    rw [hx]
    exact ⟨w, rfl⟩
  | none =>
    rw [hfind] at hx
    obtain ⟨a, ps, hlength, hx⟩ := hx
    obtain ⟨p, rfl⟩ := List.length_eq_one_iff.1 hlength
    rw [hx]
    exact ⟨p, [], rfl, rfl⟩

theorem mapM {γ : Type} {f : γ → Build β} {read : γ → List Token} {as : List γ}
    (h : ∀ a ∈ as, Handles (f a) (read a) 0) : Handles (as.mapM f) (as.flatMap read) 0 := by
  induction as with
  | nil => exact .pure []
  | cons a as ih =>
    obtain ⟨ha, has⟩ := List.forall_mem_cons.1 h
    rw [List.mapM_cons, List.flatMap_cons, ← List.append_nil (as.flatMap read)]
    exact ha.bind fun b => (ih has).bind fun bs => .pure (b :: bs)

theorem literal (t : Token) : Handles (literal none t) [t] 0 := by
  intro stack
  rw [Filter.literal]
  by_cases hkind : t.kind = "LITERAL_NUMBER"
  · cases hread : integerOf? t.text with
    | some n =>
      have hgroup : Text.groupedInteger? (Text.trim t.text.toList) = some n := hread
      have hcan : CanRead t := fun _ => by rw [hread]; rfl
      simp only [List.find?_cons, hcan, hkind, hgroup, if_true]
      exact ⟨_, [], rfl, rfl⟩
    | none =>
      have hgroup : Text.groupedInteger? (Text.trim t.text.toList) = none := hread
      have hcan : ¬CanRead t := fun h => by simpa [hread] using h hkind
      simp only [List.find?_cons, hcan, hkind, hgroup, if_true]
      exact ⟨_, rfl⟩
  · have hcan : CanRead t := fun h => absurd h hkind
    simp only [List.find?_cons, hcan, hkind, if_false]
    exact ⟨_, [], rfl, rfl⟩

theorem literals (ts : List Token) : Handles (ts.mapM (Filter.literal none)) ts 0 := by
  have h : Handles (ts.mapM (Filter.literal none)) (ts.flatMap fun t => [t]) 0 :=
    mapM fun t _ => literal t
  rwa [List.flatMap_singleton'] at h

theorem enter {handler : Handler} {n : Node} {fuel : ℕ}
    (hn : walker.handlers.lookup (Text.lowercase n.name) = some handler)
    (h : Handles (act none handler (visitNodes (Walk.enter (act none) fuel) none) n) ts count) :
    Handles (Walk.enter (act none) (fuel + 1) none n) ts count := by
  intro stack
  rw [run_enter_of_handler (w := ⟨walker.handlers, stack⟩) hn]
  exact h stack

end Handles

/-! ### Tests -/

section Tests

variable {visit : Tree → Build Unit} {a : Token} {mark : Option Token}

theorem literals_relationNode (f : Form) (fields : Fields Tree) :
    literals (relationNode f a mark fields).toTree = fieldsLiterals fields := by
  cases mark <;> rfl

theorem handles_comparison {operator : Comparison} {t b : Token} (ht : t.kind = operator.kind) :
    Handles (act none .comparison visit ⟨"comparison_predicate",
      [("LHV", .token a), ("OPERATOR", .token t), ("RHV", .token b)]⟩) [b] 1 := by
  rw [act_comparison none visit a b ht]
  exact (Handles.literal b).thenPush

theorem handles_membership (ts : List Token) :
    Handles (act none .membership visit
      (relationNode .membership a mark [("RHV", .list (ts.map Tree.token))])) ts 1 := by
  rw [act_membership]
  exact (Handles.literals ts).thenPush

theorem handles_between (b c : Token) :
    Handles (act none .between visit
      (relationNode .between a mark [("OP1", .token b), ("OP2", .token c)])) [b, c] 1 := by
  rw [act_between]
  exact (Handles.literal b).bind fun low => (Handles.literal c).thenPush

theorem handles_containment (b : Token) :
    Handles (act none .containment visit (relationNode .containment a mark [("RHV", .token b)]))
      [b] 1 := by
  rw [act_containment]
  exact (Handles.literal b).thenPush

theorem handles_blank (b : Token) :
    Handles (act none .blank visit (relationNode .blank a mark [("ISBLANK", .token b)])) [] 1 := by
  rw [act_blank]
  exact Handles.push _

end Tests

/-! ### Trees of other tokens -/

section Change

variable {change : Token → Token}

theorem mapTokens_relationNode (f : Form) (a : Token) (mark : Option Token) (fields : Fields Tree) :
    (relationNode f a mark fields).mapTokens change =
      relationNode f (change a) (mark.map change) (Tree.fieldsMapTokens change fields) := by
  cases mark <;> rfl

theorem mapTokens_rowNode (l : Level) (ms : List Node) :
    Node.mapTokens change ⟨l.name, [(l.connective, .list (ms.map Node.toTree))]⟩ =
      ⟨l.name, [(l.connective, .list ((ms.map (·.mapTokens change)).map Node.toTree))]⟩ := by
  have hnode (m : Node) : m.toTree.mapTokens change = (m.mapTokens change).toTree := rfl
  simp [Node.mapTokens.eq_1 change ⟨l.name, _⟩, Tree.fieldsMapTokens, Tree.mapTokens,
    Tree.itemsMapTokens_eq, hnode]

theorem literals_rowNode (l : Level) (ms : List Node) :
    literals (Node.toTree ⟨l.name, [(l.connective, .list (ms.map Node.toTree))]⟩) =
      ms.flatMap fun m => literals m.toTree := by
  have hlabel : l.connective ∉ literalLabels := by cases l <;> decide
  rw [Node.toTree, literals, fieldsLiterals, if_neg hlabel, literals, itemsLiterals_eq,
    List.flatMap_map, fieldsLiterals, List.append_nil]

theorem handles_row {l : Level} {visit : Tree → Build Unit} {ms : List Node}
    (h : ∀ m ∈ ms, Handles (visit m.toTree) (literals m.toTree) 1) :
    Handles (act none l.handler visit ⟨l.name, [(l.connective, .list (ms.map Node.toTree))]⟩)
      (ms.flatMap fun m => literals m.toTree) 1 := by
  rw [act_row]
  exact Handles.thenPush (Handles.mapM fun m hm => (h m hm).pop)

/-- The tree of a test, with other tokens of the same kinds. -/
theorem Test.handles (hchange : ∀ t, (change t).kind = t.kind) {t : Test} {m : Node}
    (h : t.IsTree m) (fuel : ℕ) :
    Handles (enter (act none) (fuel + 1) none (m.mapTokens change))
      (literals (m.mapTokens change).toTree) 1 := by
  cases h with
  | comparison ha ht hb =>
    exact Handles.enter lookup_comparison (handles_comparison ((hchange _).trans ht))
  | relation ha hfields =>
    rw [mapTokens_relationNode, literals_relationNode]
    refine Handles.enter (lookup_relation _) ?_
    cases hfields with
    | @among first others ts hts =>
      have hmap : Tree.fieldsMapTokens change [("RHV", .list (ts.map Tree.token))] =
          [("RHV", .list ((ts.map change).map Tree.token))] := by
        simp [Tree.fieldsMapTokens, Tree.mapTokens, Tree.itemsMapTokens_eq]
      have hliterals : fieldsLiterals [("RHV", .list ((ts.map change).map Tree.token))] =
          ts.map change := by
        rw [fieldsLiterals, if_pos (by decide), fieldsLiterals, List.append_nil, Tree.tokens,
          Tree.itemsTokens_eq, List.flatMap_map]
        exact List.flatMap_singleton' _
      rw [hmap, hliterals]
      exact handles_membership _
    | between hb hc => exact handles_between _ _
    | containing hb => exact handles_containment _
    | blank b => exact handles_blank _

mutual

/-- Visiting the tree of a phrase, with other tokens of the same kinds, reads its literals. -/
theorem Phrase.handles (hchange : ∀ t, (change t).kind = t.kind) :
    ∀ {c : Category} (p : Phrase c) {m : Node} {fuel : ℕ}, IsTree p m →
      (m.mapTokens change).toTree.height ≤ fuel →
      Handles (enter (act none) fuel none (m.mapTokens change))
        (literals (m.mapTokens change).toTree) 1
  | _, .test t, _, _, .test hm, hfuel => by
    obtain ⟨k, rfl, -⟩ := exists_fuel hfuel
    exact Test.handles hchange hm k
  | _, .group body, _, _, @IsTree.group _ m hm, hfuel => by
    obtain ⟨k, rfl, hfields⟩ := exists_fuel hfuel
    have hbody := Phrase.handles hchange body hm (hfields _ List.mem_cons_self)
    have hliterals : literals (Node.toTree ⟨"boolean_primary",
        [("CONDITION", (m.mapTokens change).toTree)]⟩) = literals (m.mapTokens change).toTree :=
      List.append_nil _
    refine Handles.enter lookup_group ?_
    rw [← hliterals] at hbody
    exact hbody
  | .row l, .row first rest, _, _, @IsTree.row _ _ _ m ms hm hms, hfuel => by
    rw [mapTokens_rowNode] at hfuel ⊢
    obtain ⟨k, rfl, hnodes⟩ := exists_fuel_of_list hfuel
    obtain ⟨hfirst, hrest⟩ := List.forall_mem_cons.1 (List.forall_mem_map.1 hnodes)
    rw [literals_rowNode]
    refine Handles.enter (lookup_row l) (handles_row ?_)
    rw [List.forall_mem_map, List.forall_mem_cons]
    exact ⟨Phrase.handles hchange first hm hfirst, Rest.handles hchange rest hms hrest⟩

/-- So does visiting the operands of a row behind the first one. -/
theorem Rest.handles (hchange : ∀ t, (change t).kind = t.kind) :
    ∀ {l : Level} (rest : Rest l) {ms : List Node} {fuel : ℕ}, AreTails rest ms →
      (∀ m ∈ ms, (m.mapTokens change).toTree.height ≤ fuel) →
      ∀ m ∈ ms, Handles (visitNodes (enter (act none) fuel) none (m.mapTokens change).toTree)
        (literals (m.mapTokens change).toTree) 1
  | _, .nil, _, _, .nil, _ => by simp
  | _, .cons operand rest, _, _, .cons hm hms, hfuel => by
    obtain ⟨hoperand, hrest⟩ := List.forall_mem_cons.1 hfuel
    exact List.forall_mem_cons.2
      ⟨Phrase.handles hchange operand hm hoperand, Rest.handles hchange rest hms hrest⟩

end

end Change

/-! ### The predicate on the stack -/

section Grammar

variable {g : Grammar} (hg : grammar = .ok g) {tokens : Array Token} {options : ParseOptions}
  {n : Node}
include hg

/-- Visiting the tree of a filter reads its literals. -/
theorem handles_of_parseTokens (hkinds : ∀ t ∈ tokens, g.alternativesOf t.kind = [])
    (hn : (g.parseTokens "search_condition" tokens options).1 = .ok n) :
    Handles (visit (act none) n.toTree) (literals n.toTree) 1 := by
  obtain ⟨m, hm, rfl⟩ := Grammar.parseTokens_standIns hn " 0"
  have hr : Readable g (Grammar.standIns " 0" tokens) := {
    kind := fun t ht => by
      obtain ⟨-, u, hu, hkind⟩ := Grammar.of_mem_standIns ht
      rw [← hkind]
      exact hkinds u hu
    number := fun t ht _ => by
      rw [(Grammar.of_mem_standIns ht).1]
      decide }
  obtain ⟨f, -, hf⟩ := exists_condition hg hr hm
  have hkind (t : Token) : (Grammar.original tokens t).kind = t.kind := rfl
  exact Phrase.handles hkind f hf le_rfl

/-- **The first literal that cannot be read ends the walk**; if there is none, exactly one predicate
is left. -/
theorem build_of_parseTokens (hkinds : ∀ t ∈ tokens, g.alternativesOf t.kind = [])
    (hn : (g.parseTokens "search_condition" tokens options).1 = .ok n) :
    match (literals n.toTree).find? (¬CanRead ·) with
    | none => ∃ p, build n.toTree = .ok [p]
    | some t => build n.toTree = .error (.invalidNumber t.text) := by
  have hrun := handles_of_parseTokens hg hkinds hn []
  cases hfind : (literals n.toTree).find? (¬CanRead ·) with
  | none =>
    rw [hfind] at hrun
    obtain ⟨_, ps, hlength, hrun⟩ := hrun
    obtain ⟨p, rfl⟩ := List.length_eq_one_iff.1 hlength
    refine ⟨p, ?_⟩
    have hrun : (walkWithin (callStack (Limits.calls {})) (act (Limits.digits {})) n.toTree).run
        walker = .ok [p] ⟨walker.handlers, [p]⟩ := run_walk_of_ok hrun
    rw [build, buildWithin, hrun]
  | some t =>
    rw [hfind] at hrun
    obtain ⟨w, hrun⟩ := hrun
    have hrun : (walkWithin (callStack (Limits.calls {})) (act (Limits.digits {})) n.toTree).run
        walker = .error (.invalidNumber t.text) w := run_walk_of_error hrun
    rw [build, buildWithin, hrun]

end Grammar

/-- **Filters are built up to the first number that is no integer.**  The grammar of filters
compiles.  The texts that the pattern of number literals matches are a blank with a sign in front or
none, and digits behind it with a point or none (`IsNumber`); those that can be read are a blank
with digits alone.  The literals in the tree of a text that is parsed are tokens of the text.  If
all of them can be read, the walk leaves exactly one predicate on the stack, and else it fails on
the first that cannot. -/
theorem filters_built (text : String) (options : ParseOptions) : ∃ g, grammar = .ok g ∧
    ((∃ t, g.lexicon.Produces t ∧ t.kind = "LITERAL_NUMBER" ∧ t.text = text) ↔
      IsNumber text.toList) ∧
    (∀ t, IsNumber t.text.toList → t.kind = "LITERAL_NUMBER" →
      (CanRead t ↔ ∃ m : Numeral, t.text.toList = ' ' :: m.digits)) ∧
    ∀ n, (g.parse "search_condition" text options).1 = .ok n →
      ∃ ts, g.tokenize text = .ok ts ∧ literals n.toTree ⊆ ts ∧
        ((∀ t ∈ literals n.toTree, CanRead t) → ∃ p, build n.toTree = .ok [p]) ∧
        ∀ before t behind, literals n.toTree = before ++ t :: behind →
          (∀ t ∈ before, CanRead t) → ¬CanRead t →
            build n.toTree = .error (.invalidNumber t.text) := by
  obtain ⟨g, hg⟩ := exists_grammar
  refine ⟨g, hg, exists_produces_iff hg, fun t ht hkind => ?_, fun n hn => ?_⟩
  · rw [← isSome_integerOf?_iff ht, CanRead]
    exact ⟨fun h => h hkind, fun h _ => h⟩
  · obtain ⟨-, ts, hts, hparse⟩ := Grammar.parse_eq_ok_iff.1 hn
    have hkinds : ∀ t ∈ ts.toArray, g.alternativesOf t.kind = [] :=
      fun t ht => alternativesOf_kind hg hts t (by simpa using ht)
    have hbuild := build_of_parseTokens hg hkinds hparse
    refine ⟨ts, hts, fun t ht => ?_, fun hall => ?_, fun before t behind heq hbefore ht => ?_⟩
    · simpa using Grammar.tokens_subset_of_parseTokens hparse t ((literals_sublist _).subset ht)
    · have hnone : (literals n.toTree).find? (¬CanRead ·) = none := by simpa using hall
      rwa [hnone] at hbuild
    · have hnone : before.find? (¬CanRead ·) = none := by simpa using hbefore
      have hsome : (literals n.toTree).find? (¬CanRead ·) = some t := by
        rw [heq, List.find?_append, hnone, List.find?_cons_of_pos (by simpa using ht)]
        rfl
      rwa [hsome] at hbuild

/-! ### Some filters -/

theorem exists_of_literals {g : Grammar} (hg : grammar = .ok g) (text : String) (ts : List Token)
    (h : (match Grammar.ofRules rules [] true with
      | .ok g => (g.parse "search_condition" text {}).1.toOption.map fun n => literals n.toTree
      | .error _ => none) = some ts) :
    ∃ n, (g.parse "search_condition" text {}).1 = .ok n ∧ literals n.toTree = ts := by
  rw [ofRules_of_grammar hg] at h
  obtain ⟨n, hn, hts⟩ := Option.map_eq_some_iff.1 h
  exact ⟨n, eq_ok_of_toOption hn, hts⟩

/-- A filter whose numbers are integers is built.  In another one, a decimal fraction is what fails,
before a number with a point at its end is come to. -/
theorem ages_built : ∃ g n m, grammar = .ok g ∧
    (g.parse "search_condition" "age BETWEEN 20 AND 30" {}).1 = .ok n ∧
    (∃ p, build n.toTree = .ok [p]) ∧
    (g.parse "search_condition" "age GE 20 AND age LT 40.5 OR age GT 50." {}).1 = .ok m ∧
    build m.toTree = .error (.invalidNumber " 40.5") := by
  obtain ⟨g, hg, -, -, hbuilt⟩ := filters_built "age BETWEEN 20 AND 30" {}
  obtain ⟨g', hg', -, -, hbuilt'⟩ := filters_built "age GE 20 AND age LT 40.5 OR age GT 50." {}
  obtain rfl := Except.ok.inj (hg.symm.trans hg')
  obtain ⟨n, hn, hliterals⟩ := exists_of_literals hg "age BETWEEN 20 AND 30"
    [⟨"LITERAL_NUMBER", " 20", 11⟩, ⟨"LITERAL_NUMBER", " 30", 18⟩] (by decide +kernel)
  obtain ⟨m, hm, hliterals'⟩ := exists_of_literals hg
    "age GE 20 AND age LT 40.5 OR age GT 50."
    [⟨"LITERAL_NUMBER", " 20", 6⟩, ⟨"LITERAL_NUMBER", " 40.5", 20⟩,
      ⟨"LITERAL_NUMBER", " 50.", 35⟩] (by decide +kernel)
  obtain ⟨-, -, -, hread, -⟩ := hbuilt n hn
  obtain ⟨-, -, -, -, hfail⟩ := hbuilt' m hm
  exact ⟨g, n, m, hg, hn, hread (by rw [hliterals]; decide), hm,
    hfail [⟨"LITERAL_NUMBER", " 20", 6⟩] ⟨"LITERAL_NUMBER", " 40.5", 20⟩ _ hliterals'
      (by decide) (by decide)⟩

/-- A filter that is accepted cannot be built, for its number is a decimal fraction. -/
theorem exists_unreadable : ∃ g n, grammar = .ok g ∧
    (g.parse "search_condition" "age LT 40.5" {}).1 = .ok n ∧
    build n.toTree = .error (.invalidNumber " 40.5") := by
  obtain ⟨g, hg⟩ := exists_grammar
  obtain ⟨n, hn, hliterals⟩ := exists_of_literals hg "age LT 40.5"
    [⟨"LITERAL_NUMBER", " 40.5", 6⟩] (by decide +kernel)
  obtain ⟨-, ts, hts, hparse⟩ := Grammar.parse_eq_ok_iff.1 hn
  have hbuild := build_of_parseTokens hg
    (fun t ht => alternativesOf_kind hg hts t (by simpa using ht)) hparse
  have hfind : (literals n.toTree).find? (¬CanRead ·) = some ⟨"LITERAL_NUMBER", " 40.5", 6⟩ := by
    rw [hliterals]
    decide
  rw [hfind] at hbuild
  exact ⟨g, n, hg, hn, hbuild⟩

end OrderedGrammar.Filter
