import OrderedGrammar.Proofs.Notation.Syntax

/-!
# Trees of the notation and their rules

`Declaration.AreTrees` says which syntax trees the declarations of a text have.  What the visitor
emits for such trees are the rules that the declarations stand for, or the fault of the first that
is none (`rulesOfTree_eq`).

A step of the visitor is described by what it emits (`Emits`), and steps are put together by
`Emits.bind`, so that the proof follows the visitor.
-/

namespace OrderedGrammar.Notation

/-! ### Trees -/

/-- Whether a field is the one of a label. -/
def Label.IsField : Label → Option Tree → Prop
  | .absent, field => field = none
  | .bare, field => ∃ colon, field = some (.list [.token colon]) ∧ colon.kind = "COLON"
  | .named name, field => ∃ t colon, field = some (.list [.token t, .token colon]) ∧
      t.kind = "IDENTIFIER" ∧ t.text = name ∧ colon.kind = "COLON"

/-- Whether a field is the one of a modifier. -/
def IsModifierField (m : Modifier) (field : Option Tree) : Prop :=
  match m.char? with
  | none => field = none
  | some c => ∃ t, field = some (.token t) ∧ t.text = String.singleton c

/-- The node of a sequence. -/
def sequenceNode (items : List Tree) : Tree := .node "sequence" [("SYMBOL", .list items)]

/-- The node of alternatives. -/
def alternativesNode (sequences : List Tree) : Tree :=
  .node "alternatives" [("ALTERNATE", .list sequences)]

mutual

/-- Whether a tree is the one of an item. -/
def Item.IsTree : Item → Tree → Prop
  | .name label name m, t => ∃ fields, t = .node "symbol" fields ∧
      label.IsField (fields.lookup "ALIAS") ∧
      (∃ u, fields.lookup "IDENTIFIER" = some (.token u) ∧ u.text = name) ∧
      IsModifierField m (fields.lookup "MODIFIER")
  | .group label body m, t => ∃ fields, t = .node "symbol" fields ∧
      label.IsField (fields.lookup "ALIAS") ∧ fields.lookup "IDENTIFIER" = none ∧
      (∃ ts, fields.lookup "SUBRULE" = some (alternativesNode ts) ∧ Choice.AreTrees body ts) ∧
      IsModifierField m (fields.lookup "MODIFIER")

/-- Whether trees are those of items. -/
def Series.AreTrees : Series → List Tree → Prop
  | .one item, ts => ∃ t, ts = [t] ∧ Item.IsTree item t
  | .more item rest, ts => ∃ t ts', ts = t :: ts' ∧ Item.IsTree item t ∧ Series.AreTrees rest ts'

/-- Whether trees are those of alternatives. -/
def Choice.AreTrees : Choice → List Tree → Prop
  | .one series, ts => ∃ items, ts = [sequenceNode items] ∧ Series.AreTrees series items
  | .more series rest, ts => ∃ items ts', ts = sequenceNode items :: ts' ∧
      Series.AreTrees series items ∧ Choice.AreTrees rest ts'

end

/-- Whether a tree is the one of a declaration. -/
def Declaration.IsTree : Declaration → Tree → Prop
  | .lexer name pattern, t => ∃ fields u v, t = .node "rule" fields ∧
      fields.lookup "RULE" = some (.token u) ∧ u.text = name ∧
      fields.lookup "EXPANSION" = some (.token v) ∧ v.text = "\"" ++ pattern ++ "\""
  | .parser name body, t => ∃ fields u ts, t = .node "rule" fields ∧
      fields.lookup "RULE" = some (.token u) ∧ u.text = name ∧
      fields.lookup "EXPANSION" = some (alternativesNode ts) ∧ body.AreTrees ts

/-! ### How deep groups nest -/

mutual

/-- How deep groups nest in an item. -/
def Item.depth : Item → ℕ
  | .name _ _ _ => 0
  | .group _ body _ => Choice.depth body + 1

/-- How deep groups nest in items. -/
def Series.depth : Series → ℕ
  | .one item => Item.depth item
  | .more item rest => max (Item.depth item) (Series.depth rest)

/-- How deep groups nest in alternatives. -/
def Choice.depth : Choice → ℕ
  | .one series => Series.depth series
  | .more series rest => max (Series.depth series) (Choice.depth rest)

end

/-- How deep alternatives nest in a rule of the notation. -/
def Declaration.levels : Declaration → ℕ
  | .lexer _ _ => 0
  | .parser _ body => body.depth + 1

/-- The calls in which rules of the notation are walked through. -/
def callsOf (declarations : List Declaration) : ℕ :=
  max ruleCalls (entryCalls + levelCalls * (declarations.map Declaration.levels).foldr max 0)

theorem callsOf_le_iff {declarations : List Declaration} {calls : ℕ} :
    callsOf declarations ≤ calls ↔ ruleCalls ≤ calls ∧
      ∀ d ∈ declarations, d.levels ≤ (calls - entryCalls) / levelCalls := by
  have hlevels (most : ℕ) : (declarations.map Declaration.levels).foldr max 0 ≤ most ↔
      ∀ d ∈ declarations, d.levels ≤ most := by
    induction declarations with
    | nil => simp
    | cons d declarations ih =>
      rw [List.map_cons, List.foldr_cons, Nat.max_le, ih, List.forall_mem_cons]
  rw [callsOf, Nat.max_le, ← hlevels]
  refine and_congr_right fun hle => ?_
  simp only [ruleCalls] at hle
  simp only [entryCalls, levelCalls]
  omega

/-- What a walk through the tree of declarations gives on a stack with the given room: if it has
room for the walk, the rules that they stand for or the fault of the first that is none; if not, it
is told, unless that fault is met before. -/
structure FlattensWithin (room : Option ℕ) (declarations : List Declaration)
    (result : Except CompileError (List Rule)) : Prop where
  eq_rulesOf : (∀ calls ∈ room, callsOf declarations ≤ calls) →
    result = (rulesOf declarations).mapError .grammar
  fails : (¬∀ calls ∈ room, callsOf declarations ≤ calls) → result = .error .overflow ∨
    ∃ e, rulesOf declarations = .error e ∧ result = .error (.grammar e)

theorem height_le_of_lookup {fields : Fields Tree} {label : String} {t : Tree}
    (h : fields.lookup label = some t) : t.height ≤ Tree.fieldsHeight fields := by
  induction fields with
  | nil => cases h
  | cons f fields ih =>
    obtain ⟨a, value⟩ := f
    rw [Fields.lookup_cons] at h
    rw [Tree.fieldsHeight]
    split at h
    · cases h
      exact le_max_left _ _
    · exact le_trans (ih h) (le_max_right _ _)

mutual

theorem Item.depth_le_height : ∀ (item : Item) {t : Tree}, item.IsTree t → item.depth ≤ t.height
  | .name _ _ _, _, _ => Nat.zero_le _
  | .group _ body _, _, h => by
    obtain ⟨fields, rfl, -, -, ⟨ts, hlookup, hbody⟩, -⟩ := h
    have hdepth := Choice.depth_le_height body hbody
    have hheight := height_le_of_lookup hlookup
    simp only [alternativesNode, Tree.height, Tree.fieldsHeight] at hheight
    rw [Item.depth, Tree.height]
    omega

theorem Series.depth_le_height : ∀ (series : Series) {ts : List Tree}, series.AreTrees ts →
    series.depth ≤ Tree.itemsHeight ts
  | .one item, _, h => by
    obtain ⟨t, rfl, ht⟩ := h
    have hdepth := Item.depth_le_height item ht
    rw [Series.depth, Tree.itemsHeight]
    omega
  | .more item rest, _, h => by
    obtain ⟨t, ts, rfl, ht, hts⟩ := h
    have hdepth := Item.depth_le_height item ht
    have hrest := Series.depth_le_height rest hts
    rw [Series.depth, Tree.itemsHeight]
    omega

theorem Choice.depth_le_height : ∀ (body : Choice) {ts : List Tree}, body.AreTrees ts →
    body.depth ≤ Tree.itemsHeight ts
  | .one series, _, h => by
    obtain ⟨items, rfl, hitems⟩ := h
    have hdepth := Series.depth_le_height series hitems
    simp only [Choice.depth, sequenceNode, Tree.itemsHeight, Tree.height, Tree.fieldsHeight]
    omega
  | .more series rest, _, h => by
    obtain ⟨items, ts, rfl, hitems, hts⟩ := h
    have hdepth := Series.depth_le_height series hitems
    have hrest := Choice.depth_le_height rest hts
    simp only [Choice.depth, sequenceNode, Tree.itemsHeight, Tree.height, Tree.fieldsHeight]
    omega

end

/-! ### What a step emits -/

section Emits

variable {α β : Type}

/-- A step that starts with the number `n` emits the drafts, if all of them make rules, gives `a`
and leaves the number `k`. -/
def Emits (m : Emit α) (n : ℕ) (drafts : List Draft) (a : α) (k : ℕ) : Prop :=
  ∀ rules, m ⟨rules, n⟩ = match drafts.mapM Draft.rule with
    | .ok made => .ok (a, ⟨rules ++ made, k⟩)
    | .error e => .error (.grammar e)

variable {m : Emit α} {f : α → Emit β} {n k l : ℕ} {drafts drafts' : List Draft} {a : α} {b : β}

theorem Emits.pure (a : α) (n : ℕ) : Emits (pure a) n [] a n := fun rules => by
  simp only [List.mapM_nil]
  exact congrArg (fun r => Except.ok (a, Emission.mk r n)) (List.append_nil rules).symm

theorem Emits.bind (hm : Emits m n drafts a k) (hf : Emits (f a) k drafts' b l) :
    Emits (m >>= f) n (drafts ++ drafts') b l := by
  intro rules
  have hrun : (m >>= f) ⟨rules, n⟩ = (m ⟨rules, n⟩ >>= fun x => f x.1 x.2) := rfl
  rw [hrun, hm rules, List.mapM_append]
  -- the first draft that makes no rule ends both, be it in the first step or in the second
  cases drafts.mapM Draft.rule with
  | error e => rfl
  | ok made =>
    change f a ⟨rules ++ made, k⟩ = _
    rw [hf (rules ++ made)]
    cases drafts'.mapM Draft.rule with
    | error e => rfl
    | ok made' =>
      change Except.ok _ = Except.ok _
      rw [List.append_assoc]

theorem Emits.bind_nil (hm : Emits m n [] a k) (hf : Emits (f a) k drafts b l) :
    Emits (m >>= f) n drafts b l := hm.bind hf

theorem Emits.access {r : Except AccessError α} (h : r = .ok a) : Emits (Emit.access r) n [] a n :=
  h ▸ Emits.pure a n

theorem Emits.rule (d : Draft) :
    Emits (do Emit.rule (← Emit.make d.rule)) n [d] () n := by
  intro rules
  rw [List.mapM_cons, List.mapM_nil]
  cases d.rule with
  | error e => rfl
  | ok r => rfl

end Emits

/-! ### What a step emits if there is room for it -/

section EmitsIf

variable {α β : Type} {fits fits' : Prop} {m : Emit α} {f : α → Emit β} {n k l : ℕ}
  {drafts drafts' : List Draft} {a : α} {b : β}

/-- A step emits this if the stack has room for it.  If not, it is given up for that, unless a draft
that makes no rule has ended it before. -/
structure EmitsIf (fits : Prop) (m : Emit α) (n : ℕ) (drafts : List Draft) (a : α) (k : ℕ) :
    Prop where
  emits : fits → Emits m n drafts a k
  fails : ¬fits → ∀ rules, m ⟨rules, n⟩ = .error .overflow ∨
    ∃ e, drafts.mapM Draft.rule = .error e ∧ m ⟨rules, n⟩ = .error (.grammar e)

theorem Emits.emitsIf (hfits : fits) (h : Emits m n drafts a k) : EmitsIf fits m n drafts a k :=
  ⟨fun _ => h, fun hnot => absurd hfits hnot⟩

theorem emitsIf_overflow (hfits : ¬fits) (n : ℕ) (drafts : List Draft) (a : α) (k : ℕ) :
    EmitsIf fits (throw .overflow) n drafts a k :=
  ⟨fun h => absurd h hfits, fun _ _ => .inl rfl⟩

theorem EmitsIf.congr (h : EmitsIf fits m n drafts a k) (hfits : fits ↔ fits') :
    EmitsIf fits' m n drafts a k := propext hfits ▸ h

theorem EmitsIf.bind (hm : EmitsIf fits m n drafts a k) (hf : EmitsIf fits' (f a) k drafts' b l) :
    EmitsIf (fits ∧ fits') (m >>= f) n (drafts ++ drafts') b l := by
  refine ⟨fun h => (hm.emits h.1).bind (hf.emits h.2), fun hnot rules => ?_⟩
  have hrun : (m >>= f) ⟨rules, n⟩ = (m ⟨rules, n⟩ >>= fun x => f x.1 x.2) := rfl
  -- either the first step fails, or it emits all of its drafts and the second step fails
  have hfirst : m ⟨rules, n⟩ = .error .overflow ∨
      (∃ e, drafts.mapM Draft.rule = .error e ∧ m ⟨rules, n⟩ = .error (.grammar e)) ∨
      ¬fits' ∧ ∃ made, drafts.mapM Draft.rule = .ok made ∧
        m ⟨rules, n⟩ = .ok (a, ⟨rules ++ made, k⟩) := by
    by_cases h : fits
    · have hemits := hm.emits h rules
      cases hmade : drafts.mapM Draft.rule with
      | error e => exact .inr (.inl ⟨e, rfl, by rw [hemits, hmade]⟩)
      | ok made =>
        exact .inr (.inr ⟨fun h' => hnot ⟨h, h'⟩, made, rfl, by rw [hemits, hmade]⟩)
    · exact (hm.fails h rules).imp_right .inl
  rw [hrun, List.mapM_append]
  rcases hfirst with hrest | ⟨e, hmade, hrest⟩ | ⟨hnot', made, hmade, hrest⟩
  · exact .inl (by rw [hrest]; rfl)
  · exact .inr ⟨e, by rw [hmade]; rfl, by rw [hrest]; rfl⟩
  · rw [hrest, hmade]
    rcases hf.fails hnot' (rules ++ made) with hsecond | ⟨e, hmade', hsecond⟩
    · exact .inl hsecond
    · exact .inr ⟨e, by rw [hmade']; rfl, hsecond⟩

theorem EmitsIf.bind_emits (hm : EmitsIf fits m n drafts a k) (hf : Emits (f a) k drafts' b l) :
    EmitsIf fits (m >>= f) n (drafts ++ drafts') b l :=
  (hm.bind (hf.emitsIf trivial)).congr (iff_of_eq (and_true fits))

theorem Emits.bind_emitsIf (hm : Emits m n [] a k) (hf : EmitsIf fits (f a) k drafts b l) :
    EmitsIf fits (m >>= f) n drafts b l :=
  ((hm.emitsIf trivial).bind hf).congr (iff_of_eq (true_and fits))

end EmitsIf

/-! ### Numbers of groups -/

theorem nextFree_spec (declared : List String) (n : ℕ) :
    n ≤ nextFree declared n ∧ groupName (nextFree declared n) ∉ declared :=
  Nat.find_spec (exists_nextFree declared n)

theorem nextFree_le {declared : List String} {n m : ℕ} (hle : n ≤ m)
    (hfree : groupName m ∉ declared) : nextFree declared n ≤ m :=
  Nat.find_min' _ ⟨hle, hfree⟩

theorem nextFree_of_notMem {declared : List String} {n : ℕ} (h : groupName n ∉ declared) :
    nextFree declared n = n :=
  le_antisymm (nextFree_le le_rfl h) (nextFree_spec declared n).1

theorem nextFree_of_mem {declared : List String} {n : ℕ} (h : groupName n ∈ declared) :
    nextFree declared n = nextFree declared (n + 1) := by
  obtain ⟨hle, hfree⟩ := nextFree_spec declared n
  obtain ⟨hle', hfree'⟩ := nextFree_spec declared (n + 1)
  have hne : nextFree declared n ≠ n := fun heq => hfree (heq.symm ▸ h)
  exact le_antisymm (nextFree_le (by omega) hfree') (nextFree_le (by omega) hfree)

theorem freeNumber_eq_nextFree {declared : List String} {fuel n k : ℕ} (hk : k ≤ fuel)
    (hfree : groupName (n + k) ∉ declared) : freeNumber declared fuel n = nextFree declared n := by
  induction fuel generalizing n k with
  | zero =>
    obtain rfl : k = 0 := by omega
    exact (nextFree_of_notMem hfree).symm
  | succ fuel ih =>
    rw [freeNumber]
    by_cases h : groupName n ∈ declared
    · have hk0 : k ≠ 0 := by
        rintro rfl
        exact hfree h
      rw [if_pos (by simpa using h), nextFree_of_mem h]
      refine ih (k := k - 1) (by omega) ?_
      rwa [Nat.add_assoc, Nat.add_sub_cancel' (by omega)]
    · rw [if_neg (by simpa using h), nextFree_of_notMem h]

theorem emits_nameGroup (declared : List String) (n : ℕ) :
    Emits (nameGroup declared) n [] (groupName (nextFree declared n))
      (nextFree declared n + 1) := by
  intro rules
  obtain ⟨k, hk, hfree⟩ := exists_free declared n
  have hnumber := freeNumber_eq_nextFree hk hfree
  have hrun : nameGroup declared ⟨rules, n⟩ =
      .ok (groupName (freeNumber declared declared.length n),
        ⟨rules, freeNumber declared declared.length n + 1⟩) := rfl
  rw [hrun, hnumber, List.mapM_nil]
  simp only [Pure.pure, Except.pure, List.append_nil]

/-! ### Symbols -/

section Nodes

variable {node : Node} {label : String} {value : Tree} {n : ℕ}

theorem get_eq (h : node.fields.lookup label = some value) : node.get label = .ok value := by
  rw [Node.get, h]

theorem has_eq (node : Node) (label : String) :
    node.has label = (node.fields.lookup label).isSome := rfl

theorem getText_eq {t : Token} (h : node.fields.lookup label = some (.token t)) :
    node.getText label = .ok t.text := by
  rw [Node.getText, Node.getToken, get_eq h]
  rfl

theorem mapM_map_ok {α β ε : Type} {f : β → Except ε α} {h : α → β} (hf : ∀ a, f (h a) = .ok a)
    (as : List α) : (as.map h).mapM f = .ok as := by
  induction as with
  | nil => rfl
  | cons a as ih =>
    rw [List.map_cons, List.mapM_cons, hf, ih]
    rfl

theorem getNodes_eq {nodes : List Node}
    (h : node.fields.lookup label = some (.list (nodes.map Node.toTree))) :
    node.getNodes label = .ok nodes := by
  rw [Node.getNodes, Node.getList, get_eq h]
  exact mapM_map_ok (h := Node.toTree) (fun _ => rfl) nodes

theorem getTokens_eq {tokens : List Token}
    (h : node.fields.lookup label = some (.list (tokens.map Tree.token))) :
    node.getTokens label = .ok tokens := by
  rw [Node.getTokens, Node.getList, get_eq h]
  exact mapM_map_ok (h := Tree.token) (fun _ => rfl) tokens

theorem emits_labelOf_tokens {tokens : List Token}
    (h : node.fields.lookup "ALIAS" = some (.list (tokens.map Tree.token))) (n : ℕ) :
    Emits (labelOf node) n []
      (some (String.join ((tokens.filter (·.kind = "IDENTIFIER")).map (·.text)))) n := by
  rw [labelOf, has_eq, h]
  exact (Emits.access (getTokens_eq h)).bind_nil (.pure _ n)

theorem emits_labelOf {l : Label} (h : l.IsField (node.fields.lookup "ALIAS")) (n : ℕ) :
    Emits (labelOf node) n [] l.text? n := by
  cases l with
  | absent =>
    rw [labelOf, has_eq, show node.fields.lookup "ALIAS" = none from h]
    exact .pure none n
  | bare =>
    obtain ⟨colon, hfield, hcolon⟩ := h
    have hemits := @emits_labelOf_tokens node [colon] hfield n
    simpa [hcolon, String.join, Label.text?] using hemits
  | named name =>
    obtain ⟨t, colon, hfield, hkind, rfl, hcolon⟩ := h
    have hemits := @emits_labelOf_tokens node [t, colon] hfield n
    simpa [hkind, hcolon, String.join, Label.text?] using hemits

theorem emits_modifierOf {m : Modifier} (h : IsModifierField m (node.fields.lookup "MODIFIER"))
    (n : ℕ) : Emits (modifierOf node) n [] m.text n := by
  rw [modifierOf, has_eq, Modifier.text]
  rw [IsModifierField] at h
  cases hm : m.char? with
  | none =>
    rw [hm] at h
    rw [show node.fields.lookup "MODIFIER" = none from h]
    exact .pure "" n
  | some c =>
    rw [hm] at h
    obtain ⟨t, hfield, htext⟩ := h
    rw [hfield]
    exact .access ((getText_eq hfield).trans (by rw [htext]; rfl))

theorem ofModifierText_text (name : String) (m : Modifier) (label : Option String) :
    Symbol.ofModifierText name m.text label = .ok (.ofModifier name m label) := by
  have htext : Modifier.ofText? m.text = some m := by cases m <;> decide
  rw [Symbol.ofModifierText, htext]

end Nodes

/-! ### Sequences and alternatives -/

section Flatten

variable {declared : List String}

/-- The symbol of an item, given its name. -/
theorem emits_symbolOf {node : Node} {label : Label} {m : Modifier}
    (hlabel : label.IsField (node.fields.lookup "ALIAS"))
    (hmodifier : IsModifierField m (node.fields.lookup "MODIFIER")) (name : String) (n : ℕ) :
    Emits (do
      let l ← labelOf node
      let modifier ← modifierOf node
      Emit.make (Symbol.ofModifierText name modifier l)) n []
      (.ofModifier name m label.text?) n := by
  refine (emits_labelOf hlabel n).bind_nil ((emits_modifierOf hmodifier n).bind_nil ?_)
  rw [ofModifierText_text]
  exact .pure _ n

theorem Item.exists_node {item : Item} {t : Tree} (h : item.IsTree t) :
    ∃ node : Node, t = node.toTree := by
  cases item with
  | name _ _ _ =>
    obtain ⟨fields, rfl, -⟩ := h
    exact ⟨⟨"symbol", fields⟩, rfl⟩
  | group _ _ _ =>
    obtain ⟨fields, rfl, -⟩ := h
    exact ⟨⟨"symbol", fields⟩, rfl⟩

theorem Series.exists_nodes : ∀ {series : Series} {ts : List Tree}, series.AreTrees ts →
    ∃ nodes : List Node, ts = nodes.map Node.toTree
  | .one _, _, h => by
    obtain ⟨t, rfl, ht⟩ := h
    obtain ⟨node, rfl⟩ := Item.exists_node ht
    exact ⟨[node], rfl⟩
  | .more _ rest, _, h => by
    obtain ⟨t, ts, rfl, ht, hts⟩ := h
    obtain ⟨node, rfl⟩ := Item.exists_node ht
    obtain ⟨nodes, rfl⟩ := Series.exists_nodes hts
    exact ⟨node :: nodes, rfl⟩

theorem Choice.exists_nodes : ∀ {body : Choice} {ts : List Tree}, body.AreTrees ts →
    ∃ nodes : List Node, ts = nodes.map Node.toTree
  | .one _, _, h => by
    obtain ⟨items, rfl, -⟩ := h
    exact ⟨[⟨"sequence", [("SYMBOL", .list items)]⟩], rfl⟩
  | .more _ rest, _, h => by
    obtain ⟨items, ts, rfl, -, hts⟩ := h
    obtain ⟨nodes, rfl⟩ := Choice.exists_nodes hts
    exact ⟨⟨"sequence", [("SYMBOL", .list items)]⟩ :: nodes, rfl⟩

theorem toTree_eq_sequenceNode {node : Node} {items : List Tree}
    (h : node.toTree = sequenceNode items) : node = ⟨"sequence", [("SYMBOL", .list items)]⟩ := by
  obtain ⟨hname, hfields⟩ := Tree.node.inj h
  cases node
  exact congrArg₂ Node.mk hname hfields

theorem emitsIf_forM_cons {fits fits' : Prop} {f : Node → Emit Unit} {node : Node}
    {nodes : List Node} {n k l : ℕ} {drafts drafts' : List Draft}
    (h : EmitsIf fits (f node) n drafts () k)
    (hrest : EmitsIf fits' (nodes.forM f) k drafts' () l) :
    EmitsIf (fits ∧ fits') ((node :: nodes).forM f) n (drafts ++ drafts') () l :=
  EmitsIf.bind (f := fun _ => nodes.forM f) h hrest

/-- The rule of a sequence, given what its symbols emit. -/
theorem emitsIf_sequence {fits : Prop} {group : String → Node → Emit Unit} {nodes : List Node}
    {n k : ℕ} {drafts : List Draft} {symbols : List Symbol}
    (h : EmitsIf fits (nodes.mapM (emitSymbol declared group)) n drafts symbols k)
    (owner : String) :
    EmitsIf fits (emitSequence declared group owner
      ⟨"sequence", [("SYMBOL", .list (nodes.map Node.toTree))]⟩) n
      (drafts ++ [⟨owner, .parser, symbols⟩]) () k :=
  (Emits.access (getNodes_eq rfl)).bind_emitsIf (h.bind_emits (.rule ⟨owner, .parser, symbols⟩))

/-- The rules of alternatives, given what each of them emits. -/
theorem emitsIf_alternatives {fits : Prop} {levels n k : ℕ} {owner : String} {nodes : List Node}
    {drafts : List Draft}
    (h : EmitsIf fits
      (nodes.forM (emitSequence declared (emitAlternatives declared levels) owner)) n
      drafts () k) :
    EmitsIf fits (emitAlternatives declared (levels + 1) owner
      ⟨"alternatives", [("ALTERNATE", .list (nodes.map Node.toTree))]⟩) n drafts () k :=
  (Emits.access (getNodes_eq rfl)).bind_emitsIf h

mutual

/-- An item emits what it is flattened to, if its groups nest in the levels that there are. -/
theorem Item.emits : ∀ (item : Item) {node : Node} (levels n : ℕ), item.IsTree node.toTree →
    EmitsIf (item.depth ≤ levels) (emitSymbol declared (emitAlternatives declared levels) node) n
      (item.flatten declared n).2.1 (item.flatten declared n).1 (item.flatten declared n).2.2
  | .name label name m, node, levels, n, h => by
    obtain ⟨fields, hnode, hlabel, ⟨t, hname, rfl⟩, hmodifier⟩ := h
    obtain ⟨-, rfl⟩ := Tree.node.inj hnode
    rw [emitSymbol, has_eq, hname]
    refine Emits.emitsIf (Nat.zero_le levels) ?_
    exact (Emits.access (getText_eq hname)).bind_nil (emits_symbolOf hlabel hmodifier _ n)
  | .group label body m, node, levels, n, h => by
    obtain ⟨fields, hnode, hlabel, hname, ⟨ts, hgroup, hbody⟩, hmodifier⟩ := h
    obtain ⟨-, rfl⟩ := Tree.node.inj hnode
    obtain ⟨nodes, rfl⟩ := Choice.exists_nodes hbody
    have hget : node.getNode "SUBRULE" =
        .ok ⟨"alternatives", [("ALTERNATE", .list (nodes.map Node.toTree))]⟩ := by
      rw [Node.getNode, get_eq hgroup]
      rfl
    have hrules : EmitsIf (body.depth + 1 ≤ levels)
        (emitAlternatives declared levels (groupName (nextFree declared n))
          ⟨"alternatives", [("ALTERNATE", .list (nodes.map Node.toTree))]⟩)
        (nextFree declared n + 1)
        (body.flatten declared (groupName (nextFree declared n)) (nextFree declared n + 1)).1 ()
        (body.flatten declared (groupName (nextFree declared n)) (nextFree declared n + 1)).2 := by
      cases levels with
      | zero => exact emitsIf_overflow (Nat.not_succ_le_zero _) _ _ _ _
      | succ levels =>
        exact (emitsIf_alternatives (Choice.emits body levels _ _ hbody)).congr
          Nat.succ_le_succ_iff.symm
    rw [emitSymbol, has_eq, hname]
    -- the group takes its number ahead of the groups in its body
    refine (emits_nameGroup declared n).bind_emitsIf ((Emits.access hget).bind_emitsIf ?_)
    rw [Item.flatten, ← List.append_nil (Choice.flatten _ _ _ _).1]
    exact hrules.bind_emits (emits_symbolOf hlabel hmodifier _ _)

theorem Series.emits : ∀ (series : Series) {nodes : List Node} (levels n : ℕ),
    series.AreTrees (nodes.map Node.toTree) →
    EmitsIf (series.depth ≤ levels)
      (nodes.mapM (emitSymbol declared (emitAlternatives declared levels))) n
      (series.flatten declared n).2.1 (series.flatten declared n).1
      (series.flatten declared n).2.2
  | .one item, nodes, levels, n, h => by
    obtain ⟨t, hts, ht⟩ := h
    obtain ⟨node, rfl, rfl⟩ := List.map_eq_singleton_iff.1 hts
    rw [List.mapM_cons, Series.flatten, ← List.append_nil (Item.flatten _ _ _).2.1]
    exact (Item.emits item levels n ht).bind_emits ((Emits.pure [] _).bind_nil (.pure _ _))
  | .more item rest, nodes, levels, n, h => by
    obtain ⟨t, ts, hts, ht, hrest⟩ := h
    obtain ⟨node, nodes, rfl, rfl, rfl⟩ := List.map_eq_cons_iff.1 hts
    rw [List.mapM_cons, Series.flatten]
    have hitem := Item.emits item levels n ht
    have hrest := Series.emits rest levels (item.flatten declared n).2.2 hrest
    refine (hitem.bind ?_).congr Nat.max_le.symm
    rw [← List.append_nil (Series.flatten _ _ _).2.1]
    exact hrest.bind_emits (.pure _ _)

theorem Choice.emits : ∀ (body : Choice) {nodes : List Node} (levels : ℕ) (owner : String)
    (n : ℕ), body.AreTrees (nodes.map Node.toTree) →
    EmitsIf (body.depth ≤ levels)
      (nodes.forM (emitSequence declared (emitAlternatives declared levels) owner)) n
      (body.flatten declared owner n).1 () (body.flatten declared owner n).2
  | .one series, nodes, levels, owner, n, h => by
    obtain ⟨items, hts, hitems⟩ := h
    obtain ⟨node, rfl, hnode⟩ := List.map_eq_singleton_iff.1 hts
    obtain ⟨inner, rfl⟩ := Series.exists_nodes hitems
    have hseries := emitsIf_sequence (Series.emits series levels n hitems) owner
    rw [← toTree_eq_sequenceNode hnode] at hseries
    have hall := @emitsIf_forM_cons _ _ _ node [] _ _ _ _ _ hseries
      (Emits.emitsIf trivial (Emits.pure () _))
    rw [List.append_nil] at hall
    exact hall.congr (iff_of_eq (and_true _))
  | .more series rest, nodes, levels, owner, n, h => by
    obtain ⟨items, ts, hts, hitems, hrest⟩ := h
    obtain ⟨node, nodes, rfl, hnode, rfl⟩ := List.map_eq_cons_iff.1 hts
    obtain ⟨inner, rfl⟩ := Series.exists_nodes hitems
    have hseries := emitsIf_sequence (Series.emits series levels n hitems) owner
    rw [← toTree_eq_sequenceNode hnode] at hseries
    have hrest := Choice.emits rest levels owner (series.flatten declared n).2.2 hrest
    have hboth := emitsIf_forM_cons hseries hrest
    rw [List.append_assoc, List.singleton_append] at hboth
    exact hboth.congr Nat.max_le.symm

end

/-! ### Rules -/

theorem unquoted_eq (pattern : String) : unquoted ("\"" ++ pattern ++ "\"") = pattern := by
  have hlist : ("\"" ++ pattern ++ "\"").toList = '"' :: (pattern.toList ++ ['"']) := by simp
  simp only [unquoted, hlist, List.getLast?_concat, ↓reduceIte, List.dropLast_concat,
    String.ofList_toList]

/-- The label of the only symbol is empty, or is a name. -/
theorem mixesLabels_singleton (s : Symbol) : mixesLabels [s] = false := by
  cases hignored : s.ignored <;> by_cases hlabel : s.label = "" <;>
    simp [mixesLabels, storedLabels, hlabel, hignored]

/-- A rule with one symbol is never refused. -/
theorem exists_ofSymbols_singleton (name : String) (kind : RuleKind) (s : Symbol) :
    ∃ rule, Rule.ofSymbols name kind [s] = .ok rule := by
  rw [Rule.ofSymbols, dif_neg (by simp), dif_pos (by simp), dif_pos (mixesLabels_singleton s)]
  exact ⟨_, rfl⟩

theorem ofSymbols_lexer (name pattern : String) :
    Rule.ofSymbols name .lexer [.ofName pattern] = .ok (.lexer name pattern) := by
  rw [Rule.ofSymbols, dif_neg (by simp), dif_pos (by simp), dif_pos (mixesLabels_singleton _)]
  rfl

theorem Declaration.exists_node {d : Declaration} {t : Tree} (h : d.IsTree t) :
    ∃ node : Node, t = node.toTree := by
  cases d with
  | lexer _ _ =>
    obtain ⟨fields, _, _, rfl, -⟩ := h
    exact ⟨⟨"rule", fields⟩, rfl⟩
  | parser _ _ =>
    obtain ⟨fields, _, _, rfl, -⟩ := h
    exact ⟨⟨"rule", fields⟩, rfl⟩

theorem Declaration.exists_nodes {declarations : List Declaration} {ts : List Tree}
    (h : List.Forall₂ Declaration.IsTree declarations ts) :
    ∃ nodes : List Node, ts = nodes.map Node.toTree := by
  induction h with
  | nil => exact ⟨[], rfl⟩
  | cons ht _ ih =>
    obtain ⟨node, rfl⟩ := Declaration.exists_node ht
    obtain ⟨nodes, rfl⟩ := ih
    exact ⟨node :: nodes, rfl⟩

theorem Declaration.getText_eq {d : Declaration} {node : Node} (h : d.IsTree node.toTree) :
    node.getText "RULE" = .ok d.name := by
  cases d with
  | lexer _ _ =>
    obtain ⟨fields, u, v, hnode, hname, rfl, -⟩ := h
    obtain ⟨-, rfl⟩ := Tree.node.inj hnode
    exact Notation.getText_eq hname
  | parser _ _ =>
    obtain ⟨fields, u, ts, hnode, hname, rfl, -⟩ := h
    obtain ⟨-, rfl⟩ := Tree.node.inj hnode
    exact Notation.getText_eq hname

/-- The rules of alternatives, where the levels are given. -/
theorem Choice.emits_alternatives (body : Choice) {nodes : List Node} {levels : ℕ} (owner : String)
    (n : ℕ) (h : body.AreTrees (nodes.map Node.toTree)) :
    EmitsIf (body.depth < levels) (emitAlternatives declared levels owner
      ⟨"alternatives", [("ALTERNATE", .list (nodes.map Node.toTree))]⟩) n
      (body.flatten declared owner n).1 () (body.flatten declared owner n).2 := by
  cases levels with
  | zero => exact emitsIf_overflow (Nat.not_lt_zero _) _ _ _ _
  | succ levels =>
    exact (emitsIf_alternatives (Choice.emits body levels owner n h)).congr Nat.lt_succ_iff.symm

/-- A rule of the notation emits what it is flattened to, if there are the levels for it. -/
theorem Declaration.emits (d : Declaration) {node : Node} (levels : Option ℕ) (n : ℕ)
    (h : d.IsTree node.toTree) :
    EmitsIf (∀ most ∈ levels, d.levels ≤ most) (emitRule declared levels node) n
      (d.flatten declared n).1 () (d.flatten declared n).2 := by
  refine (Emits.access (Declaration.getText_eq h)).bind_emitsIf ?_
  cases d with
  | lexer name pattern =>
    obtain ⟨fields, u, v, hnode, -, -, hexpansion, htext⟩ := h
    obtain ⟨-, rfl⟩ := Tree.node.inj hnode
    refine (Emits.access (get_eq hexpansion)).bind_emitsIf ?_
    have hrule (n : ℕ) := @Emits.rule n ⟨name, .lexer, [.ofName pattern]⟩
    simp only [Draft.rule, ofSymbols_lexer] at hrule
    dsimp only
    rw [htext, unquoted_eq]
    exact Emits.emitsIf (fun most _ => Nat.zero_le most) (hrule n)
  | parser name body =>
    obtain ⟨fields, u, ts, hnode, -, -, hexpansion, hbody⟩ := h
    obtain ⟨-, rfl⟩ := Tree.node.inj hnode
    refine (Emits.access (get_eq hexpansion)).bind_emitsIf ?_
    obtain ⟨nodes, rfl⟩ := Choice.exists_nodes hbody
    refine (Choice.emits_alternatives body name n hbody).congr ?_
    cases levels with
    | some most => simp [Declaration.levels, Nat.succ_le_iff]
    | none =>
      -- groups nest no deeper than the tree is high
      have hdepth := Choice.depth_le_height body hbody
      have hheight : Tree.itemsHeight (nodes.map Node.toTree) ≤
          Tree.fieldsHeight [("ALTERNATE", .list (nodes.map Node.toTree))] :=
        Nat.le_max_left _ _
      exact iff_of_true (Nat.lt_succ_of_le (Nat.le_trans hdepth hheight)) nofun

theorem emits_rules {declarations : List Declaration} (levels : Option ℕ) :
    ∀ {nodes : List Node} (n : ℕ),
    List.Forall₂ (fun d (node : Node) => d.IsTree node.toTree) declarations nodes →
    EmitsIf (∀ most ∈ levels, ∀ d ∈ declarations, d.levels ≤ most)
      (nodes.forM (emitRule declared levels)) n (flattenAll declared declarations n).1 ()
      (flattenAll declared declarations n).2 := by
  induction declarations with
  | nil =>
    intro nodes n h
    cases h
    exact Emits.emitsIf (by simp) (Emits.pure () n)
  | cons d declarations ih =>
    intro nodes n h
    cases h with
    | cons hd hrest =>
      refine ((Declaration.emits d levels n hd).bind (ih _ hrest)).congr ?_
      simp only [List.forall_mem_cons, forall_and]

theorem emits_names {declarations : List Declaration} : ∀ {nodes : List Node} (n : ℕ),
    List.Forall₂ (fun d (node : Node) => d.IsTree node.toTree) declarations nodes →
    Emits (nodes.mapM fun node => Emit.access (node.getText "RULE")) n []
      (declarations.map Declaration.name) n := by
  induction declarations with
  | nil =>
    intro nodes n h
    cases h
    exact .pure [] n
  | cons d declarations ih =>
    intro nodes n h
    cases h with
    | cons hd hrest =>
      rw [List.mapM_cons]
      refine (Emits.access (Declaration.getText_eq hd)).bind_nil ?_
      exact (ih n hrest).bind_nil (.pure _ n)

end Flatten

/-- **The visitor flattens.**  For the trees of declarations it emits the rules that the
declarations stand for, or reports the fault of the first that is none, if the stack has room for
the walk.  If not, it is given up for that, or reports that fault before. -/
theorem rulesOfTree_eq {declarations : List Declaration} {ts : List Tree}
    (h : List.Forall₂ Declaration.IsTree declarations ts) (room : Option ℕ) :
    FlattensWithin room declarations (rulesOfTree room ⟨"grammar", [("RULES", .list ts)]⟩) := by
  obtain ⟨nodes, rfl⟩ := Declaration.exists_nodes h
  have hnodes := List.forall₂_map_right_iff.1 h
  have hemits (levels : Option ℕ) : EmitsIf (∀ most ∈ levels, ∀ d ∈ declarations, d.levels ≤ most)
      (emitGrammar levels ⟨"grammar", [("RULES", .list (nodes.map Node.toTree))]⟩) 0
      (flattenAll (declarations.map Declaration.name) declarations 0).1 ()
      (flattenAll (declarations.map Declaration.name) declarations 0).2 :=
    (Emits.access (getNodes_eq rfl)).bind_emitsIf ((emits_names 0 hnodes).bind_emitsIf
      (emits_rules levels 0 hnodes))
  rw [rulesOfTree]
  by_cases hroom : room.any (· < ruleCalls)
  · obtain ⟨calls, hcalls, hlt⟩ := (Option.any_eq_true _ _).1 hroom
    refine ⟨fun hfits => ?_, fun _ => .inl (by rw [if_pos hroom]; rfl)⟩
    have hle := (callsOf_le_iff.1 (hfits calls hcalls)).1
    exact absurd (of_decide_eq_true hlt) (not_lt_of_ge hle)
  · have hfits : (∀ calls ∈ room, callsOf declarations ≤ calls) ↔
        ∀ most ∈ room.map fun calls => (calls - entryCalls) / levelCalls,
          ∀ d ∈ declarations, d.levels ≤ most := by
      cases room with
      | none => simp
      | some calls =>
        have hcalls : ruleCalls ≤ calls := by simpa using hroom
        simpa using callsOf_le_iff.trans (and_iff_right hcalls)
    rw [if_neg hroom]
    have hall := hemits (room.map fun calls => (calls - entryCalls) / levelCalls)
    refine ⟨fun h => ?_, fun h => ?_⟩
    · have hrun := hall.emits (hfits.1 h) []
      rw [rulesOf]
      simp only [StateT.run, hrun]
      cases (flattenAll (declarations.map Declaration.name) declarations 0).1.mapM Draft.rule with
      | error e => rfl
      | ok made => rfl
    · simp only [StateT.run]
      rcases hall.fails (mt hfits.2 h) [] with hrun | ⟨e, he, hrun⟩
      · exact .inl (by rw [hrun]; rfl)
      · exact .inr ⟨e, he, by rw [hrun]; rfl⟩

end OrderedGrammar.Notation
