import OrderedGrammar.Proofs.Notation.Undefined

/-!
# The names of groups

A group is given a name of its own: no other group has it and no rule is declared by it, so that the
rules with that name are the group's alternatives and nothing else (`rules_of_group`).

The names are handed out from a list in the order in which the groups are opened.  Which rules a
group stands for can so be said without following the numbers that the flattening counts
(`groupsOf`), and the flattening is compared with that, one name at a time (`filter_flattenAll`).

## Main definitions

* `NamedGroup` : a group with its name and those of the groups inside.
* `groupsOf` : the groups of declarations.
-/

namespace OrderedGrammar.Notation

/-! ### Handing out names -/

/-- The symbol that stands for an item.  A group has the first of the names. -/
def Item.symbol (names : List String) : Item → Symbol
  | .name label used modifier => .ofModifier used modifier label.text?
  | .group label _ modifier => .ofModifier (names.headD "") modifier label.text?

/-- The symbols that stand for items. -/
def Series.symbols : List String → Series → List Symbol
  | names, .one item => [item.symbol names]
  | names, .more item rest =>
    item.symbol (names.take item.groups) :: rest.symbols (names.drop item.groups)

/-- The symbols of each alternative. -/
def Choice.alternatives : List String → Choice → List (List Symbol)
  | names, .one series => [series.symbols names]
  | names, .more series rest =>
    series.symbols (names.take series.groups) :: rest.alternatives (names.drop series.groups)

/-- The rules that alternatives stand for under a name. -/
def Choice.drafts (owner : String) (names : List String) (body : Choice) : List Draft :=
  (body.alternatives names).map fun symbols => ⟨owner, .parser, symbols⟩

/-- A group with its name and the names of the groups inside. -/
structure NamedGroup where
  name : String
  body : Choice
  inner : List String

/-- The rules that a group stands for. -/
def NamedGroup.drafts (group : NamedGroup) : List Draft := group.body.drafts group.name group.inner

mutual

/-- The groups of an item, in the order in which they are opened. -/
def Item.namedGroups : List String → Item → List NamedGroup
  | _, .name _ _ _ => []
  | names, .group _ body _ => ⟨names.headD "", body, names.tail⟩ :: body.namedGroups names.tail

/-- The groups of items. -/
def Series.namedGroups : List String → Series → List NamedGroup
  | names, .one item => item.namedGroups names
  | names, .more item rest =>
    item.namedGroups (names.take item.groups) ++ rest.namedGroups (names.drop item.groups)

/-- The groups of alternatives. -/
def Choice.namedGroups : List String → Choice → List NamedGroup
  | names, .one series => series.namedGroups names
  | names, .more series rest =>
    series.namedGroups (names.take series.groups) ++ rest.namedGroups (names.drop series.groups)

end

/-- The groups of a rule. -/
def Declaration.namedGroups (names : List String) : Declaration → List NamedGroup
  | .lexer _ _ => []
  | .parser _ body => body.namedGroups names

/-- The groups of several rules. -/
def namedGroupsOf : List String → List Declaration → List NamedGroup
  | _, [] => []
  | names, declaration :: rest =>
    declaration.namedGroups (names.take declaration.groups) ++
      namedGroupsOf (names.drop declaration.groups) rest

/-- The groups of rules with the names that they are given. -/
def groupsOf (declarations : List Declaration) : List NamedGroup :=
  namedGroupsOf (givenNames declarations) declarations

/-- Each group gets one of the names, in their order. -/
theorem names_append {xs ys : List NamedGroup} {names : List String} {a b : ℕ}
    (hlength : names.length = a + b)
    (hx : (names.take a).length = a → xs.map (·.name) = names.take a)
    (hy : (names.drop a).length = b → ys.map (·.name) = names.drop a) :
    (xs ++ ys).map (·.name) = names := by
  rw [List.map_append, hx (by simp; omega), hy (by simp; omega), List.take_append_drop]

mutual

theorem Item.map_name_namedGroups : ∀ (item : Item) {names : List String},
    names.length = item.groups → (item.namedGroups names).map (·.name) = names
  | .name _ _ _, names, h => (List.length_eq_zero_iff.1 h).symm
  | .group _ body _, names, h => by
    obtain ⟨name, names, rfl⟩ := List.exists_cons_of_length_eq_add_one h
    have hbody := body.map_name_namedGroups (Nat.succ.inj h)
    rw [Item.namedGroups, List.map_cons, List.tail_cons, hbody]
    rfl

theorem Series.map_name_namedGroups : ∀ (series : Series) {names : List String},
    names.length = series.groups → (series.namedGroups names).map (·.name) = names
  | .one item, _, h => item.map_name_namedGroups h
  | .more item rest, _, h =>
    names_append h item.map_name_namedGroups rest.map_name_namedGroups

theorem Choice.map_name_namedGroups : ∀ (body : Choice) {names : List String},
    names.length = body.groups → (body.namedGroups names).map (·.name) = names
  | .one series, _, h => series.map_name_namedGroups h
  | .more series rest, _, h =>
    names_append h series.map_name_namedGroups rest.map_name_namedGroups

end

theorem Declaration.map_name_namedGroups (declaration : Declaration) {names : List String}
    (h : names.length = declaration.groups) :
    (declaration.namedGroups names).map (·.name) = names := by
  cases declaration with
  | lexer _ _ => exact (List.length_eq_zero_iff.1 h).symm
  | parser _ body => exact body.map_name_namedGroups h

theorem map_name_namedGroupsOf : ∀ (declarations : List Declaration) {names : List String},
    names.length = groupCount declarations →
    (namedGroupsOf names declarations).map (·.name) = names
  | [], _, h => (List.length_eq_zero_iff.1 h).symm
  | declaration :: rest, _, h =>
    names_append h declaration.map_name_namedGroups (map_name_namedGroupsOf rest)

/-! ### Free names -/

section Free

variable {declared : List String}

theorem length_freeNames (count n : ℕ) : (freeNames declared count n).length = count := by
  induction count generalizing n with
  | zero => rfl
  | succ count ih => rw [freeNames, List.length_cons, ih]

theorem take_freeNames (a b n : ℕ) :
    (freeNames declared (a + b) n).take a = freeNames declared a n := by
  rw [freeNames_add, List.take_left' (length_freeNames a n)]

theorem drop_freeNames (a b n : ℕ) : (freeNames declared (a + b) n).drop a =
    freeNames declared b (numberAfter declared a n) := by
  rw [freeNames_add, List.drop_left' (length_freeNames a n)]

/-- Free names are those of numbers that have not been passed, and not declared. -/
theorem of_mem_freeNames {count n : ℕ} {name : String} (h : name ∈ freeNames declared count n) :
    name ∉ declared ∧ ∃ m, n ≤ m ∧ name = groupName m := by
  induction count generalizing n with
  | zero => cases h
  | succ count ih =>
    obtain ⟨hle, hfree⟩ := nextFree_spec declared n
    rcases List.mem_cons.1 h with rfl | h
    · exact ⟨hfree, _, hle, rfl⟩
    · obtain ⟨hnot, m, hm, rfl⟩ := ih h
      exact ⟨hnot, m, by omega, rfl⟩

/-- A name is not handed out again. -/
theorem groupName_notMem_freeNames {m n : ℕ} (h : m < n) (count : ℕ) :
    groupName m ∉ freeNames declared count n := by
  intro hmem
  obtain ⟨-, k, hk, hname⟩ := of_mem_freeNames hmem
  have hmk := groupName_injective hname
  omega

theorem nodup_freeNames (count n : ℕ) : (freeNames declared count n).Nodup := by
  induction count generalizing n with
  | zero => exact List.nodup_nil
  | succ count ih =>
    exact List.nodup_cons.2 ⟨groupName_notMem_freeNames (Nat.lt_succ_self _) count, ih _⟩

/-- The search for a number ends, with the first one that is free, and however long it might go
on. -/
theorem exists_freeNumber (declared : List String) (n : ℕ) :
    ∃ k ≤ declared.length, groupName (n + k) ∉ declared ∧
      (∀ j < k, groupName (n + j) ∈ declared) ∧
      ∀ fuel, declared.length ≤ fuel → freeNumber declared fuel n = n + k := by
  obtain ⟨k, hk, hfree⟩ := exists_free declared n
  obtain ⟨hle, hnext⟩ := nextFree_spec declared n
  have hnk : nextFree declared n ≤ n + k := nextFree_le (by omega) hfree
  refine ⟨nextFree declared n - n, by omega, ?_, fun j hj => ?_, fun fuel hfuel => ?_⟩
  · rwa [Nat.add_sub_cancel' hle]
  · by_contra hnot
    have hfirst : nextFree declared n ≤ n + j := nextFree_le (by omega) hnot
    omega
  · rw [Nat.add_sub_cancel' hle]
    exact freeNumber_eq_nextFree (hk.trans hfuel) hfree

end Free

/-! ### The rules with a name -/

/-- The rules of the groups with a name. -/
def draftsNamed (name : String) (groups : List NamedGroup) : List Draft :=
  (groups.filter (·.name = name)).flatMap NamedGroup.drafts

theorem draftsNamed_cons (name : String) (group : NamedGroup) (groups : List NamedGroup) :
    draftsNamed name (group :: groups) =
      (if group.name = name then group.drafts else []) ++ draftsNamed name groups := by
  by_cases h : group.name = name <;> simp [draftsNamed, h]

theorem draftsNamed_append (name : String) (groups groups' : List NamedGroup) :
    draftsNamed name (groups ++ groups') =
      draftsNamed name groups ++ draftsNamed name groups' := by
  simp [draftsNamed]

theorem draftsNamed_of_notMem {name : String} {groups : List NamedGroup}
    (h : name ∉ groups.map (·.name)) : draftsNamed name groups = [] := by
  rw [draftsNamed, List.filter_eq_nil_iff.2]
  · rfl
  · intro group hgroup hname
    exact h (List.mem_map.2 ⟨group, hgroup, by simpa using hname⟩)

/-- Alternatives of one name can be put in front of the groups inside the first of them. -/
theorem draftsNamed_merge {name : String} {whole first rest : NamedGroup}
    {groups groups' : List NamedGroup} (hfirst : first.name = whole.name)
    (hrest : rest.name = whole.name) (hdrafts : whole.drafts = first.drafts ++ rest.drafts)
    (hnot : whole.name ∉ groups.map (·.name)) :
    draftsNamed name (first :: groups) ++ draftsNamed name (rest :: groups') =
      draftsNamed name (whole :: (groups ++ groups')) := by
  simp only [draftsNamed_cons, draftsNamed_append, hfirst, hrest]
  by_cases hname : whole.name = name
  · rw [draftsNamed_of_notMem (hname ▸ hnot)]
    simp [hname, hdrafts]
  · simp [hname]

/-- With different names, the rules of a group's name are its own. -/
theorem draftsNamed_of_mem {groups : List NamedGroup} (hnodup : (groups.map (·.name)).Nodup)
    {group : NamedGroup} (h : group ∈ groups) : draftsNamed group.name groups = group.drafts := by
  obtain ⟨before, behind, rfl⟩ := List.append_of_mem h
  have hbefore : group.name ∉ before.map (·.name) := by
    intro hmem
    rw [List.map_append] at hnodup
    exact (List.disjoint_of_nodup_append hnodup) hmem (by simp)
  have hbehind : group.name ∉ behind.map (·.name) := by
    rw [List.map_append, List.map_cons] at hnodup
    exact (List.nodup_cons.1 hnodup.of_append_right).1
  rw [draftsNamed_append, draftsNamed_of_notMem hbefore, List.nil_append, draftsNamed_cons,
    if_pos rfl, draftsNamed_of_notMem hbehind, List.append_nil]

section Flatten

variable (declared : List String)

theorem Item.flatten_symbol (item : Item) (n : ℕ) :
    (item.flatten declared n).1 = item.symbol (freeNames declared item.groups n) := by
  cases item with
  | name _ _ _ => rfl
  | group _ _ _ => rfl

theorem Series.flatten_symbols (series : Series) (n : ℕ) :
    (series.flatten declared n).1 = series.symbols (freeNames declared series.groups n) := by
  cases series with
  | one item => exact congrArg (fun s => [s]) (item.flatten_symbol declared n)
  | more item rest =>
    -- the rest goes on counting where the item has stopped, and has the names from there on
    have hrest := rest.flatten_symbols (item.flatten declared n).2.2
    rw [(item.lifted declared n).next_eq] at hrest
    rw [Series.groups, Series.symbols, take_freeNames, drop_freeNames, ← hrest,
      ← item.flatten_symbol, ← (item.lifted declared n).next_eq]
    rfl

variable (name : String)

/-- With the rules of an alternative it is as with those of a group that has its owner's name. -/
theorem Series.filter_close (series : Series) (owner : String) (n : ℕ)
    (hseries : (series.flatten declared n).2.1.filter (·.name = name) =
      draftsNamed name (series.namedGroups (freeNames declared series.groups n)))
    (howner : owner ∉ freeNames declared series.groups n) :
    ((series.flatten declared n).2.1 ++
        [Draft.mk owner .parser (series.flatten declared n).1]).filter (·.name = name) =
      draftsNamed name (⟨owner, .one series, freeNames declared series.groups n⟩ ::
        series.namedGroups (freeNames declared series.groups n)) := by
  have hnames := series.map_name_namedGroups (@length_freeNames declared _ n)
  rw [List.filter_append, hseries, series.flatten_symbols, draftsNamed_cons]
  by_cases hname : owner = name
  · subst hname
    -- no group inside has the owner's name
    rw [draftsNamed_of_notMem (by rwa [hnames])]
    simp [NamedGroup.drafts, Choice.drafts, Choice.alternatives]
  · simp [hname]

mutual

/-- The rules with a name among those of an item are the rules of its groups with that name. -/
theorem Item.filter_flatten : ∀ (item : Item) (n : ℕ),
    (item.flatten declared n).2.1.filter (·.name = name) =
      draftsNamed name (item.namedGroups (freeNames declared item.groups n))
  | .name _ _ _, _ => rfl
  | .group _ body _, _ =>
    body.filter_flatten _ _ (groupName_notMem_freeNames (Nat.lt_succ_self _) _)

theorem Series.filter_flatten : ∀ (series : Series) (n : ℕ),
    (series.flatten declared n).2.1.filter (·.name = name) =
      draftsNamed name (series.namedGroups (freeNames declared series.groups n))
  | .one item, n => item.filter_flatten n
  | .more item rest, n => by
    have hrest := rest.filter_flatten (item.flatten declared n).2.2
    rw [Series.groups, Series.namedGroups, take_freeNames, drop_freeNames, draftsNamed_append,
      ← item.filter_flatten, ← (item.lifted declared n).next_eq, ← hrest, ← List.filter_append]
    rfl

/-- With the rules of alternatives it is as with those of a group that has their owner's name. -/
theorem Choice.filter_flatten : ∀ (body : Choice) (owner : String) (n : ℕ),
    owner ∉ freeNames declared body.groups n →
    (body.flatten declared owner n).1.filter (·.name = name) =
      draftsNamed name (⟨owner, body, freeNames declared body.groups n⟩ ::
        body.namedGroups (freeNames declared body.groups n))
  | .one series, owner, n, howner =>
    series.filter_close declared name owner n (series.filter_flatten n) howner
  | .more series rest, owner, n, howner => by
    rw [Choice.groups, freeNames_add, List.mem_append, not_or] at howner
    obtain ⟨hnot, hnot'⟩ := howner
    have hnames := series.map_name_namedGroups (@length_freeNames declared _ n)
    have hfirst := series.filter_close declared name owner n (series.filter_flatten n) hnot
    have hrest := rest.filter_flatten owner _ hnot'
    rw [Choice.flatten_more, List.append_cons, List.filter_append, hfirst,
      (series.lifted declared n).next_eq, hrest, Choice.groups, Choice.namedGroups, take_freeNames,
      drop_freeNames]
    -- the owner's second rule stands behind the groups of the first, none of which is its own
    refine draftsNamed_merge rfl rfl ?_ (by rwa [hnames])
    simp [NamedGroup.drafts, Choice.drafts, Choice.alternatives, take_freeNames, drop_freeNames]

end

/-- No rule that is declared has the name of a group. -/
theorem Declaration.filter_flatten (declaration : Declaration) (n : ℕ)
    (hdeclared : declaration.name ∈ declared) (hname : declaration.name ≠ name) :
    (declaration.flatten declared n).1.filter (·.name = name) =
      draftsNamed name (declaration.namedGroups (freeNames declared declaration.groups n)) := by
  cases declaration with
  | lexer owner pattern =>
    have hne : owner ≠ name := hname
    exact List.filter_cons_of_neg (by simpa using hne)
  | parser owner body =>
    have hne : owner ≠ name := hname
    have howner : owner ∉ freeNames declared body.groups n := fun hmem =>
      (of_mem_freeNames hmem).1 hdeclared
    have hbody := body.filter_flatten declared name owner n howner
    rw [draftsNamed_cons, if_neg hne] at hbody
    exact hbody

theorem filter_flattenAll {declarations : List Declaration} (n : ℕ)
    (hdeclared : declaredNames declarations ⊆ declared) (hname : name ∉ declared) :
    (flattenAll declared declarations n).1.filter (·.name = name) =
      draftsNamed name
        (namedGroupsOf (freeNames declared (groupCount declarations) n) declarations) := by
  induction declarations generalizing n with
  | nil => rfl
  | cons declaration declarations ih =>
    obtain ⟨hfirst, hrest⟩ := List.cons_subset.1 hdeclared
    have hne : declaration.name ≠ name := fun h => hname (h ▸ hfirst)
    have hdrafts := ih (declaration.flatten declared n).2 hrest
    rw [(declaration.lifted declared n).next_eq] at hdrafts
    have hcount : groupCount (declaration :: declarations) =
        declaration.groups + groupCount declarations := rfl
    rw [hcount, namedGroupsOf, take_freeNames, drop_freeNames, draftsNamed_append, ← hdrafts,
      ← declaration.filter_flatten declared name n hfirst hne, ← List.filter_append,
      ← (declaration.lifted declared n).next_eq]
    rfl

end Flatten

/-! ### Texts -/

theorem map_name_groupsOf (declarations : List Declaration) :
    (groupsOf declarations).map (·.name) = givenNames declarations :=
  map_name_namedGroupsOf declarations (length_freeNames _ _)

/-- The rules with a group's name are those of the group. -/
theorem filter_name_eq {declarations : List Declaration} {rules : List Rule}
    (h : rulesOf declarations = .ok rules) {name : String}
    (hname : name ∉ declaredNames declarations) :
    (rules.filter (·.name = name)).map Draft.ofRule =
      draftsNamed name (groupsOf declarations) := by
  have hdrafts : rules.map Draft.ofRule =
      (flattenAll (declaredNames declarations) declarations 0).1 := map_ofRule_of_mapM h
  have hfilter : (rules.filter (·.name = name)).map Draft.ofRule =
      (rules.map Draft.ofRule).filter (·.name = name) := by
    rw [List.filter_map]
    rfl
  rw [hfilter, hdrafts]
  exact filter_flattenAll _ _ 0 (List.Subset.refl _) hname

/-- **The names of groups are fresh.**  The search for a free number ends, with the first one.  In a
text that is compiled, the names of the groups are different from each other and none of them is
declared, and the rules with the name of a group are its own alternatives, in order. -/
theorem groupNames_fresh {text : String} {rules : List Rule} (h : compileRules text = .ok rules) :
    (∀ (declared : List String) (n : ℕ), ∃ k ≤ declared.length, groupName (n + k) ∉ declared ∧
      (∀ j < k, groupName (n + j) ∈ declared) ∧
      ∀ fuel, declared.length ≤ fuel → freeNumber declared fuel n = n + k) ∧
    (∃ declarations, Writes text declarations) ∧
    ∀ declarations, Writes text declarations →
      ((groupsOf declarations).map (·.name)).Nodup ∧
      ∀ group ∈ groupsOf declarations, group.name ∉ declaredNames declarations ∧
        (rules.filter (·.name = group.name)).map Draft.ofRule = group.drafts := by
  obtain ⟨g, hg⟩ := exists_grammar
  obtain ⟨tokens, hscan, declarations, hne, hlexemes, -, -⟩ := (compileRules_eq_ok_iff hg).1 h
  refine ⟨exists_freeNumber, ⟨declarations, hne, g, tokens, hg, hscan, hlexemes⟩, ?_⟩
  intro declarations hwrites
  have hnodup : ((groupsOf declarations).map (·.name)).Nodup := by
    rw [map_name_groupsOf]
    exact nodup_freeNames _ _
  refine ⟨hnodup, fun group hgroup => ?_⟩
  have hgiven : group.name ∈ givenNames declarations := by
    rw [← map_name_groupsOf]
    exact List.mem_map_of_mem hgroup
  have hfree : group.name ∉ declaredNames declarations := (of_mem_freeNames hgiven).1
  refine ⟨hfree, ?_⟩
  -- the rules of that name are those of all groups that have it, and only one does
  rw [filter_name_eq (hwrites.rulesOf_eq h) hfree]
  exact draftsNamed_of_mem hnodup hgroup

/-! ### A group in a group -/

/-- What `anonymous_0 = ((b) | c);` declares. -/
def nestedDeclarations : List Declaration :=
  [.parser "anonymous_0" (.one (.one (.group .absent
    (.more (.one (.group .absent (.one (.one (.name .absent "b" .required))) .required))
      (.one (.one (.name .absent "c" .required)))) .required)))]

theorem nextFree_nested : nextFree ["anonymous_0"] 0 = 1 ∧ nextFree ["anonymous_0"] 2 = 2 := by
  refine ⟨?_, nextFree_of_notMem (by decide)⟩
  rw [nextFree_of_mem (by decide), nextFree_of_notMem (by decide)]

theorem exists_rules_nested : ∃ rules, rulesOf nestedDeclarations = .ok rules := by
  obtain ⟨hfirst, hsecond⟩ := nextFree_nested
  refine exists_ok_of_isOk ?_
  simp only [rulesOf, nestedDeclarations, flattenAll, Declaration.flatten, Declaration.name,
    Choice.flatten, Series.flatten, Item.flatten, List.map_cons, List.map_nil, hfirst, hsecond]
  decide +kernel

theorem givenNames_nested : givenNames nestedDeclarations = ["anonymous_1", "anonymous_2"] := by
  obtain ⟨hfirst, hsecond⟩ := nextFree_nested
  have hnames : givenNames nestedDeclarations = freeNames ["anonymous_0"] 2 0 := rfl
  rw [hnames, freeNames, freeNames, freeNames, hfirst, hsecond]
  decide

/-- The group is numbered before the one inside it, and neither gets the number that is declared. -/
theorem nested_groupNames : ∃ rules, compileRules "anonymous_0 = ((b) | c);" = .ok rules ∧
    (rules.filter (·.name = "anonymous_1")).map Draft.ofRule =
      [⟨"anonymous_1", .parser, [.ofName "anonymous_2"]⟩,
        ⟨"anonymous_1", .parser, [.ofName "c"]⟩] ∧
    (rules.filter (·.name = "anonymous_2")).map Draft.ofRule =
      [⟨"anonymous_2", .parser, [.ofName "b"]⟩] := by
  obtain ⟨g, hg⟩ := exists_grammar
  have htokens : ∃ tokens, g.lexicon.scan "anonymous_0 = ((b) | c);" = .ok tokens ∧
      tokens.map (fun t => (t.kind, t.text)) = lexemesOf nestedDeclarations :=
    exists_tokens_of_readAll? hg (by decide +kernel)
  obtain ⟨tokens, hscan, hlexemes⟩ := htokens
  obtain ⟨rules, hrules⟩ := exists_rules_nested
  have hcompile : compileRules "anonymous_0 = ((b) | c);" = .ok rules :=
    (compileRules_eq_ok_iff hg).2 ⟨tokens, hscan, _, by decide, hlexemes, by decide, hrules⟩
  obtain ⟨-, -, hgroups⟩ := groupNames_fresh hcompile
  obtain ⟨-, hgroups⟩ := hgroups nestedDeclarations ⟨by decide, g, tokens, hg, hscan, hlexemes⟩
  rw [groupsOf, givenNames_nested] at hgroups
  exact ⟨rules, hcompile, (hgroups _ List.mem_cons_self).2,
    (hgroups _ (List.mem_cons_of_mem _ List.mem_cons_self)).2⟩

end OrderedGrammar.Notation
