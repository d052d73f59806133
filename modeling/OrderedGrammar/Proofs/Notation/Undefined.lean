import OrderedGrammar.Proofs.Notation.Writing

/-!
# Names that nothing defines

A text that uses a name without declaring it is not compiled to a grammar, unless a group has been
given that name (`compile_reports_undefined`).  The names of groups are the first numbered names
that the text does not declare, as many as there are groups.  They keep clear of what is declared
and not of what is used, so that a name that is used but not declared can be that of a group, which
then stands in for the missing rule (`exists_captured`).

## Main definitions

* `usedNames` : the names that symbols of declarations have.
* `givenNames` : the names that their groups are given.
-/

namespace OrderedGrammar

namespace Notation

/-! ### Names of declarations -/

mutual

/-- The names that an item uses, those in groups included. -/
def Item.names : Item → List String
  | .name _ name _ => [name]
  | .group _ body _ => body.names

/-- The names that items use. -/
def Series.names : Series → List String
  | .one item => item.names
  | .more item rest => item.names ++ rest.names

/-- The names that alternatives use. -/
def Choice.names : Choice → List String
  | .one series => series.names
  | .more series rest => series.names ++ rest.names

end

mutual

/-- How many groups there are in an item. -/
def Item.groups : Item → ℕ
  | .name _ _ _ => 0
  | .group _ body _ => body.groups + 1

/-- How many groups there are in items. -/
def Series.groups : Series → ℕ
  | .one item => item.groups
  | .more item rest => item.groups + rest.groups

/-- How many groups there are in alternatives. -/
def Choice.groups : Choice → ℕ
  | .one series => series.groups
  | .more series rest => series.groups + rest.groups

end

namespace Declaration

/-- The names that a rule uses. -/
def names : Declaration → List String
  | .lexer _ _ => []
  | .parser _ body => body.names

/-- How many groups there are in a rule. -/
def groups : Declaration → ℕ
  | .lexer _ _ => 0
  | .parser _ body => body.groups

end Declaration

/-- The names that are declared. -/
def declaredNames (declarations : List Declaration) : List String :=
  declarations.map Declaration.name

/-- The names that rules use. -/
def usedNames (declarations : List Declaration) : List String :=
  declarations.flatMap Declaration.names

/-- How many groups there are in rules. -/
def groupCount (declarations : List Declaration) : ℕ := (declarations.map Declaration.groups).sum

/-- So many names of groups, from the number `n` on, that are not declared. -/
def freeNames (declared : List String) : ℕ → ℕ → List String
  | 0, _ => []
  | count + 1, n =>
    groupName (nextFree declared n) :: freeNames declared count (nextFree declared n + 1)

/-- The number behind so many names of groups that are not declared. -/
def numberAfter (declared : List String) : ℕ → ℕ → ℕ
  | 0, n => n
  | count + 1, n => numberAfter declared count (nextFree declared n + 1)

/-- The names that the groups of rules are given. -/
def givenNames (declarations : List Declaration) : List String :=
  freeNames (declaredNames declarations) (groupCount declarations) 0

section Free

variable (declared : List String)

theorem freeNames_add (a b n : ℕ) : freeNames declared (a + b) n =
    freeNames declared a n ++ freeNames declared b (numberAfter declared a n) := by
  induction a generalizing n with
  | zero => rw [Nat.zero_add]; rfl
  | succ a ih => rw [Nat.succ_add, freeNames, ih]; rfl

theorem numberAfter_add (a b n : ℕ) : numberAfter declared (a + b) n =
    numberAfter declared b (numberAfter declared a n) := by
  induction a generalizing n with
  | zero => rw [Nat.zero_add]; rfl
  | succ a ih => rw [Nat.succ_add, numberAfter, ih]; rfl

end Free

/-! ### Names of the rules that declarations stand for -/

/-- The names that the parser rules among drafts use. -/
def draftNames (drafts : List Draft) : List String :=
  (drafts.filter (·.kind = .parser)).flatMap fun d => d.symbols.map (·.name)

@[simp] theorem draftNames_append (drafts drafts' : List Draft) :
    draftNames (drafts ++ drafts') = draftNames drafts ++ draftNames drafts' := by
  simp [draftNames]

/-- What there is to say of the drafts that a part of declarations stands for, of which `count`
groups are numbered from `n` on: they define `owners` and the names of the groups, and together
with the symbols of the names `opened`, which are in no draft yet, they use `names` and those of the
groups. -/
structure Lifted (declared : List String) (n count : ℕ) (owners names opened : List String)
    (drafts : List Draft) (n' : ℕ) : Prop where
  next_eq : n' = numberAfter declared count n
  defines : ∀ a, a ∈ drafts.map (·.name) ↔ a ∈ owners ∨ a ∈ freeNames declared count n
  uses : ∀ a, a ∈ opened ∨ a ∈ draftNames drafts ↔ a ∈ names ∨ a ∈ freeNames declared count n

namespace Lifted

variable {declared owners owners' names names' opened opened' : List String}
  {n n' n'' count count' : ℕ} {drafts drafts' : List Draft}

theorem append (h : Lifted declared n count owners names opened drafts n')
    (h' : Lifted declared n' count' owners' names' opened' drafts' n'') :
    Lifted declared n (count + count') (owners ++ owners') (names ++ names') (opened ++ opened')
      (drafts ++ drafts') n'' := by
  obtain ⟨rfl, hdefines, huses⟩ := h
  obtain ⟨hnext, hdefines', huses'⟩ := h'
  refine ⟨hnext.trans (numberAfter_add declared count count' n).symm, fun a => ?_, fun a => ?_⟩
  · rw [freeNames_add, List.map_append, List.mem_append, List.mem_append, List.mem_append,
      hdefines, hdefines']
    exact or_or_or_comm
  · have hor := or_congr (huses a) (huses' a)
    rw [freeNames_add, draftNames_append, List.mem_append, List.mem_append, List.mem_append,
      List.mem_append, or_or_or_comm, hor]
    exact or_or_or_comm

/-- The symbols that are open become those of a rule. -/
theorem close {symbols : List Symbol} (owner : String)
    (h : Lifted declared n count [] names (symbols.map (·.name)) drafts n') :
    Lifted declared n count [owner] names [] (drafts ++ [⟨owner, .parser, symbols⟩]) n' := by
  refine ⟨h.next_eq, fun a => ?_, fun a => ?_⟩
  · -- so far, groups are all that the drafts define
    have hdefines := h.defines a
    simp only [List.not_mem_nil, false_or] at hdefines
    rw [List.map_append, List.mem_append, hdefines]
    exact or_comm
  · rw [← h.uses, draftNames_append, List.mem_append, or_comm (a := a ∈ symbols.map (·.name))]
    simp [draftNames]

end Lifted

section Flatten

variable (declared : List String)

theorem Item.flatten_group (label : Label) (body : Choice) (modifier : Modifier) (n : ℕ) :
    (Item.group label body modifier).flatten declared n =
      (.ofModifier (groupName (nextFree declared n)) modifier label.text?,
        body.flatten declared (groupName (nextFree declared n)) (nextFree declared n + 1)) :=
  rfl

theorem Choice.flatten_more (owner : String) (series : Series) (rest : Choice) (n : ℕ) :
    (Choice.more series rest).flatten declared owner n =
      ((series.flatten declared n).2.1 ++ ⟨owner, .parser, (series.flatten declared n).1⟩ ::
          (rest.flatten declared owner (series.flatten declared n).2.2).1,
        (rest.flatten declared owner (series.flatten declared n).2.2).2) :=
  rfl

mutual

theorem Item.lifted : ∀ (item : Item) (n : ℕ), Lifted declared n item.groups [] item.names
    [(item.flatten declared n).1.name] (item.flatten declared n).2.1 (item.flatten declared n).2.2
  | .name label name modifier, n =>
    ⟨rfl, by simp [Item.flatten, Item.groups, freeNames],
      by simp [Item.flatten, Item.groups, Item.names, freeNames, draftNames, Symbol.ofModifier]⟩
  | .group label body modifier, n => by
    obtain ⟨hnext, hdefines, huses⟩ := body.lifted (groupName (nextFree declared n))
      (nextFree declared n + 1)
    rw [Item.flatten_group, Item.groups, Item.names]
    refine ⟨hnext, fun a => ?_, fun a => ?_⟩
    · simpa [freeNames] using hdefines a
    · have huse := huses a
      rw [List.mem_nil_iff, false_or] at huse
      simp only [huse, freeNames, List.mem_cons, List.not_mem_nil, or_false]
      exact or_left_comm

theorem Series.lifted : ∀ (series : Series) (n : ℕ), Lifted declared n series.groups []
    series.names ((series.flatten declared n).1.map (·.name)) (series.flatten declared n).2.1
    (series.flatten declared n).2.2
  | .one item, n => item.lifted n
  | .more item rest, n => (item.lifted n).append (rest.lifted _)

theorem Choice.lifted : ∀ (body : Choice) (owner : String) (n : ℕ), Lifted declared n body.groups
    [owner] body.names [] (body.flatten declared owner n).1 (body.flatten declared owner n).2
  | .one series, owner, n => (series.lifted n).close owner
  | .more series rest, owner, n => by
    have happend := ((series.lifted n).close owner).append (rest.lifted owner _)
    rw [Choice.flatten_more, List.append_cons, Choice.groups, Choice.names]
    exact ⟨happend.next_eq, fun a => by simpa using happend.defines a, happend.uses⟩

end

theorem Declaration.lifted (declaration : Declaration) (n : ℕ) :
    Lifted declared n declaration.groups [declaration.name] declaration.names []
      (declaration.flatten declared n).1 (declaration.flatten declared n).2 := by
  cases declaration with
  | lexer name pattern =>
    exact ⟨rfl, by simp [Declaration.flatten, Declaration.groups, Declaration.name, freeNames],
      by simp [Declaration.flatten, Declaration.groups, Declaration.names, freeNames, draftNames]⟩
  | parser name body => exact body.lifted declared name n

theorem flattenAll_lifted (declarations : List Declaration) (n : ℕ) :
    Lifted declared n (groupCount declarations) (declaredNames declarations)
      (usedNames declarations) [] (flattenAll declared declarations n).1
      (flattenAll declared declarations n).2 := by
  induction declarations generalizing n with
  | nil => exact ⟨rfl, by simp [flattenAll, declaredNames, groupCount, freeNames],
      by simp [flattenAll, usedNames, groupCount, freeNames, draftNames]⟩
  | cons declaration declarations ih => exact (declaration.lifted declared n).append (ih _)

end Flatten

/-! ### Checked rules -/

theorem map_ofRule_of_mapM {drafts : List Draft} {rules : List Rule}
    (h : drafts.mapM Draft.rule = .ok rules) : rules.map Draft.ofRule = drafts := by
  induction drafts generalizing rules with
  | nil => cases h; rfl
  | cons d drafts ih =>
    rw [List.mapM_cons] at h
    cases hd : d.rule with
    | error e => rw [hd] at h; cases h
    | ok r =>
      cases hdrafts : drafts.mapM Draft.rule with
      | error e => rw [hd, hdrafts] at h; cases h
      | ok rest =>
        rw [hd, hdrafts] at h
        cases h
        obtain ⟨hname, hkind, hsymbols⟩ := of_ofSymbols hd
        rw [List.map_cons, ih hdrafts, Draft.ofRule, hname, hkind, hsymbols]

variable {declarations : List Declaration} {rules : List Rule} {name : String}

/-- The undefined names of the rules that declarations stand for are those that are used but neither
declared nor given to a group. -/
theorem mem_undefinedNames_of_rulesOf (h : rulesOf declarations = .ok rules) :
    name ∈ Grammar.undefinedNames ((Grammar.lexerRulesOf rules).map (·.name))
        (Grammar.group rules) rules ↔
      name ∈ usedNames declarations ∧ name ∉ declaredNames declarations ∧
        name ∉ givenNames declarations := by
  have hdrafts : rules.map Draft.ofRule =
      (flattenAll (declaredNames declarations) declarations 0).1 := map_ofRule_of_mapM h
  have hlifted := flattenAll_lifted (declaredNames declarations) declarations 0
  rw [← hdrafts] at hlifted
  have hdefines : (∃ rule ∈ rules, rule.name = name) ↔
      name ∈ declaredNames declarations ∨ name ∈ givenNames declarations := by
    rw [givenNames, ← hlifted.defines]
    simp [Draft.ofRule]
  have huses : (∃ rule ∈ rules, rule.kind = .parser ∧ ∃ s ∈ rule.symbols, s.name = name) ↔
      name ∈ usedNames declarations ∨ name ∈ givenNames declarations := by
    rw [givenNames, ← hlifted.uses]
    simp [draftNames, Draft.ofRule, and_assoc]
  have hnone : (∀ rule ∈ rules, rule.name ≠ name) ↔ ¬∃ rule ∈ rules, rule.name = name := by
    simp
  -- a group's name is used where the group stands, and the group's rules define it
  rw [Grammar.mem_undefinedNames, huses, hnone, hdefines, not_or]
  constructor
  · rintro ⟨huse, hdeclared, hgiven⟩
    exact ⟨huse.resolve_right hgiven, hdeclared, hgiven⟩
  · rintro ⟨hused, hdeclared, hgiven⟩
    exact ⟨.inl hused, hdeclared, hgiven⟩

/-- Undefined names are no fault of a single rule. -/
theorem rulesOf_ne_undefinedNames (declarations : List Declaration) (names : List String) :
    rulesOf declarations ≠ .error (.undefinedNames names) := by
  intro h
  obtain ⟨d, -, hd⟩ := exists_error_of_mapM h
  unfold Draft.rule Rule.ofSymbols at hd
  split_ifs at hd <;> cases hd

/-! ### Texts -/

/-- **Undefined names are reported**, unless a group has been given the name.  If a text of the
notation uses a name that it does not declare, it is not compiled; and where this is for undefined
names, that name is among them. -/
theorem compile_reports_undefined {text : String} (h : Writes text declarations)
    (hused : name ∈ usedNames declarations) (hdeclared : name ∉ declaredNames declarations)
    (hgiven : name ∉ givenNames declarations) (ignored : List String) (ignoreCase : Bool) :
    ∃ e, compile text ignored ignoreCase = .error (.grammar e) ∧
      ∀ names, e = .undefinedNames names → name ∈ names := by
  rcases h.compileRules_eq with hrules | ⟨t, hrules⟩
  · cases hof : rulesOf declarations with
    | error e =>
      rw [hof] at hrules
      refine ⟨e, compile_of_compileRules_error hrules ignored ignoreCase, ?_⟩
      rintro names rfl
      exact absurd hof (rulesOf_ne_undefinedNames declarations names)
    | ok rules =>
      rw [hof] at hrules
      have hmem := (mem_undefinedNames_of_rulesOf hof).2 ⟨hused, hdeclared, hgiven⟩
      have hrefused : ∃ e, Grammar.ofRules rules ignored ignoreCase = .error e ∧
          ∀ names, e = .undefinedNames names → name ∈ names :=
        Grammar.exists_error_of_mem_undefinedNames hmem
      obtain ⟨e, he, hnames⟩ := hrefused
      exact ⟨e, by rw [compile_of_compileRules hrules, he]; rfl, hnames⟩
  · exact ⟨_, compile_of_compileRules_error hrules ignored ignoreCase, by rintro names ⟨⟩⟩

/-- In `a = (b);` the group is not given the name that it uses. -/
theorem grouped_reports_undefined : "b" ∉ givenNames [groupedDeclaration] ∧
    ∃ e, compile "a = (b);" [] true = .error (.grammar e) := by
  obtain ⟨g, hg⟩ := exists_grammar
  have hwrites : Writes "a = (b);" [groupedDeclaration] :=
    ⟨by simp, g, _, hg, scan_grouped hg, lexemesFrom_grouped⟩
  have hfree : nextFree ["a"] 0 = 0 := nextFree_of_notMem (by decide)
  have hgiven : "b" ∉ givenNames [groupedDeclaration] := by
    have hnames : givenNames [groupedDeclaration] = [groupName (nextFree ["a"] 0)] := rfl
    rw [hnames, hfree]
    decide
  obtain ⟨e, he, -⟩ := compile_reports_undefined hwrites (by decide) (by decide) hgiven [] true
  exact ⟨hgiven, e, he⟩

/-! ### A name that is captured -/

/-- The tokens of `X = "x"; r = (X), anonymous_0;`. -/
def capturedTokens : Array Token :=
  #[⟨"IDENTIFIER", "X", 0⟩, ⟨"EQ", "=", 2⟩, ⟨"QUOTEDLITERAL", "\"x\"", 4⟩, ⟨"SEMICOLON", ";", 7⟩,
    ⟨"IDENTIFIER", "r", 9⟩, ⟨"EQ", "=", 11⟩, ⟨"LPAREN", "(", 13⟩, ⟨"IDENTIFIER", "X", 14⟩,
    ⟨"RPAREN", ")", 15⟩, ⟨"COMMA", ",", 16⟩, ⟨"IDENTIFIER", "anonymous_0", 18⟩,
    ⟨"SEMICOLON", ";", 29⟩]

/-- What they write. -/
def capturedDeclarations : List Declaration :=
  [.lexer "X" "x", .parser "r" (.one (.more
    (.group .absent (.one (.one (.name .absent "X" .required))) .required)
    (.one (.name .absent "anonymous_0" .required))))]

theorem rulesOf_captured : ∃ rules, rulesOf capturedDeclarations = .ok rules ∧
    (Grammar.ofRules rules [] true).isOk := by
  have hfree : nextFree ["X", "r"] 0 = 0 := nextFree_of_notMem (by decide)
  have hok : ((rulesOf capturedDeclarations).bind fun rules =>
      Grammar.ofRules rules [] true).isOk := by
    simp only [rulesOf, capturedDeclarations, flattenAll, Declaration.flatten, Declaration.name,
      Choice.flatten, Series.flatten, Item.flatten, List.map_cons, List.map_nil, hfree]
    decide +kernel
  cases hrules : rulesOf capturedDeclarations with
  | error e => rw [hrules] at hok; cases hok
  | ok rules => rw [hrules] at hok; exact ⟨rules, rfl, hok⟩

/-- **A name that is only used can be captured.**  This text declares no `anonymous_0`, but its
group is given that name, and it is compiled. -/
theorem exists_captured : Writes "X = \"x\"; r = (X), anonymous_0;" capturedDeclarations ∧
    "anonymous_0" ∈ usedNames capturedDeclarations ∧
    "anonymous_0" ∉ declaredNames capturedDeclarations ∧
    ∃ g, compile "X = \"x\"; r = (X), anonymous_0;" [] true = .ok g := by
  obtain ⟨g, hg⟩ := exists_grammar
  have hscan : g.lexicon.scan "X = \"x\"; r = (X), anonymous_0;" = .ok capturedTokens.toList :=
    scan_of_toOption hg (by decide +kernel)
  have hlexemes : capturedTokens.toList.map (fun t => (t.kind, t.text)) =
      lexemesOf capturedDeclarations := by decide +kernel
  obtain ⟨rules, hrules, haccepted⟩ := rulesOf_captured
  have hcompile : compileRules "X = \"x\"; r = (X), anonymous_0;" = .ok rules :=
    (compileRules_eq_ok_iff hg).2 ⟨_, hscan, _, by decide, hlexemes, by decide, hrules⟩
  refine ⟨⟨by decide, g, _, hg, hscan, hlexemes⟩, by decide, by decide, ?_⟩
  rw [compile_of_compileRules hcompile]
  cases hg' : Grammar.ofRules rules [] true with
  | error e => rw [hg'] at haccepted; cases haccepted
  | ok g' => exact ⟨g', rfl⟩

end Notation

end OrderedGrammar
